import Vcompany.Foundation.Transition
import Vcompany.Integration.Pipeline

/-! # Attribution isolates the agents

A call to the pipeline or to the attribution is isolated if it runs the failing tests of each
agent on main with that agent's branch alone, leaves main where it was, and leaves no merge in
progress. The results of checkouts and of the creation of branches are not looked at, so a
call is isolated if the branches that it creates are new.
-/

namespace Vcompany.Integration

open Foundation Git

/-- A call on the integration clone. -/
inductive IntegrationCall where
  | run (inputs : PipelineInputs)
  | attributeFailures (failedTests : List Text) (agents : List (Text × Attempt))

variable {Commit : Type} (mergeOf : Commit → Commit → Option Commit) (casing : Text.Casing)

/-- The clone after the call, and the working tree of each run of the failing tests. -/
def perform (clone : Clone Commit) : IntegrationCall → Clone Commit × List (Text × Option Commit)
  | .run inputs =>
      let outcome := runPipeline mergeOf casing inputs clone
      (outcome.clone, outcome.reruns)
  | .attributeFailures failedTests agents =>
      let state := (attributeFailures mergeOf casing failedTests agents clone).1
      (state.clone, state.reruns)

def step (clone : Clone Commit) (call : IntegrationCall) : Clone Commit :=
  (perform mergeOf casing clone call).1

/-- The tree is main with the agent's branch. -/
def MainWith (clone : Clone Commit) (agentId : Text) (tree : Option Commit) : Prop :=
  ∃ main tip merged, clone.branches mainBranch = some main ∧
    clone.branches (agentBranch casing agentId) = some tip ∧ mergeOf main tip = some merged ∧
    tree = some merged

structure Isolated (clone : Clone Commit) (call : IntegrationCall) : Prop where
  reruns : ∀ rerun ∈ (perform mergeOf casing clone call).2,
    MainWith mergeOf casing clone rerun.1 rerun.2
  main : (step mergeOf casing clone call).branches mainBranch = clone.branches mainBranch
  settled : (step mergeOf casing clone call).Settled

/-- The agents can be told apart: git does what it is asked for each, the temporary branches
are new, and no agent's branch conflicts with main. -/
structure Separable (clone : Clone Commit) (agents : List (Text × Attempt)) : Prop where
  works : ∀ agent ∈ agents, agent.2.checkout.works = true ∧ agent.2.branch.works = true
  fresh : ∀ agent ∈ agents, clone.branches (attrBranch agent.1) = none
  distinct : (agents.map Prod.fst).Nodup
  compatible : ∀ agent ∈ agents, ∀ main tip, clone.branches mainBranch = some main →
    clone.branches (agentBranch casing agent.1) = some tip → mergeOf main tip ≠ none

/-- The commit with the branches of all the agents, if each merge succeeds. -/
def integrated (clone : Clone Commit) : List AgentInputs → Commit → Option Commit
  | [], merged => some merged
  | agent :: agents, merged =>
      if agent.merge.works then
        match clone.branches (agentBranch casing agent.agentId) with
        | some tip => (mergeOf merged tip).bind (integrated clone agents)
        | none => none
      else none

/-- The condition on the clone and the inputs before a run of the pipeline. -/
structure Ready (clone : Clone Commit) (inputs : PipelineInputs) : Prop where
  checkout : inputs.checkout.works = true
  branch : inputs.branch.works = true
  fresh : clone.branches (integrateBranch inputs.millis) = none
  abort : (clone.branches mainBranch).bind (integrated mergeOf casing clone inputs.agents) = none →
    inputs.abort.works = true
  separable : ∀ merged testRun,
    (clone.branches mainBranch).bind (integrated mergeOf casing clone inputs.agents) =
      some merged → inputs.tests = .ok testRun → (runTests testRun).failedTests ≠ [] →
        Separable mergeOf casing clone
          (inputs.agents.map fun agent => (agent.agentId, agent.attempt))

/-- The condition on the clone and the inputs before a call. -/
def Isolable (clone : Clone Commit) : IntegrationCall → Prop
  | .run inputs => Ready mergeOf casing clone inputs
  | .attributeFailures failedTests agents =>
      failedTests ≠ [] → Separable mergeOf casing clone agents

/-- There is a main, and no merge is in progress. -/
def Quiet (clone : Clone Commit) : Prop :=
  clone.Settled ∧ (clone.branches mainBranch).isSome = true

/-- No merge is in progress, and only the created branches differ from before. -/
structure Keeps (before after : Clone Commit) (created : List Text) : Prop where
  settled : after.Settled
  frame : ∀ branch, branch ∉ created → after.branches branch = before.branches branch

section
variable {mergeOf casing}
variable {before middle after clone : Clone Commit} {created later : List Text}

theorem Keeps.trans (first : Keeps before middle created) (second : Keeps middle after later) :
    Keeps before after (created ++ later) where
  settled := second.settled
  frame branch other := by
    rw [List.mem_append, not_or] at other
    exact (second.frame branch other.2).trans (first.frame branch other.1)

theorem mainBranch_ne_attrBranch (agentId : Text) : mainBranch ≠ attrBranch agentId := by
  intro same
  have first : some 'm' = some '_' := congrArg List.head? same
  exact absurd first (by decide)

theorem agentBranch_ne_attrBranch (agentId other : Text) :
    agentBranch casing agentId ≠ attrBranch other := by
  intro same
  have first : some 'a' = some '_' := congrArg List.head? same
  exact absurd first (by decide)

theorem mainBranch_notMem_attrBranches (agents : List (Text × Attempt)) :
    mainBranch ∉ agents.map fun agent => attrBranch agent.1 := by
  intro created
  obtain ⟨agent, _, same⟩ := List.mem_map.mp created
  exact mainBranch_ne_attrBranch agent.1 same.symm

theorem attrBranch_inj {agentId other : Text} : attrBranch agentId = attrBranch other ↔
    agentId = other := by
  unfold attrBranch
  rw [List.append_cancel_left_eq]

/-- What an agent's isolation leaves alone, and the tree that the tests then run on. -/
theorem isolate_spec {main : Commit} {agentId : Text} {attempt : Attempt}
    (settled : clone.Settled) (isMain : clone.branches mainBranch = some main)
    (checkout : attempt.checkout.works = true) (branch : attempt.branch.works = true)
    (fresh : clone.branches (attrBranch agentId) = none)
    (compatible : ∀ tip, clone.branches (agentBranch casing agentId) = some tip →
      mergeOf main tip ≠ none) :
    Keeps clone (isolate mergeOf casing agentId attempt clone).1 [attrBranch agentId] ∧
      ((isolate mergeOf casing agentId attempt clone).2.success = true →
        MainWith mergeOf casing clone agentId
          (isolate mergeOf casing agentId attempt clone).1.worktree) := by
  unfold isolate
  dsimp only
  rw [Clone.branch_off settled isMain checkout branch fresh]
  have other := @agentBranch_ne_attrBranch casing agentId agentId
  rcases succeeds : (Clone.merge mergeOf (agentBranch casing agentId) attempt.merge _).2.success
    with _ | _
  · refine ⟨?_, fun none => nomatch none⟩
    rcases Clone.merge_failure succeeds with same | ⟨ours, tip, isOurs, isTip, conflict, _⟩
    · rw [same]
      exact ⟨⟨rfl, settled.2⟩, fun branch apart =>
        Function.update_of_ne (List.ne_of_not_mem_cons apart) _ _⟩
    · dsimp only at isOurs isTip
      rw [Function.update_self] at isOurs
      rw [Function.update_of_ne other] at isTip
      cases isOurs
      exact absurd conflict (compatible tip isTip)
  · obtain ⟨ours, tip, merged, isOurs, isTip, isMerged, _, result⟩ :=
      Clone.merge_success succeeds
    dsimp only at isOurs isTip
    rw [Function.update_self] at isOurs
    rw [Function.update_of_ne other] at isTip
    cases isOurs
    rw [result]
    refine ⟨⟨⟨rfl, settled.2⟩, fun branch apart => ?_⟩, fun _ => ?_⟩
    · have ne := List.ne_of_not_mem_cons apart
      exact (Function.update_of_ne ne _ _).trans (Function.update_of_ne ne _ _)
    · refine ⟨main, tip, merged, isMain, isTip, isMerged, ?_⟩
      unfold Clone.worktree
      dsimp only
      rw [settled.2, Function.update_self]
      rfl

/-! ## The turns of the agents -/

/-- What an agent's turn does to the clone, and the run of its tests, are by its isolation. -/
theorem tryAgent_spec (failedTests : List Text) (agentId : Text) (attempt : Attempt)
    (state : Attributing Commit) :
    (tryAgent mergeOf casing failedTests agentId attempt state).1.clone =
        (isolate mergeOf casing agentId attempt state.clone).1 ∧
      (tryAgent mergeOf casing failedTests agentId attempt state).1.reruns =
        state.reruns ++
          if (isolate mergeOf casing agentId attempt state.clone).2.success = true then
            [(agentId, (isolate mergeOf casing agentId attempt state.clone).1.worktree)]
          else [] := by
  unfold tryAgent
  dsimp only
  split
  · split
    · exact ⟨rfl, rfl⟩
    · split
      · exact ⟨rfl, rfl⟩
      · split <;> exact ⟨rfl, rfl⟩
  · exact ⟨rfl, (List.append_nil _).symm⟩

/-- An agent's turn in the attribution: its effect on the clone, and the run of its tests. -/
theorem attributeAgent_spec {main : Commit} {failedTests : List Text} {agentId : Text}
    {attempt : Attempt} {state : Attributing Commit} (settled : state.clone.Settled)
    (isMain : state.clone.branches mainBranch = some main)
    (works : attempt.checkout.works = true ∧ attempt.branch.works = true)
    (fresh : state.clone.branches (attrBranch agentId) = none)
    (compatible : ∀ tip, state.clone.branches (agentBranch casing agentId) = some tip →
      mergeOf main tip ≠ none) :
    Keeps state.clone (attributeAgent mergeOf casing failedTests agentId attempt state).1.clone
        [attrBranch agentId] ∧
      ∀ rerun ∈ (attributeAgent mergeOf casing failedTests agentId attempt state).1.reruns,
        rerun ∈ state.reruns ∨ MainWith mergeOf casing state.clone rerun.1 rerun.2 := by
  obtain ⟨kept, onMain⟩ := isolate_spec settled isMain works.1 works.2 fresh compatible
  obtain ⟨tried, reruns⟩ := @tryAgent_spec _ mergeOf casing failedTests agentId attempt state
  unfold attributeAgent
  dsimp only
  refine ⟨?_, ?_⟩
  · rw [tried]
    rcases Clone.checkout_cases (isolate mergeOf casing agentId attempt state.clone).1 mainBranch
      attempt.back with same | moved
    · rw [same]
      exact kept
    · rw [moved]
      exact ⟨kept.settled, kept.frame⟩
  · intro rerun member
    rw [reruns] at member
    rcases List.mem_append.mp member with earlier | own
    · exact .inl earlier
    · split at own
      · next succeeds =>
          rw [List.mem_singleton.mp own]
          exact .inr (onMain succeeds)
      · cases own

/-- A tree is main with an agent's branch also by a clone in which main and the agents'
branches are the same. -/
theorem Keeps.mainWith {agentId : Text} {tree : Option Commit}
    (kept : Keeps before after created) (main : mainBranch ∉ created)
    (agent : agentBranch casing agentId ∉ created)
    (tells : MainWith mergeOf casing after agentId tree) :
    MainWith mergeOf casing before agentId tree := by
  obtain ⟨tip, branch, merged, isTip, isBranch, rest⟩ := tells
  rw [kept.frame _ main] at isTip
  rw [kept.frame _ agent] at isBranch
  exact ⟨tip, branch, merged, isTip, isBranch, rest⟩

/-- Agents stay separable when other branches are created. -/
theorem Separable.keeps {agents : List (Text × Attempt)}
    (separable : Separable mergeOf casing before agents) (kept : Keeps before after created)
    (main : mainBranch ∉ created) (others : ∀ agentId, agentBranch casing agentId ∉ created)
    (temporary : ∀ agent ∈ agents, attrBranch agent.1 ∉ created) :
    Separable mergeOf casing after agents where
  works := separable.works
  fresh agent member := by
    rw [kept.frame _ (temporary agent member)]
    exact separable.fresh agent member
  distinct := separable.distinct
  compatible agent member tip branch isTip isBranch := by
    rw [kept.frame _ main] at isTip
    rw [kept.frame _ (others agent.1)] at isBranch
    exact separable.compatible agent member tip branch isTip isBranch

theorem Separable.tail {agent : Text × Attempt} {agents : List (Text × Attempt)}
    (separable : Separable mergeOf casing clone (agent :: agents)) :
    Separable mergeOf casing clone agents where
  works other member := separable.works other (List.mem_cons_of_mem _ member)
  fresh other member := separable.fresh other (List.mem_cons_of_mem _ member)
  distinct := (List.nodup_cons.mp separable.distinct).2
  compatible other member := separable.compatible other (List.mem_cons_of_mem _ member)

/-- The temporary branch of the first agent is not that of a later one. -/
theorem Separable.apart {agent : Text × Attempt} {agents : List (Text × Attempt)}
    (separable : Separable mergeOf casing clone (agent :: agents)) :
    ∀ other ∈ agents, attrBranch other.1 ∉ [attrBranch agent.1] := by
  intro other member same
  have own := attrBranch_inj.mp (List.mem_singleton.mp same)
  exact (List.nodup_cons.mp separable.distinct).1 (own ▸ List.mem_map_of_mem member)

/-- The turns of all the agents, or of those before the tests raise. -/
theorem attributeAgents_spec {main : Commit} {failedTests : List Text}
    {agents : List (Text × Attempt)} {state : Attributing Commit}
    (settled : state.clone.Settled) (isMain : state.clone.branches mainBranch = some main)
    (separable : Separable mergeOf casing state.clone agents) :
    Keeps state.clone (attributeAgents mergeOf casing failedTests agents state).1.clone
        (agents.map fun agent => attrBranch agent.1) ∧
      ∀ rerun ∈ (attributeAgents mergeOf casing failedTests agents state).1.reruns,
        rerun ∈ state.reruns ∨ MainWith mergeOf casing state.clone rerun.1 rerun.2 := by
  induction agents generalizing state with
  | nil => exact ⟨⟨settled, fun _ _ => rfl⟩, fun _ member => .inl member⟩
  | cons agent agents ih =>
      obtain ⟨agentId, attempt⟩ := agent
      have own : (agentId, attempt) ∈ (agentId, attempt) :: agents := List.mem_cons_self
      have turn := @attributeAgent_spec _ mergeOf casing main failedTests agentId attempt state
        settled isMain (separable.works _ own) (separable.fresh _ own)
        fun tip isTip => separable.compatible _ own main tip isMain isTip
      unfold attributeAgents
      rcases result : attributeAgent mergeOf casing failedTests agentId attempt state with
        ⟨next, _ | raised⟩
      all_goals rw [result] at turn
      · obtain ⟨kept, reruns⟩ := turn
        have fixed : mainBranch ∉ [attrBranch agentId] :=
          mt List.mem_singleton.mp (mainBranch_ne_attrBranch agentId)
        have others (other : Text) : agentBranch casing other ∉ [attrBranch agentId] :=
          mt List.mem_singleton.mp (agentBranch_ne_attrBranch other agentId)
        have rest := ih kept.settled ((kept.frame _ fixed).trans isMain)
          (separable.tail.keeps kept fixed others separable.apart)
        refine ⟨kept.trans rest.1, ?_⟩
        intro rerun member
        rcases rest.2 rerun member with earlier | later
        · exact reruns rerun earlier
        · exact .inr (kept.mainWith fixed (others rerun.1) later)
      · obtain ⟨kept, reruns⟩ := turn
        refine ⟨⟨kept.settled, fun branch apart => kept.frame branch fun same => ?_⟩, reruns⟩
        exact apart (List.mem_cons.mpr (.inl (List.mem_singleton.mp same)))

theorem attributeFailures_spec {main : Commit} {failedTests : List Text}
    {agents : List (Text × Attempt)} (settled : clone.Settled)
    (isMain : clone.branches mainBranch = some main)
    (separable : failedTests ≠ [] → Separable mergeOf casing clone agents) :
    Keeps clone (attributeFailures mergeOf casing failedTests agents clone).1.clone
        (agents.map fun agent => attrBranch agent.1) ∧
      ∀ rerun ∈ (attributeFailures mergeOf casing failedTests agents clone).1.reruns,
        MainWith mergeOf casing clone rerun.1 rerun.2 := by
  unfold attributeFailures
  split
  · exact ⟨⟨settled, fun _ _ => rfl⟩, fun _ none => nomatch none⟩
  · next some =>
      have turns := @attributeAgents_spec _ mergeOf casing main failedTests agents { clone }
        settled isMain (separable some)
      have only : ∀ rerun ∈ (attributeAgents mergeOf casing failedTests agents { clone }).1.reruns,
          MainWith mergeOf casing clone rerun.1 rerun.2 := fun rerun member =>
        (turns.2 rerun member).resolve_left List.not_mem_nil
      have kept := turns.1
      rcases result : attributeAgents mergeOf casing failedTests agents { clone } with
        ⟨state, _ | raised⟩
      all_goals rw [result] at kept only
      · dsimp only
        split <;> exact ⟨kept, only⟩
      · exact ⟨kept, only⟩

/-! ## The merges of the pipeline -/

theorem agentBranch_ne_integrateBranch (agentId : Text) (millis : ℕ) :
    agentBranch casing agentId ≠ integrateBranch millis := by
  intro same
  have first : some 'a' = some 'i' := congrArg List.head? same
  exact absurd first (by decide)

theorem mainBranch_ne_integrateBranch (millis : ℕ) : mainBranch ≠ integrateBranch millis := by
  intro same
  have first : some 'm' = some 'i' := congrArg List.head? same
  exact absurd first (by decide)

theorem attrBranch_ne_integrateBranch (agentId : Text) (millis : ℕ) :
    attrBranch agentId ≠ integrateBranch millis := by
  intro same
  have first : some '_' = some 'i' := congrArg List.head? same
  exact absurd first (by decide)

theorem integrated_congr {other : Clone Commit}
    (same : ∀ agentId, other.branches (agentBranch casing agentId) =
      clone.branches (agentBranch casing agentId)) (agents : List AgentInputs) :
    integrated mergeOf casing other agents = integrated mergeOf casing clone agents := by
  induction agents with
  | nil => rfl
  | cons agent agents ih =>
      funext merged
      unfold integrated
      rw [same, ih]

/-- The merges change the branch that is checked out alone. They all succeed, or one leaves
the clone as it was or in a recorded merge. -/
theorem mergeAgents_spec {agents : List AgentInputs} {mergedAgents : List Text} {ours : Commit}
    {onto : Text} (settled : clone.Settled) (head : clone.head = onto)
    (isOurs : clone.branches onto = some ours) (apart : ∀ agentId, agentBranch casing agentId ≠ onto) :
    (∀ branch, branch ≠ onto →
      (mergeAgents mergeOf casing agents mergedAgents clone).1.branches branch =
        clone.branches branch) ∧
    (((mergeAgents mergeOf casing agents mergedAgents clone).2.2 = none ∧
        (mergeAgents mergeOf casing agents mergedAgents clone).1.Settled ∧
        (integrated mergeOf casing clone agents ours).isSome = true) ∨
      ∃ failure, (mergeAgents mergeOf casing agents mergedAgents clone).2.2 = some failure ∧
        (mergeAgents mergeOf casing agents mergedAgents clone).1.mergeHead =
          (mergeAgents mergeOf casing agents mergedAgents clone).1.unmerged ∧
        integrated mergeOf casing clone agents ours = none) := by
  induction agents generalizing mergedAgents clone ours with
  | nil => exact ⟨fun _ _ => rfl, .inl ⟨rfl, settled, rfl⟩⟩
  | cons agent agents ih =>
      unfold mergeAgents
      dsimp only
      rcases succeeds : (clone.merge mergeOf (agentBranch casing agent.agentId)
        agent.merge).2.success with _ | _
      · simp only [Bool.false_eq_true, if_false]
        have stopped : integrated mergeOf casing clone (agent :: agents) ours = none := by
          unfold integrated
          split
          · next works =>
              split
              · next tip isTip =>
                  rcases isMerged : mergeOf ours tip with _ | merged
                  · rfl
                  · have merges := Clone.merge_succeeds works settled.2 (head ▸ isOurs) isTip isMerged
                    rw [succeeds] at merges
                    cases merges
              · rfl
          · rfl
        rcases Clone.merge_failure succeeds with same | ⟨_, _, _, _, _, result⟩
        · rw [same]
          exact ⟨fun _ _ => rfl, .inr ⟨_, rfl, settled.1.trans settled.2.symm, stopped⟩⟩
        · rw [result]
          exact ⟨fun _ _ => rfl, .inr ⟨_, rfl, rfl, stopped⟩⟩
      · simp only [if_true]
        obtain ⟨found, tip, merged, isFound, isTip, isMerged, works, result⟩ :=
          Clone.merge_success succeeds
        rw [head, isOurs] at isFound
        obtain rfl := Option.some.inj isFound
        rw [result, head]
        have moved : ∀ branch, branch ≠ onto →
            Function.update clone.branches onto (some merged) branch = clone.branches branch :=
          fun _ other => Function.update_of_ne other _ _
        have next : integrated mergeOf casing clone (agent :: agents) ours =
            integrated mergeOf casing clone agents merged := by
          rw [integrated, if_pos works, isTip]
          dsimp only
          rw [isMerged]
          rfl
        have rest := @ih
          { clone with
            branches := Function.update clone.branches onto (some merged)
            head := onto }
          (mergedAgents ++ [agent.agentId]) merged settled rfl (Function.update_self _ _ _)
        rw [integrated_congr fun agentId => moved _ (apart agentId)] at rest
        rw [next]
        exact ⟨fun branch other => (rest.1 branch other).trans (moved branch other), rest.2⟩

/-- The merges of a run, from a clone without a merge in progress. -/
theorem merged_spec {inputs : PipelineInputs} {main : Commit} (settled : clone.Settled)
    (isMain : clone.branches mainBranch = some main)
    (ready : Ready mergeOf casing clone inputs) :
    (∀ branch, branch ≠ integrateBranch inputs.millis →
      (mergeAgents mergeOf casing inputs.agents [] (prepare inputs clone)).1.branches branch =
        clone.branches branch) ∧
    (((mergeAgents mergeOf casing inputs.agents [] (prepare inputs clone)).2.2 = none ∧
        (mergeAgents mergeOf casing inputs.agents [] (prepare inputs clone)).1.Settled ∧
        (integrated mergeOf casing clone inputs.agents main).isSome = true) ∨
      ∃ failure,
        (mergeAgents mergeOf casing inputs.agents [] (prepare inputs clone)).2.2 = some failure ∧
        (mergeAgents mergeOf casing inputs.agents [] (prepare inputs clone)).1.mergeHead =
          (mergeAgents mergeOf casing inputs.agents [] (prepare inputs clone)).1.unmerged ∧
        integrated mergeOf casing clone inputs.agents main = none) := by
  have prepared : prepare inputs clone = { clone with
      branches := Function.update clone.branches (integrateBranch inputs.millis) (some main)
      head := integrateBranch inputs.millis
      mergeHead := false } :=
    Clone.branch_off settled isMain ready.checkout ready.branch ready.fresh
  have others (branch : Text) (apart : branch ≠ integrateBranch inputs.millis) :
      (prepare inputs clone).branches branch = clone.branches branch := by
    rw [prepared]
    exact Function.update_of_ne apart _ _
  have apart (agentId : Text) := @agentBranch_ne_integrateBranch casing agentId inputs.millis
  have merges := @mergeAgents_spec _ mergeOf casing (prepare inputs clone) inputs.agents [] main
    (integrateBranch inputs.millis) (by rw [prepared]; exact ⟨rfl, settled.2⟩) (by rw [prepared])
    (by rw [prepared]; exact Function.update_self _ _ _) apart
  rw [integrated_congr fun agentId => others _ (apart agentId)] at merges
  exact ⟨fun branch other => (merges.1 branch other).trans (others branch other), merges.2⟩

/-- A run keeps main, and attributes failures on main with one agent's branch. -/
theorem runPipeline_spec {inputs : PipelineInputs} {main : Commit} (settled : clone.Settled)
    (isMain : clone.branches mainBranch = some main)
    (ready : Ready mergeOf casing clone inputs) :
    (runPipeline mergeOf casing inputs clone).clone.Settled ∧
      (runPipeline mergeOf casing inputs clone).clone.branches mainBranch = some main ∧
      ∀ rerun ∈ (runPipeline mergeOf casing inputs clone).reruns,
        MainWith mergeOf casing clone rerun.1 rerun.2 := by
  obtain ⟨frame, merges⟩ := merged_spec settled isMain ready
  have integrates : (clone.branches mainBranch).bind
      (integrated mergeOf casing clone inputs.agents) =
        integrated mergeOf casing clone inputs.agents main := by
    rw [isMain]
    rfl
  have mainStays := (frame _ (mainBranch_ne_integrateBranch inputs.millis)).trans isMain
  unfold runPipeline
  dsimp only
  rcases result : mergeAgents mergeOf casing inputs.agents [] (prepare inputs clone) with
    ⟨merged, mergedAgents, _ | ⟨name, failure⟩⟩
  all_goals
    rw [result] at frame merges mainStays
    dsimp only at frame merges mainStays ⊢
  · rcases merges with ⟨-, clean, all⟩ | ⟨_, none, -⟩
    · have only : ∀ rerun ∈ ([] : List (Text × Option Commit)),
          MainWith mergeOf casing clone rerun.1 rerun.2 := fun _ none => nomatch none
      rcases tests : inputs.tests with raised | testRun
      · exact ⟨clean, mainStays, only⟩
      · dsimp only
        split
        · rcases inputs.pullRequest with raised | url
          · exact ⟨clean, mainStays, only⟩
          · exact ⟨clean, mainStays, only⟩
        · have kept : Keeps clone merged [integrateBranch inputs.millis] :=
            ⟨clean, fun branch other => frame branch (List.ne_of_not_mem_cons other)⟩
          have fixed : mainBranch ∉ [integrateBranch inputs.millis] :=
            mt List.mem_singleton.mp (mainBranch_ne_integrateBranch inputs.millis)
          have others (agentId : Text) :
              agentBranch casing agentId ∉ [integrateBranch inputs.millis] :=
            mt List.mem_singleton.mp (agentBranch_ne_integrateBranch agentId inputs.millis)
          obtain ⟨final, isFinal⟩ := Option.isSome_iff_exists.mp all
          obtain ⟨attributed, onMain⟩ := @attributeFailures_spec _ mergeOf casing merged main
            (runTests testRun).failedTests
            (inputs.agents.map fun agent => (agent.agentId, agent.attempt)) clean mainStays
            fun some => (ready.separable final testRun (integrates.trans isFinal) tests some).keeps
              kept fixed others fun agent _ same =>
                attrBranch_ne_integrateBranch agent.1 inputs.millis (List.mem_singleton.mp same)
          have stays := (attributed.frame _ (mainBranch_notMem_attrBranches _)).trans mainStays
          have trees := fun rerun member =>
            kept.mainWith fixed (others rerun.1) (onMain rerun member)
          rcases ended : attributeFailures mergeOf casing (runTests testRun).failedTests
            (inputs.agents.map fun agent => (agent.agentId, agent.attempt)) merged with
            ⟨state, raised | attribution⟩
          all_goals
            rw [ended] at attributed stays trees ⊢
            exact ⟨attributed.settled, stays, trees⟩
    · cases none
  · rcases merges with ⟨none, -⟩ | ⟨_, -, recorded, none⟩
    · cases none
    · have aborted := Clone.mergeAbort_settled (ready.abort (integrates.trans none)) recorded
      refine ⟨aborted, ?_, fun _ none => nomatch none⟩
      rw [Clone.mergeAbort_branches]
      exact mainStays

/-- **One call.** A call is isolated if the branches that it creates are new, no agent's
branch conflicts with main alone, and git does what it is asked. -/
theorem isolated_of_isolable {call : IntegrationCall} (quiet : Quiet clone)
    (isolable : Isolable mergeOf casing clone call) : Isolated mergeOf casing clone call := by
  obtain ⟨settled, exist⟩ := quiet
  obtain ⟨main, isMain⟩ := Option.isSome_iff_exists.mp exist
  cases call with
  | run inputs =>
      obtain ⟨clean, mainStays, onMain⟩ := runPipeline_spec settled isMain isolable
      exact ⟨onMain, mainStays.trans isMain.symm, clean⟩
  | attributeFailures failedTests agents =>
      obtain ⟨kept, onMain⟩ := attributeFailures_spec settled isMain isolable
      exact ⟨onMain, kept.frame _ (mainBranch_notMem_attrBranches agents), kept.settled⟩

theorem Isolated.quiet {call : IntegrationCall} (isolated : Isolated mergeOf casing clone call)
    (quiet : Quiet clone) : Quiet (step mergeOf casing clone call) := by
  refine ⟨isolated.settled, ?_⟩
  rw [isolated.main]
  exact quiet.2

/-- **Attribution isolates the agents.** In a sequence of calls each of which meets the
condition on the clone before it, each call is isolated. -/
theorem calls_isolated (calls : List IntegrationCall) (quiet : Quiet clone)
    (isolable : EachMeets (step mergeOf casing) (Isolable mergeOf casing) clone calls) :
    EachMeets (step mergeOf casing) (Isolated mergeOf casing) clone calls := by
  induction calls generalizing clone with
  | nil => trivial
  | cons call calls ih =>
      have isolated := isolated_of_isolable quiet isolable.1
      exact ⟨isolated, ih (isolated.quiet quiet) isolable.2⟩

end

/-! ## A run whose tests fail -/

/-- Commits are sets of changes, in binary, and never conflict. -/
private def union (ours theirs : ℕ) : Option ℕ := some (ours ||| theirs)

/-- The branch of agent `a` has the change 2 on top of main. -/
private def sample : Clone ℕ where
  branches branch :=
    if branch = mainBranch then some 1
    else if branch = "agent/a".toList then some 3
    else none
  head := mainBranch

private def failing : TestRun := { returncode := 1, stdout := "FAILED t".toList }

private def failingRun (millis : ℕ) : PipelineInputs where
  millis := millis
  agents := [{ agentId := ['a'], attempt := { tests := .ok failing } }]
  tests := .ok failing
  pullRequest := .ok []

private theorem failingRun_isolable :
    EachMeets (step union .plain) (Isolable union .plain) sample [.run (failingRun 1)] := by
  refine ⟨?_, trivial⟩
  refine ⟨rfl, rfl, by decide +kernel, fun _ => rfl, ?_⟩
  intro _ _ _ _ _
  refine ⟨?_, ?_, List.nodup_singleton _, fun _ _ _ _ _ _ => Option.some_ne_none _⟩
  · intro agent member
    rw [List.mem_singleton.mp member]
    exact ⟨rfl, rfl⟩
  · intro agent member
    rw [List.mem_singleton.mp member]
    decide +kernel

theorem failing_run_isolated :
    Quiet sample ∧
      EachMeets (step union .plain) (Isolable union .plain) sample [.run (failingRun 1)] ∧
      EachMeets (step union .plain) (Isolated union .plain) sample [.run (failingRun 1)] := by
  have quiet : Quiet sample := ⟨⟨rfl, rfl⟩, by decide +kernel⟩
  exact ⟨quiet, failingRun_isolable, calls_isolated _ quiet failingRun_isolable⟩

/-- The second of two failing runs finds the temporary branch of the first, stays on main, and
merges the agent's branch into main. -/
theorem second_run_moves_main :
    ¬ ∀ (Commit : Type) (mergeOf : Commit → Commit → Option Commit) (casing : Text.Casing)
      (clone : Clone Commit) (calls : List IntegrationCall), Quiet clone →
        EachMeets (step mergeOf casing) (Isolated mergeOf casing) clone calls := by
  intro claim
  have quiet : Quiet sample := ⟨⟨rfl, rfl⟩, by decide +kernel⟩
  have isolated := claim ℕ union .plain sample [.run (failingRun 1), .run (failingRun 2)] quiet
  exact absurd isolated.2.1.main (by decide +kernel)

end Vcompany.Integration
