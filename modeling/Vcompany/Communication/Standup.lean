import Vcompany.Foundation.Dict
import Vcompany.Foundation.Text
import Vcompany.Foundation.Transition

/-! # Standups

An agent is blocked in a standup by a coroutine that waits on a future, and the session holds
one future for an agent. A second coroutine for the agent takes the place of the first, whose
future nobody resolves after that (`released_throughout_iff`).
-/

namespace Vcompany.Communication

open Foundation

/-- A coroutine in `block_agent`, with the future that it waits on. -/
structure BlockedAgent where
  agentId : Text
  future : Nat
  deriving DecidableEq

/-- A `StandupSession`, with the futures it made so far and the coroutines that await them. -/
structure StandupSession where
  pending : Dict Text Nat
  created : Nat
  done : List Nat
  awaiting : List BlockedAgent

namespace StandupSession

def empty : StandupSession := ⟨Dict.empty, 0, [], []⟩

variable (session : StandupSession)

/-- `is_active`. -/
def isActive : Bool := decide (0 < session.pending.entries.length)

/-- `block_agent`, up to its `await`. -/
def blockAgent (agentId : Text) : StandupSession where
  pending := session.pending.set agentId session.created
  created := session.created + 1
  done := session.done
  awaiting := ⟨agentId, session.created⟩ :: session.awaiting

/-- The futures that are done once the future of an agent has its result. -/
def resolved (agentId : Text) : List Nat :=
  match session.pending.get? agentId with
  | none => session.done
  | some future => if future ∈ session.done then session.done else future :: session.done

/-- `release_agent`. -/
def releaseAgent (agentId : Text) : StandupSession :=
  { session with pending := session.pending.pop agentId, done := session.resolved agentId }

/-- `release_all`. -/
def releaseAll : StandupSession :=
  session.pending.keys.foldl releaseAgent session

/-- The task of a coroutine is cancelled, and its future with it. -/
def cancel (future : Nat) : StandupSession :=
  if future < session.created then { session with done := future :: session.done } else session

inductive StandupEvent where
  | blockAgent (agentId : Text)
  | releaseAgent (agentId : Text)
  | releaseAll
  | cancel (future : Nat)

def step (session : StandupSession) : StandupEvent → StandupSession
  | .blockAgent agentId => session.blockAgent agentId
  | .releaseAgent agentId => session.releaseAgent agentId
  | .releaseAll => session.releaseAll
  | .cancel future => session.cancel future

/-- The coroutine still waits. -/
def Blocked (agent : BlockedAgent) : Prop :=
  agent ∈ session.awaiting ∧ agent.future ∉ session.done

/-- A release of a blocked agent, or of all, would unblock it. -/
def Released : Prop :=
  ∀ agent, session.Blocked agent →
    ¬ (session.releaseAgent agent.agentId).Blocked agent ∧ ¬ session.releaseAll.Blocked agent

/-- An agent is blocked only while no coroutine waits for it. -/
def Single : StandupEvent → Prop
  | .blockAgent agentId => ∀ agent, session.Blocked agent → agent.agentId ≠ agentId
  | _ => True

/-! ## What the session holds -/

/-- The future of every blocked agent is the one that the session holds for it. -/
def Held : Prop :=
  ∀ agent, session.Blocked agent → session.pending.get? agent.agentId = some agent.future

/-- The coroutines wait on futures that were made, and those alone are done. -/
structure Numbered : Prop where
  awaiting : ∀ agent ∈ session.awaiting, agent.future < session.created
  done : ∀ future ∈ session.done, future < session.created
  pending : ∀ agentId future, session.pending.get? agentId = some future →
    future < session.created

variable {session}

theorem mem_resolved_iff {agentId : Text} {future : Nat} :
    future ∈ session.resolved agentId ↔
      future ∈ session.done ∨ session.pending.get? agentId = some future := by
  unfold resolved
  rcases session.pending.get? agentId with _ | held
  · simp
  · dsimp only
    split
    · next member =>
        refine ⟨.inl, fun found => ?_⟩
        rcases found with found | same
        · exact found
        · exact Option.some.inj same ▸ member
    · rw [List.mem_cons, or_comm, Option.some_inj, eq_comm]

/-- A release takes the futures out that it resolves. -/
theorem get?_releaseAgent_of_ne {agentId other : Text} (apart : other ≠ agentId) :
    (session.releaseAgent agentId).pending.get? other = session.pending.get? other :=
  Dict.get?_pop_of_ne session.pending apart

theorem mem_done_foldl_of_mem {agents : List Text} {future : Nat}
    (member : future ∈ session.done) : future ∈ (agents.foldl releaseAgent session).done := by
  induction agents generalizing session with
  | nil => exact member
  | cons agentId agents ih => exact ih (mem_resolved_iff.mpr (.inl member))

/-- Releasing some agents resolves the future of each of them. -/
theorem mem_done_foldl {agents : List Text} {agentId : Text} {future : Nat}
    (listed : agentId ∈ agents) (held : session.pending.get? agentId = some future) :
    future ∈ (agents.foldl releaseAgent session).done := by
  induction agents generalizing session with
  | nil => cases listed
  | cons first agents ih =>
      by_cases own : agentId = first
      · subst own
        have resolved : future ∈ (session.releaseAgent agentId).done :=
          mem_resolved_iff.mpr (.inr held)
        exact @mem_done_foldl_of_mem (session.releaseAgent agentId) agents future resolved
      · have later := (List.mem_cons.mp listed).resolve_left own
        exact ih later ((get?_releaseAgent_of_ne own).trans held)

/-- A release of all leaves no future behind that the session held. -/
theorem mem_done_releaseAll {agentId : Text} {future : Nat}
    (held : session.pending.get? agentId = some future) : future ∈ session.releaseAll.done :=
  mem_done_foldl (Dict.mem_keys_of_get? held) held

theorem released_iff : session.Released ↔ session.Held := by
  constructor
  · intro released agent blocked
    obtain ⟨unblocked, _⟩ := released agent blocked
    by_contra other
    refine unblocked ⟨blocked.1, fun member => ?_⟩
    rcases mem_resolved_iff.mp member with done | held
    · exact blocked.2 done
    · exact other held
  · intro holds agent blocked
    have held := holds agent blocked
    exact ⟨fun still => still.2 (mem_resolved_iff.mpr (.inr held)),
      fun still => still.2 (mem_done_releaseAll held)⟩

/-! ## One event -/

theorem numbered_blockAgent (numbered : session.Numbered) (agentId : Text) :
    (session.blockAgent agentId).Numbered where
  awaiting agent member := by
    rcases List.mem_cons.mp member with rfl | before
    · exact Nat.lt_succ_self _
    · exact (numbered.awaiting agent before).trans (Nat.lt_succ_self _)
  done future member := (numbered.done future member).trans (Nat.lt_succ_self _)
  pending other future found := by
    rcases Dict.get?_set_eq_some_iff.mp found with ⟨_, rfl⟩ | ⟨_, before⟩
    · exact Nat.lt_succ_self _
    · exact (numbered.pending other future before).trans (Nat.lt_succ_self _)

theorem numbered_releaseAgent (numbered : session.Numbered) (agentId : Text) :
    (session.releaseAgent agentId).Numbered where
  awaiting := numbered.awaiting
  done future member := by
    rcases mem_resolved_iff.mp member with done | held
    · exact numbered.done future done
    · exact numbered.pending agentId future held
  pending other future found := by
    by_cases own : other = agentId
    · subst own
      cases (Dict.get?_pop_self session.pending other).symm.trans found
    · exact numbered.pending other future ((get?_releaseAgent_of_ne own).symm.trans found)

/-- What every release keeps, a release of all keeps. -/
theorem releaseAll_keeps {kept : StandupSession → Prop}
    (one : ∀ session agentId, kept session → kept (session.releaseAgent agentId))
    (first : kept session) : kept session.releaseAll := by
  unfold releaseAll
  generalize session.pending.keys = agents
  induction agents generalizing session with
  | nil => exact first
  | cons agentId agents ih => exact ih (one session agentId first)

theorem numbered_cancel (numbered : session.Numbered) (future : Nat) :
    (session.cancel future).Numbered := by
  unfold cancel
  split
  · next made =>
      refine ⟨numbered.awaiting, fun other member => ?_, numbered.pending⟩
      rcases List.mem_cons.mp member with rfl | done
      · exact made
      · exact numbered.done other done
  · exact numbered

theorem numbered_step (numbered : session.Numbered) (event : StandupEvent) :
    (session.step event).Numbered := by
  cases event with
  | blockAgent agentId => exact numbered_blockAgent numbered agentId
  | releaseAgent agentId => exact numbered_releaseAgent numbered agentId
  | releaseAll =>
      exact releaseAll_keeps (fun _ agentId own => numbered_releaseAgent own agentId) numbered
  | cancel future => exact numbered_cancel numbered future

theorem held_releaseAgent (held : session.Held) (agentId : Text) :
    (session.releaseAgent agentId).Held := by
  intro agent blocked
  have before : session.Blocked agent :=
    ⟨blocked.1, fun done => blocked.2 (mem_resolved_iff.mpr (.inl done))⟩
  have own := held agent before
  by_cases same : agent.agentId = agentId
  · exact absurd (mem_resolved_iff.mpr (.inr (same ▸ own))) blocked.2
  · exact (get?_releaseAgent_of_ne same).trans own

/-- Another coroutine takes the place of one that waits for the same agent. -/
theorem held_blockAgent_iff (numbered : session.Numbered) (held : session.Held) {agentId : Text} :
    (session.blockAgent agentId).Held ↔ session.Single (.blockAgent agentId) := by
  constructor
  · intro after agent blocked same
    have still : (session.blockAgent agentId).Blocked agent :=
      ⟨List.mem_cons_of_mem _ blocked.1, blocked.2⟩
    have found := after agent still
    rw [same] at found
    have new : session.created = agent.future :=
      Option.some.inj ((Dict.get?_set_self _ _ _).symm.trans found)
    exact Nat.lt_irrefl _ (new ▸ numbered.awaiting agent blocked.1)
  · intro single agent blocked
    rcases List.mem_cons.mp blocked.1 with rfl | before
    · exact Dict.get?_set_self _ _ _
    · have waits : session.Blocked agent := ⟨before, blocked.2⟩
      exact (Dict.get?_set_of_ne _ _ (single agent waits)).trans (held agent waits)

theorem held_cancel (held : session.Held) (future : Nat) : (session.cancel future).Held := by
  unfold cancel
  split
  · intro agent blocked
    exact held agent ⟨blocked.1, fun done => blocked.2 (List.mem_cons_of_mem _ done)⟩
  · exact held

theorem released_step_iff (numbered : session.Numbered) (released : session.Released)
    (event : StandupEvent) : (session.step event).Released ↔ session.Single event := by
  have held := released_iff.mp released
  rw [released_iff]
  cases event with
  | blockAgent agentId => exact held_blockAgent_iff numbered held
  | releaseAgent agentId => exact iff_of_true (held_releaseAgent held agentId) trivial
  | releaseAll =>
      have kept : session.releaseAll.Held :=
        releaseAll_keeps (fun _ agentId own => held_releaseAgent own agentId) held
      exact iff_of_true kept trivial
  | cancel future => exact iff_of_true (held_cancel held future) trivial

/-! ## Runs -/

theorem numbered_empty : empty.Numbered := ⟨nofun, nofun, nofun⟩

theorem released_empty : empty.Released := by
  rintro agent ⟨member, _⟩
  cases member

/-- **Releases.** At every moment of a standup a release of an agent, or of all, unblocks every
coroutine that waits for it, exactly if no agent was blocked while a coroutine waited for it. -/
theorem released_throughout_iff (events : List StandupEvent) :
    Throughout step Released empty events ↔ EachMeets step Single empty events :=
  @throughout_iff_within _ _ step Numbered Released Single
    (fun _ event numbered => numbered_step numbered event)
    (fun _ event numbered released => released_step_iff numbered released event)
    empty numbered_empty released_empty events

def blockedTwice : List StandupEvent := [.blockAgent "dev", .blockAgent "dev"]

/-- Neither a release of the agent nor one of all reaches the first of two coroutines. -/
theorem blockedTwice_not_released : ¬ Throughout step Released empty blockedTwice := by
  intro throughout
  have released := throughout.last
  have unblocked := released ⟨"dev", 0⟩ ⟨by decide, by decide⟩
  exact unblocked.1 ⟨by decide, by decide⟩

/-- Once a session is no longer active, nobody waits in it, if each agent was blocked once
at a time. -/
theorem not_blocked_of_inactive {events : List StandupEvent}
    (single : EachMeets step Single empty events)
    (inactive : (events.foldl step empty).isActive = false) (agent : BlockedAgent) :
    ¬ (events.foldl step empty).Blocked agent := by
  intro blocked
  have held := released_iff.mp ((released_throughout_iff events).mpr single).last agent blocked
  have entry := Dict.get?_eq_some_iff.mp held
  have active := List.length_pos_of_mem entry
  exact absurd active (of_decide_eq_false inactive)

end StandupSession

end Vcompany.Communication
