import Vcompany.Worker.PmHandler

/-! # The PM's stuck detector

The handler notes when an agent came to a state, from two kinds of messages, and the detector
looks through the notes from time to time. A tick is one step: `drain` returns at once.

Beside the container it is followed what the agents have reported (`StuckWatch`): since when an
agent has been in its state, and whether the PM has intervened since. Messages that report a
state again restart the clock of the code, and a `[Health Change]` does not take the agent out
of the set of those for which the PM has intervened. Where no such message comes, the PM
intervenes exactly for the agents that are stuck (`interventions_exact`).
-/

namespace Vcompany.Worker

open Foundation Transport Autonomy

/-- The report to an agent that is stuck. -/
def intervention (threshold elapsed : ℚ) (agentId state : Text) : ReportMessage where
  channel := ("agent-" : Text) ++ agentId
  content := ("[Intervention] Agent " : Text) ++ agentId ++ (" stuck in state '" : Text) ++ state ++
    ("' for " : Text) ++ intText (truncate elapsed) ++ ("s (threshold: " : Text) ++
    intText (truncate threshold) ++ ("s)" : Text)

namespace PmContainer

/-- The agent is stuck, and no intervention is noted. -/
def IsStuck (threshold now : ℚ) (container : PmContainer) (entry : Text × Text × ℚ) : Prop :=
  threshold < now - entry.2.2 ∧ entry.1 ∉ container.stuckDetectedAgents

instance (threshold now : ℚ) (container : PmContainer) (entry : Text × Text × ℚ) :
    Decidable (container.IsStuck threshold now entry) :=
  inferInstanceAs (Decidable (_ ∧ _))

/-- The agent is noted, and its report is sent. -/
def intervene (threshold now : ℚ) (container : PmContainer) (entry : Text × Text × ℚ) :
    PmContainer :=
  { container with
    stuckDetectedAgents := insert entry.1 container.stuckDetectedAgents
    reports := container.reports ++
      [intervention threshold (now - entry.2.2) entry.1 entry.2.1] }

/-- The body of the loop of `_run_stuck_detector` over the agents. -/
def checkAgent (threshold now : ℚ) (container : PmContainer) (entry : Text × Text × ℚ) :
    PmContainer :=
  if container.IsStuck threshold now entry then container.intervene threshold now entry
  else container

/-- A tick of `_run_stuck_detector`, when the event loop shows `now`. -/
def runStuckDetector (threshold now : ℚ) (container : PmContainer) : PmContainer :=
  container.agentStateTimestamps.entries.foldl (checkAgent threshold now) container

/-- A report to the agent is among those that were sent since. -/
def Intervened (before after : PmContainer) (agentId : Text) : Prop :=
  ∃ report ∈ after.reports.drop before.reports.length,
    report.channel = ("agent-" : Text) ++ agentId

instance (before after : PmContainer) (agentId : Text) :
    Decidable (Intervened before after agentId) :=
  inferInstanceAs (Decidable (∃ _ ∈ _, _))

/-- The container has been started, and has no notes. -/
structure Fresh (container : PmContainer) : Prop where
  listens : container.fsmState = listening
  unnoted : container.agentStateTimestamps = .empty
  undetected : container.stuckDetectedAgents = ∅

end PmContainer

/-! ## What the agents report -/

/-- A message that tells the state of an agent. -/
inductive StateReport where
  | phaseComplete (agentId state : Text)
  | healthChange (agentId state : Text)
  deriving DecidableEq

/-- What a message to the PM tells of an agent's state. -/
def stateReport (message : InboundMessage) : Option StateReport :=
  if ("[Phase Complete]" : Text) <+: message.content then
    some (.phaseComplete ((Text.words message.content)[2]?.getD message.sender)
      (PmContainer.enteredPhase message.content))
  else if ("[Health Change]" : Text) <+: message.content then
    if extractField message.content "inner=" [] = [] then none
    else some (.healthChange (extractField message.content "agent=" message.sender)
      (extractField message.content "inner=" []))
  else none

/-- The state in which an agent is, since when, and whether there was an intervention since. -/
structure Stay where
  state : Text
  since : ℚ
  intervened : Bool
  deriving DecidableEq

/-- The agent reports a state, which may be the one in which it is. -/
def Stay.report (state : Text) (now : ℚ) : Option Stay → Stay
  | none => ⟨state, now, false⟩
  | some stay => if stay.state = state then stay else ⟨state, now, false⟩

/-- The PM, with the stays of the agents that have reported. -/
structure StuckWatch where
  container : PmContainer
  stays : Text → Option Stay

inductive StuckEvent where
  | message (message : InboundMessage) (now : ℚ)
  | tick (now : ℚ)

def StuckEvent.time : StuckEvent → ℚ
  | message _ now | tick now => now

namespace StuckWatch

/-- The stays after a message. -/
def told (message : InboundMessage) (now : ℚ) (stays : Text → Option Stay) :
    Text → Option Stay :=
  match stateReport message with
  | none => stays
  | some (.phaseComplete agentId state) | some (.healthChange agentId state) =>
      Function.update stays agentId (some (.report state now (stays agentId)))

def perform (threshold : ℚ) (watch : StuckWatch) : StuckEvent → StuckWatch
  | .message message now =>
      ⟨watch.container.perform (message, now), told message now watch.stays⟩
  | .tick now =>
      let ticked := watch.container.runStuckDetector threshold now
      ⟨ticked, fun agentId => (watch.stays agentId).map fun stay =>
        if PmContainer.Intervened watch.container ticked agentId then
          { stay with intervened := true }
        else stay⟩

/-- The agent has been in its state for longer than the threshold, without an intervention. -/
def Overdue (threshold now : ℚ) (watch : StuckWatch) (agentId : Text) : Prop :=
  ∃ stay, watch.stays agentId = some stay ∧ threshold < now - stay.since ∧ stay.intervened = false

/-- At a tick the PM intervenes for the agents that are overdue, and for no others. -/
def Exact (threshold : ℚ) (watch : StuckWatch) : StuckEvent → Prop
  | .message _ _ => True
  | .tick now => ∀ agentId,
      PmContainer.Intervened watch.container (watch.container.runStuckDetector threshold now)
        agentId ↔ watch.Overdue threshold now agentId

/-- The condition on the state before a report. A `[Phase Complete]` does not repeat the state that
is noted for the agent, unless it was noted at this very time and without an intervention since. A
`[Health Change]` repeats it at this very time only, and does not come to another state after an
intervention. -/
def Fits (watch : StuckWatch) (now : ℚ) : Option StateReport → Prop
  | none => True
  | some (.phaseComplete agentId state) =>
      ∀ noted ∈ watch.container.agentStateTimestamps.get? agentId, noted.1 = state →
        noted.2 = now ∧ agentId ∉ watch.container.stuckDetectedAgents
  | some (.healthChange agentId state) =>
      ∀ noted ∈ watch.container.agentStateTimestamps.get? agentId,
        (noted.1 = state → noted.2 = now) ∧
          (noted.1 ≠ state → agentId ∉ watch.container.stuckDetectedAgents)

instance (watch : StuckWatch) (now : ℚ) : ∀ report, Decidable (watch.Fits now report)
  | none => isTrue trivial
  | some (.phaseComplete _ _) => inferInstanceAs (Decidable (∀ _ ∈ _, _ → _ ∧ _))
  | some (.healthChange _ _) => inferInstanceAs (Decidable (∀ _ ∈ _, (_ → _) ∧ (_ → _)))

/-- The condition on the state before an event. -/
def Orderly (watch : StuckWatch) : StuckEvent → Prop
  | .tick _ => True
  | .message message now => watch.Fits now (stateReport message)

instance (watch : StuckWatch) : ∀ event, Decidable (watch.Orderly event)
  | .tick _ => isTrue trivial
  | .message message now => inferInstanceAs (Decidable (watch.Fits now (stateReport message)))

/-- A PM that listens and has heard nothing yet. -/
def start (container : PmContainer) : StuckWatch := ⟨container, fun _ => none⟩

end StuckWatch

namespace PmContainer

/-! ## A tick -/

variable {container : PmContainer} {threshold now : ℚ} {agentId : Text}

/-- The loop over the agents reports all that were stuck before it, since an agent has one
entry. -/
theorem foldl_checkAgent (threshold now : ℚ) {entries : List (Text × Text × ℚ)}
    (distinct : (entries.map Prod.fst).Nodup) (container : PmContainer) :
    entries.foldl (checkAgent threshold now) container =
      { container with
        stuckDetectedAgents := container.stuckDetectedAgents ∪
          ((entries.filter (container.IsStuck threshold now)).map Prod.fst).toFinset
        reports := container.reports ++
          (entries.filter (container.IsStuck threshold now)).map fun entry =>
            intervention threshold (now - entry.2.2) entry.1 entry.2.1 } := by
  induction entries generalizing container with
  | nil => simp
  | cons entry rest ih =>
      obtain ⟨fresh, distinct⟩ := List.nodup_cons.mp distinct
      rw [List.foldl_cons, ih distinct]
      unfold checkAgent
      by_cases stuck : container.IsStuck threshold now entry
      · have same : ∀ other ∈ rest,
            (container.intervene threshold now entry).IsStuck threshold now other ↔
              container.IsStuck threshold now other := by
          intro other member
          have apart : other.1 ≠ entry.1 := fun same =>
            fresh (same ▸ List.mem_map_of_mem member)
          simp [IsStuck, intervene, apart]
        have kept : rest.filter ((container.intervene threshold now entry).IsStuck threshold now) =
            rest.filter (container.IsStuck threshold now) :=
          List.filter_congr fun other member => decide_eq_decide.mpr (same other member)
        rw [if_pos stuck, List.filter_cons_of_pos (by simpa using stuck), kept]
        simp [intervene, Finset.insert_union, Finset.union_insert]
      · rw [if_neg stuck, List.filter_cons_of_neg (by simpa using stuck)]

theorem runStuckDetector_eq (threshold now : ℚ) (container : PmContainer) :
    container.runStuckDetector threshold now =
      { container with
        stuckDetectedAgents := container.stuckDetectedAgents ∪
          ((container.agentStateTimestamps.entries.filter
            (container.IsStuck threshold now)).map Prod.fst).toFinset
        reports := container.reports ++
          (container.agentStateTimestamps.entries.filter
              (container.IsStuck threshold now)).map fun entry =>
            intervention threshold (now - entry.2.2) entry.1 entry.2.1 } :=
  foldl_checkAgent threshold now container.agentStateTimestamps.distinct container

theorem agentStateTimestamps_tick (threshold now : ℚ) (container : PmContainer) :
    (container.runStuckDetector threshold now).agentStateTimestamps =
      container.agentStateTimestamps := by
  rw [runStuckDetector_eq]

/-- The agents for which a tick intervenes. -/
theorem intervened_tick_iff :
    container.Intervened (container.runStuckDetector threshold now) agentId ↔
      ∃ state since, container.agentStateTimestamps.get? agentId = some (state, since) ∧
        threshold < now - since ∧ agentId ∉ container.stuckDetectedAgents := by
  unfold Intervened
  rw [runStuckDetector_eq]
  dsimp only
  rw [List.drop_left]
  constructor
  · rintro ⟨report, sent, channel⟩
    obtain ⟨⟨other, state, since⟩, member, rfl⟩ := List.mem_map.mp sent
    obtain ⟨member, stuck⟩ := List.mem_filter.mp member
    obtain rfl : other = agentId := List.append_cancel_left channel
    obtain ⟨long, unnoted⟩ := of_decide_eq_true stuck
    exact ⟨state, since, Dict.get?_eq_some_iff.mpr member, long, unnoted⟩
  · rintro ⟨state, since, found, long, unnoted⟩
    refine ⟨intervention threshold (now - since) agentId state, ?_, rfl⟩
    apply List.mem_map.mpr
    refine ⟨(agentId, state, since), ?_, rfl⟩
    apply List.mem_filter.mpr
    exact ⟨Dict.get?_eq_some_iff.mp found, decide_eq_true ⟨long, unnoted⟩⟩

/-- After a tick the agents for which it has intervened are noted too. -/
theorem mem_stuckDetectedAgents_tick :
    agentId ∈ (container.runStuckDetector threshold now).stuckDetectedAgents ↔
      agentId ∈ container.stuckDetectedAgents ∨
        container.Intervened (container.runStuckDetector threshold now) agentId := by
  rw [intervened_tick_iff, runStuckDetector_eq]
  simp only [Finset.mem_union, List.mem_toFinset, List.mem_map, List.mem_filter,
    decide_eq_true_eq]
  apply or_congr_right
  constructor
  · rintro ⟨⟨other, state, since⟩, ⟨member, long, unnoted⟩, rfl⟩
    exact ⟨state, since, Dict.get?_eq_some_iff.mpr member, long, unnoted⟩
  · rintro ⟨state, since, found, long, unnoted⟩
    exact ⟨(agentId, state, since), ⟨Dict.get?_eq_some_iff.mp found, long, unnoted⟩, rfl⟩

/-! ## A message -/

/-- The notes on the agents are the same. -/
def Keeps (before after : PmContainer) : Prop :=
  after.agentStateTimestamps = before.agentStateTimestamps ∧
    after.stuckDetectedAgents = before.stuckDetectedAgents

theorem autoAssignNext_keeps (agentId : Text) (container : PmContainer) :
    container.Keeps (container.autoAssignNext agentId).1 := by
  unfold autoAssignNext
  rcases container.projectState with _ | queue
  · exact ⟨rfl, rfl⟩
  · dsimp only
    rcases assignNextTask agentId queue with ⟨next, raised | _ | item⟩ <;> exact ⟨rfl, rfl⟩

theorem taskCompleted_keeps (message : InboundMessage) (container : PmContainer) :
    container.Keeps (container.taskCompleted message).1 := by
  unfold taskCompleted
  rcases container.projectState with _ | queue
  · exact ⟨rfl, rfl⟩
  · dsimp only
    split
    · exact ⟨rfl, rfl⟩
    · rcases handleTaskCompleted _ _ queue with ⟨next, raised | _⟩
      · exact ⟨rfl, rfl⟩
      · exact autoAssignNext_keeps _ { container with projectState := some next }

theorem taskFailed_keeps (message : InboundMessage) (container : PmContainer) :
    container.Keeps (container.taskFailed message).1 := by
  unfold taskFailed
  rcases container.projectState with _ | queue
  · exact ⟨rfl, rfl⟩
  · dsimp only
    split
    · exact ⟨rfl, rfl⟩
    · rcases handleTaskFailed _ _ queue with ⟨next, raised | _⟩ <;> exact ⟨rfl, rfl⟩

theorem requestAssignment_keeps (message : InboundMessage) (container : PmContainer) :
    container.Keeps (container.requestAssignment message).1 := by
  unfold requestAssignment
  rcases container.projectState with _ | queue
  · exact ⟨rfl, rfl⟩
  · dsimp only
    rcases assignNextTask _ queue with ⟨next, raised | _⟩ <;> exact ⟨rfl, rfl⟩

/-- What a branch of the handler does to the notes. -/
def Notes (now : ℚ) (before after : PmContainer) : Option StateReport → Prop
  | none => before.Keeps after
  | some (.phaseComplete agentId state) =>
      after.agentStateTimestamps = before.agentStateTimestamps.set agentId (state, now) ∧
        after.stuckDetectedAgents = before.stuckDetectedAgents.erase agentId
  | some (.healthChange agentId state) =>
      after.agentStateTimestamps = before.agentStateTimestamps.set agentId (state, now) ∧
        after.stuckDetectedAgents = before.stuckDetectedAgents

theorem healthChange_notes (now : ℚ) (message : InboundMessage) (container : PmContainer) :
    Notes now container (container.healthChange now message)
      (if extractField message.content "inner=" [] = [] then none
      else some (.healthChange (extractField message.content "agent=" message.sender)
        (extractField message.content "inner=" []))) := by
  unfold healthChange
  dsimp only
  split
  · exact ⟨rfl, rfl⟩
  · exact ⟨rfl, rfl⟩

/-- The branch that is taken notes what the message tells. -/
theorem dispatch_notes (now : ℚ) (message : InboundMessage) (container : PmContainer) :
    Notes now container (container.dispatch now message).1 (stateReport message) := by
  have silent {tag : Text} (tagged : tag <+: message.content)
      (phase : ¬ (tag <+: "[Phase Complete]".toList ∨ "[Phase Complete]".toList <+: tag))
      (health : ¬ (tag <+: "[Health Change]".toList ∨ "[Health Change]".toList <+: tag)) :
      stateReport message = none := by
    unfold stateReport
    rw [if_neg fun both => phase (List.prefix_or_prefix_of_prefix tagged both),
      if_neg fun both => health (List.prefix_or_prefix_of_prefix tagged both)]
  unfold dispatch
  by_cases phase : ("[Phase Complete]" : Text) <+: message.content
  · rw [if_pos phase]
    unfold stateReport
    rw [if_pos phase]
    exact ⟨rfl, rfl⟩
  rw [if_neg phase]
  by_cases completed : ("[Task Completed]" : Text) <+: message.content
  · rw [if_pos completed, silent completed (by decide) (by decide)]
    exact taskCompleted_keeps message container
  rw [if_neg completed]
  by_cases failed : ("[Task Failed]" : Text) <+: message.content
  · rw [if_pos failed, silent failed (by decide) (by decide)]
    exact taskFailed_keeps message container
  rw [if_neg failed]
  by_cases request : ("[Request Assignment]" : Text) <+: message.content
  · rw [if_pos request, silent request (by decide) (by decide)]
    exact requestAssignment_keeps message container
  rw [if_neg request]
  unfold stateReport
  rw [if_neg phase]
  by_cases health : ("[Health Change]" : Text) <+: message.content
  · rw [if_pos health, if_pos health]
    exact healthChange_notes now message container
  · rw [if_neg health, if_neg health]
    exact ⟨rfl, rfl⟩

/-- A container that listens goes on listening, and has noted what the message tells. -/
theorem perform_notes (listens : container.fsmState = listening) (message : InboundMessage)
    (now : ℚ) :
    (container.perform (message, now)).fsmState = listening ∧
      Notes now container (container.perform (message, now)) (stateReport message) := by
  unfold perform handleMessage startProcessing
  rw [if_pos listens]
  refine ⟨rfl, ?_⟩
  have noted := dispatch_notes now message { container with fsmState := processing }
  rcases told : stateReport message with _ | ⟨agentId, state⟩ | ⟨agentId, state⟩ <;>
    rw [told] at noted <;> exact noted

end PmContainer

/-! ## Runs -/

namespace StuckWatch

open PmContainer

variable {threshold : ℚ} {watch : StuckWatch}

/-- The container listens, and its notes are those of the stays. -/
structure Agrees (watch : StuckWatch) : Prop where
  listens : watch.container.fsmState = listening
  stays : ∀ agentId, watch.stays agentId =
    (watch.container.agentStateTimestamps.get? agentId).map fun noted =>
      ⟨noted.1, noted.2, decide (agentId ∈ watch.container.stuckDetectedAgents)⟩
  known : ∀ agentId ∈ watch.container.stuckDetectedAgents,
    watch.container.agentStateTimestamps.get? agentId ≠ none

theorem start_agrees {container : PmContainer} (fresh : container.Fresh) :
    (start container).Agrees where
  listens := fresh.listens
  stays agentId := by
    change none = (container.agentStateTimestamps.get? agentId).map _
    rw [fresh.unnoted]
    rfl
  known agentId member := by
    change agentId ∈ container.stuckDetectedAgents at member
    rw [fresh.undetected] at member
    exact absurd member (Finset.notMem_empty agentId)

/-- While the notes agree, the PM intervenes for the agents that are overdue. -/
theorem Agrees.exact_tick (agrees : watch.Agrees) (event : StuckEvent) :
    watch.Exact threshold event := by
  cases event with
  | message => trivial
  | tick now =>
      intro agentId
      rw [intervened_tick_iff]
      unfold Overdue
      rw [agrees.stays]
      rcases watch.container.agentStateTimestamps.get? agentId with _ | ⟨state, since⟩
      · simp
      · simp

theorem Agrees.tick (agrees : watch.Agrees) (now : ℚ) :
    (watch.perform threshold (.tick now)).Agrees where
  listens := by
    change (watch.container.runStuckDetector threshold now).fsmState = listening
    rw [runStuckDetector_eq]
    exact agrees.listens
  stays agentId := by
    change (watch.stays agentId).map _ = ((watch.container.runStuckDetector threshold
      now).agentStateTimestamps.get? agentId).map _
    rw [agentStateTimestamps_tick, agrees.stays, Option.map_map]
    congr 1
    funext noted
    have marked : agentId ∈ (watch.perform threshold (.tick now)).container.stuckDetectedAgents ↔
        _ := mem_stuckDetectedAgents_tick
    simp only [Function.comp_apply, marked]
    split
    · next intervened => simp [intervened]
    · next quiet => simp [quiet]
  known agentId member := by
    change (watch.container.runStuckDetector threshold now).agentStateTimestamps.get? agentId ≠ none
    rw [agentStateTimestamps_tick]
    rcases mem_stuckDetectedAgents_tick.mp member with before | intervened
    · exact agrees.known agentId before
    · obtain ⟨state, since, found, _⟩ := intervened_tick_iff.mp intervened
      rw [found]
      exact Option.some_ne_none _

variable {after : PmContainer} {agentId state : Text} {now : ℚ}

theorem Agrees.silent (agrees : watch.Agrees) (listens : after.fsmState = listening)
    (keeps : watch.container.Keeps after) : Agrees ⟨after, watch.stays⟩ := by
  obtain ⟨timestamps, detected⟩ := keeps
  constructor
  · exact listens
  · intro other
    dsimp only
    rw [timestamps, detected]
    exact agrees.stays other
  · intro other member
    dsimp only at member ⊢
    rw [timestamps]
    rw [detected] at member
    exact agrees.known other member

/-- A state is noted for an agent, and the stay that it reports is the one that is noted. -/
theorem Agrees.report (agrees : watch.Agrees) (listens : after.fsmState = listening)
    (timestamps : after.agentStateTimestamps =
      watch.container.agentStateTimestamps.set agentId (state, now))
    (others : ∀ other, other ≠ agentId →
      (other ∈ after.stuckDetectedAgents ↔ other ∈ watch.container.stuckDetectedAgents))
    (own : Stay.report state now (watch.stays agentId) =
      ⟨state, now, decide (agentId ∈ after.stuckDetectedAgents)⟩) :
    Agrees ⟨after, Function.update watch.stays agentId
      (some (.report state now (watch.stays agentId)))⟩ := by
  constructor
  · exact listens
  · intro other
    dsimp only
    rw [timestamps]
    by_cases same : other = agentId
    · rw [same, Function.update_self, Dict.get?_set_self, own]
      rfl
    · rw [Function.update_of_ne same, Dict.get?_set_of_ne _ _ same, agrees.stays]
      simp only [others other same]
  · intro other member
    dsimp only at member ⊢
    rw [timestamps]
    by_cases same : other = agentId
    · rw [same, Dict.get?_set_self]
      exact Option.some_ne_none _
    · rw [Dict.get?_set_of_ne _ _ same]
      exact agrees.known other ((others other same).mp member)

/-- A `[Phase Complete]` forgets the intervention, as the agent's report of another state does. -/
theorem Agrees.phaseComplete (agrees : watch.Agrees) (listens : after.fsmState = listening)
    (noted : Notes now watch.container after (some (.phaseComplete agentId state)))
    (fits : watch.Fits now (some (.phaseComplete agentId state))) :
    Agrees ⟨after, Function.update watch.stays agentId
      (some (.report state now (watch.stays agentId)))⟩ := by
  obtain ⟨timestamps, detected⟩ := noted
  apply agrees.report listens timestamps
  · intro other apart
    rw [detected]
    exact Finset.mem_erase.trans (and_iff_right apart)
  · rw [detected, agrees.stays]
    rcases found : watch.container.agentStateTimestamps.get? agentId with _ | ⟨before, since⟩
    · simp [Stay.report]
    · by_cases again : before = state
      · subst again
        obtain ⟨rfl, quiet⟩ := fits (before, since) found rfl
        simp [Stay.report, quiet]
      · simp [Stay.report, again]

/-- A `[Health Change]` does not forget the intervention: it must not come to another state
after one. -/
theorem Agrees.healthChange (agrees : watch.Agrees) (listens : after.fsmState = listening)
    (noted : Notes now watch.container after (some (.healthChange agentId state)))
    (fits : watch.Fits now (some (.healthChange agentId state))) :
    Agrees ⟨after, Function.update watch.stays agentId
      (some (.report state now (watch.stays agentId)))⟩ := by
  obtain ⟨timestamps, detected⟩ := noted
  apply agrees.report listens timestamps
  · intro other _
    rw [detected]
  · rw [detected, agrees.stays]
    rcases found : watch.container.agentStateTimestamps.get? agentId with _ | ⟨before, since⟩
    · have unknown : agentId ∉ watch.container.stuckDetectedAgents := fun member =>
        agrees.known agentId member found
      simp [Stay.report, unknown]
    · obtain ⟨repeated, entered⟩ := fits (before, since) found
      by_cases again : before = state
      · have same : since = now := repeated again
        simp [Stay.report, again, same]
      · simp [Stay.report, again, entered again]

/-- An orderly message to a PM whose notes agree keeps them so. -/
theorem Agrees.message (agrees : watch.Agrees) {message : InboundMessage}
    (orderly : watch.Orderly (.message message now)) :
    (watch.perform threshold (.message message now)).Agrees := by
  obtain ⟨listens, noted⟩ := perform_notes agrees.listens message now
  change Agrees ⟨watch.container.perform (message, now), told message now watch.stays⟩
  change watch.Fits now (stateReport message) at orderly
  unfold told
  rcases tells : stateReport message with _ | ⟨agentId, state⟩ | ⟨agentId, state⟩
  · rw [tells] at noted
    exact agrees.silent listens noted
  · rw [tells] at noted orderly
    exact agrees.phaseComplete listens noted orderly
  · rw [tells] at noted orderly
    exact agrees.healthChange listens noted orderly

/-- An orderly event keeps the notes those of the stays. -/
theorem Agrees.perform (agrees : watch.Agrees) {event : StuckEvent}
    (orderly : watch.Orderly event) : (watch.perform threshold event).Agrees := by
  cases event with
  | message message now => exact agrees.message orderly
  | tick now => exact agrees.tick now

end StuckWatch

/-- **Stuck agents.** If the events of a sequence, from the start of the PM, are orderly, then at
every tick the PM intervenes for exactly the agents that have been in their state for longer than
the threshold, without an intervention since they came to it. -/
theorem interventions_exact (threshold : ℚ) (container : PmContainer) (events : List StuckEvent)
    (fresh : container.Fresh)
    (orderly : EachMeets (StuckWatch.perform threshold) StuckWatch.Orderly (.start container)
      events) :
    EachMeets (StuckWatch.perform threshold) (StuckWatch.Exact threshold) (.start container)
      events := by
  have agrees := StuckWatch.start_agrees fresh
  generalize StuckWatch.start container = watch at orderly agrees
  -- The induction is on the events; the notes agree with the stays before each of them.
  induction events generalizing watch with
  | nil => trivial
  | cons event events ih =>
      exact ⟨agrees.exact_tick event, ih _ orderly.2 (agrees.perform orderly.1)⟩

/-- A PM that listens, and has neither notes nor a project. -/
def freshPm : PmContainer where
  fsmState := listening
  agentStateTimestamps := .empty
  stuckDetectedAgents := ∅
  projectState := none
  reports := []

theorem freshPm_fresh : freshPm.Fresh := ⟨rfl, rfl, rfl⟩

def inState (content : String) : InboundMessage where
  sender := "a"
  channel := "pm"
  content := content

/-- The agent is stuck, goes on with a phase and is stuck again. -/
def twoStalls : List StuckEvent :=
  [.message (inState "[Health Change] agent=a state=running inner=plan") 0, .tick 700,
    .message (inState "[Phase Complete] a finished 'plan', entering 'execute'. @PM") 800,
    .tick 1500]

theorem two_stalls_reported :
    EachMeets (StuckWatch.perform 600) (StuckWatch.Exact 600) (.start freshPm) twoStalls :=
  interventions_exact 600 freshPm twoStalls freshPm_fresh (by decide +kernel)

/-- The agent reports a state twice, with 500 seconds between. -/
def repeatedReport : List StuckEvent :=
  [.message (inState "[Health Change] agent=a state=running inner=plan") 0,
    .message (inState "[Health Change] agent=a state=running inner=plan") 500]

/-- A report that repeats the state of the agent restarts the clock: after 700 seconds in the
state there is no intervention. -/
theorem repeated_report_not_exact :
    ¬ ∀ (threshold : ℚ) (container : PmContainer) (events : List StuckEvent), container.Fresh →
      events.IsChain (fun earlier later => earlier.time ≤ later.time) →
        EachMeets (StuckWatch.perform threshold) (StuckWatch.Exact threshold) (.start container)
          events := by
  intro claim
  have ordered : (repeatedReport ++ [StuckEvent.tick 700]).IsChain
      fun earlier later => earlier.time ≤ later.time := by
    decide +kernel
  have meets := claim 600 freshPm (repeatedReport ++ [.tick 700]) freshPm_fresh ordered
  have atTick := meets.2.2.1 "a".toList
  have quiet : ¬ PmContainer.Intervened
      (repeatedReport.foldl (StuckWatch.perform 600) (.start freshPm)).container
      ((repeatedReport.foldl (StuckWatch.perform 600) (.start freshPm)).container.runStuckDetector
        600 700) "a".toList := by
    decide +kernel
  apply quiet
  apply atTick.mpr
  refine ⟨⟨"plan".toList, 0, false⟩, ?_, ?_, rfl⟩
  · decide +kernel
  · norm_num

end Vcompany.Worker
