import Vcompany.Worker.Container

/-! # The session handler

`GsdSessionHandler` serves the agents of the session type. It tells inbound
messages apart by their first words: a review decision resolves the pending gate,
a task assignment is kept in the container and in its store, and anything else is
only logged.
-/

namespace Vcompany.Worker

open Foundation Transport

/-- The prefix of a review decision. -/
def reviewTag : Text := "[Review Decision]"

/-- The prefix of a task assignment. -/
def taskTag : Text := "[Task Assigned]"

/-- `_VALID_STATES`. -/
def validStates : List Text :=
  ["creating", "running", "idle", "discuss", "plan", "execute", "uat", "ship", "sleeping",
    "errored", "stopped", "destroyed", "blocked", "stopping"]

/-- `_PHASE_RESUME_COMMANDS`. -/
def phaseResumeCommands : List (Text × Text) :=
  [("discuss", "/gsd:discuss-phase 1"), ("plan", "/gsd:plan-phase 1"),
    ("execute", "/gsd:execute-phase 1"), ("uat", "/gsd:verify-work"), ("ship", "/gsd:ship")]

/-- The decision in a review message: the first word of what is left without the tag. -/
def reviewDecision (casing : Text.Casing) (content : Text) : Except PyExc Text :=
  match Text.words (Text.strip (Text.replace reviewTag [] content)) with
  | [] => .error .indexError
  | word :: _ => .ok (Text.lower casing word)

/-- The item id of an assignment: what stands between the first two marks, without
the closing brackets at its end. -/
def assignmentItem (content : Text) : Option Text :=
  match Text.cut "(item: " content with
  | none => none
  | some (_, rest) =>
      let part := ((Text.cut "(item: " rest).map Prod.fst).getD rest
      some (part.rdropWhile fun c => c = ')')

/-- The assignment that a message describes. -/
def assignmentOf (now : Moment) (content : Text) : PyValue :=
  .dict ([(.str "raw", .str content), (.str "assigned_at", .str now.isoformat)] ++
    match assignmentItem content with
    | some itemId => [(.str "item_id", .str itemId)]
    | none => [])

/-- `GsdSessionHandler.handle_message`. -/
def handleMessage (py : PyRuntime) (now : Moment) (container : WorkerContainer)
    (message : InboundMessage) : Except PyExc WorkerContainer :=
  let content := message.content
  if reviewTag <+: content then do
    let decision ← reviewDecision py.casing content
    match container.pendingReview with
    | some .pending => return container.withGate (.done decision)
    | _ => return container
  else if taskTag <+: content then do
    let assignment := assignmentOf now content
    let memory ← container.memory.set "current_assignment" (py.dumps assignment)
    return { container with currentAssignment := some assignment, memory := memory }
  else .ok container

/-- `GsdSessionHandler._restore_from_checkpoint`. -/
def restoreFromCheckpoint (container : WorkerContainer) : WorkerContainer :=
  match container.memory.getLatestCheckpoint "gsd_phase" with
  | .ok (some checkpoint) =>
      if ∀ state ∈ checkpoint.configuration.states, state ∈ validStates then
        { container with fsmState := .configuration checkpoint.configuration }
      else container
  | _ => container

/-- `GsdSessionHandler._resolve_gsd_command`. -/
def resolveGsdCommand (container : WorkerContainer) : Option Text :=
  match container.fsmState.innerState with
  | some phase =>
      match phaseResumeCommands.find? fun entry => entry.1 = phase with
      | some (_, command) => some command
      | none => container.gsdCommand
  | none => container.gsdCommand

/-- `GsdSessionHandler.on_start`. -/
def onStart (py : PyRuntime) (container : WorkerContainer) : Except PyExc WorkerContainer := do
  let restored := restoreFromCheckpoint container
  let resolved := { restored with gsdCommand := resolveGsdCommand restored }
  match ← resolved.memory.get "current_assignment" with
  | none => return resolved
  | some raw =>
      match py.loads raw with
      | .ok assignment => return { resolved with currentAssignment := some assignment }
      | .error .jsonDecodeError => return resolved
      | .error raised => .error raised

/-- The configuration that a checkpoint records. -/
def FsmState.recorded : FsmState → Configuration
  | .configuration values => values
  | .single state => ⟨[state], List.cons_ne_nil _ _, List.nodup_singleton state⟩
  | .unset => ⟨["None"], List.cons_ne_nil _ _, List.nodup_singleton _⟩

/-- `GsdSessionHandler.on_stop`. -/
def onStop (now : Moment) (container : WorkerContainer) : Except PyExc WorkerContainer := do
  let phase := container.fsmState.innerState.getD "idle"
  let checkpoint : CheckpointData :=
    { configuration := container.fsmState.recorded, phase := phase, timestamp := now.isoformat }
  let checkpointed ← container.memory.checkpoint "gsd_phase" checkpoint
  let memory ← checkpointed.set "current_phase" phase
  return { container with memory := memory }

/-! ## What a message can do -/

/-- A review message without a decision: nothing but whitespace is left of it
without its tags. -/
def EmptyDecision (content : Text) : Prop :=
  reviewTag <+: content ∧ Text.Blank (Text.replace reviewTag [] content)

instance (content : Text) : Decidable (EmptyDecision content) :=
  inferInstanceAs (Decidable (_ ∧ _))

/-- A review message has a decision unless it is blank without its tags. -/
theorem reviewDecision_eq_error_iff (casing : Text.Casing) (content : Text) :
    (∃ raised, reviewDecision casing content = .error raised) ↔
      Text.Blank (Text.replace reviewTag [] content) := by
  rw [← Text.blank_strip, ← Text.words_eq_nil_iff]
  unfold reviewDecision
  cases Text.words (Text.strip (Text.replace reviewTag [] content)) with
  | nil => simp
  | cons word rest => simp

/-- What a handled message does to the container: it resolves the pending gate, it
records an assignment, or it changes nothing. -/
theorem handleMessage_cases {py : PyRuntime} {now : Moment} {container next : WorkerContainer}
    {message : InboundMessage} (handled : handleMessage py now container message = .ok next) :
    (reviewTag <+: message.content ∧ container.pendingReview = some .pending ∧
      ∃ decision, reviewDecision py.casing message.content = .ok decision ∧
        next = container.withGate (.done decision)) ∨
    (¬ reviewTag <+: message.content ∧ taskTag <+: message.content ∧
      ∃ memory, container.memory.set "current_assignment"
          (py.dumps (assignmentOf now message.content)) = .ok memory ∧
        next = { container with
          currentAssignment := some (assignmentOf now message.content), memory := memory }) ∨
    next = container := by
  unfold handleMessage at handled
  dsimp only at handled
  split at handled
  · rename_i tagged
    obtain ⟨decision, decided, handled⟩ := PyExc.bind_eq_ok_iff.mp handled
    split at handled
    · rename_i gate
      exact Or.inl ⟨tagged, gate, decision, decided, (Except.ok.inj handled).symm⟩
    · exact Or.inr (Or.inr (Except.ok.inj handled).symm)
  · split at handled
    · rename_i untagged tagged
      obtain ⟨memory, saved, handled⟩ := PyExc.bind_eq_ok_iff.mp handled
      exact Or.inr (Or.inl ⟨untagged, tagged, memory, saved, (Except.ok.inj handled).symm⟩)
    · exact Or.inr (Or.inr (Except.ok.inj handled).symm)

private theorem set_opened {store next : MemoryStore} {key value : Text}
    (saved : store.set key value = .ok next) : next.opened = true := by
  unfold MemoryStore.set at saved
  split at saved
  · rename_i opened
    cases Except.ok.inj saved
    exact opened
  · cases saved

/-- A handled message leaves the store open. -/
theorem handleMessage_opened {py : PyRuntime} {now : Moment} {container next : WorkerContainer}
    {message : InboundMessage} (opened : container.memory.opened = true)
    (handled : handleMessage py now container message = .ok next) : next.memory.opened = true := by
  rcases handleMessage_cases handled with ⟨_, _, _, _, rfl⟩ | ⟨_, _, _, saved, rfl⟩ | rfl
  · exact opened
  · exact set_opened saved
  · exact opened

/-- With an open store, a message is handled unless it is a review message
without a decision. -/
theorem handleMessage_returns_iff {py : PyRuntime} {now : Moment} {container : WorkerContainer}
    {message : InboundMessage} (opened : container.memory.opened = true) :
    (∃ next, handleMessage py now container message = .ok next) ↔
      ¬ EmptyDecision message.content := by
  unfold handleMessage EmptyDecision
  dsimp only
  by_cases tagged : reviewTag <+: message.content
  · rw [if_pos tagged, and_iff_right tagged, ← reviewDecision_eq_error_iff py.casing]
    cases decided : reviewDecision py.casing message.content with
    | error raised =>
        exact iff_of_false (fun ⟨_, returned⟩ => nomatch returned)
          (fun quiet => quiet ⟨raised, rfl⟩)
    | ok decision =>
        refine iff_of_true ?_ (fun ⟨_, raises⟩ => nomatch raises)
        rw [PyExc.ok_bind]
        split <;> exact ⟨_, rfl⟩
  · refine iff_of_true ?_ (fun empty => tagged empty.1)
    rw [if_neg tagged]
    split
    · have saved := MemoryStore.set_of_opened opened "current_assignment"
        (py.dumps (assignmentOf now message.content))
      exact ⟨_, by rw [saved]; rfl⟩
    · exact ⟨_, rfl⟩

end Vcompany.Worker
