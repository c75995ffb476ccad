import Vcompany.Autonomy.Delegation
import Vcompany.Autonomy.ProjectState
import Vcompany.Foundation.Dict
import Vcompany.Foundation.Partition
import Vcompany.Foundation.Transition
import Vcompany.Worker.SessionHandler

/-! # The PM handler

`PMTransientHandler` tells the messages to the PM apart by their first words. A completed task is
followed by the assignment of the next one, which is announced to the agent; a request is
followed by an assignment alone. The agent's session handler finds the id of the item in the
text of the announcement.

`assignments_reach_agents_iff` says which messages leave no assignment unannounced, and which
titles and ids come through the text.
-/

namespace Vcompany.Worker

open Foundation Transport Autonomy

/-- What the handler uses of the PM's container, with the reports that it has sent. The
container has a writer. -/
structure PmContainer where
  fsmState : FsmState
  agentStateTimestamps : Dict Text (Text × ℚ)
  stuckDetectedAgents : Finset Text
  projectState : Option BacklogQueue
  reports : List ReportMessage

/-- `_extract_field`. -/
def extractField (content field default : Text) : Text :=
  (((Text.words content).find? fun part => field <+: part).map (List.drop field.length)).getD
    default

/-- `content.split(mark)[1]`, where the content has the mark. -/
def afterMark (mark content : Text) : Option Text :=
  (Text.cut mark content).map fun (_, rest) => ((Text.cut mark rest).map Prod.fst).getD rest

theorem running_ne_listening : ("running" : Text) ≠ "listening" := by decide

/-- The state of a lifecycle that waits for events. -/
def listening : FsmState := runningIn "listening" running_ne_listening

/-- The state of a lifecycle that handles an event. -/
def processing : FsmState := runningIn "processing" (by decide)

/-- The transition `start_processing`. -/
def startProcessing (state : FsmState) : Except PyExc FsmState :=
  if state = listening then .ok processing else .error .other

/-- What stands before the id in the text of an assignment. -/
def itemMark : Text := "(item: "

/-- The text of an assignment, as far as the mark. -/
def taskHeading (agentId title : Text) : Text :=
  ("[Task Assigned] @" : Text) ++ agentId ++ (": " : Text) ++ title ++ (" " : Text)

/-- The report `[Task Assigned] @{agent_id}: {item.title} (item: {item.item_id})`. -/
def taskAssigned (agentId : Text) (item : BacklogItem) : ReportMessage where
  channel := ("agent-" : Text) ++ agentId
  content := taskHeading agentId item.title ++ itemMark ++ (item.itemId ++ (")" : Text))

namespace PmContainer

/-- The items of the attached project state. -/
def items (container : PmContainer) : List BacklogItem :=
  (container.projectState.map BacklogQueue.items).getD []

/-- The phase after `entering '`. -/
def enteredPhase (content : Text) : Text :=
  match afterMark "entering '" content with
  | none => []
  | some rest => ((Text.cut "'" rest).map Prod.fst).getD rest

/-- `[Phase Complete]`. -/
def phaseComplete (now : ℚ) (message : InboundMessage) (container : PmContainer) : PmContainer :=
  let agentId := (Text.words message.content)[2]?.getD message.sender
  { container with
    agentStateTimestamps :=
      container.agentStateTimestamps.set agentId (enteredPhase message.content, now)
    stuckDetectedAgents := container.stuckDetectedAgents.erase agentId }

/-- `_auto_assign_next`. -/
def autoAssignNext (agentId : Text) (container : PmContainer) : PmContainer × Except PyExc Unit :=
  match container.projectState with
  | none => (container, .ok ())
  | some queue =>
      match assignNextTask agentId queue with
      | (queue, .error raised) => ({ container with projectState := some queue }, .error raised)
      | (queue, .ok none) => ({ container with projectState := some queue }, .ok ())
      | (queue, .ok (some item)) =>
          ({ container with
              projectState := some queue
              reports := container.reports ++ [taskAssigned agentId item] }, .ok ())

/-- `[Task Completed]`. -/
def taskCompleted (message : InboundMessage) (container : PmContainer) :
    PmContainer × Except PyExc Unit :=
  let agentId := extractField message.content "agent=" message.sender
  let itemId := extractField message.content "item=" []
  match container.projectState with
  | none => (container, .ok ())
  | some queue =>
      if itemId = [] then (container, .ok ())
      else
        match handleTaskCompleted agentId itemId queue with
        | (queue, .error raised) => ({ container with projectState := some queue }, .error raised)
        | (queue, .ok _) => { container with projectState := some queue }.autoAssignNext agentId

/-- `[Task Failed]`. -/
def taskFailed (message : InboundMessage) (container : PmContainer) :
    PmContainer × Except PyExc Unit :=
  let agentId := extractField message.content "agent=" message.sender
  let itemId := extractField message.content "item=" []
  match container.projectState with
  | none => (container, .ok ())
  | some queue =>
      if itemId = [] then (container, .ok ())
      else
        match handleTaskFailed agentId itemId queue with
        | (queue, .error raised) => ({ container with projectState := some queue }, .error raised)
        | (queue, .ok _) => ({ container with projectState := some queue }, .ok ())

/-- `[Request Assignment]`. -/
def requestAssignment (message : InboundMessage) (container : PmContainer) :
    PmContainer × Except PyExc Unit :=
  let agentId := extractField message.content "agent=" message.sender
  match container.projectState with
  | none => (container, .ok ())
  | some queue =>
      match assignNextTask agentId queue with
      | (queue, .error raised) => ({ container with projectState := some queue }, .error raised)
      | (queue, .ok _) => ({ container with projectState := some queue }, .ok ())

/-- `[Health Change]`. -/
def healthChange (now : ℚ) (message : InboundMessage) (container : PmContainer) : PmContainer :=
  let agentId := extractField message.content "agent=" message.sender
  let inner := extractField message.content "inner=" []
  if inner = [] then container
  else
    { container with
      agentStateTimestamps := container.agentStateTimestamps.set agentId (inner, now) }

/-- The branches of `handle_message`. -/
def dispatch (now : ℚ) (message : InboundMessage) (container : PmContainer) :
    PmContainer × Except PyExc Unit :=
  if ("[Phase Complete]" : Text) <+: message.content then
    (container.phaseComplete now message, .ok ())
  else if ("[Task Completed]" : Text) <+: message.content then container.taskCompleted message
  else if ("[Task Failed]" : Text) <+: message.content then container.taskFailed message
  else if ("[Request Assignment]" : Text) <+: message.content then
    container.requestAssignment message
  else if ("[Health Change]" : Text) <+: message.content then
    (container.healthChange now message, .ok ())
  else (container, .ok ())

/-- `PMTransientHandler.handle_message`, when the event loop shows `now`. -/
def handleMessage (now : ℚ) (message : InboundMessage) (container : PmContainer) :
    PmContainer × Except PyExc Unit :=
  match startProcessing container.fsmState with
  | .error raised => (container, .error raised)
  | .ok processing =>
      match { container with fsmState := processing }.dispatch now message with
      | (handled, result) => ({ handled with fsmState := listening }, result)

/-- The container after a message, whether the handler returned or raised. -/
def perform (container : PmContainer) (event : InboundMessage × ℚ) : PmContainer :=
  (container.handleMessage event.2 event.1).1

end PmContainer

/-! ## Announcements -/

namespace PmContainer

/-- The item becomes ASSIGNED to the agent. -/
def BecomesAssigned (before after : List BacklogItem) (agentId : Text) (item : BacklogItem) :
    Prop :=
  ∃ (position : ℕ) (old : BacklogItem), before[position]? = some old ∧
    after[position]? = some item ∧ item.assignee = some agentId ∧ old.assignee ≠ some agentId

/-- Every item that has become ASSIGNED is announced to its agent, in a report sent since. -/
def Announced (before after : PmContainer) : Prop :=
  ∀ agentId item, BecomesAssigned before.items after.items agentId item →
    taskAssigned agentId item ∈ after.reports.drop before.reports.length

/-- Every item that becomes ASSIGNED in a message is announced to its agent. -/
def Announces (container : PmContainer) (event : InboundMessage × ℚ) : Prop :=
  container.Announced (container.perform event)

/-- The condition on the state before a message: no assignment is requested, in a message that
is handled, while an item is PENDING. -/
def Spoken (container : PmContainer) (event : InboundMessage × ℚ) : Prop :=
  container.fsmState = listening → ("[Request Assignment]" : Text) <+: event.1.content →
    ∀ item ∈ container.items, item.isPending = false

variable {container : PmContainer} {items changed : List BacklogItem} {agentId : Text}
  {item : BacklogItem}

theorem not_becomesAssigned_self : ¬ BecomesAssigned items items agentId item := by
  rintro ⟨position, old, before, after, assigned, unassigned⟩
  obtain rfl := Option.some.inj (before.symm.trans after)
  exact unassigned assigned

/-- A change of one item leaves the others. -/
theorem getElem?_changeFirst {meets : BacklogItem → Bool} {change : BacklogItem → BacklogItem}
    {new : BacklogItem} (found : changeFirst meets change items = some (item, changed))
    {position : ℕ} (here : changed[position]? = some new) :
    items[position]? = some new ∨ new = item := by
  obtain ⟨before, old, after, rfl, _, _, rfl, rfl⟩ := changeFirst_eq_some_iff.mp found
  rcases Nat.lt_trichotomy position before.length with inside | rfl | beyond
  · rw [List.getElem?_append_left inside] at here ⊢
    exact .inl here
  · right
    simpa using here.symm
  · obtain ⟨more, rfl⟩ := Nat.exists_eq_add_of_lt beyond
    left
    simpa [Nat.add_assoc, List.getElem?_append_right] using here

/-- An item that becomes ASSIGNED through a change, of items of which only the changed ones are
not assigned, is the changed one. -/
theorem BecomesAssigned.eq_of_changeFirst {meets : BacklogItem → Bool}
    {change : BacklogItem → BacklogItem} {start : List BacklogItem} {taken : BacklogItem}
    (found : changeFirst meets change items = some (taken, changed))
    (quiet : ¬ BecomesAssigned start items agentId item)
    (becomes : BecomesAssigned start changed agentId item) : item = taken := by
  obtain ⟨position, old, before, after, assigned, unassigned⟩ := becomes
  refine (getElem?_changeFirst found after).resolve_left fun same => ?_
  exact quiet ⟨position, old, before, same, assigned, unassigned⟩

/-- A change that leaves its item free assigns none. -/
theorem not_becomesAssigned_freed {meets : BacklogItem → Bool}
    {change : BacklogItem → BacklogItem} {taken : BacklogItem}
    (frees : ∀ item, (change item).assignee = none)
    (found : changeFirst meets change items = some (taken, changed)) :
    ¬ BecomesAssigned items changed agentId item := by
  intro becomes
  have same := becomes.eq_of_changeFirst found not_becomesAssigned_self
  obtain ⟨_, _, _, _, assigned, _⟩ := becomes
  obtain ⟨_, old, _, _, _, _, rfl, _⟩ := changeFirst_eq_some_iff.mp found
  rw [same, frees] at assigned
  exact Option.some_ne_none _ assigned.symm

theorem items_of_attached {queue : BacklogQueue} (attached : container.projectState = some queue) :
    container.items = queue.items := by
  unfold PmContainer.items
  rw [attached]
  rfl

/-- Where the items stay, nothing has to be announced. -/
theorem announced_of_items {after : PmContainer} (same : after.items = container.items) :
    container.Announced after := by
  intro agentId item becomes
  rw [same] at becomes
  exact absurd becomes not_becomesAssigned_self

/-- What `assign_next_task` does to the items. -/
theorem assignNextTask_cases (agentId : Text) (queue : BacklogQueue) :
    (changeFirst BacklogItem.isPending (BacklogItem.claimed agentId) queue.items = none ∧
      assignNextTask agentId queue = (queue, .ok none)) ∨
    ∃ item items next,
      changeFirst BacklogItem.isPending (BacklogItem.claimed agentId) queue.items =
        some (item, items) ∧
      next.items = items ∧ assignNextTask agentId queue = (next, .ok (some item)) := by
  unfold assignNextTask
  rw [claimNext_finish]
  rcases changeFirst BacklogItem.isPending (BacklogItem.claimed agentId) queue.items with
    _ | ⟨item, items⟩
  · exact .inl ⟨rfl, rfl⟩
  · exact .inr ⟨item, items, _, rfl, rfl, rfl⟩

theorem claimed_of_changeFirst {taken : BacklogItem}
    (found : changeFirst BacklogItem.isPending (BacklogItem.claimed agentId) items =
      some (taken, changed)) : taken.assignee = some agentId := by
  obtain ⟨_, old, _, _, _, _, rfl, _⟩ := changeFirst_eq_some_iff.mp found
  exact BacklogItem.claimed_assignee agentId old

/-- The assignment that follows a completed task is announced. -/
theorem autoAssignNext_announced {before : PmContainer} (next : Text)
    (quiet : ∀ agentId item, ¬ BecomesAssigned before.items container.items agentId item)
    (reports : container.reports = before.reports) :
    before.Announced (container.autoAssignNext next).1 := by
  unfold autoAssignNext
  rcases attached : container.projectState with _ | queue
  · exact fun agentId item becomes => absurd becomes (quiet agentId item)
  · have start := items_of_attached attached
    rw [start] at quiet
    dsimp only
    rcases assignNextTask_cases next queue with ⟨_, outcome⟩ |
      ⟨taken, changed, claimed, found, rfl, outcome⟩
    · rw [outcome]
      exact fun agentId item becomes => absurd becomes (quiet agentId item)
    · rw [outcome]
      intro agentId item becomes
      have same : item = taken :=
        BecomesAssigned.eq_of_changeFirst found (quiet agentId item) becomes
      obtain ⟨_, _, _, _, assigned, _⟩ := becomes
      rw [same, claimed_of_changeFirst found] at assigned
      obtain rfl := Option.some.inj assigned
      change taskAssigned next item ∈
        (container.reports ++ [taskAssigned next taken]).drop before.reports.length
      rw [reports, List.drop_left, same]
      exact List.mem_singleton_self _

/-- The end of a task assigns no item. -/
theorem endTask_cases (agentId itemId : Text) {change : BacklogItem → BacklogItem}
    (frees : ∀ item, (change item).assignee = none) (queue : BacklogQueue) :
    ∃ next reply, endTask agentId (changeItem .succeeds itemId change) queue = (next, reply) ∧
      ∀ agent item, ¬ BecomesAssigned queue.items next.items agent item := by
  unfold endTask
  rw [changeItem_finish]
  rcases found : changeFirst (BacklogItem.hasId itemId) change queue.items with
    _ | ⟨taken, items⟩
  · exact ⟨_, _, rfl, fun _ _ => not_becomesAssigned_self⟩
  · exact ⟨_, _, rfl, fun _ _ => not_becomesAssigned_freed frees found⟩

theorem taskCompleted_announced (message : InboundMessage) (container : PmContainer) :
    container.Announced (container.taskCompleted message).1 := by
  unfold taskCompleted
  rcases attached : container.projectState with _ | queue
  · exact announced_of_items rfl
  · dsimp only
    split
    · exact announced_of_items rfl
    · have start := items_of_attached attached
      obtain ⟨next, reply, outcome, quiet⟩ := endTask_cases
        (extractField message.content "agent=" message.sender)
        (extractField message.content "item=" []) BacklogItem.completed_assignee queue
      rw [show handleTaskCompleted _ _ queue = _ from outcome]
      rw [← start] at quiet
      rcases reply with raised | reply
      · exact fun agentId item becomes => absurd becomes (quiet agentId item)
      · exact autoAssignNext_announced _ quiet rfl

theorem taskFailed_announced (message : InboundMessage) (container : PmContainer) :
    container.Announced (container.taskFailed message).1 := by
  unfold taskFailed
  rcases attached : container.projectState with _ | queue
  · exact announced_of_items rfl
  · dsimp only
    split
    · exact announced_of_items rfl
    · have start := items_of_attached attached
      obtain ⟨next, reply, outcome, quiet⟩ := endTask_cases
        (extractField message.content "agent=" message.sender)
        (extractField message.content "item=" []) BacklogItem.requeued_assignee queue
      rw [show handleTaskFailed _ _ queue = _ from outcome]
      rw [← start] at quiet
      rcases reply with raised | reply
      · exact fun agentId item becomes => absurd becomes (quiet agentId item)
      · exact fun agentId item becomes => absurd becomes (quiet agentId item)

/-- A requested assignment is not announced: it is silent only where no item is PENDING. -/
theorem requestAssignment_announced_iff (message : InboundMessage) (container : PmContainer) :
    container.Announced (container.requestAssignment message).1 ↔
      ∀ item ∈ container.items, item.isPending = false := by
  unfold requestAssignment
  rcases attached : container.projectState with _ | queue
  · refine iff_of_true (announced_of_items rfl) ?_
    unfold PmContainer.items
    rw [attached]
    simp
  · have start := items_of_attached attached
    dsimp only
    rcases assignNextTask_cases (extractField message.content "agent=" message.sender) queue with
      ⟨none, outcome⟩ | ⟨taken, changed, claimed, found, rfl, outcome⟩
    · rw [outcome]
      refine iff_of_true (announced_of_items start.symm) ?_
      rw [start]
      exact changeFirst_eq_none_iff.mp none
    · rw [outcome]
      obtain ⟨before, old, after, split, _, pending, rfl, changed⟩ :=
        changeFirst_eq_some_iff.mp found
      refine iff_of_false (fun announced => ?_) fun idle => ?_
      · have becomes : BecomesAssigned container.items claimed.items
            (extractField message.content "agent=" message.sender)
            (old.claimed (extractField message.content "agent=" message.sender)) := by
          refine ⟨before.length, old, ?_, ?_, BacklogItem.claimed_assignee _ old, ?_⟩
          · rw [start, split]
            simp
          · rw [changed]
            simp
          · rw [BacklogItem.isPending_assignee pending]
            exact (Option.some_ne_none _).symm
        have sent := announced _ _ becomes
        change _ ∈ container.reports.drop container.reports.length at sent
        rw [List.drop_length] at sent
        exact absurd sent List.not_mem_nil
      · rw [start, split] at idle
        rw [idle old (List.mem_append_right before List.mem_cons_self)] at pending
        cases pending

/-- A message with one tag has no other. -/
private theorem not_prefix_of_apart {tag other content : Text} (tagged : tag <+: content)
    (apart : ¬ (tag <+: other ∨ other <+: tag)) : ¬ other <+: content :=
  fun both => apart (List.prefix_or_prefix_of_prefix tagged both)

theorem dispatch_announced_iff (now : ℚ) (message : InboundMessage) (container : PmContainer) :
    container.Announced (container.dispatch now message).1 ↔
      (("[Request Assignment]" : Text) <+: message.content →
        ∀ item ∈ container.items, item.isPending = false) := by
  have other {tag : Text} (tagged : tag <+: message.content)
      (apart : ¬ (tag <+: "[Request Assignment]".toList ∨ "[Request Assignment]".toList <+: tag))
      {handled : PmContainer} (announced : container.Announced handled) :
      container.Announced handled ↔ (("[Request Assignment]" : Text) <+: message.content →
        ∀ item ∈ container.items, item.isPending = false) :=
    iff_of_true announced fun request => absurd request (not_prefix_of_apart tagged apart)
  unfold dispatch
  by_cases phase : ("[Phase Complete]" : Text) <+: message.content
  · rw [if_pos phase]
    exact other phase (by decide) (announced_of_items rfl)
  rw [if_neg phase]
  by_cases completed : ("[Task Completed]" : Text) <+: message.content
  · rw [if_pos completed]
    exact other completed (by decide) (taskCompleted_announced message container)
  rw [if_neg completed]
  by_cases failed : ("[Task Failed]" : Text) <+: message.content
  · rw [if_pos failed]
    exact other failed (by decide) (taskFailed_announced message container)
  rw [if_neg failed]
  by_cases request : ("[Request Assignment]" : Text) <+: message.content
  · rw [if_pos request, forall_prop_of_true request]
    exact requestAssignment_announced_iff message container
  rw [if_neg request]
  refine iff_of_true ?_ fun requested => absurd requested request
  split
  · apply announced_of_items
    unfold healthChange
    dsimp only
    split <;> rfl
  · exact announced_of_items rfl

/-- **One message.** It leaves no assignment unannounced exactly under the condition. -/
theorem announces_iff_spoken (container : PmContainer) (event : InboundMessage × ℚ) :
    container.Announces event ↔ container.Spoken event := by
  unfold Announces perform handleMessage startProcessing Spoken
  by_cases waiting : container.fsmState = listening
  · rw [if_pos waiting, forall_prop_of_true waiting]
    exact dispatch_announced_iff event.2 event.1 { container with fsmState := processing }
  · rw [if_neg waiting]
    exact iff_of_true (announced_of_items rfl) fun waits => absurd waits waiting

end PmContainer

/-! ## The text of an announcement -/

/-- The item that a session handler has recorded as its assignment. -/
def WorkerContainer.assignedItem (container : WorkerContainer) : Option Text :=
  container.currentAssignment.bind fun assignment =>
    match assignment.get "item_id" .none with
    | .ok (.str itemId) => some itemId
    | _ => none

/-- The condition on a title and an id: the id has no mark in it and no closing bracket at its
end, where no mark stands before it; otherwise it is what stands between the first mark and the
next one. -/
def Readable (agentId : Text) (item : BacklogItem) : Prop :=
  match Text.cut itemMark (taskHeading agentId item.title) with
  | none => ¬ itemMark <:+: item.itemId ∧ ¬ (")" : Text) <:+ item.itemId
  | some (_, later) =>
      ∃ between rest, Text.cut itemMark (later ++ itemMark) = some (between, rest) ∧
        (between.rdropWhile fun c => c = ')') = item.itemId

variable {agentId : Text} {item : BacklogItem}

/-- A text without the mark, and the mark after it. -/
theorem cut_itemMark {before : Text} (absent : Text.cut itemMark before = none) (after : Text) :
    Text.cut itemMark (before ++ itemMark ++ after) = some (before, after) :=
  Text.cut_append_separator (by decide : '(' ∉ ("item: " : Text)) absent after

/-- What a session handler reads after the first mark. -/
theorem assignmentItem_of_cut {content before rest : Text}
    (parted : Text.cut itemMark content = some (before, rest)) :
    assignmentItem content =
      some ((((Text.cut itemMark rest).map Prod.fst).getD rest).rdropWhile fun c => c = ')') := by
  unfold assignmentItem
  rw [show Text.cut "(item: " content = _ from parted]
  rfl

/-- The id with its closing bracket is read as the id when it has no mark in it, and no closing
bracket at its end. -/
theorem read_closed_iff (itemId : Text) :
    ((((Text.cut itemMark (itemId ++ (")" : Text))).map Prod.fst).getD
        (itemId ++ (")" : Text))).rdropWhile fun c => c = ')') = itemId ↔
      ¬ itemMark <:+: itemId ∧ ¬ (")" : Text) <:+ itemId := by
  rcases inside : Text.cut itemMark itemId with _ | ⟨before, after⟩
  · have absent := Text.cut_eq_none_iff.mp inside
    have closed : Text.cut itemMark (itemId ++ (")" : Text)) = none := by
      rw [Text.cut_eq_none_iff]
      intro marked
      rcases (Text.infix_append_cons_iff (by decide : ')' ∉ itemMark)).mp marked with early | late
      · exact absent early
      · exact absurd late (by decide)
    rw [closed, and_iff_right absent]
    change (itemId ++ [')']).rdropWhile _ = itemId ↔ ¬ [')'] <:+ itemId
    rw [List.rdropWhile_concat_pos _ _ _ (by decide), List.rdropWhile_eq_self_iff]
    constructor
    · rintro solid ⟨earlier, rfl⟩
      exact solid (by simp) (by simp)
    · intro open_ inhabited closes
      apply open_
      have last : itemId.getLast inhabited = ')' := of_decide_eq_true closes
      exact ⟨itemId.dropLast, last ▸ List.dropLast_append_getLast inhabited⟩
  · have marked : itemMark <:+: itemId := by
      by_contra absent
      rw [Text.cut_eq_none_iff.mpr absent] at inside
      exact Option.some_ne_none _ inside.symm
    refine iff_of_false (fun same => ?_) fun readable => readable.1 marked
    rw [Text.cut_append inside] at same
    have shorter : itemId.length ≤ before.length := by
      rw [← congrArg List.length same]
      exact (List.rdropWhile_prefix _ before).length_le
    rw [Text.eq_of_cut inside] at shorter
    rw [List.length_append, List.length_append, show itemMark.length = 7 from rfl] at shorter
    omega

/-- The session handler reads the id of the announced item exactly under the condition. -/
theorem assignmentItem_taskAssigned_iff (agentId : Text) (item : BacklogItem) :
    assignmentItem (taskAssigned agentId item).content = some item.itemId ↔
      Readable agentId item := by
  unfold Readable
  rcases heading : Text.cut itemMark (taskHeading agentId item.title) with _ | ⟨before, later⟩
  · have parted : Text.cut itemMark (taskAssigned agentId item).content = _ :=
      cut_itemMark heading (item.itemId ++ (")" : Text))
    rw [assignmentItem_of_cut parted, Option.some.injEq]
    exact read_closed_iff item.itemId
  · have parted : Text.cut itemMark (taskAssigned agentId item).content =
        some (before, later ++ (itemMark ++ (item.itemId ++ (")" : Text)))) := by
      unfold taskAssigned
      rw [List.append_assoc]
      exact Text.cut_append heading _
    rw [assignmentItem_of_cut parted, Option.some.injEq, ← List.append_assoc]
    rcases next : Text.cut itemMark (later ++ itemMark) with _ | ⟨between, rest⟩
    · exact absurd (List.suffix_append later itemMark).isInfix (Text.cut_eq_none_iff.mp next)
    · rw [Text.cut_append next]
      constructor
      · exact fun same => ⟨between, rest, next, same⟩
      · rintro ⟨other, _, again, same⟩
        obtain ⟨rfl, _⟩ := Prod.mk.inj (Option.some.inj (next.symm.trans again))
        exact same

theorem taskTag_prefix (agentId : Text) (item : BacklogItem) :
    taskTag <+: (taskAssigned agentId item).content := by
  have tagged : taskTag <+: ("[Task Assigned] @" : Text) := by decide
  unfold taskAssigned taskHeading
  simp only [List.append_assoc]
  exact tagged.trans (List.prefix_append _ _)

/-- A session handler that receives an announcement records an assignment, whose item is the
announced one exactly under the condition. -/
theorem session_records_iff {py : PyRuntime} {now : Moment} {session : WorkerContainer}
    {message : InboundMessage} (opened : session.memory.opened = true)
    (received : message.content = (taskAssigned agentId item).content) :
    ∃ next, handleMessage py now session message = .ok next ∧
      (next.assignedItem = some item.itemId ↔ Readable agentId item) := by
  have tagged := taskTag_prefix agentId item
  have untagged : ¬ reviewTag <+: (taskAssigned agentId item).content := fun review =>
    absurd (List.prefix_or_prefix_of_prefix tagged review) (by decide)
  rw [← assignmentItem_taskAssigned_iff]
  unfold handleMessage
  dsimp only
  rw [received, if_neg untagged, if_pos tagged,
    MemoryStore.set_of_opened opened "current_assignment"]
  refine ⟨_, rfl, ?_⟩
  unfold WorkerContainer.assignedItem assignmentOf
  rcases assignmentItem (taskAssigned agentId item).content with _ | itemId
  · exact iff_of_false (fun recorded => Option.some_ne_none _ recorded.symm)
      (Option.some_ne_none _).symm
  · rfl

/-- **Assignments and agents.** The messages of a sequence leave no assignment unannounced if and
only if no assignment is requested while an item is PENDING; and a session handler records
the announced item if and only if its title and id can be told apart in the text. -/
theorem assignments_reach_agents_iff (container : PmContainer)
    (events : List (InboundMessage × ℚ)) (py : PyRuntime) (now : Moment)
    (session : WorkerContainer) (message : InboundMessage) (agentId : Text) (item : BacklogItem)
    (opened : session.memory.opened = true)
    (received : message.content = (taskAssigned agentId item).content) :
    (EachMeets PmContainer.perform PmContainer.Announces container events ↔
        EachMeets PmContainer.perform PmContainer.Spoken container events) ∧
      ∃ next, handleMessage py now session message = .ok next ∧
        (next.assignedItem = some item.itemId ↔ Readable agentId item) := by
  refine ⟨?_, session_records_iff opened received⟩
  exact @EachMeets.congr_within _ _ _ (fun _ => True) _ _ (fun _ _ _ => trivial)
    (fun container event _ => container.announces_iff_spoken event) _ trivial events

/-- A PM that listens, with one PENDING item. -/
def listeningPm : PmContainer where
  fsmState := listening
  agentStateTimestamps := .empty
  stuckDetectedAgents := ∅
  projectState := some (BacklogQueue.init.saved [sampleItem])
  reports := []

def requestMessage : InboundMessage where
  sender := "alpha"
  channel := "pm"
  content := "[Request Assignment] agent=alpha"

def completedMessage : InboundMessage where
  sender := "alpha"
  channel := "pm"
  content := "[Task Completed] agent=alpha item=7"

/-- A session container that has just been opened. -/
def openSession : WorkerContainer :=
  .new { handlerType := "session" } "alpha" ⟨true, [], []⟩

def taskMessage (item : BacklogItem) : InboundMessage where
  sender := "pm"
  channel := "agent-alpha"
  content := (taskAssigned "alpha" item).content

theorem sample_announced_and_read :
    EachMeets PmContainer.perform PmContainer.Announces listeningPm [(completedMessage, 0)] ∧
      ∃ next, handleMessage typeRuntime ⟨"2026-01-01T00:00:00+00:00", 0⟩ openSession
          (taskMessage sampleItem) = .ok next ∧ next.assignedItem = some sampleItem.itemId := by
  obtain ⟨announced, next, handled, recorded⟩ := assignments_reach_agents_iff listeningPm
    [(completedMessage, 0)] typeRuntime ⟨"2026-01-01T00:00:00+00:00", 0⟩ openSession
    (taskMessage sampleItem) "alpha" sampleItem rfl rfl
  constructor
  · exact announced.mpr ⟨fun _ request => absurd request (by decide), trivial⟩
  · exact ⟨next, handled,
      recorded.mpr ((assignmentItem_taskAssigned_iff "alpha" sampleItem).mp (by decide))⟩

/-- A title that has the mark in it. -/
def markedItem : BacklogItem where
  itemId := "4f2a91c0"
  title := "Revert (item: 7)"
  createdAt := "2026-01-01T00:00:00+00:00"

/-- A requested item is not announced, and the id of an announced one is misread. -/
theorem assignment_does_not_reach_agent :
    (¬ ∀ (container : PmContainer) (events : List (InboundMessage × ℚ)),
      EachMeets PmContainer.perform PmContainer.Announces container events) ∧
    ¬ ∀ (py : PyRuntime) (now : Moment) (session : WorkerContainer) (message : InboundMessage)
      (agentId : Text) (item : BacklogItem), session.memory.opened = true →
      message.content = (taskAssigned agentId item).content →
        ∃ next, handleMessage py now session message = .ok next ∧
          next.assignedItem = some item.itemId := by
  constructor
  · intro claim
    have announces := (claim listeningPm [(requestMessage, 0)]).1
    rw [PmContainer.announces_iff_spoken] at announces
    exact absurd (announces rfl (by decide) sampleItem (by decide)) (by decide)
  · intro claim
    obtain ⟨next, handled, recorded⟩ := claim typeRuntime ⟨"2026-01-01T00:00:00+00:00", 0⟩
      openSession (taskMessage markedItem) "alpha" markedItem rfl rfl
    obtain ⟨other, handled', readable⟩ := @session_records_iff "alpha" markedItem typeRuntime
      ⟨"2026-01-01T00:00:00+00:00", 0⟩ openSession (taskMessage markedItem) rfl rfl
    obtain rfl := Except.ok.inj (handled.symm.trans handled')
    have read := (assignmentItem_taskAssigned_iff "alpha" markedItem).mpr (readable.mp recorded)
    exact absurd read (by decide)

end Vcompany.Worker
