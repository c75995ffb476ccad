import Vcompany.Worker.Lifecycles

/-! # Messages in flight

The handler of an event-driven agent awaits its answer between `start_processing` and
`done_processing`, and so a second message can arrive, from the connection of a head that came
back, and the lifecycle can be moved, while the first is in flight. The lifecycle refuses the
second message: messages are handled one after the other (`messages_serial`).

The lifecycle also refuses `done_processing` to a message that ends while the agent is not
running. Its history state brings the agent back to `processing` then, where no message is in
flight and none is accepted any more (`accepts_again_iff`).
-/

namespace Vcompany.Worker

open Foundation Transport

/-- An agent with an event-driven lifecycle: its machine, the messages whose handler is
suspended, and the reports that it has sent. -/
structure EventAgent where
  machine : CompoundMachine EventPhase
  inFlight : List InboundMessage
  reports : List ReportMessage

/-- What happens to an agent: an event for its lifecycle, the beginning of a handler, and its
end, with the text that it has sent, if it came to that. A handler that is refused
`start_processing` or `done_processing` raises. -/
inductive AgentEvent where
  | moves (event : LifecycleEvent)
  | arrives (message : InboundMessage) (accepted : Bool)
  | ends (message : InboundMessage) (response : Option Text) (returned : Bool)

/-- What a handler may send: without a conversation it relays the message. -/
def Answers (conversing : Bool) (message : InboundMessage) (response : Text) : Prop :=
  conversing = false → response = ("[Relay] " : Text) ++ message.content

/-- The report with which a message is answered. -/
def answerTo (message : InboundMessage) (response : Text) : ReportMessage :=
  { channel := message.channel, content := response }

namespace EventAgent

/-- An agent that has just been built. -/
def fresh : EventAgent := { machine := CompoundLifecycle.fresh, inFlight := [], reports := [] }

/-- The agent in which a handler has begun. -/
def begins (agent : EventAgent) (message : InboundMessage) (next : CompoundMachine EventPhase) :
    EventAgent :=
  { agent with machine := next, inFlight := agent.inFlight ++ [message] }

/-- `WorkerConversationHandler.handle_message`, from one await to the next, and the lifecycle
events in between. Any of the messages in flight may go on, and end without an answer. -/
inductive Step (conversing : Bool) : EventAgent → AgentEvent → EventAgent → Prop where
  | moves {agent : EventAgent} {event : LifecycleEvent} {next : CompoundMachine EventPhase} :
      eventDrivenLifecycle.send agent.machine (.lifecycle event) = some next →
      Step conversing agent (.moves event) { agent with machine := next }
  | stays {agent : EventAgent} {event : LifecycleEvent} :
      eventDrivenLifecycle.send agent.machine (.lifecycle event) = none →
      Step conversing agent (.moves event) agent
  | accepts {agent : EventAgent} {message : InboundMessage} {next : CompoundMachine EventPhase} :
      eventDrivenLifecycle.send agent.machine (.inner .startProcessing) = some next →
      Step conversing agent (.arrives message true) (agent.begins message next)
  | refuses {agent : EventAgent} {message : InboundMessage} :
      eventDrivenLifecycle.send agent.machine (.inner .startProcessing) = none →
      Step conversing agent (.arrives message false) agent
  | ends {agent : EventAgent} {message : InboundMessage} {before after : List InboundMessage}
      {response : Option Text} :
      agent.inFlight = before ++ message :: after →
      (∀ text ∈ response, Answers conversing message text) →
      Step conversing agent
        (.ends message response
          (eventDrivenLifecycle.perform agent.machine (.inner .doneProcessing)).1.accepted)
        { machine := (eventDrivenLifecycle.perform agent.machine (.inner .doneProcessing)).2
          inFlight := before ++ after
          reports := agent.reports ++ (response.map (answerTo message)).toList }

end EventAgent

/-! ## Events inside `running` -/

namespace CompoundLifecycle

variable {ι κ : Type} {compound : CompoundLifecycle ι κ} {machine next : CompoundMachine ι}

/-- The lifecycle's own events leave what the machine remembers. -/
theorem remembered_lifecycle {event : LifecycleEvent} (unstarted : Unstarted machine)
    (sent : compound.send machine (.lifecycle event) = some next) :
    compound.remembered next = compound.remembered machine := by
  have pair := @send_paired _ _ compound _ unstarted (.lifecycle event)
  rw [sent, Option.map_some] at pair
  obtain ⟨_, _, same⟩ := Option.map_eq_some_iff.mp pair
  exact congrArg Paired.inner same.symm

/-- An inner event is accepted inside `running`, where it leads on. -/
theorem send_inner_iff {event : κ} :
    compound.send machine (.inner event) = some next ↔
      ∃ inner entered, machine.state = .running inner ∧
        compound.moves event inner = some entered ∧
          next = { machine with state := .running entered } := by
  rcases machine with ⟨inner | state, history⟩
  · change ((compound.moves event inner).map CompoundTarget.inner).map (compound.take _) = _ ↔ _
    rw [Option.map_map, Option.map_eq_some_iff]
    refine ⟨?_, ?_⟩
    · rintro ⟨entered, leads, rfl⟩
      exact ⟨inner, entered, rfl, leads, rfl⟩
    · rintro ⟨_, entered, ⟨⟩, leads, rfl⟩
      exact ⟨entered, leads, rfl⟩
  · refine iff_of_false (by cases state <;> exact nofun) ?_
    rintro ⟨_, _, running, -⟩
    cases running

end CompoundLifecycle

namespace EventAgent

variable {conversing : Bool} {agent next : EventAgent} {event : AgentEvent}
  {labels : List AgentEvent}

/-- The inner state that the agent is in, or comes back to. -/
def phase (agent : EventAgent) : EventPhase := eventDrivenLifecycle.remembered agent.machine

/-- A message ended while the agent was not running. -/
def EndedOutside (labels : List AgentEvent) : Prop :=
  ∃ message response, AgentEvent.ends message response false ∈ labels

/-- A handler's beginning or its end. -/
inductive Handling where
  | begins (message : InboundMessage)
  | ends (message : InboundMessage) (response : Option Text)

/-- The handlers that have begun, and those that have ended. -/
def handling : AgentEvent → Option Handling
  | .moves _ => none
  | .arrives message accepted => if accepted then some (.begins message) else none
  | .ends message response _ => some (.ends message response)

/-- A handler that has begun and ended before any other. -/
def whole (handled : InboundMessage × Option Text) : List Handling :=
  [.begins handled.1, .ends handled.1 handled.2]

/-- The report of a message that was handled, if it was answered. -/
def reported (handled : InboundMessage × Option Text) : Option ReportMessage :=
  handled.2.map (answerTo handled.1)

/-- The handlers have run one after the other, and the last one may still run. -/
def Serial (labels : List AgentEvent) (agent : EventAgent) : Prop :=
  ∃ finished : List (InboundMessage × Option Text),
    labels.filterMap handling = finished.flatMap whole ++ agent.inFlight.map .begins ∧
      agent.reports = finished.filterMap reported

/-- What holds of an agent after any events: at most one message is in flight, and the agent is
`processing`, or comes back to it, exactly where one is in flight or has ended outside
`running`; after that none is in flight. -/
structure Orderly (labels : List AgentEvent) (agent : EventAgent) : Prop where
  unstarted : CompoundLifecycle.Unstarted agent.machine
  single : agent.inFlight.length ≤ 1
  busy : agent.phase = .processing ↔ agent.inFlight ≠ [] ∨ EndedOutside labels
  wedged : EndedOutside labels → agent.inFlight = []
  serial : Serial labels agent

theorem endedOutside_concat :
    EndedOutside (labels ++ [event]) ↔
      EndedOutside labels ∨ ∃ message response, event = .ends message response false := by
  unfold EndedOutside
  simp only [List.mem_append, List.mem_singleton, exists_or]
  refine or_congr_right (exists₂_congr fun message response => ?_)
  exact eq_comm

theorem orderly_fresh : Orderly [] fresh where
  unstarted := CompoundLifecycle.unstarted_fresh
  single := Nat.zero_le 1
  busy := by
    refine iff_of_false (by decide) ?_
    rintro (inFlight | ⟨_, _, ended⟩)
    · exact inFlight rfl
    · exact absurd ended List.not_mem_nil
  wedged := fun _ => rfl
  serial := ⟨[], rfl, rfl⟩

/-- An event without a handler's beginning or end leaves the record of the handlers. -/
theorem Serial.concat_silent (serial : Serial labels agent) (silent : handling event = none)
    (inFlight : next.inFlight = agent.inFlight) (reports : next.reports = agent.reports) :
    Serial (labels ++ [event]) next := by
  obtain ⟨finished, order, answered⟩ := serial
  refine ⟨finished, ?_, reports.trans answered⟩
  rw [List.filterMap_append, List.filterMap_cons_none silent, List.filterMap_nil, List.append_nil,
    inFlight, order]

theorem endedOutside_silent (silent : handling event = none) :
    EndedOutside (labels ++ [event]) ↔ EndedOutside labels := by
  rw [endedOutside_concat]
  refine or_iff_left ?_
  rintro ⟨message, response, rfl⟩
  cases silent

/-- An event without a handler's beginning or end keeps the order. -/
theorem Orderly.silent (orderly : Orderly labels agent) (silent : handling event = none)
    (unstarted : CompoundLifecycle.Unstarted next.machine) (phase : next.phase = agent.phase)
    (inFlight : next.inFlight = agent.inFlight) (reports : next.reports = agent.reports) :
    Orderly (labels ++ [event]) next where
  unstarted := unstarted
  single := by
    rw [inFlight]
    exact orderly.single
  busy := by
    rw [phase, inFlight, endedOutside_silent silent]
    exact orderly.busy
  wedged := by
    rw [endedOutside_silent silent, inFlight]
    exact orderly.wedged
  serial := orderly.serial.concat_silent silent inFlight reports

/-- A message is accepted where the agent is listening. -/
theorem send_startProcessing_iff {machine moved : CompoundMachine EventPhase} :
    eventDrivenLifecycle.send machine (.inner .startProcessing) = some moved ↔
      machine.state = .running .listening ∧
        moved = { machine with state := .running .processing } := by
  rw [CompoundLifecycle.send_inner_iff]
  refine ⟨?_, ?_⟩
  · rintro ⟨inner, entered, running, leads, rfl⟩
    cases inner <;> cases leads
    exact ⟨running, rfl⟩
  · rintro ⟨running, rfl⟩
    exact ⟨_, _, running, rfl, rfl⟩

/-- A message ends in order where the agent is processing. -/
theorem send_doneProcessing_iff {machine moved : CompoundMachine EventPhase} :
    eventDrivenLifecycle.send machine (.inner .doneProcessing) = some moved ↔
      machine.state = .running .processing ∧
        moved = { machine with state := .running .listening } := by
  rw [CompoundLifecycle.send_inner_iff]
  refine ⟨?_, ?_⟩
  · rintro ⟨inner, entered, running, leads, rfl⟩
    cases inner <;> cases leads
    exact ⟨running, rfl⟩
  · rintro ⟨running, rfl⟩
    exact ⟨_, _, running, rfl, rfl⟩

/-- A message that is accepted is the only one in flight. -/
theorem Orderly.accepts {message : InboundMessage} {moved : CompoundMachine EventPhase}
    (orderly : Orderly labels agent)
    (sent : eventDrivenLifecycle.send agent.machine (.inner .startProcessing) = some moved) :
    Orderly (labels ++ [.arrives message true]) (agent.begins message moved) := by
  obtain ⟨listening, rfl⟩ := send_startProcessing_iff.mp sent
  have idle : agent.phase ≠ .processing := by
    unfold phase CompoundLifecycle.remembered
    rw [listening]
    exact nofun
  have quiet := mt orderly.busy.mpr idle
  obtain ⟨none, inside⟩ := not_or.mp quiet
  have none := not_not.mp none
  have inFlight : (agent.begins message { agent.machine with
      state := .running .processing }).inFlight = [message] :=
    congrArg (· ++ [message]) none
  have outside : ¬ EndedOutside (labels ++ [.arrives message true]) := by
    rw [endedOutside_concat]
    rintro (before | ⟨_, _, same⟩)
    · exact inside before
    · cases same
  obtain ⟨finished, order, answered⟩ := orderly.serial
  refine ⟨nofun, ?_, ?_, fun ended => absurd ended outside, finished, ?_, answered⟩
  · rw [inFlight]
    exact le_rfl
  · rw [inFlight]
    exact iff_of_true rfl (Or.inl (List.cons_ne_nil _ _))
  · rw [inFlight, List.filterMap_append, order, none, List.map_nil, List.append_nil]
    rfl

/-- A message that ends was the only one in flight. -/
theorem Orderly.alone {message : InboundMessage} {before after : List InboundMessage}
    (orderly : Orderly labels agent) (inFlight : agent.inFlight = before ++ message :: after) :
    before = [] ∧ after = [] := by
  have single := orderly.single
  rw [inFlight, List.length_append, List.length_cons] at single
  exact ⟨List.eq_nil_of_length_eq_zero (by omega), List.eq_nil_of_length_eq_zero (by omega)⟩

/-- A handler that ends joins those that have run one after the other. -/
theorem Serial.ends {message : InboundMessage} {response : Option Text} {returned : Bool}
    {machine : CompoundMachine EventPhase} (serial : Serial labels agent)
    (inFlight : agent.inFlight = [message]) :
    Serial (labels ++ [.ends message response returned])
      { machine := machine
        inFlight := []
        reports := agent.reports ++ (response.map (answerTo message)).toList } := by
  obtain ⟨finished, order, answered⟩ := serial
  refine ⟨finished ++ [(message, response)], ?_, ?_⟩
  · change _ = (finished ++ [(message, response)]).flatMap whole ++ []
    rw [List.filterMap_append, order, inFlight, List.flatMap_append, List.append_assoc,
      List.append_nil]
    rfl
  · change agent.reports ++ _ = _
    rw [List.filterMap_append, answered]
    cases response <;> rfl

/-- A message that ends leaves the agent listening, or, where the agent was not running,
processing nothing. -/
theorem Orderly.ends {message : InboundMessage} {before after : List InboundMessage}
    {response : Option Text} (orderly : Orderly labels agent)
    (inFlight : agent.inFlight = before ++ message :: after) :
    Orderly (labels ++ [.ends message response
        (eventDrivenLifecycle.perform agent.machine (.inner .doneProcessing)).1.accepted])
      { machine := (eventDrivenLifecycle.perform agent.machine (.inner .doneProcessing)).2
        inFlight := before ++ after
        reports := agent.reports ++ (response.map (answerTo message)).toList } := by
  obtain ⟨rfl, rfl⟩ := orderly.alone inFlight
  have busy : agent.phase = .processing :=
    orderly.busy.mpr (Or.inl (inFlight ▸ List.cons_ne_nil _ _))
  have inside : ¬ EndedOutside labels := fun ended =>
    List.cons_ne_nil _ _ (inFlight.symm.trans (orderly.wedged ended))
  have serial (returned : Bool) (machine : CompoundMachine EventPhase) :=
    @Serial.ends agent labels message response returned machine orderly.serial inFlight
  unfold CompoundLifecycle.perform
  rcases sent : eventDrivenLifecycle.send agent.machine (.inner .doneProcessing) with _ | moved
  · have ended : EndedOutside (labels ++ [.ends message response false]) :=
      endedOutside_concat.mpr (Or.inr ⟨message, response, rfl⟩)
    exact ⟨orderly.unstarted, Nat.zero_le 1, iff_of_true busy (Or.inr ended), fun _ => rfl,
      serial false _⟩
  · obtain ⟨_, rfl⟩ := send_doneProcessing_iff.mp sent
    have quiet : ¬ EndedOutside (labels ++ [.ends message response true]) := by
      rw [endedOutside_concat]
      rintro (ended | ⟨_, _, same⟩)
      · exact inside ended
      · cases same
    refine ⟨nofun, Nat.zero_le 1, iff_of_false nofun ?_, fun _ => rfl, serial true _⟩
    exact not_or.mpr ⟨fun some => some rfl, quiet⟩

/-- What every event keeps. -/
theorem Orderly.step (orderly : Orderly labels agent) (stepped : Step conversing agent event next) :
    Orderly (labels ++ [event]) next := by
  cases stepped with
  | moves sent =>
      have same := CompoundLifecycle.remembered_lifecycle orderly.unstarted sent
      exact orderly.silent rfl (CompoundLifecycle.unstarted_send sent) same rfl rfl
  | stays _ => exact orderly.silent rfl orderly.unstarted rfl rfl rfl
  | accepts sent => exact orderly.accepts sent
  | refuses _ => exact orderly.silent rfl orderly.unstarted rfl rfl rfl
  | ends inFlight _ => exact orderly.ends inFlight

theorem orderly_of_run (run : Run (Step conversing) fresh labels agent) : Orderly labels agent :=
  run.recorded Orderly (fun _ _ _ _ orderly stepped => orderly.step stepped) orderly_fresh

/-- **One message after the other.** However messages arrive and end while the lifecycle is
moved, at most one is in flight, each handler ends before the next begins, and the reports are
the answers to the messages that ended with one, in that order. -/
theorem messages_serial (run : Run (Step conversing) fresh labels agent) :
    agent.inFlight.length ≤ 1 ∧ Serial labels agent :=
  ⟨(orderly_of_run run).single, (orderly_of_run run).serial⟩

def hello : InboundMessage := { sender := "head", channel := "strategist", content := "hello" }

/-- A message from another connection. -/
def status : InboundMessage := { sender := "web", channel := "strategist", content := "status" }

/-- Of two messages one is answered, while the other is refused; sent again, it ends while the
agent is in error. -/
def endsInError : List AgentEvent :=
  [.moves .start, .arrives hello true, .arrives status false, .ends hello (some "hi".toList) true,
    .arrives status true, .moves .error, .ends status none false, .moves .recover]

/-- The agent after it has recovered. -/
def afterRecovery : EventAgent :=
  { machine := { state := .running .processing, history := some .processing }
    inFlight := []
    reports := [answerTo hello "hi"] }

theorem run_endsInError : Run (Step true) fresh endsInError afterRecovery := by
  have started : Step true fresh (.moves .start) ⟨⟨.running .listening, none⟩, [], []⟩ :=
    .moves rfl
  have accepted : Step true ⟨⟨.running .listening, none⟩, [], []⟩ (.arrives hello true)
      ⟨⟨.running .processing, none⟩, [hello], []⟩ := .accepts rfl
  have refused : Step true ⟨⟨.running .processing, none⟩, [hello], []⟩ (.arrives status false)
      ⟨⟨.running .processing, none⟩, [hello], []⟩ := .refuses rfl
  have answered : Step true ⟨⟨.running .processing, none⟩, [hello], []⟩
      (.ends hello (some "hi".toList) true)
      ⟨⟨.running .listening, none⟩, [], [answerTo hello "hi"]⟩ :=
    @Step.ends true ⟨_, _, _⟩ hello [] [] (some "hi".toList) rfl fun _ _ => nofun
  have again : Step true ⟨⟨.running .listening, none⟩, [], [answerTo hello "hi"]⟩
      (.arrives status true)
      ⟨⟨.running .processing, none⟩, [status], [answerTo hello "hi"]⟩ := .accepts rfl
  have failed : Step true ⟨⟨.running .processing, none⟩, [status], [answerTo hello "hi"]⟩
      (.moves .error)
      ⟨⟨.outer .errored, some .processing⟩, [status], [answerTo hello "hi"]⟩ := .moves rfl
  have ended : Step true
      ⟨⟨.outer .errored, some .processing⟩, [status], [answerTo hello "hi"]⟩
      (.ends status none false)
      ⟨⟨.outer .errored, some .processing⟩, [], [answerTo hello "hi"]⟩ :=
    @Step.ends true ⟨_, _, _⟩ status [] [] none rfl nofun
  have recovered : Step true ⟨⟨.outer .errored, some .processing⟩, [], [answerTo hello "hi"]⟩
      (.moves .recover) afterRecovery := .moves rfl
  exact .cons started (.cons accepted (.cons refused (.cons answered (.cons again
    (.cons failed (.cons ended (.cons recovered (.nil _))))))))

theorem serial_endsInError : afterRecovery.inFlight.length ≤ 1 ∧ Serial endsInError afterRecovery :=
  messages_serial run_endsInError

/-! ## Accepting again -/

/-- The lifecycle is on its way to its end. -/
def Ending (agent : EventAgent) : Prop :=
  agent.machine.state = .outer .stopping ∨ agent.machine.state = .outer .stopped ∨
    agent.machine.state = .outer .destroyed

/-- The agent accepts a message at some time. -/
def AcceptsAgain (conversing : Bool) (agent : EventAgent) : Prop :=
  ∃ labels next message, Run (Step conversing) agent labels next ∧
    .arrives message true ∈ labels

/-- Once a message has ended outside `running`, none is accepted any more. -/
theorem EndedOutside.refuses {later : List AgentEvent} {last : EventAgent}
    {message : InboundMessage} (ended : EndedOutside labels) (orderly : Orderly labels agent)
    (run : Run (Step conversing) agent later last) : .arrives message true ∉ later := by
  induction run generalizing labels with
  | nil => exact List.not_mem_nil
  | cons stepped _ ih =>
      rw [List.mem_cons, not_or]
      refine ⟨?_, ih (endedOutside_concat.mpr (Or.inl ended)) (orderly.step stepped)⟩
      rintro rfl
      cases stepped with
      | accepts sent =>
          have busy := orderly.busy.mpr (Or.inr ended)
          unfold phase CompoundLifecycle.remembered at busy
          rw [(send_startProcessing_iff.mp sent).1] at busy
          cases busy

/-- A lifecycle that is ending goes on to its end. -/
theorem Ending.send {event : CompoundEvent HandlingEvent} {moved : CompoundMachine EventPhase}
    (ending : agent.Ending) (sent : eventDrivenLifecycle.send agent.machine event = some moved) :
    moved.state = .outer .stopping ∨ moved.state = .outer .stopped ∨
      moved.state = .outer .destroyed := by
  obtain ⟨target, taken, rfl⟩ := Option.map_eq_some_iff.mp sent
  rcases ending with state | state | state <;> rw [state] at taken <;>
    rcases event with event | event <;> cases event <;> cases taken
  · exact Or.inr (Or.inl rfl)
  · exact Or.inr (Or.inr rfl)

theorem Ending.step (ending : agent.Ending) (stepped : Step conversing agent event next) :
    next.Ending := by
  cases stepped with
  | moves sent => exact ending.send sent
  | stays _ => exact ending
  | accepts sent => exact ending.send sent
  | refuses _ => exact ending
  | ends _ _ =>
      unfold Ending CompoundLifecycle.perform
      rcases sent : eventDrivenLifecycle.send agent.machine (.inner .doneProcessing) with _ | moved
      · exact ending
      · exact ending.send sent

theorem Ending.refuses {later : List AgentEvent} {last : EventAgent} {message : InboundMessage}
    (ending : agent.Ending) (run : Run (Step conversing) agent later last) :
    .arrives message true ∉ later := by
  induction run with
  | nil => exact List.not_mem_nil
  | cons stepped _ ih =>
      rw [List.mem_cons, not_or]
      refine ⟨?_, ih (ending.step stepped)⟩
      rintro rfl
      cases stepped with
      | accepts sent =>
          have listening := (send_startProcessing_iff.mp sent).1
          rcases ending with state | state | state <;> cases state.symm.trans listening

/-- An agent that listens accepts the next message. -/
theorem acceptsAgain_of_listening (listening : agent.machine.state = .running .listening) :
    AcceptsAgain conversing agent := by
  have accepted := send_startProcessing_iff.mpr ⟨listening, rfl⟩
  exact ⟨_, _, { sender := [], channel := [], content := [] }, .cons (.accepts accepted) (.nil _),
    List.mem_cons_self⟩

theorem AcceptsAgain.of_step (stepped : Step conversing agent event next)
    (again : AcceptsAgain conversing next) : AcceptsAgain conversing agent := by
  obtain ⟨labels, last, message, run, accepted⟩ := again
  exact ⟨event :: labels, last, message, .cons stepped run, List.mem_cons_of_mem _ accepted⟩

/-- An agent that runs accepts a message once the one in flight has ended. -/
theorem Orderly.acceptsAgain_of_running {inner : EventPhase} (orderly : Orderly labels agent)
    (inside : ¬ EndedOutside labels) (running : agent.machine.state = .running inner) :
    AcceptsAgain conversing agent := by
  cases inner with
  | listening => exact acceptsAgain_of_listening running
  | processing =>
      have busy : agent.phase = .processing := by
        unfold phase CompoundLifecycle.remembered
        rw [running]
        rfl
      obtain ⟨message, rest, inFlight⟩ := List.exists_cons_of_ne_nil
        ((orderly.busy.mp busy).resolve_right inside)
      have ends : Step conversing agent _ _ :=
        @Step.ends conversing agent message [] rest none inFlight nofun
      refine AcceptsAgain.of_step ends (acceptsAgain_of_listening ?_)
      unfold CompoundLifecycle.perform
      rw [send_doneProcessing_iff.mpr ⟨running, rfl⟩]
      rfl

/-- An agent that is not ending runs, or is brought to run by one event. -/
theorem exists_running (goes : ¬ agent.Ending) :
    (∃ inner, agent.machine.state = .running inner) ∨
      ∃ event moved inner, eventDrivenLifecycle.send agent.machine (.lifecycle event) = some moved ∧
        moved.state = .running inner := by
  rcases agent with ⟨⟨inner | state, history⟩, inFlight, reports⟩
  · exact Or.inl ⟨inner, rfl⟩
  · right
    cases state with
    | creating => exact ⟨.start, _, _, rfl, rfl⟩
    | sleeping => exact ⟨.wake, _, _, rfl, rfl⟩
    | blocked => exact ⟨.unblock, _, _, rfl, rfl⟩
    | errored => exact ⟨.recover, _, _, rfl, rfl⟩
    | stopping => exact absurd (Or.inl rfl) goes
    | stopped => exact absurd (Or.inr (Or.inl rfl)) goes
    | destroyed => exact absurd (Or.inr (Or.inr rfl)) goes

/-- **When an agent accepts messages again.** An agent with any past can come to accept a
message, unless it is ending or a message has ended while it was not running: then it refuses
every message for good, whatever is done with its lifecycle. -/
theorem accepts_again_iff (run : Run (Step conversing) fresh labels agent) :
    AcceptsAgain conversing agent ↔ ¬ EndedOutside labels ∧ ¬ agent.Ending := by
  have orderly := orderly_of_run run
  refine ⟨?_, ?_⟩
  · rintro ⟨later, last, message, goesOn, accepted⟩
    exact ⟨fun ended => ended.refuses orderly goesOn accepted,
      fun ending => ending.refuses goesOn accepted⟩
  · rintro ⟨inside, goes⟩
    rcases exists_running goes with ⟨inner, running⟩ | ⟨event, moved, inner, sent, running⟩
    · exact orderly.acceptsAgain_of_running inside running
    · have stepped : Step conversing agent (.moves event) { agent with machine := moved } :=
        .moves sent
      have still : ¬ EndedOutside (labels ++ [.moves event]) :=
        fun ended => inside ((endedOutside_silent rfl).mp ended)
      exact ((orderly.step stepped).acceptsAgain_of_running still running).of_step stepped

theorem refuses_after_endsInError : ¬ AcceptsAgain true afterRecovery := by
  intro again
  have inside := ((accepts_again_iff run_endsInError).mp again).1
  exact inside ⟨status, none, by simp [endsInError]⟩

end EventAgent

end Vcompany.Worker
