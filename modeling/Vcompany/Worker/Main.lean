import Vcompany.Transport.Framing
import Vcompany.Worker.SessionHandler

/-! # The worker's message loop

`run_worker` reads the head's messages line by line and dispatches each to the
container. Nothing catches an exception between a message and the loop, nor one of the
reader, so the loop goes on as long as every line is read and every message is handled.
With the session handler two kinds of messages end it (`RunWorker.reads_iff`): one whose
line is longer than the reader's limit, and a review decision without a decision.
-/

namespace Vcompany.Worker

open Foundation Transport

/-- The operations that a container leaves to its handler. -/
structure Handler where
  handleMessage : Moment → WorkerContainer → InboundMessage → Except PyExc WorkerContainer
  onStart : WorkerContainer → Except PyExc WorkerContainer
  onStop : Moment → WorkerContainer → Except PyExc WorkerContainer

/-- `GsdSessionHandler`. -/
def sessionHandler (py : PyRuntime) : Handler where
  handleMessage := Worker.handleMessage py
  onStart := Worker.onStart py
  onStop := Worker.onStop

/-- What a worker runs with: the validation of its configuration, the handlers
other than the session handler, and the databases of the agents. -/
structure WorkerEnv where
  py : PyRuntime
  modelValidate : JsonObject → Except PyExc WorkerConfig
  otherHandler : Text → Option Handler
  database : Text → MemoryStore

/-- A container with the handler it was given. -/
structure HostedContainer where
  container : WorkerContainer
  handler : Handler

/-- `get_handler`. -/
def getHandler (env : WorkerEnv) (handlerType : Text) : Except PyExc Handler :=
  if handlerType = "session" then .ok (sessionHandler env.py)
  else match env.otherHandler handlerType with
    | some handler => .ok handler
    | none => .error .valueError

/-- `bootstrap_container`. -/
def bootstrapContainer (env : WorkerEnv) (agentId : Text) (config : JsonObject) :
    Except PyExc HostedContainer := do
  let config ← env.modelValidate config
  let created := WorkerContainer.new config agentId (env.database agentId)
  let handler ← getHandler env config.handlerType
  let opened := { created with
    fsmState := startLifecycle config.agentType, memory := created.memory.open }
  let container ← handler.onStart opened
  return { container := container, handler := handler }

/-- `WorkerContainer.stop`. -/
def HostedContainer.stop (hosted : HostedContainer) (now : Moment) :
    Except PyExc HostedContainer := do
  let container ← hosted.handler.onStop now hosted.container
  let stopped ← stopLifecycle container.fsmState
  return { hosted with
    container := { container with fsmState := stopped, memory := container.memory.close } }

/-- The variables of the loop: the container, once started, and what was sent. -/
structure WorkerLoop where
  container : Option HostedContainer
  sent : List WorkerMessage

/-- Whether the loop reads on after a message. -/
inductive LoopStatus where
  | reading
  | left
  deriving DecidableEq, Repr

def WorkerLoop.send (loop : WorkerLoop) (message : WorkerMessage) : WorkerLoop :=
  { loop with sent := loop.sent ++ [message] }

/-- The body of the loop in `run_worker`, for one decoded message. -/
def dispatch (env : WorkerEnv) (now : Moment) (loop : WorkerLoop) :
    HeadMessage → Except PyExc (LoopStatus × WorkerLoop)
  | .start message =>
      match loop.container with
      | some _ => .ok (.reading, loop)
      | none => do
          let hosted ← bootstrapContainer env message.agentId message.config
          return (.reading,
            { loop with container := some hosted }.send (.signal { signal := "ready" }))
  | .reconnect _ =>
      match loop.container with
      | some hosted =>
          .ok (.reading, loop.send (.healthReport (hosted.container.healthReport now)))
      | none => .ok (.reading, loop.send (.healthReport { status := "unknown" }))
  | .giveTask message =>
      match loop.container with
      | some hosted =>
          .ok (.reading, { loop with container := some { hosted with
            container := hosted.container.giveTask message.description } })
      | none => .ok (.reading, loop)
  | .message message =>
      match loop.container with
      | some hosted => do
          let container ← hosted.handler.handleMessage now hosted.container message
          return (.reading, { loop with container := some { hosted with container := container } })
      | none => .ok (.reading, loop)
  | .healthCheck =>
      match loop.container with
      | some hosted =>
          .ok (.reading, loop.send (.healthReport (hosted.container.healthReport now)))
      | none => .ok (.reading, loop)
  | .stop _ =>
      match loop.container with
      | some hosted => do
          let stopped ← hosted.stop now
          return (.left,
            { loop with container := some stopped }.send (.signal { signal := "stopped" }))
      | none => .ok (.left, loop)

/-- The body of the loop in `run_worker`, for a line of the stream. -/
def handleLine (env : WorkerEnv) (codec : Codec HeadMessage) (now : Moment) (loop : WorkerLoop)
    (line : Octets) : Except PyExc (LoopStatus × WorkerLoop) :=
  match decodeLine codec line with
  | none => .ok (.reading, loop)
  | some message => dispatch env now loop message

/-- The cleanup of `run_worker` behind its loop. -/
def WorkerLoop.cleanup (now : Moment) (loop : WorkerLoop) : Except PyExc WorkerLoop :=
  match loop.container with
  | some hosted =>
      if hosted.container.fsmState.state ≠ "stopped" then do
        let stopped ← hosted.stop now
        return { loop with container := some stopped }
      else return loop
  | none => return loop

/-- The review gate of the container is set. -/
def WorkerLoop.setGate (review : Option ReviewGate) (loop : WorkerLoop) : WorkerLoop :=
  { loop with container := loop.container.map fun hosted =>
      { hosted with container := { hosted.container with pendingReview := review } } }

/-- How a call of `run_worker` stands. -/
inductive RunStatus where
  | reading
  | returned
  | raised (exc : PyExc)
  deriving DecidableEq

/-- A call of `run_worker`, with the stream that it reads. -/
structure RunWorker where
  reader : LineReader UInt8
  eof : Bool
  loop : WorkerLoop
  status : RunStatus

/-- What happens to a worker. -/
inductive RunEvent where
  | feed (chunk : Octets)
  | feedEof
  /-- The loop reads a line and handles it, or leaves at the end of the stream. -/
  | read (now : Moment)
  /-- Someone else opens, resolves or clears the review gate. -/
  | gate (review : Option ReviewGate)

namespace RunWorker

def init : RunWorker where
  reader := LineReader.init
  eof := false
  loop := { container := none, sent := [] }
  status := .reading

/-- `run_worker` from the end of its loop on. -/
def leave (now : Moment) (loop : WorkerLoop) (run : RunWorker) : RunWorker :=
  match loop.cleanup now with
  | .ok loop => { run with loop := loop, status := .returned }
  | .error raised => { run with loop := loop, status := .raised raised }

/-- The loop has taken a line from the buffer. -/
def take (env : WorkerEnv) (codec : Codec HeadMessage) (now : Moment) (line rest : Octets)
    (run : RunWorker) : RunWorker :=
  let read := { run with
    reader := { run.reader with buffer := rest, lines := run.reader.lines ++ [line] } }
  match handleLine env codec now run.loop line with
  | .ok (.reading, loop) => { read with loop := loop }
  | .ok (.left, loop) => read.leave now loop
  | .error raised => { read with status := .raised raised }

def next (env : WorkerEnv) (codec : Codec HeadMessage) (run : RunWorker) :
    RunEvent → Option RunWorker
  | .feed chunk =>
      if run.eof then none
      else some { run with reader := { run.reader with
        arrived := run.reader.arrived ++ chunk, buffer := run.reader.buffer ++ chunk } }
  | .feedEof => some { run with eof := true }
  | .gate review => some { run with loop := run.loop.setGate review }
  | .read now =>
      if run.status ≠ .reading then none
      else match readline newline streamLimit run.reader.buffer with
        | .line line rest => some (run.take env codec now line rest)
        | .overrun rest => some { run with
            reader := { run.reader with buffer := rest, failed := true }
            status := .raised .valueError }
        | .wait =>
            if run.eof then
              -- the stream's last line may lack its newline
              if run.reader.buffer = [] then some (run.leave now run.loop)
              else some (run.take env codec now run.reader.buffer [])
            else none

def Step (env : WorkerEnv) (codec : Codec HeadMessage) (run : RunWorker) (event : RunEvent)
    (later : RunWorker) : Prop :=
  run.next env codec event = some later

/-- The worker has been given the encoded messages, cut into chunks in some way, on a
stream that stays open, and has nothing left to do. -/
structure Given (env : WorkerEnv) (codec : Codec HeadMessage) (messages : List HeadMessage)
    (run : RunWorker) : Prop where
  reached : ∃ events, Run (Step env codec) init events run
  arrived : run.reader.arrived = messages.flatMap (encode codec)
  opened : run.eof = false
  idle : ∀ now, run.next env codec (.read now) = none

end RunWorker

/-! ## Serving the head -/

/-- The message tells the worker to stop. -/
def IsStop (message : HeadMessage) : Prop := ∃ stop, message = .stop stop

/-- The message is a review decision without a decision. -/
def AsksNothing (message : HeadMessage) : Prop :=
  ∃ inbound, message = .message inbound ∧ EmptyDecision inbound.content

/-- A container with the session handler is up, and its store is open. -/
def Serving (env : WorkerEnv) (loop : WorkerLoop) : Prop :=
  ∃ hosted, loop.container = some hosted ∧ hosted.handler = sessionHandler env.py ∧
    hosted.container.memory.opened = true

variable {env : WorkerEnv} {loop : WorkerLoop}

private theorem onStart_opened {py : PyRuntime} {container started : WorkerContainer}
    (opened : container.memory.opened = true)
    (returned : onStart py container = .ok started) : started.memory.opened = true := by
  have restored : (restoreFromCheckpoint container).memory = container.memory := by
    unfold restoreFromCheckpoint
    split
    · split <;> rfl
    · rfl
  unfold onStart at returned
  obtain ⟨stored, _, returned⟩ := PyExc.bind_eq_ok_iff.mp returned
  cases stored with
  | none =>
      cases Except.ok.inj returned
      exact restored ▸ opened
  | some raw =>
      dsimp only at returned
      split at returned
      · cases Except.ok.inj returned
        exact restored ▸ opened
      · cases Except.ok.inj returned
        exact restored ▸ opened
      · cases returned

/-- What a start with the session handler brings up. -/
theorem bootstrapContainer_session {agentId : Text} {config : JsonObject} {valid : WorkerConfig}
    {hosted : HostedContainer} (accepted : env.modelValidate config = .ok valid)
    (session : valid.handlerType = "session")
    (started : bootstrapContainer env agentId config = .ok hosted) :
    ∃ container,
      onStart env.py { WorkerContainer.new valid agentId (env.database agentId) with
        fsmState := startLifecycle valid.agentType
        memory := (WorkerContainer.new valid agentId (env.database agentId)).memory.open } =
          .ok container ∧
      hosted = { container := container, handler := sessionHandler env.py } := by
  unfold bootstrapContainer at started
  rw [accepted, PyExc.ok_bind] at started
  obtain ⟨handler, found, started⟩ := PyExc.bind_eq_ok_iff.mp started
  obtain ⟨container, returned, started⟩ := PyExc.bind_eq_ok_iff.mp started
  rw [getHandler, if_pos session] at found
  cases Except.ok.inj found
  exact ⟨container, returned, (Except.ok.inj started).symm⟩

/-- A start with the session handler leaves the worker serving. -/
theorem bootstrapContainer_serves {agentId : Text} {config : JsonObject} {valid : WorkerConfig}
    {hosted : HostedContainer} (accepted : env.modelValidate config = .ok valid)
    (session : valid.handlerType = "session")
    (started : bootstrapContainer env agentId config = .ok hosted) :
    hosted.handler = sessionHandler env.py ∧ hosted.container.memory.opened = true := by
  obtain ⟨container, returned, rfl⟩ := bootstrapContainer_session accepted session started
  exact ⟨rfl, onStart_opened rfl returned⟩

/-- A serving worker handles any message that is not a stop, unless it is a review
decision without a decision, and keeps serving. -/
theorem dispatch_serving (now : Moment) (serving : Serving env loop) {message : HeadMessage}
    (goesOn : ¬ IsStop message) :
    (AsksNothing message ∧ ∃ raised, dispatch env now loop message = .error raised) ∨
    (¬ AsksNothing message ∧ ∃ next, dispatch env now loop message = .ok (.reading, next) ∧
      Serving env next) := by
  obtain ⟨hosted, up, handler, opened⟩ := serving
  have harmless (other : ∀ inbound, message ≠ .message inbound) : ¬ AsksNothing message :=
    fun ⟨inbound, same, _⟩ => other inbound same
  cases message with
  | start message =>
      refine Or.inr ⟨harmless nofun, loop, ?_, hosted, up, handler, opened⟩
      simp only [dispatch, up]
  | reconnect message =>
      refine Or.inr ⟨harmless nofun, loop.send (.healthReport (hosted.container.healthReport now)),
        ?_, hosted, up, handler, opened⟩
      simp only [dispatch, up]
  | giveTask message =>
      have queued : Serving env { loop with container := some { hosted with
          container := hosted.container.giveTask message.description } } :=
        ⟨_, rfl, handler, by simpa using opened⟩
      refine Or.inr ⟨harmless nofun, _, ?_, queued⟩
      simp only [dispatch, up]
  | healthCheck =>
      refine Or.inr ⟨harmless nofun, loop.send (.healthReport (hosted.container.healthReport now)),
        ?_, hosted, up, handler, opened⟩
      simp only [dispatch, up]
  | stop message => exact absurd ⟨message, rfl⟩ goesOn
  | message inbound =>
      have asks : AsksNothing (.message inbound) ↔ EmptyDecision inbound.content :=
        ⟨fun ⟨_, same, empty⟩ => by cases same; exact empty, fun empty => ⟨inbound, rfl, empty⟩⟩
      have returns := @handleMessage_returns_iff env.py now hosted.container inbound opened
      simp only [dispatch, up, handler, sessionHandler, asks]
      cases handled : Worker.handleMessage env.py now hosted.container inbound with
      | error raised =>
          rw [handled] at returns
          refine Or.inl ⟨?_, raised, rfl⟩
          by_contra decided
          obtain ⟨_, same⟩ := returns.mpr decided
          cases same
      | ok container =>
          rw [handled] at returns
          exact Or.inr ⟨returns.mp ⟨container, rfl⟩, _, rfl, _, rfl, rfl,
            handleMessage_opened opened handled⟩

theorem Serving.setGate (serving : Serving env loop) (review : Option ReviewGate) :
    Serving env (loop.setGate review) := by
  obtain ⟨hosted, up, handler, opened⟩ := serving
  refine ⟨{ hosted with container := { hosted.container with pendingReview := review } }, ?_,
    handler, opened⟩
  rw [WorkerLoop.setGate, up]
  rfl

/-! ## Reading the stream -/

def noon : Moment := { isoformat := "2026-01-01T12:00:00+00:00", uptime := 60 }

namespace RunWorker

variable {codec : Codec HeadMessage} {start : StartMessage} {messages : List HeadMessage}
  {run later : RunWorker} {event : RunEvent}

@[simp] theorem leave_reader (now : Moment) : (run.leave now loop).reader = run.reader := by
  unfold leave
  split <;> rfl

@[simp] theorem leave_eof (now : Moment) : (run.leave now loop).eof = run.eof := by
  unfold leave
  split <;> rfl

@[simp] theorem take_reader (now : Moment) (line rest : Octets) :
    (run.take env codec now line rest).reader =
      { run.reader with buffer := rest, lines := run.reader.lines ++ [line] } := by
  unfold take
  dsimp only
  split
  · rfl
  · rw [leave_reader]
  · rfl

@[simp] theorem take_eof (now : Moment) (line rest : Octets) :
    (run.take env codec now line rest).eof = run.eof := by
  unfold take
  dsimp only
  split
  · rfl
  · rw [leave_eof]
  · rfl

/-- What happens on a stream that stays open. -/
theorem next_cases (moved : run.Step env codec event later) (opened : later.eof = false) :
    run.eof = false ∧
      ((∃ chunk, later = { run with reader := { run.reader with
          arrived := run.reader.arrived ++ chunk, buffer := run.reader.buffer ++ chunk } }) ∨
        (∃ review, later = { run with loop := run.loop.setGate review }) ∨
        (∃ now line rest, run.status = .reading ∧
          readline newline streamLimit run.reader.buffer = .line line rest ∧
          later = run.take env codec now line rest) ∨
        ∃ rest, run.status = .reading ∧
          readline newline streamLimit run.reader.buffer = .overrun rest ∧
          later = { run with
            reader := { run.reader with buffer := rest, failed := true }
            status := .raised .valueError }) := by
  unfold Step next at moved
  cases event with
  | feed chunk =>
      dsimp only at moved
      split at moved
      · cases moved
      · next isOpen => exact ⟨by simpa using isOpen, .inl ⟨chunk, (Option.some.inj moved).symm⟩⟩
  | feedEof =>
      cases Option.some.inj moved
      cases opened
  | gate review =>
      cases Option.some.inj moved
      exact ⟨opened, .inr (.inl ⟨review, rfl⟩)⟩
  | read now =>
      dsimp only at moved
      split at moved
      · cases moved
      next reads =>
        rw [ne_eq, not_not] at reads
        split at moved
        · next line rest found =>
            cases Option.some.inj moved
            rw [take_eof] at opened
            exact ⟨opened, .inr (.inr (.inl ⟨now, line, rest, reads, found, rfl⟩))⟩
        · next rest found =>
            cases Option.some.inj moved
            exact ⟨opened, .inr (.inr (.inr ⟨rest, reads, found, rfl⟩))⟩
        · split at moved
          · next ended =>
              -- at the end of the stream `eof` is set, and no step clears it
              split at moved
              · cases Option.some.inj moved
                rw [leave_eof, ended] at opened
                cases opened
              · cases Option.some.inj moved
                rw [take_eof, ended] at opened
                cases opened
          · cases moved

/-- What holds of a worker that is given a start with the session handler, while its stream
is open. -/
structure Serves (env : WorkerEnv) (codec : Codec HeadMessage) (start : StartMessage)
    (run : RunWorker) : Prop where
  stream : ∃ events, Run (LineReader.Step newline streamLimit) LineReader.init events run.reader
  failed : run.reader.failed = true → run.status ≠ .reading
  waits : received codec run.reader = [] → run.reader.failed = false →
    run.status = .reading ∧ run.loop = { container := none, sent := [] }
  serves : ∀ messages, received codec run.reader = .start start :: messages →
    (∀ message ∈ messages, ¬ IsStop message) → run.reader.failed = false →
    (run.status = .reading ∧ Serving env run.loop ∧ ∀ message ∈ messages, ¬ AsksNothing message) ∨
    (run.status ≠ .reading ∧ ∃ message ∈ messages, AsksNothing message)

theorem serves_init : init.Serves env codec start where
  stream := ⟨[], .nil _⟩
  failed := nofun
  waits _ _ := ⟨rfl, rfl⟩
  serves _ got := by cases got

private theorem received_concat (reader : LineReader UInt8) (rest line : Octets) :
    received codec { reader with buffer := rest, lines := reader.lines ++ [line] } =
      received codec reader ++ (decodeLine codec line).toList := by
  unfold received
  rw [List.filterMap_append, List.filterMap_cons, List.filterMap_nil]
  cases decodeLine codec line <;> rfl

/-- The loop takes a line. -/
theorem Serves.take (serves : run.Serves env codec start)
    (bootstraps : ∃ hosted, bootstrapContainer env start.agentId start.config = .ok hosted ∧
      hosted.handler = sessionHandler env.py ∧ hosted.container.memory.opened = true)
    (reads : run.status = .reading) {line rest : Octets}
    (found : readline newline streamLimit run.reader.buffer = .line line rest) (now : Moment) :
    (run.take env codec now line rest).Serves env codec start := by
  have alive : run.reader.failed = false := by
    by_contra dead
    exact serves.failed (by simpa using dead) reads
  obtain ⟨events, stream⟩ := serves.stream
  refine ⟨⟨events ++ [.read], ?_⟩, ?_, ?_, ?_⟩
  · rw [take_reader]
    exact stream.concat (LineReader.step_line alive found)
  · rw [take_reader, alive]
    exact nofun
  · intro nothing
    rw [take_reader, received_concat, List.append_eq_nil_iff] at nothing
    intro _
    have skipped : decodeLine codec line = none := Option.toList_eq_nil_iff.mp nothing.2
    unfold RunWorker.take handleLine
    rw [skipped]
    exact serves.waits nothing.1 alive
  · intro messages got goesOn _
    rw [take_reader, received_concat] at got
    cases decoded : decodeLine codec line with
    | none =>
        rw [decoded, Option.toList_none, List.append_nil] at got
        unfold RunWorker.take handleLine
        rw [decoded]
        exact serves.serves messages got goesOn alive
    | some message =>
        rw [decoded, Option.toList_some] at got
        unfold RunWorker.take handleLine
        rw [decoded]
        rcases before : received codec run.reader with _ | ⟨first, earlier⟩
        · -- the start itself
          rw [before, List.nil_append] at got
          obtain ⟨rfl, rfl⟩ := List.cons.inj got
          obtain ⟨hosted, bootstrapped, handler, opened⟩ := bootstraps
          have empty := (serves.waits before alive).2
          refine .inl ⟨?_, ?_, List.forall_mem_nil _⟩
          · rw [empty]
            simp only [dispatch, bootstrapped]
            exact reads
          · rw [empty]
            simp only [dispatch, bootstrapped]
            exact ⟨hosted, rfl, handler, opened⟩
        · rw [before, List.cons_append] at got
          obtain ⟨rfl, rfl⟩ := List.cons.inj got
          rw [List.forall_mem_append, List.forall_mem_singleton] at goesOn
          rcases serves.serves earlier before goesOn.1 alive with ⟨_, serving, quiet⟩ | ⟨halted, _⟩
          · rcases dispatch_serving now serving goesOn.2 with
              ⟨asks, raised, outcome⟩ | ⟨silent, next, outcome, still⟩
            · dsimp only
              rw [outcome]
              exact .inr ⟨nofun, message, by simp, asks⟩
            · dsimp only
              rw [outcome]
              refine .inl ⟨reads, still, ?_⟩
              rw [List.forall_mem_append, List.forall_mem_singleton]
              exact ⟨quiet, silent⟩
          · exact absurd reads halted

theorem Serves.step (serves : run.Serves env codec start)
    (bootstraps : ∃ hosted, bootstrapContainer env start.agentId start.config = .ok hosted ∧
      hosted.handler = sessionHandler env.py ∧ hosted.container.memory.opened = true)
    (moved : run.Step env codec event later) (opened : later.eof = false) :
    later.Serves env codec start := by
  obtain ⟨-, ⟨chunk, rfl⟩ | ⟨review, rfl⟩ | ⟨now, line, rest, reads, found, rfl⟩ |
    ⟨rest, reads, found, rfl⟩⟩ := next_cases moved opened
  · obtain ⟨events, stream⟩ := serves.stream
    have fed : LineReader.Step newline streamLimit run.reader (.feed chunk) { run.reader with
        arrived := run.reader.arrived ++ chunk, buffer := run.reader.buffer ++ chunk } := rfl
    exact ⟨⟨events ++ [.feed chunk], stream.concat fed⟩, serves.failed, serves.waits, serves.serves⟩
  · refine ⟨serves.stream, serves.failed, fun nothing alive => ?_,
      fun messages got goesOn alive => ?_⟩
    · obtain ⟨reads, empty⟩ := serves.waits nothing alive
      exact ⟨reads, by rw [empty]; rfl⟩
    · rcases serves.serves messages got goesOn alive with ⟨reads, serving, quiet⟩ | halted
      · exact .inl ⟨reads, serving.setGate review, quiet⟩
      · exact .inr halted
  · exact serves.take bootstraps reads found now
  · have alive : run.reader.failed = false := by
      by_contra dead
      exact serves.failed (by simpa using dead) reads
    obtain ⟨events, stream⟩ := serves.stream
    exact ⟨⟨events ++ [.read], stream.concat (LineReader.step_overrun alive found)⟩,
      nofun, nofun, nofun⟩

theorem serves_run {events : List RunEvent}
    (bootstraps : ∃ hosted, bootstrapContainer env start.agentId start.config = .ok hosted ∧
      hosted.handler = sessionHandler env.py ∧ hosted.container.memory.opened = true)
    (reached : Run (Step env codec) init events run) (opened : run.eof = false) :
    run.Serves env codec start :=
  reached.invariant (fun run => run.eof = false → run.Serves env codec start)
    (fun _ _ _ serves moved opened =>
      (serves (next_cases moved opened).1).step bootstraps moved opened)
    (fun _ => serves_init) opened

/-- A worker whose stream is open becomes idle by reading on. -/
theorem exists_idle (env : WorkerEnv) (codec : Codec HeadMessage) (now : Moment) (run : RunWorker)
    (opened : run.eof = false) :
    ∃ events later, Run (Step env codec) run events later ∧ later.eof = false ∧
      later.reader.arrived = run.reader.arrived ∧
      ∀ now, later.next env codec (.read now) = none := by
  by_cases reads : run.status = .reading
  · cases found : readline newline streamLimit run.reader.buffer with
    | line line rest =>
        have shorter : rest.length < run.reader.buffer.length := by
          rcases readline_cases newline streamLimit run.reader.buffer with
            ⟨body, tail, filled, -, outcome⟩ | ⟨-, outcome⟩
          · rw [found] at outcome
            split at outcome
            · cases outcome
              rw [filled, List.length_append, List.length_cons]
              omega
            · cases outcome
          · rw [found] at outcome
            split at outcome <;> cases outcome
        have moved : run.Step env codec (.read now) (run.take env codec now line rest) := by
          unfold Step next
          simp only [reads, ne_eq, not_true_eq_false, if_false, found]
        obtain ⟨events, later, further, still, arrived, idle⟩ :=
          exists_idle env codec now (run.take env codec now line rest) (by rw [take_eof, opened])
        exact ⟨.read now :: events, later, .cons moved further, still,
          arrived.trans (by rw [take_reader]), idle⟩
    | overrun rest =>
        refine ⟨[.read now], { run with
          reader := { run.reader with buffer := rest, failed := true }
          status := .raised .valueError }, .cons ?_ (.nil _), opened, rfl, fun now => ?_⟩
        · unfold Step next
          simp only [reads, ne_eq, not_true_eq_false, if_false, found]
        · rfl
    | wait =>
        refine ⟨[], run, .nil _, opened, rfl, fun now => ?_⟩
        unfold next
        simp only [reads, ne_eq, not_true_eq_false, if_false, found, opened, Bool.false_eq_true]
  · refine ⟨[], run, .nil _, opened, rfl, fun now => ?_⟩
    unfold next
    simp only [ne_eq, reads, not_false_eq_true, if_true]
  termination_by run.reader.buffer.length
  decreasing_by
    rw [take_reader]
    exact shorter

/-- The messages can be given to the worker. -/
theorem exists_given (env : WorkerEnv) (codec : Codec HeadMessage) (now : Moment)
    (messages : List HeadMessage) : ∃ run, Given env codec messages run := by
  obtain ⟨events, later, run, opened, arrived, idle⟩ := exists_idle env codec now
    { init with reader := { (LineReader.init : LineReader UInt8) with
        arrived := messages.flatMap (encode codec)
        buffer := messages.flatMap (encode codec) } } rfl
  exact ⟨later, ⟨.feed (messages.flatMap (encode codec)) :: events, .cons rfl run⟩, arrived,
    opened, idle⟩

/-- A worker that has nothing left to do goes on and has handled every message, exactly when
each of them fits and none is a review decision without a decision. -/
theorem Given.reads_iff (given : Given env codec (.start start :: messages) run)
    (bootstraps : ∃ hosted, bootstrapContainer env start.agentId start.config = .ok hosted ∧
      hosted.handler = sessionHandler env.py ∧ hosted.container.memory.opened = true)
    (roundTrips : ∀ message ∈ .start start :: messages, codec.RoundTrips message)
    (noStop : ∀ message ∈ messages, ¬ IsStop message) :
    (run.status = .reading ∧ received codec run.reader = .start start :: messages) ↔
      (∀ message ∈ .start start :: messages,
        (codec.modelDumpJson message).length ≤ streamLimit) ∧
      ∀ message ∈ messages, ¬ AsksNothing message := by
  obtain ⟨⟨_, reached⟩, arrived, opened, idle⟩ := given
  have serves := serves_run bootstraps reached opened
  obtain ⟨_, stream⟩ := serves.stream
  have readerIdle (reads : run.status = .reading) :
      LineReader.Idle newline streamLimit run.reader := by
    have waiting := idle noon
    unfold RunWorker.next at waiting
    unfold LineReader.Idle LineReader.next
    cases found : readline newline streamLimit run.reader.buffer <;>
      simp_all
  have delivered (reads : run.status = .reading) :
      Delivered codec (.start start :: messages) run.reader :=
    ⟨⟨_, stream⟩, arrived, readerIdle reads⟩
  constructor
  · rintro ⟨reads, got⟩
    have alive : run.reader.failed = false := by
      by_contra dead
      exact serves.failed (by simpa using dead) reads
    refine ⟨(lossless_iff roundTrips (delivered reads)).mp ⟨got, alive⟩, ?_⟩
    rcases serves.serves messages got noStop alive with ⟨_, _, quiet⟩ | ⟨halted, _⟩
    · exact quiet
    · exact absurd reads halted
  · rintro ⟨short, quiet⟩
    have solid : ∀ line ∈ (HeadMessage.start start :: messages).map codec.modelDumpJson,
        newline ∉ line :=
      List.forall_mem_map.mpr fun message member => (roundTrips message member).oneLine
    have split : run.reader.arrived =
        joinLines newline ((HeadMessage.start start :: messages).map codec.modelDumpJson) :=
      arrived.trans (flatMap_encode codec _)
    have alive := LineReader.alive_of_short stream solid (List.forall_mem_map.mpr short)
      (split ▸ List.prefix_rfl)
    -- what was read so far are the first messages, and the worker handled each of them
    have first : received codec run.reader <+: .start start :: messages := by
      have lines := LineReader.lines_isPrefix solid (LineReader.faithful_run stream) split alive
      have decoded := lines.filterMap (decodeLine codec)
      rwa [filterMap_decodeLine roundTrips] at decoded
    have reads : run.status = .reading := by
      cases got : received codec run.reader with
      | nil => exact (serves.waits got alive).1
      | cons message earlier =>
          rw [got] at first
          obtain ⟨rfl, within⟩ := List.cons_prefix_cons.mp first
          rcases serves.serves earlier got (fun m member => noStop m (within.subset member)) alive
            with ⟨reads, _⟩ | ⟨_, asking, member, asks⟩
          · exact reads
          · exact absurd asks (quiet asking (within.subset member))
    exact ⟨reads, ((lossless_iff roundTrips (delivered reads)).mpr short).1⟩

/-- **What ends the worker.** Given a start whose configuration has the session handler and
starts the container, and a sequence of messages without a stop, in any chunks and with the
review gate set in any way between the reads, the worker handles every message and reads on
exactly when the JSON text of each fits in the reader's limit and no inbound message is a
review decision that is blank without its tags. -/
theorem reads_on_iff {valid : WorkerConfig} {hosted : HostedContainer}
    (accepted : env.modelValidate start.config = .ok valid)
    (session : valid.handlerType = "session")
    (started : bootstrapContainer env start.agentId start.config = .ok hosted)
    (roundTrips : ∀ message ∈ .start start :: messages, codec.RoundTrips message)
    (noStop : ∀ message ∈ messages, ¬ IsStop message) :
    (∃ run, Given env codec (.start start :: messages) run) ∧
      ∀ run, Given env codec (.start start :: messages) run →
        ((run.status = .reading ∧ received codec run.reader = .start start :: messages) ↔
          (∀ message ∈ .start start :: messages,
            (codec.modelDumpJson message).length ≤ streamLimit) ∧
          ∀ inbound, .message inbound ∈ messages →
            ¬ (reviewTag <+: inbound.content ∧
              Text.Blank (Text.replace reviewTag [] inbound.content))) := by
  refine ⟨exists_given env codec noon _, fun run given => ?_⟩
  rw [given.reads_iff ⟨hosted, started, bootstrapContainer_serves accepted session started⟩
    roundTrips noStop]
  refine and_congr_right fun _ => ?_
  exact ⟨fun quiet inbound member empty => quiet _ member ⟨inbound, rfl, empty⟩,
    fun quiet message member ⟨inbound, same, empty⟩ => quiet inbound (same ▸ member) empty⟩

end RunWorker

/-- The validation of a configuration that holds a handler type. -/
def validateHandlerType (config : JsonObject) : Except PyExc WorkerConfig :=
  match config with
  | [(_, .str handlerType)] => .ok { handlerType := handlerType }
  | _ => .error .other

/-- A worker in an empty directory. -/
def freshEnv : WorkerEnv where
  py :=
    { casing := .plain
      safeLoad := fun _ => .error .yamlError
      loads := fun _ => .error .jsonDecodeError
      dumps := fun _ => []
      repr := fun _ => [] }
  modelValidate := validateHandlerType
  otherHandler _ := none
  database _ := { opened := false, kv := [], checkpoints := [] }

def sessionStart : StartMessage :=
  { agentId := "a", config := [("handler_type", .str "session")] }

/-- The container that `sessionStart` brings up. -/
def sessionContainer : HostedContainer where
  container :=
    { WorkerContainer.new { handlerType := "session" } "a"
        { opened := true, kv := [], checkpoints := [] } with
      fsmState := startLifecycle "gsd" }
  handler := sessionHandler freshEnv.py

def decisionMessage (content : Text) : HeadMessage :=
  .message { sender := "PM", channel := "plan-review", content := content }

/-- A decision, a task and a health check. -/
def decidedMessages : List HeadMessage :=
  [decisionMessage "[Review Decision] approve",
    .giveTask { taskId := "t", description := "write the parser" }, .healthCheck]

/-- A decision, a task and a health check leave the worker reading. -/
theorem decided_worker_reads :
    ∃ run, RunWorker.Given freshEnv (knownCodec headFields (.start sessionStart :: decidedMessages))
        (.start sessionStart :: decidedMessages) run ∧
      run.status = .reading ∧
      received (knownCodec headFields (.start sessionStart :: decidedMessages)) run.reader =
        .start sessionStart :: decidedMessages := by
  have roundTrips : ∀ message ∈ HeadMessage.start sessionStart :: decidedMessages,
      (knownCodec headFields (.start sessionStart :: decidedMessages)).RoundTrips message := by
    unfold decidedMessages
    rw [List.forall_mem_cons, List.forall_mem_cons, List.forall_mem_cons,
      List.forall_mem_singleton]
    exact ⟨knownCodec_roundTrips rfl (by decide), knownCodec_roundTrips rfl (by decide),
      knownCodec_roundTrips rfl (by decide), knownCodec_roundTrips rfl (by decide)⟩
  have noStop : ∀ message ∈ decidedMessages, ¬ IsStop message := by
    unfold decidedMessages
    rw [List.forall_mem_cons, List.forall_mem_cons, List.forall_mem_singleton]
    exact ⟨nofun, nofun, nofun⟩
  obtain ⟨⟨run, given⟩, decides⟩ := @RunWorker.reads_on_iff freshEnv
    (knownCodec headFields (.start sessionStart :: decidedMessages)) sessionStart decidedMessages
    { handlerType := "session" } sessionContainer rfl rfl rfl roundTrips noStop
  refine ⟨run, given, (decides run given).mpr ⟨?_, ?_⟩⟩
  · unfold decidedMessages
    rw [List.forall_mem_cons, List.forall_mem_cons, List.forall_mem_cons,
      List.forall_mem_singleton]
    exact ⟨by decide, by decide, by decide, by decide⟩
  · intro inbound member
    unfold decidedMessages at member
    rcases List.mem_cons.mp member with same | member
    · cases same
      decide
    · rcases List.mem_cons.mp member with same | member
      · cases same
      · cases List.mem_singleton.mp member

/-- The tag of a review decision alone ends the worker. -/
theorem bare_tag_ends_worker :
    (∀ message ∈ [HeadMessage.start sessionStart, decisionMessage "[Review Decision]"],
      (knownCodec headFields [.start sessionStart, decisionMessage "[Review Decision]"]).RoundTrips
        message) ∧
    ∃ run, RunWorker.Given freshEnv
        (knownCodec headFields [.start sessionStart, decisionMessage "[Review Decision]"])
        [.start sessionStart, decisionMessage "[Review Decision]"] run ∧
      ¬ (run.status = .reading ∧
        received (knownCodec headFields [.start sessionStart, decisionMessage "[Review Decision]"])
          run.reader = [.start sessionStart, decisionMessage "[Review Decision]"]) := by
  have roundTrips : ∀ message ∈
      [HeadMessage.start sessionStart, decisionMessage "[Review Decision]"],
      (knownCodec headFields [.start sessionStart, decisionMessage "[Review Decision]"]).RoundTrips
        message := by
    rw [List.forall_mem_cons, List.forall_mem_singleton]
    exact ⟨knownCodec_roundTrips rfl (by decide), knownCodec_roundTrips rfl (by decide)⟩
  obtain ⟨run, given⟩ := RunWorker.exists_given freshEnv
    (knownCodec headFields [.start sessionStart, decisionMessage "[Review Decision]"]) noon
    [.start sessionStart, decisionMessage "[Review Decision]"]
  refine ⟨roundTrips, run, given, fun reads => ?_⟩
  have quiet := ((given.reads_iff ⟨sessionContainer, rfl, rfl, rfl⟩ roundTrips
    (List.forall_mem_singleton.mpr nofun)).mp reads).2
  exact quiet _ List.mem_cons_self ⟨_, rfl, by decide, by decide⟩

end Vcompany.Worker
