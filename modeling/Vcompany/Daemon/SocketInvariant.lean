import Vcompany.Daemon.SocketServer
import Mathlib.Data.Finset.Insert
import Mathlib.Data.List.Infix

/-! # What holds of the socket server

For each open connection, the answers that were sent, that of the request a registered
method is working on and those of the lines not yet read are together the answers to the
lines received, in order. A method other than `hello` is dispatched on a connection only
after a handshake on it: an identity in `_handshake_done` is that of the writer of a
connection that is being served and has shaken hands, so that no later connection with the
same identity can find it there.
-/

namespace Vcompany.Daemon

open Foundation Transport

section

variable (runtime : SocketRuntime)

/-- The id that the answer to a line carries. -/
def answerId (line : Octets) : Option Text :=
  match Request.fromLine runtime line with
  | .error _ => none
  | .ok request => some request.id

/-- The call is a successful `hello` with the supported version. -/
def DispatchCall.Greets (call : DispatchCall) : Prop :=
  call.request.method = helloMethod ∧
    runtime.helloVersion call.request.params = .ok protocolVersion ∧
      ∃ value, call.result = some (.ok value)

/-- A method other than `hello` is called after a handshake only. -/
def HelloFirst (calls : List DispatchCall) : Prop :=
  ∀ before call, before ++ [call] <+: calls → call.request.method ≠ helloMethod →
    ∃ earlier ∈ before, earlier.Greets runtime

variable {runtime}

theorem helloFirst_nil : HelloFirst runtime [] := by
  intro before call first
  simp at first

theorem HelloFirst.concat {calls : List DispatchCall} (ordered : HelloFirst runtime calls)
    {call : DispatchCall}
    (greeted : call.request.method ≠ helloMethod → ∃ earlier ∈ calls, earlier.Greets runtime) :
    HelloFirst runtime (calls ++ [call]) := by
  intro before other first
  rcases List.prefix_concat_iff.mp first with same | within
  · obtain ⟨rfl, last⟩ := List.append_inj' same rfl
    obtain rfl : other = call := List.singleton_inj.mp last
    exact greeted
  · exact ordered before other within

end

/-! ## One connection -/

/-- While the handler serves the connection, the writer exists. -/
theorem Phase.holdsWriter_of_isServing {phase : Phase} (serving : phase.isServing = true) :
    phase.holdsWriter = true := by
  cases phase with
  | reading => rfl
  | running => rfl
  | draining => rfl
  | closing => cases serving
  | released => cases serving

namespace Connection

/-- The ids of the answers that were sent. -/
def answers (connection : Connection) : List (Option Text) :=
  connection.sent.filterMap Outgoing.answers

/-- The id of the request that a registered method is working on. -/
def pending (connection : Connection) : List (Option Text) :=
  match connection.phase with
  | .running id => [some id]
  | _ => []

section

variable (runtime : SocketRuntime)

/-- The connection has shaken hands. -/
def Greeted (connection : Connection) : Prop :=
  ∃ call ∈ connection.calls, call.Greets runtime

structure Sound (connection : Connection) : Prop where
  answered : connection.isOpen = true →
    connection.answers ++ connection.pending ++ connection.inbox.map (answerId runtime) =
      connection.lines.map (answerId runtime)
  serving : connection.isOpen = true → connection.phase.isServing = true
  helloFirst : HelloFirst runtime connection.calls

end

variable {runtime : SocketRuntime}

theorem answers_write_event (connection : Connection) (method : Text) (params : PyValue) :
    (connection.write (.event method params)).answers = connection.answers := by
  unfold write
  split <;> simp [answers]

theorem answers_answer {connection : Connection} {message : Outgoing} {id : Option Text}
    (own : message.answers = some id) (isOpen : connection.isOpen = true) :
    (connection.answer message).answers = connection.answers ++ [id] := by
  simp [answer, write, isOpen, answers, own]

@[simp] theorem answer_clientId (connection : Connection) (message : Outgoing) :
    (connection.answer message).clientId = connection.clientId := by
  unfold answer write
  split <;> rfl

@[simp] theorem answer_isOpen (connection : Connection) (message : Outgoing) :
    (connection.answer message).isOpen = connection.isOpen := by
  unfold answer write
  split <;> rfl

@[simp] theorem answer_lines (connection : Connection) (message : Outgoing) :
    (connection.answer message).lines = connection.lines := by
  unfold answer write
  split <;> rfl

@[simp] theorem answer_inbox (connection : Connection) (message : Outgoing) :
    (connection.answer message).inbox = connection.inbox := by
  unfold answer write
  split <;> rfl

@[simp] theorem answer_calls (connection : Connection) (message : Outgoing) :
    (connection.answer message).calls = connection.calls := by
  unfold answer write
  split <;> rfl

/-- A connection as it was accepted. -/
theorem Sound.fresh (clientId : ℕ) : Sound runtime { clientId } where
  answered _ := rfl
  serving _ := rfl
  helloFirst := helloFirst_nil

/-- A connection that is closed keeps its calls. -/
theorem Sound.close {connection : Connection} (sound : connection.Sound runtime)
    (phase : Phase) : Sound runtime { connection with phase, isOpen := false } where
  answered isOpen := nomatch isOpen
  serving isOpen := nomatch isOpen
  helloFirst := sound.helloFirst

/-- One connection takes the place of another under the same number. -/
structure Follows (earlier later : Connection) : Prop where
  clientId : later.clientId = earlier.clientId
  holdsWriter : later.phase.holdsWriter = true → earlier.phase.holdsWriter = true
  serving : earlier.phase.isServing = true → later.phase.isServing = true
  calls : earlier.calls ⊆ later.calls

theorem Follows.refl (connection : Connection) : connection.Follows connection :=
  ⟨rfl, id, id, fun _ member => member⟩

variable {connection : Connection}

theorem Sound.write_event (sound : connection.Sound runtime) (method : Text) (params : PyValue) :
    (connection.write (.event method params)).Sound runtime ∧
      connection.Follows (connection.write (.event method params)) := by
  have answers := connection.answers_write_event method params
  unfold write at answers ⊢
  split
  · next isOpen =>
      rw [if_pos isOpen] at answers
      refine ⟨⟨fun isOpen => ?_, sound.serving, sound.helloFirst⟩, rfl, id, id, List.Subset.refl _⟩
      rw [answers]
      exact sound.answered isOpen
  · exact ⟨sound, .refl connection⟩

theorem Sound.receive (sound : connection.Sound runtime) (line : Octets) :
    (connection.receive line).Sound runtime ∧ connection.Follows (connection.receive line) := by
  unfold Connection.receive
  split
  · refine ⟨⟨fun isOpen => ?_, sound.serving, sound.helloFirst⟩, rfl, id, id, List.Subset.refl _⟩
    have owed := sound.answered isOpen
    rw [List.map_append, List.map_append, ← owed]
    exact (List.append_assoc _ _ _).symm
  · exact ⟨sound, .refl connection⟩

/-- The answer of a registered method is the one that was pending. -/
theorem Sound.finish (sound : connection.Sound runtime) (result : Except Text PyValue) :
    (connection.finish result).Sound runtime ∧ connection.Follows (connection.finish result) := by
  unfold Connection.finish
  split
  · next id running =>
      refine ⟨⟨fun isOpen => ?_, fun _ => rfl, ?_⟩, ?_, fun _ => running ▸ rfl, fun _ => rfl, ?_⟩
      · rw [answer_isOpen] at isOpen
        have owed := sound.answered isOpen
        unfold pending at owed
        rw [running] at owed
        rw [answers_answer (Outgoing.answers_ofResult id result) isOpen, answer_inbox, answer_lines,
          ← owed]
        exact congrArg (· ++ _) (List.append_nil _)
      · exact (answer_calls _ _).symm ▸ sound.helloFirst
      · exact answer_clientId _ _
      · exact (answer_calls _ _).symm ▸ List.Subset.refl _
  · exact ⟨sound, .refl connection⟩

theorem Sound.drain (sound : connection.Sound runtime) :
    connection.drain.Sound runtime ∧ connection.Follows connection.drain := by
  unfold Connection.drain
  split
  · next draining =>
      refine ⟨⟨fun isOpen => ?_, fun _ => rfl, sound.helloFirst⟩, rfl, fun _ => draining ▸ rfl,
        fun _ => rfl, List.Subset.refl _⟩
      have owed := sound.answered isOpen
      unfold pending at owed
      rwa [draining] at owed
  · exact ⟨sound, .refl connection⟩

theorem Sound.release (sound : connection.Sound runtime) :
    connection.release.Sound runtime ∧ connection.Follows connection.release := by
  unfold Connection.release
  split
  · next closing =>
      have closed (isOpen : connection.isOpen = true) : False := by
        have serving := sound.serving isOpen
        rw [closing] at serving
        cases serving
      refine ⟨⟨fun isOpen => (closed isOpen).elim, fun isOpen => (closed isOpen).elim,
        sound.helloFirst⟩, rfl, ?_, ?_, List.Subset.refl _⟩
      · exact fun holds => nomatch holds
      · rw [closing]
        exact fun serving => nomatch serving
  · exact ⟨sound, .refl connection⟩

end Connection

/-! ## The tables -/

namespace SocketServer

structure Sound (runtime : SocketRuntime) (server : SocketServer) : Prop where
  each : ∀ number connection, server.connections.get? number = some connection →
    connection.Sound runtime
  apart : ∀ {number other connection connection'},
    server.connections.get? number = some connection →
    server.connections.get? other = some connection' →
    connection.phase.holdsWriter = true → connection'.phase.holdsWriter = true →
    connection.clientId = connection'.clientId → number = other
  greeted : ∀ clientId ∈ server.handshakeDone, ∃ number connection,
    server.connections.get? number = some connection ∧ connection.phase.isServing = true ∧
      connection.clientId = clientId ∧ connection.Greeted runtime
  hello : ∀ name, server.methods.get? name = some .hello → name = helloMethod

variable {runtime : SocketRuntime} {server : SocketServer} {number : ℕ}
  {connection after : Connection}

theorem get?_put_self : (server.put number after).connections.get? number = some after :=
  Dict.get?_set_self _ _ _

theorem get?_put_of_ne {other : ℕ} (apart : other ≠ number) :
    (server.put number after).connections.get? other = server.connections.get? other :=
  Dict.get?_set_of_ne _ _ apart

namespace Sound

theorem frame (sound : server.Sound runtime) {next : SocketServer}
    (connections : next.connections = server.connections)
    (methods : next.methods = server.methods)
    (handshakeDone : next.handshakeDone ⊆ server.handshakeDone) : next.Sound runtime where
  each := connections ▸ sound.each
  apart := connections ▸ sound.apart
  greeted clientId member := connections ▸ sound.greeted clientId (handshakeDone member)
  hello := methods ▸ sound.hello

theorem removeClient (sound : server.Sound runtime) (clientId : ℕ) :
    (server.removeClient clientId).Sound runtime :=
  sound.frame rfl rfl (Finset.erase_subset _ _)

/-- A connection whose client is in the table has shaken hands. -/
theorem greeted_of_mem (sound : server.Sound runtime)
    (found : server.connections.get? number = some connection)
    (serving : connection.phase.isServing = true)
    (done : connection.clientId ∈ server.handshakeDone) : connection.Greeted runtime := by
  obtain ⟨other, connection', found', serving', same, greeted⟩ := sound.greeted _ done
  obtain rfl := sound.apart found' found (Phase.holdsWriter_of_isServing serving')
    (Phase.holdsWriter_of_isServing serving) same
  obtain rfl : connection' = connection := Option.some_inj.mp (found'.symm.trans found)
  exact greeted

/-- A connection is replaced. If its client is in the table, then it is served as before. -/
theorem put (sound : server.Sound runtime)
    (found : server.connections.get? number = some connection)
    (own : after.Sound runtime) (clientId : after.clientId = connection.clientId)
    (holdsWriter : after.phase.holdsWriter = true → connection.phase.holdsWriter = true)
    (kept : connection.clientId ∈ server.handshakeDone → connection.Follows after) :
    (server.put number after).Sound runtime where
  each other connection' found' := by
    by_cases same : other = number
    · subst same
      obtain rfl := Option.some_inj.mp (get?_put_self.symm.trans found')
      exact own
    · exact sound.each other connection' ((get?_put_of_ne same).symm.trans found')
  apart := by
    -- Either entry is an old one under its number, or the replaced one.
    have old : ∀ {other connection'},
        (server.put number after).connections.get? other = some connection' →
        connection'.phase.holdsWriter = true →
        ∃ before, server.connections.get? other = some before ∧
          before.phase.holdsWriter = true ∧ before.clientId = connection'.clientId := by
      intro other connection' found' holds
      by_cases same : other = number
      · subst same
        obtain rfl := Option.some_inj.mp (get?_put_self.symm.trans found')
        exact ⟨connection, found, holdsWriter holds, clientId.symm⟩
      · exact ⟨connection', (get?_put_of_ne same).symm.trans found', holds, rfl⟩
    intro first second connection' connection'' found' found'' holds holds' same
    obtain ⟨before, at', held, own'⟩ := old found' holds
    obtain ⟨before', at'', held', own''⟩ := old found'' holds'
    exact sound.apart at' at'' held held' (own'.trans (same.trans own''.symm))
  greeted := by
    intro id done
    obtain ⟨other, connection', found', serving, rfl, call, member, greets⟩ :=
      sound.greeted id done
    by_cases same : other = number
    · subst same
      obtain rfl := Option.some_inj.mp (found.symm.trans found')
      have follows := kept done
      exact ⟨other, after, get?_put_self, follows.serving serving, clientId,
        call, follows.calls member, greets⟩
    · exact ⟨other, connection', (get?_put_of_ne same).trans found', serving, rfl,
        call, member, greets⟩
  hello := sound.hello

theorem put_of_follows (sound : server.Sound runtime)
    (found : server.connections.get? number = some connection)
    (own : after.Sound runtime) (follows : connection.Follows after) :
    (server.put number after).Sound runtime :=
  sound.put found own follows.clientId follows.holdsWriter fun _ => follows

/-- A client is entered in the table when its connection has shaken hands. -/
theorem greet (sound : server.Sound runtime)
    (found : server.connections.get? number = some connection)
    (serving : connection.phase.isServing = true) (greeted : connection.Greeted runtime) :
    { server with
      handshakeDone := insert connection.clientId server.handshakeDone }.Sound runtime where
  each := sound.each
  apart := sound.apart
  greeted id done := by
    rcases Finset.mem_insert.mp done with rfl | done
    · exact ⟨number, connection, found, serving, rfl, greeted⟩
    · exact sound.greeted id done
  hello := sound.hello

theorem adjust (sound : server.Sound runtime) (number : ℕ) {change : Connection → Connection}
    (changed : ∀ connection, connection.Sound runtime →
      (change connection).Sound runtime ∧ connection.Follows (change connection)) :
    (server.adjust number change).Sound runtime := by
  unfold SocketServer.adjust
  rcases found : server.connections.get? number with _ | connection
  · exact sound
  · obtain ⟨own, follows⟩ := changed connection (sound.each number connection found)
    exact sound.put_of_follows found own follows

theorem registerMethod (sound : server.Sound runtime) (name : Text) :
    (server.registerMethod name).Sound runtime where
  each := sound.each
  apart := sound.apart
  greeted := sound.greeted
  hello other found := by
    rcases Dict.get?_set_eq_some_iff.mp found with ⟨_, registered⟩ | ⟨_, found⟩
    · cases registered
    · exact sound.hello other found

end Sound

end SocketServer

/-! ## Handling a line -/

section

variable {runtime : SocketRuntime} {connection after : Connection} {line : Octets}
  {server next : SocketServer}

/-- What handling a line does: the connection as it is after, and the server apart from it. -/
structure Takes (runtime : SocketRuntime) (connection : Connection) (line : Octets)
    (server next : SocketServer) (after : Connection) : Prop where
  connections : next.connections = server.connections
  methods : next.methods = server.methods
  handshakeDone : next.handshakeDone = server.handshakeDone ∨
    next.handshakeDone = insert connection.clientId server.handshakeDone ∧
      after.Greeted runtime
  clientId : after.clientId = connection.clientId
  isOpen : after.isOpen = connection.isOpen
  lines : after.lines = connection.lines
  inbox : after.inbox = connection.inbox
  serving : after.phase.isServing = true
  owed : connection.isOpen = true →
    after.answers ++ after.pending = connection.answers ++ [answerId runtime line]
  calls : after.calls = connection.calls ∨
    ∃ call, after.calls = connection.calls ++ [call] ∧
      (call.request.method ≠ helloMethod → connection.clientId ∈ server.handshakeDone)

theorem handleHello_frame (clientId : ℕ) (params : PyValue) (server : SocketServer) :
    (handleHello runtime clientId params server).2.connections = server.connections ∧
      (handleHello runtime clientId params server).2.methods = server.methods := by
  unfold handleHello
  split
  · exact ⟨rfl, rfl⟩
  · split <;> exact ⟨rfl, rfl⟩

/-- A client is entered in the table by a handshake only. -/
theorem handleHello_handshakeDone (clientId : ℕ) (params : PyValue) (server : SocketServer) :
    (handleHello runtime clientId params server).2.handshakeDone = server.handshakeDone ∨
      (handleHello runtime clientId params server).2.handshakeDone =
          insert clientId server.handshakeDone ∧
        runtime.helloVersion params = .ok protocolVersion ∧
          ∃ value, (handleHello runtime clientId params server).1 = .ok value := by
  unfold handleHello
  rcases validated : runtime.helloVersion params with message | version
  · exact .inl rfl
  · by_cases supported : version = protocolVersion
    · subst supported
      dsimp only
      rw [if_neg (not_not.mpr rfl)]
      exact .inr ⟨rfl, rfl, _, rfl⟩
    · dsimp only
      rw [if_pos supported]
      exact .inl rfl

theorem handleSubscribe_frame (clientId : ℕ) (params : PyValue) (server : SocketServer) :
    (handleSubscribe runtime clientId params server).2.connections = server.connections ∧
      (handleSubscribe runtime clientId params server).2.methods = server.methods ∧
      (handleSubscribe runtime clientId params server).2.handshakeDone =
        server.handshakeDone := by
  unfold handleSubscribe
  split
  · exact ⟨rfl, rfl, rfl⟩
  · dsimp only
    split
    · exact ⟨rfl, rfl, rfl⟩
    · split
      · exact ⟨rfl, rfl, rfl⟩
      · split <;> exact ⟨rfl, rfl, rfl⟩

/-- An answer takes the line, if it carries the line's id. -/
theorem Takes.answer {recorded : Connection} {message : Outgoing}
    (own : message.answers = some (answerId runtime line))
    (connections : next.connections = server.connections)
    (methods : next.methods = server.methods)
    (handshakeDone : next.handshakeDone = server.handshakeDone ∨
      next.handshakeDone = insert connection.clientId server.handshakeDone ∧
        recorded.Greeted runtime)
    (same : recorded = { connection with calls := recorded.calls })
    (calls : recorded.calls = connection.calls ∨
      ∃ call, recorded.calls = connection.calls ++ [call] ∧
        (call.request.method ≠ helloMethod → connection.clientId ∈ server.handshakeDone)) :
    Takes runtime connection line server next (recorded.answer message) where
  connections := connections
  methods := methods
  handshakeDone := by
    simpa only [Connection.Greeted, Connection.answer_calls] using handshakeDone
  clientId := by rw [same]; simp
  isOpen := by rw [same]; simp
  lines := by rw [same]; simp
  inbox := by rw [same]; simp
  serving := rfl
  owed isOpen := by
    have still : recorded.isOpen = true := by rw [same]; exact isOpen
    have before : recorded.answers = connection.answers := by rw [same]; rfl
    rw [Connection.answers_answer own still, before]
    exact List.append_nil _
  calls := by simpa only [Connection.answer_calls] using calls

/-- `_dispatch` for a request that may be dispatched. -/
theorem dispatch_takes (hello : ∀ name, server.methods.get? name = some .hello →
      name = helloMethod)
    {request : Request} (parsed : answerId runtime line = some request.id)
    (allowed : request.method ≠ helloMethod → connection.clientId ∈ server.handshakeDone)
    (number : ℕ) : ∃ next after,
      dispatch runtime number connection request server = next.put number after ∧
        Takes runtime connection line server next after := by
  unfold dispatch
  have calls (result : Option (Except Text PyValue)) : ∃ call,
      (connection.record request result).calls = connection.calls ++ [call] ∧
        (call.request.method ≠ helloMethod → connection.clientId ∈ server.handshakeDone) :=
    ⟨⟨request, result⟩, rfl, allowed⟩
  have carries (result : Except Text PyValue) :
      (Outgoing.ofResult request.id result).answers = some (answerId runtime line) := by
    rw [parsed, Outgoing.answers_ofResult]
  rcases named : server.methods.get? request.method with _ | _ | _ | _ | _
  · refine ⟨server, _, rfl, .answer ?_ rfl rfl (.inl rfl) rfl (.inr (calls _))⟩
    rw [parsed, Outgoing.answers_error]
  · obtain ⟨connections, methods⟩ := handleHello_frame connection.clientId request.params server
    refine ⟨_, _, rfl, .answer (carries _) connections methods ?_ rfl (.inr (calls _))⟩
    rcases handleHello_handshakeDone connection.clientId request.params server with
      same | ⟨entered, supported, value, succeeded⟩
    · exact .inl same
    · refine .inr ⟨entered, _, List.mem_append_right _ (List.mem_singleton_self _), ?_⟩
      exact ⟨hello _ named, supported, value, congrArg some succeeded⟩
  · exact ⟨server, _, rfl, .answer (carries _) rfl rfl (.inl rfl) rfl (.inr (calls _))⟩
  · obtain ⟨connections, methods, handshakeDone⟩ :=
      handleSubscribe_frame connection.clientId request.params server
    exact ⟨_, _, rfl,
      .answer (carries _) connections methods (.inl handshakeDone) rfl (.inr (calls _))⟩
  · refine ⟨server, _, rfl, ?_⟩
    exact {
      connections := rfl
      methods := rfl
      handshakeDone := .inl rfl
      clientId := rfl
      isOpen := rfl
      lines := rfl
      inbox := rfl
      serving := rfl
      owed := fun _ => parsed ▸ rfl
      calls := .inr (calls none) }

/-- The connection after a line takes the place of the one before it. -/
theorem Takes.follows {rest : List Octets}
    (takes : Takes runtime { connection with inbox := rest } line server next after)
    (serving : connection.phase.isServing = true) : connection.Follows after where
  clientId := takes.clientId
  holdsWriter _ := Phase.holdsWriter_of_isServing serving
  serving _ := takes.serving
  calls := by
    rcases takes.calls with same | ⟨call, more, _⟩
    · exact same ▸ List.Subset.refl _
    · exact more ▸ List.subset_append_left _ _

/-- The answer that the line was owed is sent, or pending. -/
theorem Takes.sound {rest : List Octets}
    (takes : Takes runtime { connection with inbox := rest } line server next after)
    (own : connection.Sound runtime) (reading : connection.phase = .reading)
    (unread : connection.inbox = line :: rest)
    (greeted : connection.clientId ∈ server.handshakeDone → connection.Greeted runtime) :
    after.Sound runtime where
  answered isOpen := by
    have was : connection.isOpen = true := takes.isOpen ▸ isOpen
    have owed := own.answered was
    have idle : connection.pending = [] := by
      unfold Connection.pending
      rw [reading]
    rw [idle, List.append_nil, unread, List.map_cons] at owed
    rw [takes.owed was, takes.lines, takes.inbox, List.append_assoc]
    exact owed
  serving _ := takes.serving
  helloFirst := by
    rcases takes.calls with same | ⟨call, more, allowed⟩
    · exact same ▸ own.helloFirst
    · exact more ▸ own.helloFirst.concat fun other => greeted (allowed other)

theorem handleLine_takes (hello : ∀ name, server.methods.get? name = some .hello →
      name = helloMethod) (number : ℕ) : ∃ next after,
      handleLine runtime number connection line server = next.put number after ∧
        Takes runtime connection line server next after := by
  unfold handleLine
  rcases parsed : Request.fromLine runtime line with raised | request
  · refine ⟨server, _, rfl, .answer ?_ rfl rfl (.inl rfl) rfl (.inl rfl)⟩
    simp [answerId, parsed]
  · have id : answerId runtime line = some request.id := by simp [answerId, parsed]
    dsimp only
    split
    · refine ⟨server, _, rfl, .answer ?_ rfl rfl (.inl rfl) rfl (.inl rfl)⟩
      rw [id, Outgoing.answers_error]
    · next allowed =>
        apply dispatch_takes hello id
        exact fun other => not_not.mp fun fresh => allowed ⟨fresh, other⟩

end

/-! ## One event -/

namespace SocketServer

variable {runtime : SocketRuntime} {server : SocketServer}

/-- A served connection that reads a line: the handler takes it. -/
theorem handle_takes (sound : server.Sound runtime) {number : ℕ} {connection : Connection}
    {line : Octets} {rest : List Octets}
    (found : server.connections.get? number = some connection)
    (reading : connection.phase = .reading) (unread : connection.inbox = line :: rest) :
    ∃ next after, server.handle runtime number = next.put number after ∧
      Takes runtime { connection with inbox := rest } line server next after := by
  unfold SocketServer.handle
  rw [found]
  dsimp only
  rw [reading, unread]
  exact handleLine_takes sound.hello number

/-- The line may enter its client in the table, which then has shaken hands. -/
theorem Sound.handle (sound : server.Sound runtime) (number : ℕ) :
    (server.handle runtime number).Sound runtime := by
  rcases found : server.connections.get? number with _ | connection
  · rwa [SocketServer.handle, found]
  by_cases reading : connection.phase = .reading
  · rcases unread : connection.inbox with _ | ⟨line, rest⟩
    · unfold SocketServer.handle
      rw [found]
      dsimp only
      rw [reading, unread]
      exact sound
    · have own := sound.each number connection found
      have serving : connection.phase.isServing = true := reading ▸ rfl
      obtain ⟨next, after, handled, takes⟩ := handle_takes sound found reading unread
      rw [handled]
      have afterSound := takes.sound own reading unread (sound.greeted_of_mem found serving)
      have put := sound.put_of_follows found afterSound (takes.follows serving)
      have connections : (next.put number after).connections =
          (server.put number after).connections := congrArg (·.set number after) takes.connections
      rcases takes.handshakeDone with same | ⟨entered, shaken⟩
      · exact put.frame connections takes.methods same.subset
      · apply (put.greet get?_put_self takes.serving shaken).frame connections takes.methods
        rw [takes.clientId]
        exact entered.subset
  · unfold SocketServer.handle
    rw [found]
    dsimp only
    split
    · next reads _ => exact absurd reads reading
    · exact sound

theorem Sound.connect (sound : server.Sound runtime) (number clientId : ℕ) :
    (server.connect number clientId).Sound runtime := by
  unfold SocketServer.connect
  rcases fresh : server.connections.get? number with _ | _
  · dsimp only
    split
    · next unused =>
        have apart {other : ℕ} {connection : Connection}
            (found : server.connections.get? other = some connection)
            (holds : connection.phase.holdsWriter = true) : connection.clientId ≠ clientId :=
          unused (other, connection) (Dict.get?_eq_some_iff.mp found) holds
        have old {other : ℕ} (isOld : other ≠ number) :
            (server.connections.set number { clientId }).get? other =
              server.connections.get? other := Dict.get?_set_of_ne _ _ isOld
        have new : (server.connections.set number { clientId }).get? number =
            some { clientId } := Dict.get?_set_self _ _ _
        exact {
          each := fun other connection found => by
            by_cases same : other = number
            · subst same
              obtain rfl := Option.some_inj.mp (new.symm.trans found)
              exact .fresh clientId
            · exact sound.each other connection ((old same).symm.trans found)
          apart := fun {first second connection connection'} found found' holds holds' same => by
            by_cases isNew : first = number <;> by_cases isNew' : second = number
            · exact isNew.trans isNew'.symm
            · subst isNew
              obtain rfl := Option.some_inj.mp (new.symm.trans found)
              exact absurd same.symm (apart ((old isNew').symm.trans found') holds')
            · subst isNew'
              obtain rfl := Option.some_inj.mp (new.symm.trans found')
              exact absurd same (apart ((old isNew).symm.trans found) holds)
            · exact sound.apart ((old isNew).symm.trans found) ((old isNew').symm.trans found')
                holds holds' same
          greeted := fun id done => by
            obtain ⟨other, connection, found, rest⟩ := sound.greeted id done
            have isOld : other ≠ number := by
              rintro rfl
              cases fresh.symm.trans found
            exact ⟨other, connection, (old isOld).trans found, rest⟩
          hello := sound.hello }
    · exact sound
  · exact sound

/-- The handler's end takes its client out of the table before the writer goes. -/
theorem Sound.leave (sound : server.Sound runtime) (number : ℕ) :
    (server.leave number).Sound runtime := by
  unfold SocketServer.leave
  rcases found : server.connections.get? number with _ | connection
  · exact sound
  dsimp only
  split
  · next serving =>
      refine @Sound.put _ _ _ connection _ (sound.removeClient connection.clientId) found
        ((sound.each number connection found).close .closing) rfl ?_ ?_
      · exact fun _ => Phase.holdsWriter_of_isServing serving
      · exact fun done => absurd rfl (Finset.ne_of_mem_erase done)
  · exact sound

theorem Sound.visit (sound : server.Sound runtime) (call clientId : ℕ) :
    (server.visit call clientId).Sound runtime := by
  unfold SocketServer.visit
  split
  · exact sound
  · next broadcast _ =>
      split
      · next number _ _ _ =>
          split
          · have written := @Sound.adjust _ _ sound number
              (·.write (.event ("event.".toList ++ broadcast.eventType) broadcast.params))
              fun connection own => own.write_event _ _
            exact written.frame rfl rfl (Finset.Subset.refl _)
          · exact sound
      · exact sound

theorem Sound.resume (sound : server.Sound runtime) (call : ℕ) (raised : Bool) :
    (server.resume call raised).Sound runtime := by
  unfold SocketServer.resume
  split
  · exact sound
  · split
    · exact sound
    · split
      · exact sound
      · exact sound.frame rfl rfl (Finset.Subset.refl _)

theorem Sound.removeClients (sound : server.Sound runtime) (dead : List ℕ) :
    (dead.foldl SocketServer.removeClient server).Sound runtime := by
  induction dead generalizing server with
  | nil => exact sound
  | cons clientId dead ih => exact ih (sound.removeClient clientId)

/-- A broadcast may remove a client that is not the one it found dead, but adds none. -/
theorem Sound.conclude (sound : server.Sound runtime) (call : ℕ) :
    (server.conclude call).Sound runtime := by
  unfold SocketServer.conclude
  split
  · exact sound
  · split
    · exact sound
    · apply Sound.removeClients
      exact sound.frame rfl rfl (Finset.Subset.refl _)

theorem Sound.lose (sound : server.Sound runtime) (number : ℕ) :
    (server.adjust number ({ · with isOpen := false })).Sound runtime :=
  sound.adjust number fun connection own =>
    ⟨own.close connection.phase, rfl, id, id, List.Subset.refl _⟩

theorem Sound.stop (sound : server.Sound runtime) : server.stop.Sound runtime := by
  have closed (numbers : List ℕ) : ∀ {server : SocketServer}, server.Sound runtime →
      (numbers.foldl (fun server number =>
        server.adjust number ({ · with isOpen := false })) server).Sound runtime := by
    induction numbers with
    | nil => exact id
    | cons number numbers ih => exact fun sound => ih (sound.lose number)
  exact (closed server.clients.values sound).frame rfl rfl (Finset.empty_subset _)

/-- The invariant is kept by every event. -/
theorem Sound.step (sound : server.Sound runtime) (event : ServerEvent) :
    (serverStep runtime server event).Sound runtime := by
  cases event with
  | connect number clientId => exact sound.connect number clientId
  | receive number line => exact sound.adjust number fun connection own => own.receive line
  | handle number => exact sound.handle number
  | finish number result => exact sound.adjust number fun connection own => own.finish result
  | drain number => exact sound.adjust number fun connection own => own.drain
  | lose number => exact sound.lose number
  | leave number => exact sound.leave number
  | release number => exact sound.adjust number fun connection own => own.release
  | register name => exact sound.registerMethod name
  | broadcast call eventType params =>
      dsimp only [serverStep]
      split
      · exact sound
      · exact sound.frame rfl rfl (Finset.Subset.refl _)
  | visit call clientId => exact sound.visit call clientId
  | resume call raised => exact sound.resume call raised
  | conclude call => exact sound.conclude call
  | abandon call => exact sound.frame rfl rfl (Finset.Subset.refl _)
  | stop => exact sound.stop

/-! ## Every run -/

theorem sound_new : SocketServer.new.Sound runtime where
  each _ _ found := nomatch found
  apart found := nomatch found
  greeted _ done := absurd done (Finset.notMem_empty _)
  hello _ found := nomatch found

theorem Sound.registerBuiltins (sound : server.Sound runtime) :
    server.registerBuiltins.Sound runtime where
  each := sound.each
  apart := sound.apart
  greeted := sound.greeted
  hello name found := by
    unfold SocketServer.registerBuiltins at found
    dsimp only at found
    rcases Dict.get?_set_eq_some_iff.mp found with ⟨_, subscribe⟩ | ⟨_, found⟩
    · cases subscribe
    rcases Dict.get?_set_eq_some_iff.mp found with ⟨_, ping⟩ | ⟨_, found⟩
    · cases ping
    rcases Dict.get?_set_eq_some_iff.mp found with ⟨isHello, _⟩ | ⟨_, found⟩
    · exact isHello
    · exact sound.hello name found

theorem sound_start (registered : List Text) : (SocketServer.start registered).Sound runtime := by
  have named (names : List Text) : ∀ {server : SocketServer}, server.Sound runtime →
      (names.foldl SocketServer.registerMethod server).Sound runtime := by
    induction names with
    | nil => exact id
    | cons name names ih => exact fun sound => ih (sound.registerMethod name)
  exact (named registered sound_new).registerBuiltins

theorem Sound.run (sound : server.Sound runtime) (events : List ServerEvent) :
    (events.foldl (serverStep runtime) server).Sound runtime := by
  induction events generalizing server with
  | nil => exact sound
  | cons event events ih => exact ih (sound.step event)

end SocketServer

end Vcompany.Daemon
