import Vcompany.Daemon.ClientTables
import Vcompany.Foundation.Transition

/-! # Broadcasts

`broadcast_event` iterates over the table of subscriptions and waits for each client that it
writes to. Meanwhile other clients may enter the table or leave it, and an iteration over a table
that has changed its size raises. As long as no client enters or leaves the table during a
broadcast, each client that was subscribed at its start is written the event once
(`broadcast_delivers`).
-/

namespace Vcompany.Daemon

open Foundation

instance (server : SocketServer) (clientId : ℕ) (eventType : Text) :
    Decidable (server.Subscribed clientId eventType) :=
  match found : server.subscriptions.get? clientId with
  | none => isFalse fun ⟨_, entered, _⟩ => nomatch found.symm.trans entered
  | some subscribed =>
      if listens : HashKey.str eventType ∈ subscribed then isTrue ⟨subscribed, found, listens⟩
      else isFalse fun ⟨_, entered, listens'⟩ =>
        listens (Option.some.inj (found.symm.trans entered) ▸ listens')

/-- The open connections whose clients are subscribed to the events. -/
def SocketServer.audience (server : SocketServer) (eventType : Text) : List ℕ :=
  (server.connections.entries.filter fun entry =>
    entry.2.isOpen && decide (server.Subscribed entry.2.clientId eventType)).map Prod.fst

/-- The connection that a broadcast writes to for a key of the table. -/
def SocketServer.recipient (server : SocketServer) (eventType : Text) (clientId : ℕ) : Option ℕ :=
  if server.Subscribed clientId eventType then server.clients.get? clientId else none

/-- The iteration of a call over the table of subscriptions: the keys that it had at the start,
after so many changes, how many of them were taken, the open connections that were subscribed at
the start, those that were written to, and whether the call has returned or raised. -/
structure Iteration where
  keys : List ℕ
  changes : ℕ
  position : ℕ := 0
  audience : List ℕ
  written : List ℕ := []
  returned : Option Bool := none

/-- A server with the iterations of its broadcasts. It is counted how often the keys of the table
of subscriptions have changed. -/
structure FanOut where
  server : SocketServer
  iterations : Dict ℕ Iteration
  changes : ℕ := 0

namespace Iteration

variable (iteration : Iteration) (fan : FanOut)

/-- The table has not the size that it had, which an iteration over it does not allow. -/
def Resized : Prop := iteration.keys.length ≠ fan.server.subscriptions.keys.length

/-- The next key may be that of the client. In a table with other keys this is left open. -/
def Gives (clientId : ℕ) : Prop :=
  ¬ iteration.Resized fan ∧ (iteration.changes = fan.changes →
    iteration.keys[iteration.position]? = some clientId)

/-- There may be no next key. -/
def Exhausted : Prop :=
  ¬ iteration.Resized fan ∧ (iteration.changes = fan.changes →
    iteration.keys.length ≤ iteration.position)

/-- To ask for the next key may raise. -/
def Raises : Prop := iteration.Resized fan ∨ iteration.changes ≠ fan.changes

instance : Decidable (iteration.Resized fan) := inferInstanceAs (Decidable (_ ≠ _))

instance (clientId : ℕ) : Decidable (iteration.Gives fan clientId) :=
  inferInstanceAs (Decidable (_ ∧ (_ → _)))

instance : Decidable (iteration.Exhausted fan) := inferInstanceAs (Decidable (_ ∧ (_ → _)))

instance : Decidable (iteration.Raises fan) := inferInstanceAs (Decidable (_ ∨ _))

end Iteration

namespace FanOut

def start (registered : List Text) : FanOut := ⟨.start registered, .empty, 0⟩

variable (runtime : SocketRuntime) (fan : FanOut)

def update (server : SocketServer) (call : ℕ) (iteration : Iteration) : FanOut :=
  { fan with server, iterations := fan.iterations.set call iteration }

/-- A call of `broadcast_event` begins. -/
def broadcast (call : ℕ) (eventType : Text) (params : PyValue) : FanOut :=
  match fan.iterations.get? call with
  | some _ => fan
  | none =>
      fan.update (serverStep runtime fan.server (.broadcast call eventType params)) call {
        keys := fan.server.subscriptions.keys
        changes := fan.changes
        audience := fan.server.audience eventType }

/-- The loop takes the next key: the client is written to, up to the `await`, or passed over. -/
def visit (call clientId : ℕ) : FanOut :=
  match fan.iterations.get? call, fan.server.broadcasts.get? call with
  | some iteration, some asked =>
      if asked.awaits = none ∧ iteration.Gives fan clientId then
        match fan.server.recipient asked.eventType clientId with
        | some number =>
            fan.update (fan.server.visit call clientId) call
              { iteration with
                position := iteration.position + 1, written := iteration.written ++ [number] }
        | none => fan.update fan.server call { iteration with position := iteration.position + 1 }
      else fan
  | _, _ => fan

/-- The loop is at its end, and the call removes the dead clients and returns. -/
def conclude (call : ℕ) : FanOut :=
  match fan.iterations.get? call, fan.server.broadcasts.get? call with
  | some iteration, some asked =>
      if asked.awaits = none ∧ iteration.Exhausted fan then
        fan.update (fan.server.conclude call) call { iteration with returned := some true }
      else fan
  | _, _ => fan

/-- The loop asks for the next key of a table that has changed, and raises. -/
def abandon (call : ℕ) : FanOut :=
  match fan.iterations.get? call, fan.server.broadcasts.get? call with
  | some iteration, some asked =>
      if asked.awaits = none ∧ iteration.Raises fan then
        fan.update (serverStep runtime fan.server (.abandon call)) call
          { iteration with returned := some false }
      else fan
  | _, _ => fan

/-- What an event does to the server and to the iterations. -/
def act (event : ServerEvent) : FanOut :=
  match event with
  | .broadcast call eventType params => fan.broadcast runtime call eventType params
  | .visit call clientId => fan.visit call clientId
  | .conclude call => fan.conclude call
  | .abandon call => fan.abandon runtime call
  | event => { fan with server := serverStep runtime fan.server event }

/-- The keys are compared with those before. -/
def noted (next : FanOut) : FanOut :=
  if next.server.subscriptions.keys = fan.server.subscriptions.keys then next
  else { next with changes := next.changes + 1 }

def step (fan : FanOut) (event : ServerEvent) : FanOut := fan.noted (fan.act runtime event)

/-- No call has raised, and a call that has returned wrote the event once to each connection that
was subscribed at its start and is open. -/
def Delivers : Prop :=
  ∀ call iteration, fan.iterations.get? call = some iteration →
    iteration.returned ≠ some false ∧
      (iteration.returned = some true → ∀ number ∈ iteration.audience,
        fan.server.isOpenAt number = true → iteration.written.count number = 1)

/-- While a broadcast is under way that the event does not end, no client enters the table of
subscriptions or leaves it. -/
def Steady (event : ServerEvent) : Prop :=
  ∀ call iteration, fan.iterations.get? call = some iteration → iteration.returned = none →
    event ≠ .conclude call →
      (fan.act runtime event).server.subscriptions.keys = fan.server.subscriptions.keys

instance (event : ServerEvent) (call : ℕ) : Decidable (event ≠ .conclude call) :=
  match event with
  | .conclude other => decidable_of_iff (other ≠ call) (not_congr (by simp))
  | .connect .. | .receive .. | .handle .. | .finish .. | .drain .. | .lose .. | .leave ..
  | .release .. | .register .. | .broadcast .. | .visit .. | .resume .. | .abandon .. | .stop =>
      isTrue nofun

instance (event : ServerEvent) : Decidable (fan.Steady runtime event) :=
  decidable_of_iff (∀ entry ∈ fan.iterations.entries, entry.2.returned = none →
    event ≠ .conclude entry.1 →
      (fan.act runtime event).server.subscriptions.keys = fan.server.subscriptions.keys)
    ⟨fun each call iteration found => each (call, iteration) (Dict.get?_eq_some_iff.mp found),
      fun steady entry member => steady entry.1 entry.2 (Dict.get?_eq_some_iff.mpr member)⟩

/-! ## What holds of a broadcast under way -/

/-- The clients at the start are still there, and those whose keys were taken were written to. -/
structure UnderWay (server : SocketServer) (asked : Broadcast) (iteration : Iteration) :
    Prop where
  keys : iteration.keys = server.subscriptions.keys
  waits : ∀ clientId number, asked.awaits = some (clientId, number) →
    server.Held clientId number
  dead : ∀ clientId ∈ asked.deadClients, ∃ number,
    server.Held clientId number ∧ server.isOpenAt number = false
  audience : ∀ number ∈ iteration.audience, ∃ clientId, server.Held clientId number ∧
    server.clients.get? clientId = some number ∧
    server.Subscribed clientId asked.eventType ∧
    iteration.written.count number =
      if clientId ∈ iteration.keys.take iteration.position then 1 else 0

/-- The call is under way, or has returned. -/
def Accounted (server : SocketServer) (call : ℕ) (iteration : Iteration) : Prop :=
  (iteration.returned = none ∧ ∃ asked, server.broadcasts.get? call = some asked ∧
      UnderWay server asked iteration) ∨
    (iteration.returned = some true ∧ server.broadcasts.get? call = none ∧
      ∀ number ∈ iteration.audience, iteration.written.count number = 1)

structure Fair (fan : FanOut) : Prop where
  sound : fan.server.Sound runtime
  listed : fan.server.Listed
  unchanged : ∀ call iteration, fan.iterations.get? call = some iteration →
    iteration.returned = none → iteration.changes = fan.changes
  each : ∀ call iteration, fan.iterations.get? call = some iteration →
    Accounted fan.server call iteration
  known : ∀ call, fan.iterations.get? call = none → fan.server.broadcasts.get? call = none

variable {runtime} {fan} {server next : SocketServer} {asked : Broadcast}
  {iteration : Iteration} {call : ℕ}

theorem UnderWay.carry (underWay : UnderWay server asked iteration)
    (carries : server.Carries next)
    (steady : next.subscriptions.keys = server.subscriptions.keys) :
    UnderWay next asked iteration where
  keys := underWay.keys.trans steady.symm
  waits clientId number awaits :=
    carries.held clientId number (underWay.waits clientId number awaits)
  dead clientId member := by
    obtain ⟨number, held, shut⟩ := underWay.dead clientId member
    exact ⟨number, carries.held clientId number held, carries.closed clientId number held shut⟩
  audience number member := by
    obtain ⟨clientId, held, entered, listens, counted⟩ := underWay.audience number member
    exact ⟨clientId, carries.held clientId number held,
      carries.clients clientId number held entered,
      carries.subscribed clientId asked.eventType listens, counted⟩

/-- What is accounted for stays so, as long as the broadcasts are as before and the clients are
carried over while one is under way. -/
theorem Accounted.carry (accounted : Accounted server call iteration)
    (broadcasts : next.broadcasts.get? call = server.broadcasts.get? call)
    (carries : iteration.returned = none → server.Carries next ∧
      next.subscriptions.keys = server.subscriptions.keys) :
    Accounted next call iteration := by
  rcases accounted with ⟨running, asked, found, underWay⟩ | ⟨returned, none, delivered⟩
  · obtain ⟨carried, steady⟩ := carries running
    exact .inl ⟨running, asked, broadcasts.trans found, underWay.carry carried steady⟩
  · exact .inr ⟨returned, broadcasts.trans none, delivered⟩

/-! ## Events of the server -/

/-- An event that leaves the broadcasts as they are. -/
theorem Fair.plain (fair : fan.Fair runtime) (sound : next.Sound runtime) (listed : next.Listed)
    (broadcasts : next.broadcasts = fan.server.broadcasts)
    (carries : ∀ call iteration, fan.iterations.get? call = some iteration →
      iteration.returned = none → fan.server.Carries next ∧
        next.subscriptions.keys = fan.server.subscriptions.keys) :
    Fair runtime { fan with server := next } where
  sound := sound
  listed := listed
  unchanged := fair.unchanged
  each call iteration found :=
    (fair.each call iteration found).carry (by rw [broadcasts]) (carries call iteration found)
  known call none := by
    rw [broadcasts]
    exact fair.known call none

/-- An event of one call, which is accounted for afterwards, as the other calls are. -/
theorem Fair.own (fair : fan.Fair runtime) {next : FanOut} (call : ℕ)
    (sound : next.server.Sound runtime) (listed : next.server.Listed)
    (changes : next.changes = fan.changes)
    (iterations : ∀ other, other ≠ call → next.iterations.get? other = fan.iterations.get? other)
    (broadcasts : ∀ other, other ≠ call →
      next.server.broadcasts.get? other = fan.server.broadcasts.get? other)
    (carries : ∀ other iteration, other ≠ call → fan.iterations.get? other = some iteration →
      iteration.returned = none → fan.server.Carries next.server ∧
        next.server.subscriptions.keys = fan.server.subscriptions.keys)
    (own : ∃ iteration, next.iterations.get? call = some iteration ∧
      (iteration.returned = none → iteration.changes = fan.changes) ∧
        Accounted next.server call iteration) : next.Fair runtime where
  sound := sound
  listed := listed
  unchanged other iteration found running := by
    rw [changes]
    by_cases same : other = call
    · subst same
      obtain ⟨iteration', found', unchanged, _⟩ := own
      obtain rfl := Option.some.inj (found'.symm.trans found)
      exact unchanged running
    · exact fair.unchanged other iteration ((iterations other same).symm.trans found) running
  each other iteration found := by
    by_cases same : other = call
    · subst same
      obtain ⟨iteration', found', _, accounted⟩ := own
      obtain rfl := Option.some.inj (found'.symm.trans found)
      exact accounted
    · have before := (iterations other same).symm.trans found
      exact (fair.each other iteration before).carry (broadcasts other same)
        (carries other iteration same before)
  known other absent := by
    have same : other ≠ call := by
      rintro rfl
      obtain ⟨iteration, found, _⟩ := own
      cases absent.symm.trans found
    exact (broadcasts other same).trans
      (fair.known other ((iterations other same).symm.trans absent))

/-- A call whose broadcast is in the table is under way. -/
theorem Fair.underWay (fair : fan.Fair runtime)
    (found : fan.server.broadcasts.get? call = some asked) :
    ∃ iteration, fan.iterations.get? call = some iteration ∧ iteration.returned = none ∧
      UnderWay fan.server asked iteration := by
  rcases started : fan.iterations.get? call with _ | iteration
  · cases (fair.known call started).symm.trans found
  · rcases fair.each call iteration started with
      ⟨running, asked', found', underWay⟩ | ⟨_, absent, _⟩
    · obtain rfl := Option.some.inj (found.symm.trans found')
      exact ⟨iteration, rfl, running, underWay⟩
    · cases absent.symm.trans found

theorem adjust_frame (server : SocketServer) (number : ℕ) (change : Connection → Connection) :
    (server.adjust number change).clients = server.clients ∧
      (server.adjust number change).subscriptions = server.subscriptions ∧
      (server.adjust number change).broadcasts = server.broadcasts := by
  unfold SocketServer.adjust
  split <;> exact ⟨rfl, rfl, rfl⟩

/-- A change of one connection, which does not open it. -/
theorem Fair.adjust (fair : fan.Fair runtime) (number : ℕ) {change : Connection → Connection}
    (changed : ∀ connection, connection.Sound runtime →
      (change connection).Sound runtime ∧ connection.Follows (change connection))
    (stays : ∀ connection, (change connection).isOpen = true → connection.isOpen = true) :
    Fair runtime { fan with server := fan.server.adjust number change } := by
  obtain ⟨clients, subscriptions, broadcasts⟩ := adjust_frame fan.server number change
  have continues : fan.server.Continues (fan.server.adjust number change) := by
    unfold SocketServer.adjust
    rcases found : fan.server.connections.get? number with _ | connection
    · exact .refl fan.server
    · have own := fair.sound.each number connection found
      exact SocketServer.continues_put found (changed connection own).2 (stays connection)
  apply fair.plain (fair.sound.adjust number changed) (fair.listed.continues continues clients)
    broadcasts
  intro _ _ _ _
  exact ⟨.of_continues_of_eq continues clients subscriptions, by rw [subscriptions]⟩

theorem receive_stays (line : Transport.Octets) (connection : Connection)
    (isOpen : (connection.receive line).isOpen = true) : connection.isOpen = true := by
  unfold Connection.receive at isOpen
  split at isOpen
  · next opened => exact opened
  · exact isOpen

theorem finish_stays (result : Except Text PyValue) (connection : Connection)
    (isOpen : (connection.finish result).isOpen = true) : connection.isOpen = true := by
  unfold Connection.finish at isOpen
  split at isOpen
  · exact (Connection.answer_isOpen _ _).symm.trans isOpen
  · exact isOpen

theorem drain_stays (connection : Connection) (isOpen : connection.drain.isOpen = true) :
    connection.isOpen = true := by
  unfold Connection.drain at isOpen
  split at isOpen <;> exact isOpen

theorem release_stays (connection : Connection) (isOpen : connection.release.isOpen = true) :
    connection.isOpen = true := by
  unfold Connection.release at isOpen
  split at isOpen <;> exact isOpen

theorem connect_frame (server : SocketServer) (number clientId : ℕ) :
    (server.connect number clientId).subscriptions = server.subscriptions ∧
      (server.connect number clientId).broadcasts = server.broadcasts := by
  unfold SocketServer.connect
  split
  · exact ⟨rfl, rfl⟩
  · split <;> exact ⟨rfl, rfl⟩

theorem leave_broadcasts (server : SocketServer) (number : ℕ) :
    (server.leave number).broadcasts = server.broadcasts := by
  unfold SocketServer.leave
  split
  · rfl
  · split <;> rfl

theorem stop_broadcasts (server : SocketServer) : server.stop.broadcasts = server.broadcasts := by
  have closed : ∀ (numbers : List ℕ) (server : SocketServer), (numbers.foldl
      (fun server number => server.adjust number ({ · with isOpen := false }))
        server).broadcasts = server.broadcasts := by
    intro numbers
    induction numbers with
    | nil => exact fun _ => rfl
    | cons number numbers ih =>
        exact fun server => (ih _).trans (adjust_frame server number _).2.2
  exact closed server.clients.values server

/-- A broadcast goes on after an `await`; a client that was lost is dead then. -/
theorem Fair.resume (fair : fan.Fair runtime) (call : ℕ) (raised : Bool) :
    Fair runtime { fan with server := fan.server.resume call raised } := by
  have sound := fair.sound.resume call raised
  unfold SocketServer.resume at sound ⊢
  rcases found : fan.server.broadcasts.get? call with _ | asked
  · exact fair
  rw [found] at sound
  dsimp only at sound ⊢
  rcases awaits : asked.awaits with _ | ⟨clientId, number⟩
  · exact fair
  rw [awaits] at sound
  dsimp only at sound ⊢
  split
  · exact fair
  next goesOn =>
  rw [if_neg goesOn] at sound
  obtain ⟨iteration, started, running, underWay⟩ := fair.underWay found
  refine fair.own call sound ⟨fair.listed.listed, fair.listed.served⟩ rfl (fun _ _ => rfl)
    (fun other apart => Dict.get?_set_of_ne _ _ apart) ?_
    ⟨iteration, started, fair.unchanged call iteration started, ?_⟩
  · intro _ _ _ _ _
    exact ⟨.of_continues_of_eq (.refl fan.server) rfl rfl, rfl⟩
  · refine .inl ⟨running, _, Dict.get?_set_self _ _ _, underWay.keys, nofun,
      fun dead member => ?_, underWay.audience⟩
    cases raised with
    | false => exact underWay.dead dead member
    | true =>
        rcases List.mem_append.mp member with before | new
        · exact underWay.dead dead before
        · obtain rfl := List.mem_singleton.mp new
          exact ⟨number, underWay.waits dead number awaits, Bool.eq_false_iff.mpr goesOn⟩

/-! ## Steps of a broadcast -/

/-- A new call knows the clients of its audience. -/
theorem Fair.broadcast (fair : fan.Fair runtime) (call : ℕ) (eventType : Text) (params : PyValue) :
    (fan.broadcast runtime call eventType params).Fair runtime := by
  unfold FanOut.broadcast
  rcases new : fan.iterations.get? call with _ | iteration
  · have absent := fair.known call new
    dsimp only [serverStep]
    rw [absent]
    refine fair.own call (fair.sound.frame rfl rfl (Finset.Subset.refl _))
      ⟨fair.listed.listed, fair.listed.served⟩ rfl
      (fun other apart => Dict.get?_set_of_ne _ _ apart)
      (fun other apart => Dict.get?_set_of_ne _ _ apart) ?_
      ⟨_, Dict.get?_set_self _ _ _, fun _ => rfl, ?_⟩
    · intro _ _ _ _ _
      exact ⟨.of_continues_of_eq (.refl fan.server) rfl rfl, rfl⟩
    refine .inl ⟨rfl, _, Dict.get?_set_self _ _ _, rfl, nofun, nofun, fun number member => ?_⟩
    obtain ⟨⟨_, connection⟩, entry, rfl⟩ := List.mem_map.mp member
    obtain ⟨entry, chosen⟩ := List.mem_filter.mp entry
    obtain ⟨isOpen, listens⟩ := (Bool.and_eq_true _ _).mp chosen
    have listens := of_decide_eq_true listens
    have found := Dict.get?_eq_some_iff.mpr entry
    have entered := fair.listed.listed _ _ found isOpen
    refine ⟨connection.clientId, ⟨Dict.mem_keys_of_get? listens.choose_spec.1, connection, found,
      rfl, (fair.sound.each _ _ found).serving isOpen⟩, entered, listens, ?_⟩
    rw [List.take_zero, if_neg List.not_mem_nil]
    rfl
  · exact fair

theorem recipient_eq_some {eventType : Text} {clientId number : ℕ}
    (recipient : server.recipient eventType clientId = some number) :
    server.Subscribed clientId eventType ∧ server.clients.get? clientId = some number := by
  unfold SocketServer.recipient at recipient
  split at recipient
  · next listens => exact ⟨listens, recipient⟩
  · cases recipient

theorem visit_eq {clientId number : ℕ} (found : server.broadcasts.get? call = some asked)
    (idle : asked.awaits = none)
    (recipient : server.recipient asked.eventType clientId = some number) :
    server.visit call clientId =
      { server.adjust number
          (·.write (.event ("event.".toList ++ asked.eventType) asked.params)) with
        broadcasts :=
          server.broadcasts.set call { asked with awaits := some (clientId, number) } } := by
  obtain ⟨⟨subscribed, entered, member⟩, served⟩ := recipient_eq_some recipient
  unfold SocketServer.visit
  rw [found]
  dsimp only
  rw [idle, entered, served]
  exact if_pos member

/-- The keys taken with the next one are those taken before and the next. -/
theorem mem_take_succ {keys : List ℕ} {position next key : ℕ}
    (gives : keys[position]? = some next) :
    key ∈ keys.take (position + 1) ↔ key ∈ keys.take position ∨ key = next := by
  rw [List.take_add_one, gives]
  exact List.mem_append.trans (or_congr Iff.rfl List.mem_singleton)

theorem not_mem_take {keys : List ℕ} (distinct : keys.Nodup) {position next : ℕ}
    (gives : keys[position]? = some next) : next ∉ keys.take position := by
  have taken := distinct.sublist (List.take_sublist (position + 1) keys)
  rw [List.take_add_one, gives] at taken
  exact fun member =>
    (List.nodup_append.mp taken).2.2 next member next (List.mem_singleton_self next) rfl

theorem write_continues (server : SocketServer) (number : ℕ) (message : Outgoing) :
    server.Continues (server.adjust number (·.write message)) := by
  refine SocketServer.continues_adjust fun connection => ?_
  unfold Connection.write
  split
  · next isOpen => exact ⟨⟨rfl, id, id, List.Subset.refl _⟩, fun _ => isOpen⟩
  · exact ⟨.refl connection, id⟩

/-- A client that is passed over is not of the audience. -/
theorem UnderWay.pass (underWay : UnderWay server asked iteration) {clientId : ℕ}
    (gives : iteration.keys[iteration.position]? = some clientId)
    (recipient : server.recipient asked.eventType clientId = none) :
    UnderWay server asked { iteration with position := iteration.position + 1 } where
  keys := underWay.keys
  waits := underWay.waits
  dead := underWay.dead
  audience number member := by
    obtain ⟨own, held, entered, listens, counted⟩ := underWay.audience number member
    have apart : own ≠ clientId := by
      rintro rfl
      unfold SocketServer.recipient at recipient
      rw [if_pos listens] at recipient
      cases recipient.symm.trans entered
    have taken := (@mem_take_succ _ _ _ own gives).trans (or_iff_left apart)
    exact ⟨own, held, entered, listens, counted.trans (if_congr taken rfl rfl).symm⟩

/-- A client that is written to was not written to before. -/
theorem UnderWay.write (underWay : UnderWay server asked iteration) {clientId number : ℕ}
    (gives : iteration.keys[iteration.position]? = some clientId)
    (held : server.Held clientId number) (entered : server.clients.get? clientId = some number) :
    UnderWay server { asked with awaits := some (clientId, number) }
      { iteration with
        position := iteration.position + 1, written := iteration.written ++ [number] } where
  keys := underWay.keys
  waits := by
    rintro _ _ ⟨⟩
    exact held
  dead := underWay.dead
  audience other member := by
    obtain ⟨own, held', entered', listens, counted⟩ := underWay.audience other member
    refine ⟨own, held', entered', listens, ?_⟩
    have taken := @mem_take_succ _ _ _ own gives
    have distinct : iteration.keys.Nodup := underWay.keys ▸ server.subscriptions.distinct
    rw [List.count_append, counted]
    by_cases same : own = clientId
    · subst same
      obtain rfl := Option.some.inj (entered.symm.trans entered')
      rw [if_neg (not_mem_take distinct gives), if_pos (taken.mpr (.inr rfl)),
        List.count_singleton_self]
    · have apart : number ≠ other := by
        rintro rfl
        obtain ⟨_, connection, found, rfl, _⟩ := held
        exact same (held'.connection found).1.symm
      rw [List.count_singleton, if_neg (apart ∘ eq_of_beq)]
      exact (if_congr (taken.trans (or_iff_left same)) rfl rfl).symm

/-- The client of the next key is written to, if it is subscribed, and no other is. -/
theorem Fair.visit (fair : fan.Fair runtime) (call clientId : ℕ) :
    (fan.visit call clientId).Fair runtime := by
  unfold FanOut.visit
  rcases started : fan.iterations.get? call with _ | iteration
  · exact fair
  rcases found : fan.server.broadcasts.get? call with _ | asked
  · exact fair
  dsimp only
  split
  · next takes =>
      obtain ⟨idle, _, gives⟩ := takes
      obtain ⟨iteration', started', running, underWay⟩ := fair.underWay found
      obtain rfl := Option.some.inj (started.symm.trans started')
      have gives := gives (fair.unchanged call iteration started running)
      have unchanged := fair.unchanged call iteration started
      rcases recipient : fan.server.recipient asked.eventType clientId with _ | number
        <;> dsimp only
      · refine fair.own call fair.sound fair.listed rfl
          (fun other apart => Dict.get?_set_of_ne _ _ apart) (fun _ _ => rfl) ?_
          ⟨_, Dict.get?_set_self _ _ _, unchanged, ?_⟩
        · intro _ _ _ _ _
          exact ⟨.of_continues_of_eq (.refl fan.server) rfl rfl, rfl⟩
        · exact .inl ⟨running, asked, found, underWay.pass gives recipient⟩
      · obtain ⟨listens, entered⟩ := recipient_eq_some recipient
        obtain ⟨connection, own⟩ := fair.listed.served clientId number entered
        have held : fan.server.Held clientId number :=
          ⟨Dict.mem_keys_of_get? listens.choose_spec.1, connection, own⟩
        have sound := fair.sound.visit call clientId
        have continues := write_continues fan.server number
          (.event ("event.".toList ++ asked.eventType) asked.params)
        obtain ⟨clients, subscriptions, _⟩ := adjust_frame fan.server number
          (·.write (.event ("event.".toList ++ asked.eventType) asked.params))
        have listed := fair.listed.continues continues clients
        rw [visit_eq found idle recipient] at sound ⊢
        have carries :=
          (SocketServer.Carries.of_continues_of_eq continues clients subscriptions).broadcasts
            (fan.server.broadcasts.set call { asked with awaits := some (clientId, number) })
        refine fair.own call sound ⟨listed.listed, listed.served⟩ rfl
          (fun other apart => Dict.get?_set_of_ne _ _ apart)
          (fun other apart => Dict.get?_set_of_ne _ _ apart)
          (fun _ _ _ _ _ => ⟨carries, congrArg Dict.keys subscriptions⟩)
          ⟨_, Dict.get?_set_self _ _ _, unchanged, ?_⟩
        exact .inl ⟨running, _, Dict.get?_set_self _ _ _,
          (underWay.write gives held entered).carry carries (congrArg Dict.keys subscriptions)⟩
  · exact fair

theorem removeClients_frame (dead : List ℕ) (server : SocketServer) :
    (dead.foldl SocketServer.removeClient server).broadcasts = server.broadcasts ∧
      ∀ clientId ∈ dead,
        clientId ∉ (dead.foldl SocketServer.removeClient server).subscriptions.keys := by
  have gone (clientId : ℕ) : ∀ (dead : List ℕ) (server : SocketServer),
      clientId ∉ server.subscriptions.keys →
        clientId ∉ (dead.foldl SocketServer.removeClient server).subscriptions.keys := by
    intro dead
    induction dead with
    | nil => exact fun _ absent => absent
    | cons first dead ih =>
        exact fun server absent => ih _ fun member => absent (Dict.mem_keys_pop.mp member).2
  induction dead generalizing server with
  | nil => exact ⟨rfl, nofun⟩
  | cons first dead ih =>
      obtain ⟨broadcasts, absent⟩ := ih (server.removeClient first)
      refine ⟨broadcasts, List.forall_mem_cons.mpr ⟨?_, absent⟩⟩
      exact gone first dead _ fun member => (Dict.mem_keys_pop.mp member).1 rfl

/-- A call that returns has written to its whole audience. The clients that it removes were
subscribed, so that it removes none while another call is under way. -/
theorem Fair.conclude (fair : fan.Fair runtime) (call : ℕ)
    (steady : ∀ other iteration, other ≠ call → fan.iterations.get? other = some iteration →
      iteration.returned = none →
        (fan.conclude call).server.subscriptions.keys = fan.server.subscriptions.keys) :
    (fan.conclude call).Fair runtime := by
  unfold FanOut.conclude at steady ⊢
  rcases started : fan.iterations.get? call with _ | iteration
  · exact fair
  rcases found : fan.server.broadcasts.get? call with _ | asked
  · exact fair
  rw [started, found] at steady
  dsimp only at steady ⊢
  split
  · next ends =>
      rw [if_pos ends] at steady
      obtain ⟨idle, _, taken⟩ := ends
      obtain ⟨iteration', started', running, underWay⟩ := fair.underWay found
      obtain rfl := Option.some.inj (started.symm.trans started')
      have taken := taken (fair.unchanged call iteration started running)
      have sound := fair.sound.conclude call
      unfold SocketServer.conclude at sound steady ⊢
      rw [found] at sound steady ⊢
      dsimp only [update] at sound steady ⊢
      rw [idle] at sound steady ⊢
      dsimp only at sound steady ⊢
      obtain ⟨broadcasts, gone⟩ := removeClients_frame asked.deadClients
        { fan.server with broadcasts := fan.server.broadcasts.pop call }
      have listed : SocketServer.Listed
          { fan.server with broadcasts := fan.server.broadcasts.pop call } :=
        ⟨fair.listed.listed, fair.listed.served⟩
      refine fair.own call sound (listed.removeClients fun clientId member => ?_) rfl
        (fun other apart => Dict.get?_set_of_ne _ _ apart) (fun other apart => ?_)
        (fun other others apart before going => ?_) ⟨_, Dict.get?_set_self _ _ _, nofun, ?_⟩
      · obtain ⟨number, held, closed⟩ := underWay.dead clientId member
        exact SocketServer.Held.shut (fair.sound.frame rfl rfl (Finset.Subset.refl _)) held closed
      · exact (congrArg (·.get? other) broadcasts).trans (Dict.get?_pop_of_ne _ apart)
      · have keys := steady other others apart before going
        refine ⟨?_, keys⟩
        rcases none : asked.deadClients with _ | ⟨clientId, dead⟩
        · exact (SocketServer.Carries.of_continues (.refl fan.server) rfl (.refl _)).broadcasts _
        · have member : clientId ∈ asked.deadClients := none ▸ List.mem_cons_self
          obtain ⟨number, held, _⟩ := underWay.dead clientId member
          exact absurd (keys ▸ held.1) (gone clientId member)
      · refine .inr ⟨rfl, (congrArg (·.get? call) broadcasts).trans (Dict.get?_pop_self _ _), ?_⟩
        intro number member
        obtain ⟨clientId, held, _, _, counted⟩ := underWay.audience number member
        rw [List.take_of_length_le taken, underWay.keys, if_pos held.1] at counted
        exact counted
  · exact fair

/-- A table that has not changed does not raise. -/
theorem Fair.abandon (fair : fan.Fair runtime) (call : ℕ) : fan.abandon runtime call = fan := by
  unfold FanOut.abandon
  rcases started : fan.iterations.get? call with _ | iteration
  · rfl
  rcases found : fan.server.broadcasts.get? call with _ | asked
  · rfl
  dsimp only
  split
  · next raises =>
      obtain ⟨iteration', started', running, underWay⟩ := fair.underWay found
      obtain rfl := Option.some.inj (started.symm.trans started')
      rcases raises.2 with resized | changed
      · exact absurd (congrArg List.length underWay.keys) resized
      · exact absurd (fair.unchanged call iteration started running) changed
  · rfl

/-! ## A step -/

/-- Keys that have changed do not concern a call that is not under way. -/
theorem Fair.noted {next : FanOut} (fair : next.Fair runtime)
    (steady : ∀ call iteration, next.iterations.get? call = some iteration →
      iteration.returned = none → next.server.subscriptions.keys = fan.server.subscriptions.keys) :
    (fan.noted next).Fair runtime := by
  unfold FanOut.noted
  split
  · exact fair
  · next changed =>
      refine ⟨fair.sound, fair.listed, fun call iteration found running => ?_, fair.each,
        fair.known⟩
      exact absurd (steady call iteration found running) changed

/-- An event of the server that does not concern the broadcasts. -/
theorem Fair.act (fair : fan.Fair runtime) {event : ServerEvent}
    (steady : fan.Steady runtime event) : (fan.act runtime event).Fair runtime := by
  have sound := fair.sound
  have listed := fair.listed
  have carried {next : SocketServer} (same : fan.act runtime event = { fan with server := next })
      (others : ∀ call, event ≠ .conclude call)
      (carries : next.subscriptions.keys = fan.server.subscriptions.keys →
        fan.server.Carries next) (call : ℕ) (iteration : Iteration)
      (found : fan.iterations.get? call = some iteration) (running : iteration.returned = none) :
      fan.server.Carries next ∧ next.subscriptions.keys = fan.server.subscriptions.keys := by
    have keys := steady call iteration found running (others call)
    rw [same] at keys
    exact ⟨carries keys, keys⟩
  cases event with
  | connect number clientId =>
      obtain ⟨subscriptions, broadcasts⟩ := connect_frame fan.server number clientId
      exact fair.plain (sound.connect number clientId) (listed.connect sound number clientId)
        broadcasts (carried rfl nofun fun _ => .connect number clientId)
  | receive number line =>
      exact fair.adjust number (fun _ own => own.receive line) (receive_stays line)
  | handle number =>
      have serves := @SocketServer.handle_serves runtime fan.server number
      have continues := SocketServer.handle_continues sound number
      exact fair.plain (sound.handle number) (listed.continues continues serves.clients)
        serves.broadcasts
        (carried rfl nofun fun _ => .of_continues continues serves.clients serves.widens)
  | finish number result =>
      exact fair.adjust number (fun _ own => own.finish result) (finish_stays result)
  | drain number => exact fair.adjust number (fun _ own => own.drain) drain_stays
  | lose number =>
      exact fair.adjust number
        (fun connection own => ⟨own.close connection.phase, rfl, id, id, List.Subset.refl _⟩) nofun
  | leave number =>
      exact fair.plain (sound.leave number) (listed.leave sound number)
        (leave_broadcasts fan.server number) (carried rfl nofun .leave)
  | release number => exact fair.adjust number (fun _ own => own.release) release_stays
  | register name =>
      exact fair.plain (sound.registerMethod name) ⟨listed.listed, listed.served⟩ rfl
        (carried rfl nofun fun _ => .of_continues (.refl fan.server) rfl (.refl _))
  | broadcast call eventType params => exact fair.broadcast call eventType params
  | visit call clientId => exact fair.visit call clientId
  | resume call raised => exact fair.resume call raised
  | conclude call =>
      apply fair.conclude call
      intro other iteration apart found running
      exact steady other iteration found running fun same =>
        apart (ServerEvent.conclude.inj same).symm
  | abandon call =>
      have same : fan.act runtime (.abandon call) = fan := fair.abandon call
      rwa [same]
  | stop =>
      exact fair.plain sound.stop listed.stop (stop_broadcasts fan.server)
        (carried rfl nofun .stop)

theorem broadcast_subscriptions (call : ℕ) (eventType : Text) (params : PyValue) :
    (fan.broadcast runtime call eventType params).server.subscriptions =
      fan.server.subscriptions := by
  unfold FanOut.broadcast
  split
  · rfl
  · dsimp only [update, serverStep]
    split <;> rfl

theorem visit_subscriptions (call clientId : ℕ) :
    (fan.visit call clientId).server.subscriptions = fan.server.subscriptions := by
  unfold FanOut.visit
  split
  · split
    · split
      · dsimp only [update]
        unfold SocketServer.visit
        split
        · rfl
        · split
          · split
            · exact (adjust_frame fan.server _ _).2.1
            · rfl
          · rfl
      · rfl
    · rfl
  · rfl

/-- A call that `conclude` leaves under way is not at its end. -/
theorem conclude_of_returned_none
    (found : (fan.conclude call).iterations.get? call = some iteration)
    (running : iteration.returned = none) : fan.conclude call = fan := by
  unfold FanOut.conclude at found ⊢
  split at found
  · split at found
    · obtain rfl := Option.some.inj ((Dict.get?_set_self _ _ _).symm.trans found)
      cases running
    · next goesOn => rw [if_neg goesOn]
  · rfl

theorem conclude_iterations {other : ℕ} (apart : other ≠ call) :
    (fan.conclude call).iterations.get? other = fan.iterations.get? other := by
  unfold FanOut.conclude
  split
  · split
    · exact Dict.get?_set_of_ne _ _ apart
    · rfl
  · rfl

/-- While a call is under way after a steady event, the keys are those before it. -/
theorem Fair.keys (fair : fan.Fair runtime) {event : ServerEvent}
    (steady : fan.Steady runtime event) (call : ℕ) (iteration : Iteration)
    (found : (fan.act runtime event).iterations.get? call = some iteration)
    (running : iteration.returned = none) :
    (fan.act runtime event).server.subscriptions.keys = fan.server.subscriptions.keys := by
  cases event with
  | broadcast other eventType params =>
      exact congrArg Dict.keys (broadcast_subscriptions other eventType params)
  | visit other clientId => exact congrArg Dict.keys (visit_subscriptions other clientId)
  | abandon other => exact congrArg (·.server.subscriptions.keys) (fair.abandon other)
  | conclude other =>
      by_cases own : call = other
      · subst own
        exact congrArg (·.server.subscriptions.keys) (conclude_of_returned_none found running)
      · have before := (conclude_iterations own).symm.trans found
        exact steady call iteration before running fun same =>
          own (ServerEvent.conclude.inj same).symm
  | _ => exact steady call iteration found running nofun

theorem Fair.step (fair : fan.Fair runtime) {event : ServerEvent}
    (steady : fan.Steady runtime event) : (fan.step runtime event).Fair runtime :=
  (fair.act steady).noted (fair.keys steady)

theorem start_tables (registered : List Text) :
    (SocketServer.start registered).connections = .empty ∧
      (SocketServer.start registered).clients = .empty ∧
      (SocketServer.start registered).broadcasts = .empty := by
  have named : ∀ (names : List Text) (server : SocketServer),
      (names.foldl SocketServer.registerMethod server).connections = server.connections ∧
        (names.foldl SocketServer.registerMethod server).clients = server.clients ∧
        (names.foldl SocketServer.registerMethod server).broadcasts = server.broadcasts := by
    intro names
    induction names with
    | nil => exact fun _ => ⟨rfl, rfl, rfl⟩
    | cons name names ih => exact fun server => ih (server.registerMethod name)
  exact named registered SocketServer.new

theorem Fair.start (registered : List Text) : (start registered).Fair runtime where
  sound := SocketServer.sound_start registered
  listed := by
    obtain ⟨connections, clients, _⟩ := start_tables registered
    refine ⟨fun number connection found => ?_, fun clientId number entered => ?_⟩
    · cases (congrArg (·.get? number) connections).symm.trans found
    · cases (congrArg (·.get? clientId) clients).symm.trans entered
  unchanged := nofun
  each := nofun
  known call _ := (congrArg (·.get? call) (start_tables registered).2.2).trans rfl

theorem Fair.delivers (fair : fan.Fair runtime) : fan.Delivers := by
  intro call iteration found
  rcases fair.each call iteration found with ⟨running, _⟩ | ⟨returned, _, written⟩
  · rw [running]
    exact ⟨nofun, nofun⟩
  · rw [returned]
    exact ⟨nofun, fun _ number member _ => written number member⟩

/-- **Broadcasts.** In a run in which no client enters the table of subscriptions or leaves it
while a broadcast is under way, no call of `broadcast_event` raises, and a call that returns has
written the event once to each client that was subscribed at its start and is still connected. -/
theorem broadcast_delivers (runtime : SocketRuntime) (registered : List Text)
    (events : List ServerEvent)
    (steady : EachMeets (step runtime) (Steady runtime) (start registered) events) :
    Throughout (step runtime) Delivers (start registered) events :=
  (steady.throughout (fun _ _ fair meets => Fair.step fair meets)
    (Fair.start registered)).mono fun _ => Fair.delivers

/-! ## Runs of two subscribers -/

/-- A client's first line. -/
def helloLine : Transport.Octets :=
  Transport.asciiOctets
    "\x7b\"id\":\"1\",\"method\":\"hello\",\"params\":\x7b\"version\":1\x7d\x7d\n".toList

def subscribeLine : Transport.Octets :=
  Transport.asciiOctets
    ("\x7b\"id\":\"2\",\"method\":\"subscribe\"," ++
      "\"params\":\x7b\"events\":[\"health_change\"]\x7d\x7d\n").toList

def healthChange : Text := "health_change".toList

def helloRequest : Request :=
  ⟨"1".toList, helloMethod, .dict [(.str "version".toList, .num 1)]⟩

def subscribeRequest : Request :=
  ⟨"2".toList, subscribeMethod, .dict [(.str "events".toList, .list [.str healthChange])]⟩

/-- The libraries, as they behave on these lines. -/
def lineRuntime : SocketRuntime where
  requests := {
    modelDumpJson := fun request =>
      Transport.stripBytes (if request.method = helloMethod then helloLine else subscribeLine)
    validateJson := fun octets =>
      if octets = Transport.stripBytes helloLine then .ok helloRequest
      else if octets = Transport.stripBytes subscribeLine then .ok subscribeRequest
      else .error .valueError }
  helloVersion _ := .ok protocolVersion
  sorted _ := .ok [.str healthChange]
  describe _ _ := []

/-- A client connects, shakes hands and sends its subscription. -/
def arrive (number : ℕ) : List ServerEvent :=
  [.connect number number, .receive number helloLine, .handle number, .drain number,
    .receive number subscribeLine]

def heard : List ServerEvent :=
  arrive 1 ++ [.handle 1, .drain 1] ++ arrive 2 ++ [.handle 2, .drain 2,
    .broadcast 0 healthChange (.dict []), .visit 0 1, .resume 0 false, .visit 0 2, .resume 0 false,
    .conclude 0]

theorem heard_delivered : Throughout (step lineRuntime) Delivers (start []) heard :=
  broadcast_delivers lineRuntime [] heard (by decide +kernel)

/-- While the broadcast waits for the first of two subscribers, a third client subscribes. -/
def disturbed : List ServerEvent :=
  arrive 1 ++ [.handle 1, .drain 1] ++ arrive 2 ++ [.handle 2, .drain 2] ++ arrive 3 ++
    [.broadcast 0 healthChange (.dict []), .visit 0 1, .handle 3, .resume 0 false, .abandon 0]

/-- A subscription during a broadcast makes it raise before it reaches the second subscriber. -/
theorem disturbed_not_delivered :
    ¬ Throughout (step lineRuntime) Delivers (start []) disturbed := by
  intro always
  have raised : ((disturbed.foldl (step lineRuntime) (start [])).iterations.get? 0).map
      Iteration.returned = some (some false) := by decide +kernel
  obtain ⟨iteration, found, returned⟩ := Option.map_eq_some_iff.mp raised
  exact (always.last 0 iteration found).1 returned

end FanOut

end Vcompany.Daemon
