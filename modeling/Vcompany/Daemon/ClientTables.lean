import Vcompany.Daemon.SocketInvariant

/-! # The tables of clients

An open connection is in the table of clients under its identity, as long as no broadcast removes
an identity that another connection got. What is in the table belongs to a connection whose
handler has not left.
-/

namespace Vcompany.Daemon

open Foundation

namespace SocketServer

structure Listed (server : SocketServer) : Prop where
  listed : ∀ number connection, server.connections.get? number = some connection →
    connection.isOpen = true → server.clients.get? connection.clientId = some number
  served : ∀ clientId number, server.clients.get? clientId = some number →
    ∃ connection, server.connections.get? number = some connection ∧
      connection.clientId = clientId ∧ connection.phase.isServing = true

/-- The connections of one server take the places of those of another, and none is opened
again. -/
def Continues (server next : SocketServer) : Prop :=
  ∀ number, (server.connections.get? number = none ∧ next.connections.get? number = none) ∨
    ∃ connection after, server.connections.get? number = some connection ∧
      next.connections.get? number = some after ∧ connection.Follows after ∧
        (after.isOpen = true → connection.isOpen = true)

/-- No table of subscriptions loses a key or an event. -/
def Widens (earlier later : Dict ℕ (Finset HashKey)) : Prop :=
  ∀ clientId subscribed, earlier.get? clientId = some subscribed →
    ∃ more, later.get? clientId = some more ∧ subscribed ⊆ more

/-- A subscribed client whose handler, for the connection with the number, has not left. -/
def Held (server : SocketServer) (clientId number : ℕ) : Prop :=
  clientId ∈ server.subscriptions.keys ∧ ∃ connection,
    server.connections.get? number = some connection ∧ connection.clientId = clientId ∧
      connection.phase.isServing = true

def Subscribed (server : SocketServer) (clientId : ℕ) (eventType : Text) : Prop :=
  ∃ subscribed, server.subscriptions.get? clientId = some subscribed ∧
    HashKey.str eventType ∈ subscribed

/-- What the server knows of the subscribed clients is carried over to another. -/
structure Carries (server next : SocketServer) : Prop where
  held : ∀ clientId number, server.Held clientId number → next.Held clientId number
  clients : ∀ clientId number, server.Held clientId number →
    server.clients.get? clientId = some number → next.clients.get? clientId = some number
  subscribed : ∀ clientId eventType, server.Subscribed clientId eventType →
    next.Subscribed clientId eventType
  closed : ∀ clientId number, server.Held clientId number → server.isOpenAt number = false →
    next.isOpenAt number = false

variable {runtime : SocketRuntime} {server next : SocketServer} {number clientId : ℕ}

/-! ## Connections that are continued -/

theorem Continues.refl (server : SocketServer) : server.Continues server := by
  intro number
  rcases found : server.connections.get? number with _ | connection
  · exact .inl ⟨rfl, rfl⟩
  · exact .inr ⟨connection, connection, rfl, rfl, .refl connection, id⟩

theorem continues_put {connection after : Connection}
    (found : server.connections.get? number = some connection) (follows : connection.Follows after)
    (stays : after.isOpen = true → connection.isOpen = true) :
    server.Continues (server.put number after) := by
  intro other
  by_cases own : other = number
  · subst own
    exact .inr ⟨connection, after, found, get?_put_self, follows, stays⟩
  · rw [get?_put_of_ne own]
    exact Continues.refl server other

theorem continues_adjust {change : Connection → Connection}
    (changed : ∀ connection, connection.Follows (change connection) ∧
      ((change connection).isOpen = true → connection.isOpen = true)) :
    server.Continues (server.adjust number change) := by
  unfold adjust
  rcases found : server.connections.get? number with _ | connection
  · exact .refl server
  · exact continues_put found (changed connection).1 (changed connection).2

theorem Widens.refl (subscriptions : Dict ℕ (Finset HashKey)) :
    Widens subscriptions subscriptions :=
  fun _ subscribed found => ⟨subscribed, found, Finset.Subset.refl _⟩

theorem Listed.continues (listed : server.Listed) (continues : server.Continues next)
    (clients : next.clients = server.clients) : next.Listed where
  listed number after found isOpen := by
    rcases continues number with ⟨_, none⟩ | ⟨connection, _, before, found', follows, stays⟩
    · cases none.symm.trans found
    · obtain rfl := Option.some.inj (found'.symm.trans found)
      rw [clients, follows.clientId]
      exact listed.listed number connection before (stays isOpen)
  served clientId number entered := by
    rw [clients] at entered
    obtain ⟨connection, found, own, serving⟩ := listed.served clientId number entered
    rcases continues number with ⟨none, _⟩ | ⟨_, after, before, found', follows, _⟩
    · cases none.symm.trans found
    · obtain rfl := Option.some.inj (before.symm.trans found)
      exact ⟨after, found', follows.clientId.trans own, follows.serving serving⟩

theorem Carries.of_continues (continues : server.Continues next)
    (clients : next.clients = server.clients)
    (widens : Widens server.subscriptions next.subscriptions) : server.Carries next where
  held clientId number := by
    rintro ⟨member, connection, found, own, serving⟩
    obtain ⟨subscribed, entered⟩ := Dict.mem_keys_iff_exists.mp member
    obtain ⟨more, entered', _⟩ := widens clientId subscribed entered
    rcases continues number with ⟨none, _⟩ | ⟨_, after, before, found', follows, _⟩
    · cases none.symm.trans found
    · obtain rfl := Option.some.inj (before.symm.trans found)
      exact ⟨Dict.mem_keys_of_get? entered', after, found', follows.clientId.trans own,
        follows.serving serving⟩
  clients clientId number _ entered := clients ▸ entered
  subscribed clientId eventType := by
    rintro ⟨subscribed, entered, listens⟩
    obtain ⟨more, entered', within⟩ := widens clientId subscribed entered
    exact ⟨more, entered', within listens⟩
  closed clientId number := by
    rintro ⟨_, connection, found, _⟩ shut
    rcases continues number with ⟨none, _⟩ | ⟨_, after, before, found', _, stays⟩
    · cases none.symm.trans found
    · obtain rfl := Option.some.inj (before.symm.trans found)
      unfold isOpenAt at shut ⊢
      rw [found] at shut
      rw [found']
      by_contra opened
      exact Bool.false_ne_true (shut.symm.trans (stays (Bool.eq_true_of_not_eq_false opened)))

theorem Carries.of_continues_of_eq (continues : server.Continues next)
    (clients : next.clients = server.clients)
    (subscriptions : next.subscriptions = server.subscriptions) : server.Carries next :=
  .of_continues continues clients (subscriptions ▸ .refl _)

theorem Carries.broadcasts (carries : server.Carries next) (broadcasts : Dict ℕ Broadcast) :
    server.Carries { next with broadcasts } :=
  ⟨carries.held, carries.clients, carries.subscribed, carries.closed⟩

/-! ## A line -/

theorem subset_updateSet (held : Finset HashKey) (items : List PyValue) :
    held ⊆ (updateSet held items).1 := by
  induction items generalizing held with
  | nil => exact Finset.Subset.refl _
  | cons item items ih =>
      unfold updateSet
      rcases item.hash with raised | key
      · exact Finset.Subset.refl _
      · exact (Finset.subset_insert key held).trans (ih (insert key held))

/-- The tables after a line: that of the clients is as before, and that of the subscriptions may
have grown. -/
structure Serves (server next : SocketServer) : Prop where
  clients : next.clients = server.clients
  broadcasts : next.broadcasts = server.broadcasts
  widens : Widens server.subscriptions next.subscriptions

theorem Serves.refl (server : SocketServer) : server.Serves server :=
  ⟨rfl, rfl, .refl server.subscriptions⟩

theorem Serves.put (serves : server.Serves next) (number : ℕ) (connection : Connection) :
    server.Serves (next.put number connection) :=
  ⟨serves.clients, serves.broadcasts, serves.widens⟩

theorem handleHello_serves (clientId : ℕ) (params : PyValue) (server : SocketServer) :
    server.Serves (handleHello runtime clientId params server).2 := by
  unfold handleHello
  split
  · exact .refl server
  · split
    · exact .refl server
    · exact ⟨rfl, rfl, .refl server.subscriptions⟩

/-- Setting a client's events to more of them. -/
theorem Serves.set {keys : Finset HashKey}
    (more : (server.subscriptions.get? clientId).getD ∅ ⊆ keys) :
    server.Serves { server with subscriptions := server.subscriptions.set clientId keys } where
  clients := rfl
  broadcasts := rfl
  widens other subscribed found := by
    by_cases own : other = clientId
    · subst own
      rw [found] at more
      exact ⟨keys, Dict.get?_set_self _ _ _, more⟩
    · exact ⟨subscribed, (Dict.get?_set_of_ne _ _ own).trans found, Finset.Subset.refl _⟩

theorem handleSubscribe_serves (clientId : ℕ) (params : PyValue) (server : SocketServer) :
    server.Serves (handleSubscribe runtime clientId params server).2 := by
  unfold handleSubscribe
  split
  · exact .refl server
  · dsimp only
    split
    · exact .set (Finset.Subset.refl _)
    · next items _ =>
        have more := subset_updateSet ((server.subscriptions.get? clientId).getD ∅) items
        split
        · next updated =>
            rw [updated] at more
            exact .set more
        · next updated =>
            rw [updated] at more
            split
            · exact .set more
            · exact .set more

theorem dispatch_serves (number : ℕ) (connection : Connection) (request : Request)
    (server : SocketServer) :
    server.Serves (dispatch runtime number connection request server) := by
  unfold dispatch
  split
  · exact (Serves.refl server).put number _
  · exact (handleHello_serves connection.clientId request.params server).put number _
  · exact (Serves.refl server).put number _
  · exact (handleSubscribe_serves connection.clientId request.params server).put number _
  · exact (Serves.refl server).put number _

theorem handle_serves (server : SocketServer) (number : ℕ) :
    server.Serves (server.handle runtime number) := by
  unfold SocketServer.handle
  split
  · exact .refl server
  · next connection _ =>
      split
      · next line rest _ _ =>
          unfold handleLine
          split
          · exact (Serves.refl server).put number _
          · next request _ =>
              split
              · exact (Serves.refl server).put number _
              · exact dispatch_serves number { connection with inbox := rest } request server
      · exact .refl server

theorem handle_continues (sound : server.Sound runtime) (number : ℕ) :
    server.Continues (server.handle runtime number) := by
  rcases found : server.connections.get? number with _ | connection
  · unfold SocketServer.handle
    rw [found]
    exact .refl server
  by_cases reading : connection.phase = .reading
  · rcases unread : connection.inbox with _ | ⟨line, rest⟩
    · unfold SocketServer.handle
      rw [found]
      dsimp only
      rw [reading, unread]
      exact .refl server
    · have serving : connection.phase.isServing = true := reading ▸ rfl
      obtain ⟨next, after, handled, takes⟩ := handle_takes sound found reading unread
      have put := continues_put found (takes.follows serving) fun isOpen => takes.isOpen ▸ isOpen
      rw [handled]
      intro other
      have same : (next.put number after).connections = (server.put number after).connections :=
        congrArg (·.set number after) takes.connections
      rw [same]
      exact put other
  · unfold SocketServer.handle
    rw [found]
    dsimp only
    split
    · next reads _ => exact absurd reads reading
    · exact .refl server

/-! ## Clients that come and go -/

theorem Held.connection {connection : Connection} (held : server.Held clientId number)
    (found : server.connections.get? number = some connection) :
    connection.clientId = clientId ∧ connection.phase.isServing = true := by
  obtain ⟨_, connection', found', own, serving⟩ := held
  obtain rfl := Option.some.inj (found.symm.trans found')
  exact ⟨own, serving⟩

theorem Listed.connect (sound : server.Sound runtime) (listed : server.Listed)
    (number clientId : ℕ) : (server.connect number clientId).Listed := by
  unfold SocketServer.connect
  rcases fresh : server.connections.get? number with _ | _
  · dsimp only
    split
    · next unused =>
        refine ⟨fun other connection found isOpen => ?_, fun own other entered => ?_⟩
        · rcases Dict.get?_set_eq_some_iff.mp found with ⟨rfl, rfl⟩ | ⟨_, before⟩
          · exact Dict.get?_set_self _ _ _
          · have serving := (sound.each other connection before).serving isOpen
            have apart := unused (other, connection) (Dict.get?_eq_some_iff.mp before)
              (Phase.holdsWriter_of_isServing serving)
            exact (Dict.get?_set_of_ne _ _ apart).trans
              (listed.listed other connection before isOpen)
        · rcases Dict.get?_set_eq_some_iff.mp entered with ⟨rfl, rfl⟩ | ⟨_, before⟩
          · exact ⟨{ clientId := own }, Dict.get?_set_self _ _ _, rfl, rfl⟩
          · obtain ⟨connection, found, rest⟩ := listed.served own other before
            have old : other ≠ number := by
              rintro rfl
              cases fresh.symm.trans found
            exact ⟨connection, (Dict.get?_set_of_ne _ _ old).trans found, rest⟩
    · exact listed
  · exact listed

theorem Carries.connect (number clientId : ℕ) :
    server.Carries (server.connect number clientId) := by
  unfold SocketServer.connect
  rcases fresh : server.connections.get? number with _ | _
  · dsimp only
    split
    · next unused =>
        have old {own other : ℕ} (held : server.Held own other) :
            own ≠ clientId ∧ other ≠ number := by
          obtain ⟨_, connection, found, rfl, serving⟩ := held
          refine ⟨unused (other, connection) (Dict.get?_eq_some_iff.mp found)
            (Phase.holdsWriter_of_isServing serving), ?_⟩
          rintro rfl
          cases fresh.symm.trans found
        refine ⟨fun own other held => ?_, fun own other held entered => ?_, fun _ _ => id,
          fun own other held shut => ?_⟩
        · have apart := old held
          obtain ⟨member, connection, found, rest⟩ := held
          exact ⟨member, connection, (Dict.get?_set_of_ne _ _ apart.2).trans found, rest⟩
        · exact (Dict.get?_set_of_ne _ _ (old held).1).trans entered
        · unfold isOpenAt at shut ⊢
          rw [Dict.get?_set_of_ne _ _ (old held).2]
          exact shut
    · exact .of_continues (.refl server) rfl (.refl _)
  · exact .of_continues (.refl server) rfl (.refl _)

theorem Listed.leave (sound : server.Sound runtime) (listed : server.Listed) (number : ℕ) :
    (server.leave number).Listed := by
  unfold SocketServer.leave
  rcases found : server.connections.get? number with _ | connection
  · exact listed
  dsimp only
  split
  · next serving =>
      have holds := Phase.holdsWriter_of_isServing serving
      refine ⟨fun other after found' isOpen => ?_, fun own other entered => ?_⟩
      · by_cases left : other = number
        · subst left
          obtain rfl := Option.some.inj (get?_put_self.symm.trans found')
          cases isOpen
        · have before := (get?_put_of_ne left).symm.trans found'
          have serving' := (sound.each other after before).serving isOpen
          have apart : after.clientId ≠ connection.clientId := fun same =>
            left (sound.apart before found (Phase.holdsWriter_of_isServing serving') holds same)
          exact (Dict.get?_pop_of_ne _ apart).trans (listed.listed other after before isOpen)
      · have apart : own ≠ connection.clientId := by
          rintro rfl
          cases (Dict.get?_pop_self _ _).symm.trans entered
        have before := (Dict.get?_pop_of_ne _ apart).symm.trans entered
        obtain ⟨after, found', same, serving'⟩ := listed.served own other before
        have old : other ≠ number := by
          rintro rfl
          obtain rfl := Option.some.inj (found.symm.trans found')
          exact apart same.symm
        exact ⟨after, (get?_put_of_ne old).trans found', same, serving'⟩
  · exact listed

/-- A client that leaves takes its subscriptions with it; if there were none, the others are
carried over. -/
theorem Carries.leave {number : ℕ}
    (steady : (server.leave number).subscriptions.keys = server.subscriptions.keys) :
    server.Carries (server.leave number) := by
  unfold SocketServer.leave at steady ⊢
  rcases found : server.connections.get? number with _ | connection
  · exact .of_continues (.refl server) rfl (.refl _)
  rw [found] at steady
  dsimp only at steady ⊢
  split at steady
  · next serving =>
      rw [if_pos serving]
      have absent : connection.clientId ∉ server.subscriptions.keys := by
        intro member
        rw [← steady] at member
        exact (Dict.mem_keys_pop.mp member).1 rfl
      have old {own other : ℕ} (held : server.Held own other) :
          own ≠ connection.clientId ∧ other ≠ number := by
        refine ⟨fun same => absent (same ▸ held.1), ?_⟩
        rintro rfl
        exact absent ((held.connection found).1 ▸ held.1)
      refine ⟨fun own other held => ?_, fun own other held entered => ?_,
        fun own eventType listens => ?_, fun own other held shut => ?_⟩
      · have apart := old held
        obtain ⟨member, after, found', rest⟩ := held
        exact ⟨Dict.mem_keys_pop.mpr ⟨apart.1, member⟩, after,
          (get?_put_of_ne apart.2).trans found', rest⟩
      · exact (Dict.get?_pop_of_ne _ (old held).1).trans entered
      · obtain ⟨subscribed, entered, listens⟩ := listens
        have apart : own ≠ connection.clientId := fun same =>
          absent (same ▸ Dict.mem_keys_of_get? entered)
        exact ⟨subscribed, (Dict.get?_pop_of_ne _ apart).trans entered, listens⟩
      · unfold isOpenAt at shut ⊢
        rw [get?_put_of_ne (old held).2]
        exact shut
  · next left =>
      rw [if_neg left]
      exact .of_continues (.refl server) rfl (.refl _)

/-! ## Dead clients and the end -/

/-- No open connection has the identity. -/
def Shut (server : SocketServer) (clientId : ℕ) : Prop :=
  ∀ number connection, server.connections.get? number = some connection →
    connection.isOpen = true → connection.clientId ≠ clientId

/-- A client that is held for a closed connection has no open one. -/
theorem Held.shut (sound : server.Sound runtime) (held : server.Held clientId number)
    (closed : server.isOpenAt number = false) : server.Shut clientId := by
  rintro other connection found isOpen rfl
  obtain ⟨_, connection', found', same, serving⟩ := held
  have serving' := (sound.each other connection found).serving isOpen
  obtain rfl := sound.apart found found' (Phase.holdsWriter_of_isServing serving')
    (Phase.holdsWriter_of_isServing serving) same.symm
  unfold isOpenAt at closed
  rw [found] at closed
  exact Bool.false_ne_true (closed.symm.trans isOpen)

theorem Listed.removeClients (listed : server.Listed) {dead : List ℕ}
    (shut : ∀ clientId ∈ dead, server.Shut clientId) :
    (dead.foldl SocketServer.removeClient server).Listed := by
  induction dead generalizing server with
  | nil => exact listed
  | cons first dead ih =>
      rw [List.forall_mem_cons] at shut
      apply @ih (server.removeClient first)
      · refine ⟨fun number connection found isOpen => ?_, fun clientId number entered => ?_⟩
        · have apart := shut.1 number connection found isOpen
          exact (Dict.get?_pop_of_ne _ apart).trans (listed.listed number connection found isOpen)
        · have apart : clientId ≠ first := by
            rintro rfl
            cases (Dict.get?_pop_self _ _).symm.trans entered
          exact listed.served clientId number ((Dict.get?_pop_of_ne _ apart).symm.trans entered)
      · exact shut.2

theorem mem_values {κ ν : Type} [DecidableEq κ] {dict : Dict κ ν} {key : κ} {value : ν}
    (found : dict.get? key = some value) : value ∈ dict.values :=
  List.mem_map.mpr ⟨(key, value), Dict.get?_eq_some_iff.mp found, rfl⟩

theorem continues_close (server : SocketServer) (number : ℕ) :
    server.Continues (server.adjust number ({ · with isOpen := false })) := by
  apply continues_adjust
  exact fun connection => ⟨⟨rfl, id, id, List.Subset.refl _⟩, nofun⟩

theorem Continues.trans {middle : SocketServer} (first : server.Continues middle)
    (second : middle.Continues next) : server.Continues next := by
  intro number
  rcases first number with ⟨none, none'⟩ | ⟨connection, between, found, found', follows, stays⟩
  · rcases second number with ⟨_, none''⟩ | ⟨_, _, some, _⟩
    · exact .inl ⟨none, none''⟩
    · cases none'.symm.trans some
  · rcases second number with ⟨none, _⟩ | ⟨_, after, again, found'', follows', stays'⟩
    · cases none.symm.trans found'
    · obtain rfl := Option.some.inj (again.symm.trans found')
      refine .inr ⟨connection, after, found, found'', ⟨follows'.clientId.trans follows.clientId,
        fun holds => follows.holdsWriter (follows'.holdsWriter holds),
        fun serving => follows'.serving (follows.serving serving),
        fun _ member => follows'.calls (follows.calls member)⟩, fun isOpen => stays (stays' isOpen)⟩

/-- Closing some connections, one after another. -/
theorem closed_foldl (numbers : List ℕ) (server : SocketServer) :
    let closed := numbers.foldl
      (fun server number => server.adjust number ({ · with isOpen := false })) server
    server.Continues closed ∧ ∀ number ∈ numbers, ∀ connection,
      closed.connections.get? number = some connection → connection.isOpen = false := by
  induction numbers generalizing server with
  | nil => exact ⟨.refl server, nofun⟩
  | cons first numbers ih =>
      obtain ⟨continues, closed⟩ := ih (server.adjust first ({ · with isOpen := false }))
      refine ⟨(continues_close server first).trans continues, ?_⟩
      rw [List.forall_mem_cons]
      refine ⟨fun connection found => ?_, closed⟩
      rcases continues first with ⟨_, none⟩ | ⟨between, after, before, found', _, stays⟩
      · cases none.symm.trans found
      · obtain rfl := Option.some.inj (found'.symm.trans found)
        by_contra opened
        have still := stays (Bool.eq_true_of_not_eq_false opened)
        unfold adjust at before
        rcases old : server.connections.get? first with _ | connection
        · rw [old] at before
          dsimp only at before
          cases old.symm.trans before
        · rw [old] at before
          obtain rfl := Option.some.inj (get?_put_self.symm.trans before)
          cases still

theorem Listed.stop (listed : server.Listed) : server.stop.Listed where
  listed number connection found isOpen := by
    obtain ⟨continues, closed⟩ := closed_foldl server.clients.values server
    rcases continues number with ⟨_, none⟩ | ⟨before, _, old, found', follows, stays⟩
    · cases none.symm.trans found
    · obtain rfl := Option.some.inj (found'.symm.trans found)
      have entered := listed.listed number before old (stays isOpen)
      exact absurd isOpen (by
        rw [closed number (mem_values entered) _ found]
        exact Bool.false_ne_true)
  served clientId number entered := nomatch entered

theorem Carries.stop (steady : server.stop.subscriptions.keys = server.subscriptions.keys) :
    server.Carries server.stop := by
  have empty : server.subscriptions.keys = [] := steady.symm
  have none {clientId : ℕ} : clientId ∉ server.subscriptions.keys := by
    rw [empty]
    exact List.not_mem_nil
  exact ⟨fun _ _ held => absurd held.1 none, fun _ _ held => absurd held.1 none,
    fun _ _ listens => absurd (Dict.mem_keys_of_get? listens.choose_spec.1) none,
    fun _ _ held => absurd held.1 none⟩

end SocketServer

end Vcompany.Daemon
