import Vcompany.Daemon.SocketServer
import Mathlib.Data.Finset.Card
import Mathlib.Data.Finset.Sort
import Mathlib.Data.List.Lex
import Mathlib.Data.Char
import Mathlib.Data.Prod.Lex
import Mathlib.Algebra.Order.Ring.Unbundled.Rat

/-! # Requests to subscribe

`_handle_subscribe` updates the client's set in place with whatever it is given to iterate over,
and then sorts the set for the response. A value that cannot be hashed ends the update half-way,
and a set of values that cannot be compared is kept although it cannot be listed. A text is
iterated over by its characters.

`subscribe_allOrNothing_iff` gives the requests that leave the set as it is where they fail, and
are answered by the right names where they do not.
-/

namespace Vcompany.Daemon

open Foundation

/-! ## The values of JSON -/

/-- A value that a JSON text can hold. -/
inductive IsJson : PyValue → Prop where
  | none : IsJson .none
  | str (text : Text) : IsJson (.str text)
  | num (value : ℚ) : IsJson (.num value)
  | list {items : List PyValue} (each : ∀ item ∈ items, IsJson item) : IsJson (.list items)
  | dict {entries : List (PyValue × PyValue)}
      (keys : ∀ entry ∈ entries, ∃ text, entry.1 = .str text)
      (values : ∀ entry ∈ entries, IsJson entry.2) : IsJson (.dict entries)

/-- What a set keeps of the texts. -/
def isText : HashKey → Bool
  | .str _ => true
  | _ => false

/-- What a set keeps of the numbers and of `True` and `False`. -/
def isNumber : HashKey → Bool
  | .num _ => true
  | _ => false

/-- The elements come from JSON. -/
def Scalars (keys : Finset HashKey) : Prop :=
  ∀ key ∈ keys, key = .none ∨ isText key = true ∨ isNumber key = true

/-- A set that `sorted` can order: `<` compares texts with each other, and numbers. -/
def Sortable (keys : Finset HashKey) : Prop :=
  keys.card ≤ 1 ∨ (∀ key ∈ keys, isText key = true) ∨ ∀ key ∈ keys, isNumber key = true

instance (keys : Finset HashKey) : Decidable (Sortable keys) :=
  inferInstanceAs (Decidable (_ ∨ _ ∨ _))

/-- The list has the elements of the set, each of them once. -/
def Lists (values : List PyValue) (keys : Finset HashKey) : Prop :=
  PyValue.hashAll values = .ok keys ∧ values.length = keys.card

/-- What the server relies on of `sorted`, as far as the sets come from JSON. -/
structure Sorts (sorted : Finset HashKey → Except Text (List PyValue)) : Prop where
  lists : ∀ {keys}, Scalars keys → Sortable keys →
    ∃ values, sorted keys = .ok values ∧ Lists values keys
  refuses : ∀ {keys}, Scalars keys → ¬ Sortable keys → ∃ message, sorted keys = .error message

/-! ## The request -/

/-- The events that the client is subscribed to. -/
def SocketServer.subscribed (server : SocketServer) (clientId : ℕ) : Finset HashKey :=
  (server.subscriptions.get? clientId).getD ∅

/-- What `_dispatch` does for a request to subscribe: its response. -/
def dispatchSubscribe (runtime : SocketRuntime) (id : Text) (clientId : ℕ) (params : PyValue)
    (server : SocketServer) : Outgoing × SocketServer :=
  let (result, next) := handleSubscribe runtime clientId params server
  (.ofResult id result, next)

/-- The value under `events`. -/
def eventsOf (params : PyValue) : Except PyExc PyValue :=
  params.get "events".toList (.list [])

/-- The names among the values, as far as the first that cannot be hashed. -/
def namesIn : List PyValue → Finset HashKey
  | [] => ∅
  | item :: rest =>
      match item.hash with
      | .error _ => ∅
      | .ok key => insert key (namesIn rest)

/-- All of the values can be hashed. -/
def Hashable (items : List PyValue) : Prop := ∀ item ∈ items, item.hash.isOk = true

instance (items : List PyValue) : Decidable (Hashable items) :=
  inferInstanceAs (Decidable (∀ _ ∈ _, _))

/-- The names that a request asks for: a text under `events` is one. -/
def requestedNames (params : PyValue) : Finset HashKey :=
  match eventsOf params with
  | .error _ => ∅
  | .ok (.str text) => {.str text}
  | .ok events =>
      match events.iter with
      | .error _ => ∅
      | .ok items => namesIn items

/-- A request that fails leaves the client's set as it was, and one that succeeds lists this set
with the requested names. -/
def AllOrNothing (runtime : SocketRuntime) (id : Text) (clientId : ℕ) (params : PyValue)
    (server : SocketServer) : Prop :=
  match dispatchSubscribe runtime id clientId params server with
  | (.error _ _ _, next) => next.subscribed clientId = server.subscribed clientId
  | (.response _ result, _) =>
      ∃ values, result = .dict [(.str "subscribed".toList, .list values)] ∧
        Lists values (server.subscribed clientId ∪ requestedNames params)
  | (.event _ _, _) => False

/-- The condition on the request and the set before it. What the code iterates over can be
hashed and, with the set, be sorted, and a text has one character or is subscribed to along with
its characters; or it cannot, and what comes before the first value that cannot be hashed is
subscribed to. -/
def Clean (held : Finset HashKey) (params : PyValue) : Prop :=
  ∀ events items, eventsOf params = .ok events → events.iter = .ok items →
    if Hashable items ∧ Sortable (held ∪ namesIn items) then
      ∀ text, events = .str text → text.length = 1 ∨ .str text ∈ held ∧ namesIn items ⊆ held
    else namesIn items ⊆ held

variable {runtime : SocketRuntime} {held keys : Finset HashKey} {items : List PyValue}
  {params events : PyValue} {id : Text} {clientId : ℕ} {server : SocketServer}

/-! ## Names -/

theorem IsJson.scalar {value : PyValue} (json : IsJson value) {key : HashKey}
    (hashed : value.hash = .ok key) :
    key = .none ∨ isText key = true ∨ isNumber key = true := by
  cases json with
  | none =>
      cases hashed
      exact .inl rfl
  | str =>
      cases hashed
      exact .inr (.inl rfl)
  | num =>
      cases hashed
      exact .inr (.inr rfl)
  | list => cases hashed
  | dict => cases hashed

theorem IsJson.iter (json : IsJson events) (iterated : events.iter = .ok items) :
    ∀ item ∈ items, IsJson item := by
  cases json with
  | none => cases iterated
  | str text =>
      cases iterated
      rw [List.forall_mem_map]
      exact fun c _ => .str [c]
  | num => cases iterated
  | list each =>
      cases iterated
      exact each
  | dict keys =>
      cases iterated
      rw [List.forall_mem_map]
      intro entry member
      obtain ⟨text, isText⟩ := keys entry member
      exact isText ▸ .str text

theorem IsJson.under (json : IsJson params) (found : eventsOf params = .ok events) :
    IsJson events := by
  unfold eventsOf at found
  cases json with
  | dict keys values =>
      obtain rfl := Except.ok.inj found
      rcases first : List.find? _ _ with _ | entry
      · exact .list nofun
      · exact values entry (List.mem_of_find?_eq_some first)
  | _ => cases found

theorem scalars_namesIn (json : ∀ item ∈ items, IsJson item) : Scalars (namesIn items) := by
  induction items with
  | nil => exact nofun
  | cons item rest ih =>
      rw [List.forall_mem_cons] at json
      unfold namesIn
      rcases hashed : item.hash with raised | key
      · exact nofun
      · intro other member
        rcases Finset.mem_insert.mp member with rfl | later
        · exact json.1.scalar hashed
        · exact ih json.2 other later

theorem Scalars.union (first : Scalars held) (second : Scalars keys) : Scalars (held ∪ keys) := by
  intro key member
  rcases Finset.mem_union.mp member with own | other
  · exact first key own
  · exact second key other

/-- `update` adds the names as far as the first value that cannot be hashed. -/
theorem updateSet_eq (held : Finset HashKey) (items : List PyValue) :
    (updateSet held items).1 = held ∪ namesIn items ∧
      ((updateSet held items).2 = none ↔ Hashable items) := by
  induction items generalizing held with
  | nil => exact ⟨(Finset.union_empty held).symm, iff_of_true rfl nofun⟩
  | cons item rest ih =>
      unfold updateSet namesIn Hashable
      rw [List.forall_mem_cons]
      rcases item.hash with raised | key
      · exact ⟨(Finset.union_empty held).symm,
          iff_of_false (Option.some_ne_none _) fun all => Bool.false_ne_true all.1⟩
      · obtain ⟨names, hashed⟩ := ih (insert key held)
        refine ⟨?_, hashed.trans (and_iff_right rfl).symm⟩
        rw [names, Finset.insert_union, Finset.union_insert]

/-- The characters of a text are names. -/
theorem mem_namesIn_chars {text : Text} {key : HashKey} :
    key ∈ namesIn (text.map fun c => .str [c]) ↔ ∃ c ∈ text, key = .str [c] := by
  induction text with
  | nil => simp [namesIn]
  | cons c rest ih =>
      rw [List.map_cons, namesIn]
      change key ∈ insert _ _ ↔ _
      rw [Finset.mem_insert, ih]
      simp

/-- A text is as good as its characters if it is one, or if all of these are held. -/
theorem union_chars_eq_iff (text : Text) :
    held ∪ namesIn (text.map fun c => .str [c]) = held ∪ {.str text} ↔
      text.length = 1 ∨ .str text ∈ held ∧ namesIn (text.map fun c => .str [c]) ⊆ held := by
  constructor
  · intro same
    by_cases one : text.length = 1
    · exact .inl one
    have apart : ∀ c : Char, ([c] : Text) ≠ text := fun c equal => one (equal ▸ rfl)
    right
    constructor
    · have own : HashKey.str text ∈ held ∪ namesIn (text.map fun c => .str [c]) :=
        same ▸ Finset.mem_union_right _ (Finset.mem_singleton_self _)
      refine (Finset.mem_union.mp own).resolve_right fun character => ?_
      obtain ⟨c, -, equal⟩ := mem_namesIn_chars.mp character
      exact apart c (HashKey.str.inj equal).symm
    · intro key member
      have own : key ∈ held ∪ {.str text} := same ▸ Finset.mem_union_right _ member
      refine (Finset.mem_union.mp own).resolve_right fun whole => ?_
      obtain ⟨c, -, equal⟩ := mem_namesIn_chars.mp member
      exact apart c (HashKey.str.inj (equal.symm.trans (Finset.mem_singleton.mp whole)))
  · rintro (one | ⟨whole, characters⟩)
    · obtain ⟨c, rfl⟩ := List.length_eq_one_iff.mp one
      rfl
    · rw [Finset.union_eq_left.mpr characters,
        Finset.union_eq_left.mpr (Finset.singleton_subset_iff.mpr whole)]

/-! ## The response -/

theorem subscribed_set (server : SocketServer) (clientId : ℕ) (keys : Finset HashKey) :
    SocketServer.subscribed
      { server with subscriptions := server.subscriptions.set clientId keys } clientId = keys := by
  unfold SocketServer.subscribed
  rw [Dict.get?_set_self]
  rfl

/-- A request with nothing to iterate over fails, and leaves the set as it was. -/
theorem dispatchSubscribe_of_not_iter
    (apart : ∀ events items, eventsOf params = .ok events → events.iter ≠ .ok items) :
    ∃ next message, next.subscribed clientId = server.subscribed clientId ∧
      dispatchSubscribe runtime id clientId params server =
        (.error (some id) .internalError message, next) := by
  unfold eventsOf at apart
  unfold dispatchSubscribe handleSubscribe
  rcases found : params.get "events".toList (.list []) with raised | events
  · exact ⟨server, _, rfl, rfl⟩
  · dsimp only
    rcases iterated : events.iter with raised | items
    · exact ⟨_, _, subscribed_set server clientId _, rfl⟩
    · exact absurd iterated (apart events items found)

/-- What a request does whose value under `events` is iterated over. -/
theorem dispatchSubscribe_of_iter (found : eventsOf params = .ok events)
    (iterated : events.iter = .ok items) :
    ∃ next, next.subscribed clientId = server.subscribed clientId ∪ namesIn items ∧
      ((¬ Hashable items ∧ ∃ message, dispatchSubscribe runtime id clientId params server =
          (.error (some id) .internalError message, next)) ∨
        (Hashable items ∧ dispatchSubscribe runtime id clientId params server =
          (.ofResult id ((runtime.sorted (server.subscribed clientId ∪ namesIn items)).map
            fun values => .dict [(.str "subscribed".toList, .list values)]), next))) := by
  obtain ⟨names, hashed⟩ := updateSet_eq (server.subscribed clientId) items
  unfold eventsOf at found
  unfold SocketServer.subscribed at names hashed ⊢
  unfold dispatchSubscribe handleSubscribe
  rw [found]
  dsimp only
  rw [iterated]
  dsimp only
  refine ⟨_, (subscribed_set server clientId _).trans names, ?_⟩
  rcases updated : updateSet ((server.subscriptions.get? clientId).getD ∅) items with
    ⟨keys, _ | raised⟩
  · rw [updated] at names hashed
    refine .inr ⟨hashed.mp rfl, ?_⟩
    rw [← names]
    dsimp only
    rcases runtime.sorted keys with message | values <;> rfl
  · rw [updated] at hashed
    exact .inl ⟨fun all => Option.some_ne_none _ (hashed.mpr all), _, rfl⟩

theorem requestedNames_of_text {text : Text} (found : eventsOf params = .ok (.str text)) :
    requestedNames params = {.str text} := by
  unfold requestedNames
  rw [found]

theorem requestedNames_of_iter (found : eventsOf params = .ok events)
    (iterated : events.iter = .ok items) (other : ∀ text, events ≠ .str text) :
    requestedNames params = namesIn items := by
  unfold requestedNames
  rw [found]
  split
  · next failed => cases failed
  · next text isText => exact absurd (Except.ok.inj isText) (other text)
  · next events' _ same =>
      obtain rfl := Except.ok.inj same
      rw [iterated]

/-- Where the set can be sorted, the response is right unless it takes a text apart. -/
theorem union_requestedNames_iff (found : eventsOf params = .ok events)
    (iterated : events.iter = .ok items) :
    held ∪ namesIn items = held ∪ requestedNames params ↔
      ∀ text, events = .str text → text.length = 1 ∨ .str text ∈ held ∧ namesIn items ⊆ held := by
  by_cases isText : ∃ text, events = .str text
  · obtain ⟨text, rfl⟩ := isText
    obtain rfl : text.map (fun c => .str [c]) = items := Except.ok.inj iterated
    rw [requestedNames_of_text found, union_chars_eq_iff]
    constructor
    · rintro fits _ ⟨⟩
      exact fits
    · exact fun fits => fits text rfl
  · have other : ∀ text, events ≠ .str text := fun text same => isText ⟨text, same⟩
    rw [requestedNames_of_iter found iterated other]
    exact iff_of_true rfl fun text same => absurd same (other text)

/-- The condition, for a value under `events` that is iterated over. -/
theorem clean_iff (found : eventsOf params = .ok events) (iterated : events.iter = .ok items) :
    Clean held params ↔
      if Hashable items ∧ Sortable (held ∪ namesIn items) then
        ∀ text, events = .str text → text.length = 1 ∨ .str text ∈ held ∧ namesIn items ⊆ held
      else namesIn items ⊆ held := by
  refine ⟨fun clean => clean events items found iterated, fun own other others isEvents its => ?_⟩
  obtain rfl := Except.ok.inj (found.symm.trans isEvents)
  obtain rfl := Except.ok.inj (iterated.symm.trans its)
  exact own

theorem Lists.unique {values : List PyValue} (first : Lists values held)
    (second : Lists values keys) : held = keys :=
  Except.ok.inj (first.1.symm.trans second.1)

/-- **Requests to subscribe.** A request that fails leaves the client's set as it was, and one
that succeeds lists it with the requested names, exactly under the condition. -/
theorem subscribe_allOrNothing_iff (sorts : Sorts runtime.sorted) (json : IsJson params)
    (held : Scalars (server.subscribed clientId)) :
    AllOrNothing runtime id clientId params server ↔
      Clean (server.subscribed clientId) params := by
  unfold AllOrNothing
  by_cases iterates : ∃ events items, eventsOf params = .ok events ∧ events.iter = .ok items
  · obtain ⟨events, items, found, iterated⟩ := iterates
    have scalars : Scalars (server.subscribed clientId ∪ namesIn items) :=
      held.union (scalars_namesIn ((json.under found).iter iterated))
    rw [clean_iff found iterated]
    obtain ⟨next, after, ⟨unhashed, message, response⟩ | ⟨hashed, response⟩⟩ :=
      @dispatchSubscribe_of_iter runtime items params events id clientId server found iterated
    · rw [response, if_neg fun both => unhashed both.1]
      dsimp only
      rw [after, Finset.union_eq_left]
    · rw [response]
      by_cases sortable : Sortable (server.subscribed clientId ∪ namesIn items)
      · obtain ⟨values, sorted, lists⟩ := sorts.lists scalars sortable
        rw [sorted, if_pos ⟨hashed, sortable⟩, ← union_requestedNames_iff found iterated]
        constructor
        · rintro ⟨_, ⟨⟩, right⟩
          exact lists.unique right
        · exact fun same => ⟨values, rfl, same ▸ lists⟩
      · obtain ⟨message, sorted⟩ := sorts.refuses scalars sortable
        rw [sorted, if_neg fun both => sortable both.2]
        change next.subscribed clientId = _ ↔ _
        rw [after, Finset.union_eq_left]
  · have apart : ∀ events items, eventsOf params = .ok events → events.iter ≠ .ok items :=
      fun events items found iterated => iterates ⟨events, items, found, iterated⟩
    obtain ⟨next, message, same, response⟩ :=
      @dispatchSubscribe_of_not_iter runtime params id clientId server apart
    rw [response]
    exact iff_of_true same fun events items found iterated =>
      absurd iterated (apart events items found)

/-- The request of a client whose method is the server's own is answered in this way. -/
theorem dispatch_subscribe {number : ℕ} {connection : Connection} {request : Request}
    (builtin : server.methods.get? request.method = some .subscribe) :
    dispatch runtime number connection request server =
      (dispatchSubscribe runtime request.id connection.clientId request.params server).2.put number
        ((connection.record request (some
          (handleSubscribe runtime connection.clientId request.params server).1)).answer
            (dispatchSubscribe runtime request.id connection.clientId request.params
              server).1) := by
  unfold dispatch
  rw [builtin]
  rfl

/-! ## Sorting -/

/-- The value of an element. -/
def valueOf : HashKey → PyValue
  | .none => .none
  | .str text => .str text
  | .num value => .num value
  | .other key => .other (some key) true
  | .bytes octets => .bytes octets

/-- An order of all elements, which is that of Python on the texts and on the numbers. -/
def sortKey : HashKey → ℕ ×ₗ Text ×ₗ ℚ ×ₗ List ℕ
  | .none => toLex (0, toLex ([], toLex (0, [])))
  | .str text => toLex (1, toLex (text, toLex (0, [])))
  | .num value => toLex (2, toLex ([], toLex (value, [])))
  | .other key => toLex (3, toLex ([], toLex (key, [])))
  | .bytes octets => toLex (4, toLex ([], toLex (0, octets)))

theorem sortKey_injective : Function.Injective sortKey := by
  intro first second same
  cases first <;> cases second <;> simp_all [sortKey]

/-- `sorted` of a set. -/
def sortedKeys (keys : Finset HashKey) : Except Text (List PyValue) :=
  letI := LinearOrder.lift' sortKey sortKey_injective
  if Sortable keys then .ok ((keys.sort (· ≤ ·)).map valueOf)
  else .error "'<' not supported between these instances"

theorem hashAll_map_valueOf {elements : List HashKey} (scalars : Scalars elements.toFinset) :
    PyValue.hashAll (elements.map valueOf) = .ok elements.toFinset := by
  induction elements with
  | nil => rfl
  | cons key rest ih =>
      have hashed : (valueOf key).hash = .ok key := by
        rcases scalars key (List.mem_toFinset.mpr List.mem_cons_self) with rfl | text | number
        · rfl
        · cases key with
          | str => rfl
          | _ => cases text
        · cases key with
          | num => rfl
          | _ => cases number
      have later := ih fun other member => scalars other (List.mem_toFinset.mpr
        (List.mem_cons_of_mem key (List.mem_toFinset.mp member)))
      rw [List.map_cons, PyValue.hashAll, hashed, PyExc.ok_bind, later, List.toFinset_cons]
      rfl

theorem sorts_sortedKeys : Sorts sortedKeys where
  lists {keys} scalars sortable := by
    let := LinearOrder.lift' sortKey sortKey_injective
    refine ⟨(keys.sort (· ≤ ·)).map valueOf, if_pos sortable, ?_, ?_⟩
    · rw [hashAll_map_valueOf, Finset.sort_toFinset]
      rw [Finset.sort_toFinset]
      exact scalars
    · rw [List.length_map, Finset.length_sort]
  refuses _ unsortable := ⟨_, if_neg unsortable⟩

/-- The libraries, as far as a request to subscribe comes to them. -/
private def subscribing : SocketRuntime where
  requests := ⟨fun _ => [], fun _ => .error .valueError⟩
  helloVersion _ := .ok protocolVersion
  sorted := sortedKeys
  describe _ _ := []

private def asking (events : List PyValue) : PyValue := .dict [(.str "events".toList, .list events)]

private theorem asking_isJson {events : List PyValue} (each : ∀ item ∈ events, IsJson item) :
    IsJson (asking events) := by
  refine .dict ?_ ?_
  · rw [List.forall_mem_singleton]
    exact ⟨_, rfl⟩
  · rw [List.forall_mem_singleton]
    exact .list each

theorem plain_subscription :
    IsJson (asking [.str "health_change"]) ∧ Scalars (SocketServer.new.subscribed 0) ∧
      AllOrNothing subscribing [] 0 (asking [.str "health_change"]) .new := by
  have json : IsJson (asking [.str "health_change"]) :=
    asking_isJson (List.forall_mem_singleton.mpr (.str _))
  have empty : Scalars (SocketServer.new.subscribed 0) := nofun
  refine ⟨json, empty, (subscribe_allOrNothing_iff sorts_sortedKeys json empty).mpr ?_⟩
  rintro _ _ ⟨⟩ ⟨⟩
  rw [if_pos (by decide)]
  exact fun _ other => nomatch other

/-- A list behind a name: the request fails, and the client is subscribed to the name. -/
theorem half_subscription :
    ¬ ∀ (runtime : SocketRuntime) (id : Text) (clientId : ℕ) (params : PyValue)
      (server : SocketServer), Sorts runtime.sorted → IsJson params →
        Scalars (server.subscribed clientId) → AllOrNothing runtime id clientId params server := by
  intro claim
  have json : IsJson (asking [.str "health_change", .list []]) := by
    apply asking_isJson
    rw [List.forall_mem_cons, List.forall_mem_singleton]
    exact ⟨.str _, .list nofun⟩
  have same := claim subscribing [] 0 _ .new sorts_sortedKeys json nofun
  change ({.str "health_change"} : Finset HashKey) = ∅ at same
  exact absurd same (Finset.singleton_ne_empty _)

end Vcompany.Daemon
