import Vcompany.Shared.StoreContents

/-! # What survives a crash

The history of a store is the list of its calls with their answers. Whatever has been called and
has gone wrong, and however often the process has ended, the value of a key that is found
afterwards was written by a call whose statement was executed, and no later call that wrote the
key has returned (`recovered_value`). The checkpoints that are found are those of the calls that
returned, and of some whose commit raised, the newest first (`recovered_checkpoints`).
-/

namespace Vcompany.Shared

open Foundation

/-- A call with its answer. -/
abbrev StoreExchange := StoreCall × Except PyExc StoreAnswer

/-- The statement of a write was executed: the write returned, or its commit raised. -/
def WriteCourse.executed : WriteCourse → Except PyExc StoreAnswer → Bool
  | .commits, .ok .none => true
  | .commitRaises raised _, .error answered => decide (raised = answered)
  | _, _ => false

namespace StoreExchange

/-- The exchange executed a statement that gave the key this value. -/
def Executes (exchange : StoreExchange) (key : Text) (value : Option Text) : Prop :=
  match exchange.1 with
  | .set written text _ course =>
      written = key ∧ value = some text ∧ course.executed exchange.2 = true
  | .delete written course => written = key ∧ value = none ∧ course.executed exchange.2 = true
  | _ => False

/-- The exchange wrote the key, and returned. -/
def Returns (exchange : StoreExchange) (key : Text) : Prop :=
  match exchange.1 with
  | .set written _ _ _ | .delete written _ => written = key ∧ exchange.2 = .ok .none
  | _ => False

/-- The checkpoint whose statement the exchange executed. -/
def executedCheckpoint (exchange : StoreExchange) : Option Checkpoint :=
  match exchange.1 with
  | .checkpoint label data now course =>
      if course.executed exchange.2 then some ⟨label, data, now⟩ else none
  | _ => none

/-- The checkpoint that the exchange stored, if it returned. -/
def returnedCheckpoint (exchange : StoreExchange) : Option Checkpoint :=
  match exchange.1, exchange.2 with
  | .checkpoint label data now _, .ok .none => some ⟨label, data, now⟩
  | _, _ => none

end StoreExchange

/-- The value was given to the key by an exchange of the history, or is that of an empty store,
and no exchange since has written the key and returned. -/
def Justified (history : List StoreExchange) (key : Text) (value : Option Text) : Prop :=
  (∃ before exchange since, history = before ++ exchange :: since ∧
      StoreExchange.Executes exchange key value ∧
      ∀ later ∈ since, ¬ StoreExchange.Returns later key) ∨
    value = none ∧ ∀ exchange ∈ history, ¬ StoreExchange.Returns exchange key

/-- The contents are those of a store with the history. -/
structure Explained (history : List StoreExchange) (contents : Contents) : Prop where
  values : ∀ key, Justified history key (contents.values key)
  kept : (history.filterMap StoreExchange.returnedCheckpoint).reverse.Sublist contents.log
  stored : contents.log.Sublist (history.filterMap StoreExchange.executedCheckpoint).reverse

/-- What a write does to the contents, and how it goes. -/
def StoreCall.change : StoreCall → Option ((Contents → Contents) × WriteCourse)
  | .set key value _ course => some (Contents.put key value, course)
  | .delete key course => some (Contents.remove key, course)
  | .checkpoint label data now course => some (Contents.note ⟨label, data, now⟩, course)
  | _ => none

variable {history : List StoreExchange} {exchange : StoreExchange} {key : Text}
  {value : Option Text} {contents : Contents}

theorem Justified.later (justified : Justified history key value)
    (unreturned : ¬ exchange.Returns key) : Justified (history ++ [exchange]) key value := by
  rcases justified with ⟨before, writing, since, rfl, executes, none⟩ | ⟨rfl, none⟩
  · refine Or.inl ⟨before, writing, since ++ [exchange], by simp, executes, ?_⟩
    exact List.forall_mem_append.mpr ⟨none, List.forall_mem_singleton.mpr unreturned⟩
  · exact Or.inr ⟨rfl, List.forall_mem_append.mpr
      ⟨none, List.forall_mem_singleton.mpr unreturned⟩⟩

theorem Justified.of_executes (executes : exchange.Executes key value) :
    Justified (history ++ [exchange]) key value :=
  Or.inl ⟨history, exchange, [], rfl, executes, List.forall_mem_nil _⟩

namespace Explained

theorem empty : Explained [] Contents.empty :=
  ⟨fun _ => Or.inr ⟨rfl, List.forall_mem_nil _⟩, List.Sublist.slnil, List.Sublist.slnil⟩

/-- An exchange that does not write and return leaves the contents explained. -/
theorem later (explained : Explained history contents)
    (unreturned : exchange.1.change = none ∨ exchange.2 ≠ .ok .none) :
    Explained (history ++ [exchange]) contents := by
  obtain ⟨call, answer⟩ := exchange
  have noKey (key : Text) : ¬ StoreExchange.Returns (call, answer) key := by
    rcases unreturned with none | raised
    · cases call <;> first | exact id | cases none
    · cases call <;> first | exact id | exact fun returns => raised returns.2
  have noCheckpoint : StoreExchange.returnedCheckpoint (call, answer) = none := by
    rcases unreturned with none | raised
    · cases call <;> first | rfl | cases none
    · unfold StoreExchange.returnedCheckpoint
      split
      · next returned => exact absurd returned raised
      · rfl
  refine ⟨fun key => (explained.values key).later (noKey key), ?_, ?_⟩
  · rw [List.filterMap_append, List.filterMap_cons_none noCheckpoint, List.filterMap_nil,
      List.append_nil]
    exact explained.kept
  · rw [List.filterMap_append, List.reverse_append]
    exact explained.stored.trans (List.sublist_append_right _ _)

/-- An executed statement that writes one key. -/
theorem wrote (explained : Explained history contents) (executes : exchange.Executes key value)
    (others : ∀ other, other ≠ key → ¬ exchange.Returns other)
    (returned : exchange.returnedCheckpoint = none)
    (executed : exchange.executedCheckpoint = none) :
    Explained (history ++ [exchange])
      { contents with values := Function.update contents.values key value } where
  values other := by
    by_cases same : other = key
    · have written : Function.update contents.values key value other = value := by
        rw [same, Function.update_self]
      rw [← written, ← same] at executes
      rw [← same]
      exact .of_executes executes
    · have kept := (explained.values other).later (others other same)
      rwa [← Function.update_of_ne same value contents.values] at kept
  kept := by
    rw [List.filterMap_append, List.filterMap_cons_none returned, List.filterMap_nil,
      List.append_nil]
    exact explained.kept
  stored := by
    rw [List.filterMap_append, List.filterMap_cons_none executed, List.filterMap_nil,
      List.append_nil]
    exact explained.stored

/-- An executed statement that stores a checkpoint. -/
theorem noted (explained : Explained history contents) {checkpoint : Checkpoint}
    (unwritten : ∀ key, ¬ exchange.Returns key)
    (returned : exchange.returnedCheckpoint = none ∨
      exchange.returnedCheckpoint = some checkpoint)
    (executed : exchange.executedCheckpoint = some checkpoint) :
    Explained (history ++ [exchange]) (contents.note checkpoint) where
  values key := (explained.values key).later (unwritten key)
  kept := by
    rw [List.filterMap_append, List.reverse_append]
    rcases returned with none | some
    · rw [List.filterMap_cons_none none]
      exact explained.kept.cons checkpoint
    · rw [List.filterMap_cons_some some]
      exact explained.kept.cons_cons checkpoint
  stored := by
    rw [List.filterMap_append, List.reverse_append, List.filterMap_cons_some executed]
    exact explained.stored.cons_cons checkpoint

/-- A write whose statement was executed explains what it makes of the contents. -/
theorem executed (explained : Explained history contents)
    {change : Contents → Contents} {course : WriteCourse}
    (changes : exchange.1.change = some (change, course))
    (executed : course.executed exchange.2 = true) :
    Explained (history ++ [exchange]) (change contents) := by
  obtain ⟨call, answer⟩ := exchange
  cases call with
  | set written text now own =>
      obtain ⟨rfl, rfl⟩ := Prod.mk.inj (Option.some.inj changes)
      exact explained.wrote ⟨rfl, rfl, executed⟩
        (fun other apart returns => apart returns.1.symm) rfl rfl
  | delete written own =>
      obtain ⟨rfl, rfl⟩ := Prod.mk.inj (Option.some.inj changes)
      exact explained.wrote ⟨rfl, rfl, executed⟩
        (fun other apart returns => apart returns.1.symm) rfl rfl
  | checkpoint label data now own =>
      obtain ⟨rfl, rfl⟩ := Prod.mk.inj (Option.some.inj changes)
      refine explained.noted (fun key => id) ?_ (if_pos executed)
      unfold StoreExchange.returnedCheckpoint
      split
      · next same _ =>
          injection same
          subst_vars
          exact Or.inr rfl
      · exact Or.inl rfl
  | _ => cases changes

end Explained

namespace KeptContents

variable {kept : KeptContents} {call : StoreCall} {change : Contents → Contents}
  {course : WriteCourse} {answer : Except PyExc StoreAnswer}

theorem after_of_change (changes : call.change = some (change, course)) :
    kept.after call = kept.write change course := by
  cases call with
  | set | delete | checkpoint =>
      obtain ⟨rfl, rfl⟩ := Prod.mk.inj (Option.some.inj changes)
      rfl
  | _ => cases changes

theorem answer_of_change (changes : call.change = some (change, course))
    (answers : kept.Answers call answer) : answer = match kept.seen with
      | none => .error .assertionError
      | some _ => writeAnswer course := by
  obtain ⟨saved, seen⟩ := kept
  cases call with
  | set | delete | checkpoint =>
      obtain ⟨rfl, rfl⟩ := Prod.mk.inj (Option.some.inj changes)
      cases seen <;> exact answers
  | _ => cases changes

theorem read_cases (course : QueryCourse) (kept : KeptContents) :
    kept.read course = kept ∨ kept.read course = kept.rollback true := by
  obtain ⟨saved, seen⟩ := kept
  cases seen with
  | none => exact Or.inl rfl
  | some contents =>
      cases course with
      | answers => exact Or.inl rfl
      | raises raised rolledBack =>
          cases rolledBack with
          | false => exact Or.inl rfl
          | true => exact Or.inr rfl

/-- A call that writes nothing may only change what is seen. -/
theorem after_of_unchanged (unchanged : call.change = none) : kept.after call = kept ∨
    kept.after call = kept.rollback true ∨ kept.after call = ⟨kept.saved, none⟩ := by
  cases call with
  | «open» course =>
      cases course with
      | connectRaises raised => exact Or.inl rfl
      | _ => exact Or.inr (Or.inl rfl)
  | close | crash => exact Or.inr (Or.inr rfl)
  | get | keys | getLatestCheckpoint | listCheckpoints =>
      exact (read_cases _ kept).imp_right Or.inl
  | set | delete | checkpoint => cases unchanged

end KeptContents

/-- What is saved and what is seen are explained by the history. -/
structure Accounted (history : List StoreExchange) (kept : KeptContents) : Prop where
  saved : Explained history kept.saved
  seen : ∀ contents, kept.seen = some contents → Explained history contents

namespace Accounted

variable {kept : KeptContents}

theorem fresh : Accounted [] KeptContents.fresh := ⟨.empty, nofun⟩

theorem rollback (accounted : Accounted history kept) (rolledBack : Bool) :
    Accounted history (kept.rollback rolledBack) := by
  cases rolledBack with
  | false => exact accounted
  | true =>
      refine ⟨accounted.saved, fun contents seen => ?_⟩
      obtain rfl := Option.some.inj seen
      exact accounted.saved

theorem later (accounted : Accounted history kept)
    (unreturned : exchange.1.change = none ∨ exchange.2 ≠ .ok .none) :
    Accounted (history ++ [exchange]) kept :=
  ⟨accounted.saved.later unreturned,
    fun contents seen => (accounted.seen contents seen).later unreturned⟩

/-- A write is accounted for, however it goes. -/
theorem write (accounted : Accounted history kept) {change : Contents → Contents}
    {course : WriteCourse} (changes : exchange.1.change = some (change, course))
    (answered : exchange.2 = match kept.seen with
      | none => .error .assertionError
      | some _ => KeptContents.writeAnswer course) :
    Accounted (history ++ [exchange]) (kept.write change course) := by
  obtain ⟨saved, seen⟩ := kept
  cases seen with
  | none => exact accounted.later (Or.inr (by rw [answered]; nofun))
  | some contents =>
      have explained := accounted.seen contents rfl
      cases course with
      | commits =>
          have stored := explained.executed changes (by rw [answered]; rfl)
          refine ⟨stored, fun found seen => ?_⟩
          obtain rfl := Option.some.inj seen
          exact stored
      | executeRaises raised rolledBack =>
          exact (accounted.later (Or.inr (by rw [answered]; nofun))).rollback rolledBack
      | commitRaises raised rolledBack =>
          have staged : Accounted (history ++ [exchange]) ⟨saved, some (change contents)⟩ := by
            refine ⟨accounted.saved.later (Or.inr (by rw [answered]; nofun)), fun found seen => ?_⟩
            obtain rfl := Option.some.inj seen
            exact explained.executed changes (by rw [answered]; exact decide_eq_true rfl)
          exact staged.rollback rolledBack

/-- What is done to a store is accounted for. -/
theorem after (accounted : Accounted history kept) (answers : kept.Answers exchange.1 exchange.2) :
    Accounted (history ++ [exchange]) (kept.after exchange.1) := by
  rcases changes : exchange.1.change with _ | ⟨change, course⟩
  · have later := accounted.later (Or.inl changes)
    rcases KeptContents.after_of_unchanged changes with same | same | same
    · rwa [same]
    · rw [same]
      exact later.rollback true
    · rw [same]
      exact ⟨later.saved, nofun⟩
  · rw [KeptContents.after_of_change changes]
    exact accounted.write changes (KeptContents.answer_of_change changes answers)

end Accounted

/-- The store after the calls and the end of the process, once it is open again. -/
def recovered (calls : List StoreCall) : SqliteStore :=
  settle SqliteStore.perform SqliteStore.fresh (calls ++ [.crash, .open .opens])

/-- What is found after a crash is explained by the history before it. -/
theorem recovered_explained (calls : List StoreCall) : ∃ tables contents,
    (recovered calls).connection = some tables ∧ Represents tables contents ∧
      Explained (exchanges SqliteStore.perform SqliteStore.fresh calls) contents := by
  obtain ⟨last, run, realizes⟩ := sqlite_store_refines calls
  have accounted : Accounted (exchanges SqliteStore.perform SqliteStore.fresh calls) last :=
    run.recorded Accounted
      (fun past kept exchange next before permitted => by
        obtain ⟨answers, rfl⟩ := permitted
        exact before.after answers)
      .fresh
  refine ⟨_, last.saved, ?_, realizes.saved, accounted.saved⟩
  unfold recovered
  rw [settle_append]
  rfl

/-- **No acknowledged write is lost.** After any calls and a crash, the value of a key was
written by a call whose statement was executed, or is that of an empty store, and no call that
wrote the key has returned since. -/
theorem recovered_value (calls : List StoreCall) (key : Text) :
    ∃ value, ((recovered calls).get key .answers).1 = .ok value ∧
      Justified (exchanges SqliteStore.perform SqliteStore.fresh calls) key value := by
  obtain ⟨tables, contents, connected, represents, explained⟩ := recovered_explained calls
  refine ⟨contents.values key, ?_, explained.values key⟩
  unfold SqliteStore.get SqliteStore.query
  rw [connected]
  exact congrArg Except.ok (represents.values key)

/-- **No acknowledged checkpoint is lost.** After any calls and a crash, the log holds the
checkpoints of the calls that returned, in their order, and beside them only checkpoints whose
commit raised; `list_checkpoints` and `get_latest_checkpoint` read that log. -/
theorem recovered_checkpoints (calls : List StoreCall) : ∃ log : List Checkpoint,
    (((exchanges SqliteStore.perform SqliteStore.fresh calls).filterMap
        StoreExchange.returnedCheckpoint).reverse.Sublist log ∧
      log.Sublist ((exchanges SqliteStore.perform SqliteStore.fresh calls).filterMap
        StoreExchange.executedCheckpoint).reverse) ∧
    ((recovered calls).listCheckpoints .answers).1 =
      .ok (log.map fun checkpoint => (checkpoint.label, checkpoint.createdAt)) ∧
    ∀ label, ((recovered calls).getLatestCheckpoint label .answers).1 =
      .ok ((log.find? fun checkpoint => checkpoint.label = label).map Checkpoint.data) := by
  obtain ⟨tables, contents, connected, represents, explained⟩ := recovered_explained calls
  refine ⟨contents.log, ⟨explained.kept, explained.stored⟩, ?_, fun label => ?_⟩
  · unfold SqliteStore.listCheckpoints SqliteStore.query
    rw [connected]
    exact congrArg Except.ok represents.selectLabels
  · unfold SqliteStore.getLatestCheckpoint SqliteStore.query
    rw [connected]
    exact congrArg Except.ok (represents.selectLatest label)

end Vcompany.Shared
