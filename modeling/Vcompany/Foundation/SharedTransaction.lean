import Mathlib.Data.List.Induction
import Mathlib.Data.List.Nodup
import Mathlib.Data.List.Perm.Subperm
import Mathlib.Data.Nat.Notation
import Mathlib.Logic.Function.Basic

/-! # A transaction that callers share

Callers change a state through one connection. A caller demands its change, waits until it has
been made, demands a commit, and waits for that. One thread serves the demands in the order in
which they were made, and all of them in one open transaction: a commit saves what every caller
has changed so far, and a fault may roll all of it back. A caller that is cancelled while it
waits leaves its demand behind. The process may end at any time, and a new one opens the state
again.

What is saved is what the kept changes give, one after the other in the order of the calls, and
a call that has returned is among them unless a fault rolled its change back (`ledger_run`).
-/

namespace Vcompany.Foundation

variable {σ κ : Type*}

/-- A change, and the number of the call that makes it. -/
abbrev CallChange (κ : Type*) := ℕ × κ

/-- The changes, one after the other. -/
def replay (apply : κ → σ → σ) (state : σ) (entries : List (CallChange κ)) : σ :=
  entries.foldl (fun state entry => apply entry.2 state) state

@[simp] theorem replay_nil (apply : κ → σ → σ) (state : σ) : replay apply state [] = state := rfl

theorem replay_append (apply : κ → σ → σ) (state : σ) (first second : List (CallChange κ)) :
    replay apply state (first ++ second) = replay apply (replay apply state first) second :=
  List.foldl_append

theorem replay_concat (apply : κ → σ → σ) (state : σ) (entries : List (CallChange κ))
    (entry : CallChange κ) :
    replay apply state (entries ++ [entry]) = apply entry.2 (replay apply state entries) :=
  replay_append apply state entries [entry]

/-- What is seen of a state is what the last of the changes gives that give anything. -/
theorem view_replay {α : Type*} {apply : κ → σ → σ} {view : σ → α} {gives : κ → Option α}
    (follows : ∀ change state, view (apply change state) = (gives change).getD (view state))
    (state : σ) (entries : List (CallChange κ)) :
    (∃ before entry rest, entries = before ++ entry :: rest ∧
        gives entry.2 = some (view (replay apply state entries)) ∧
        ∀ later ∈ rest, gives later.2 = none) ∨
      view (replay apply state entries) = view state ∧
        ∀ entry ∈ entries, gives entry.2 = none := by
  induction entries using List.reverseRecOn with
  | nil => exact Or.inr ⟨rfl, nofun⟩
  | append_singleton entries last ih =>
      rw [replay_concat, follows]
      rcases given : gives last.2 with _ | value
      · rw [Option.getD_none]
        rcases ih with ⟨before, entry, rest, rfl, gave, silent⟩ | ⟨same, silent⟩
        · refine Or.inl ⟨before, entry, rest ++ [last], by simp, gave, ?_⟩
          exact List.forall_mem_append.mpr ⟨silent, List.forall_mem_singleton.mpr given⟩
        · refine Or.inr ⟨same, ?_⟩
          exact List.forall_mem_append.mpr ⟨silent, List.forall_mem_singleton.mpr given⟩
      · exact Or.inl ⟨entries, last, [], rfl, given, nofun⟩

namespace SharedTransaction

/-- What waits for the thread. -/
inductive Demand (κ : Type*) where
  | change (entry : CallChange κ)
  | commit (call : ℕ)
  | close

/-- The change that a demand is for. -/
def Demand.entry? : Demand κ → Option (CallChange κ)
  | .change entry => some entry
  | .commit _ | .close => none

def Demand.isClose : Demand κ → Bool
  | .close => true
  | .change _ | .commit _ => false

/-- The changes that are demanded in front of a close. -/
def ahead (demands : List (Demand κ)) : List (CallChange κ) :=
  (demands.takeWhile fun demand => !demand.isClose).filterMap Demand.entry?

/-- How far a call has come. -/
inductive Progress where
  | unasked
  /-- It waits for its change. -/
  | asked
  | changed
  /-- It waits for its commit. -/
  | committing
  | committed
  | returned
  | failed
  deriving DecidableEq, Repr

/-- A call that has not returned raises, or is given up. -/
def Progress.failing : Progress → Progress
  | unasked => unasked
  | returned => returned
  | _ => failed

theorem Progress.failing_failing (progress : Progress) :
    progress.failing.failing = progress.failing := by
  cases progress <;> rfl

/-- A call that fails does not wait and does not hold a result. -/
theorem Progress.failing_cases (progress : Progress) :
    progress.failing = .unasked ∨ progress.failing = .failed ∨
      progress.failing = .returned ∧ progress = .returned := by
  cases progress <;> simp [failing]

/-- What an open transaction sees, and the changes that were made in it. -/
structure Open (σ κ : Type*) where
  seen : σ
  pending : List (CallChange κ)

inductive Event (κ : Type*) where
  /-- A process opens the state. -/
  | opens
  | asks (change : κ)
  /-- The thread serves a demand. It may raise, and roll the transaction back. -/
  | serves (fault : Option Bool)
  | resumes (call : ℕ)
  | cancels (call : ℕ)
  | closes
  /-- The process ends. -/
  | ends

end SharedTransaction

open SharedTransaction

/-- The saved state, the process that has it open, and its calls. Beside them the changes that
have been saved and those that were rolled back, in the order in which that happened. -/
structure SharedTransaction (σ κ : Type*) where
  saved : σ
  running : Bool
  transaction : Option (Open σ κ)
  demands : List (Demand κ)
  changes : List κ
  progress : ℕ → Progress
  kept : List (CallChange κ)
  undone : List (CallChange κ)

namespace SharedTransaction

/-- A state that no process has opened. -/
def unopened (saved : σ) : SharedTransaction σ κ where
  saved := saved
  running := false
  transaction := none
  demands := []
  changes := []
  progress _ := .unasked
  kept := []
  undone := []

section

variable (store : SharedTransaction σ κ)

/-- A process connects. -/
def opens : SharedTransaction σ κ :=
  if store.running then store
  else { store with running := true, transaction := some ⟨store.saved, []⟩, demands := [] }

/-- A new call demands its change. -/
def asks (change : κ) : SharedTransaction σ κ :=
  if store.running then
    { store with
      demands := store.demands ++ [.change (store.changes.length, change)]
      changes := store.changes ++ [change]
      progress := Function.update store.progress store.changes.length .asked }
  else store

/-- A call that waits for this is told that it is done. -/
def advances (call : ℕ) (waiting done : Progress) : SharedTransaction σ κ :=
  if store.progress call = waiting then
    { store with progress := Function.update store.progress call done }
  else store

def fails (call : ℕ) : SharedTransaction σ κ :=
  { store with progress := Function.update store.progress call (store.progress call).failing }

/-- A fault in the transaction. -/
def faults (rolledBack : Bool) (pending : List (CallChange κ)) : SharedTransaction σ κ :=
  if rolledBack then
    { store with transaction := some ⟨store.saved, []⟩, undone := store.undone ++ pending }
  else store

/-- The thread makes a change. -/
def makes (apply : κ → σ → σ) (entry : CallChange κ) (fault : Option Bool) :
    SharedTransaction σ κ :=
  match store.transaction, fault with
  | none, _ => store.fails entry.1
  | some current, some rolledBack => (store.faults rolledBack current.pending).fails entry.1
  | some current, none =>
      { store with
        transaction := some ⟨apply entry.2 current.seen, current.pending ++ [entry]⟩ }.advances
        entry.1 .asked .changed

/-- The thread commits. -/
def commits (call : ℕ) (fault : Option Bool) : SharedTransaction σ κ :=
  match store.transaction, fault with
  | none, _ => store.fails call
  | some current, some rolledBack => (store.faults rolledBack current.pending).fails call
  | some current, none =>
      { store with
        saved := current.seen
        kept := store.kept ++ current.pending
        transaction := some ⟨current.seen, []⟩ }.advances call .committing .committed

/-- The thread takes a demand. -/
def serve (apply : κ → σ → σ) (demand : Demand κ) (fault : Option Bool) :
    SharedTransaction σ κ :=
  match demand with
  | .change entry => store.makes apply entry fault
  | .commit call => store.commits call fault
  | .close => { store with transaction := none }

def serves (apply : κ → σ → σ) (fault : Option Bool) : SharedTransaction σ κ :=
  match store.demands with
  | [] => store
  | demand :: demands => { store with demands }.serve apply demand fault

/-- A call goes on. -/
def resumes (call : ℕ) : SharedTransaction σ κ :=
  match store.progress call with
  | .changed =>
      { store with
        demands := store.demands ++ [.commit call]
        progress := Function.update store.progress call .committing }
  | .committed => { store with progress := Function.update store.progress call .returned }
  | _ => store

def closes : SharedTransaction σ κ :=
  if store.running then { store with demands := store.demands ++ [.close] } else store

def ends : SharedTransaction σ κ :=
  { store with
    running := false
    transaction := none
    demands := []
    progress := fun call => (store.progress call).failing }

/-- The changes in the open transaction. -/
def pending : List (CallChange κ) := (store.transaction.map Open.pending).getD []

/-- The changes that wait for the thread. -/
def queued : List (CallChange κ) := store.demands.filterMap Demand.entry?

/-- The changes, wherever they have come to. -/
def entries : List (CallChange κ) := store.kept ++ store.undone ++ store.pending ++ store.queued

/-- The changes that may still be saved. -/
def inHand : List (CallChange κ) :=
  match store.transaction with
  | none => []
  | some current => current.pending ++ ahead store.demands

/-- No change that is demanded from now on will be made. -/
def Closing : Prop := store.transaction = none ∨ store.demands.any Demand.isClose = true

end

def perform (apply : κ → σ → σ) (store : SharedTransaction σ κ) : Event κ → SharedTransaction σ κ
  | .opens => store.opens
  | .asks change => store.asks change
  | .serves fault => store.serves apply fault
  | .resumes call => store.resumes call
  | .cancels call => store.fails call
  | .closes => store.closes
  | .ends => store.ends

/-- Where the events lead. -/
def run (apply : κ → σ → σ) (store : SharedTransaction σ κ) (events : List (Event κ)) :
    SharedTransaction σ κ := events.foldl (perform apply) store

theorem opens_of_stopped {store : SharedTransaction σ κ} (stopped : ¬ store.running = true) :
    store.opens =
      { store with running := true, transaction := some ⟨store.saved, []⟩, demands := [] } :=
  if_neg stopped

theorem running_asks {store : SharedTransaction σ κ} (change : κ) :
    (store.asks change).running = store.running := by
  unfold asks
  split <;> rfl

theorem changes_asks {store : SharedTransaction σ κ} (running : store.running = true)
    (change : κ) : (store.asks change).changes = store.changes ++ [change] := by
  unfold asks
  rw [if_pos running]

/-- The calls are those from before, and the new one. -/
theorem called_asks_iff {store : SharedTransaction σ κ} (running : store.running = true)
    {change written : κ} {call : ℕ} :
    (store.asks change).changes[call]? = some written ↔
      store.changes[call]? = some written ∨ call = store.changes.length ∧ change = written := by
  rw [changes_asks running]
  rcases Nat.lt_trichotomy call store.changes.length with old | rfl | beyond
  · rw [List.getElem?_append_left old]
    exact (or_iff_left fun new => Nat.ne_of_lt old new.1).symm
  · rw [List.getElem?_concat_length, List.getElem?_eq_none (Nat.le_refl _)]
    simp
  · rw [List.getElem?_eq_none (by simp; omega), List.getElem?_eq_none (Nat.le_of_lt beyond)]
    exact (or_iff_left fun new => Nat.ne_of_gt beyond new.1).symm

theorem pending_of_open {store : SharedTransaction σ κ} {current : Open σ κ}
    (opened : store.transaction = some current) : store.pending = current.pending := by
  unfold pending
  rw [opened]
  rfl

/-- What is known of each change and of each call. -/
structure Ledger (apply : κ → σ → σ) (base : σ) (store : SharedTransaction σ κ) : Prop where
  saved : store.saved = replay apply base store.kept
  seen : ∀ current, store.transaction = some current →
    current.seen = replay apply store.saved current.pending
  ascending : ((store.kept ++ store.pending ++ store.queued).map Prod.fst).Pairwise (· < ·)
  once : (store.entries.map Prod.fst).Nodup
  recorded : ∀ entry ∈ store.entries, store.changes[entry.1]? = some entry.2
  idle : store.running = false → ∀ call, (store.progress call).failing = store.progress call
  acknowledged : ∀ call, store.progress call = .committed ∨ store.progress call = .returned →
    call ∈ (store.kept ++ store.undone).map Prod.fst
  made : store.transaction ≠ none → ∀ call,
    store.progress call = .changed ∨ store.progress call = .committing →
      call ∈ (store.kept ++ store.undone ++ store.pending).map Prod.fst

namespace Ledger

variable {apply : κ → σ → σ} {base : σ} {store : SharedTransaction σ κ}

theorem unopened (apply : κ → σ → σ) (base : σ) :
    Ledger apply base (SharedTransaction.unopened base) where
  saved := rfl
  seen := nofun
  ascending := .nil
  once := .nil
  recorded := nofun
  idle _ _ := rfl
  acknowledged _ reached := by rcases reached with reached | reached <;> cases reached
  made opened := absurd rfl opened

theorem once_of_subperm (ledger : Ledger apply base store) {entries : List (CallChange κ)}
    (fewer : entries.Subperm store.entries) : (entries.map Prod.fst).Nodup := by
  obtain ⟨same, permuted, sublist⟩ := fewer
  exact (permuted.map _).nodup_iff.mp (ledger.once.sublist (sublist.map _))

theorem recorded_of_subperm (ledger : Ledger apply base store) {entries : List (CallChange κ)}
    (fewer : entries.Subperm store.entries) :
    ∀ entry ∈ entries, store.changes[entry.1]? = some entry.2 :=
  fun entry member => ledger.recorded entry (fewer.subset member)

/-! ## One call -/

/-- A call goes to where its change allows it to be. -/
theorem update (ledger : Ledger apply base store) {call : ℕ} {next : Progress}
    (idle : store.running = false → next.failing = next)
    (acknowledged : next = .committed ∨ next = .returned →
      call ∈ (store.kept ++ store.undone).map Prod.fst)
    (made : store.transaction ≠ none → next = .changed ∨ next = .committing →
      call ∈ (store.kept ++ store.undone ++ store.pending).map Prod.fst) :
    Ledger apply base { store with progress := Function.update store.progress call next } where
  saved := ledger.saved
  seen := ledger.seen
  ascending := ledger.ascending
  once := ledger.once
  recorded := ledger.recorded
  idle stopped other := by
    by_cases own : other = call
    · simp only [own, Function.update_self, idle stopped]
    · simp only [Function.update_of_ne own, ledger.idle stopped other]
  acknowledged other reached := by
    by_cases own : other = call
    · simp only [own, Function.update_self] at reached ⊢
      exact acknowledged reached
    · simp only [Function.update_of_ne own] at reached
      exact ledger.acknowledged other reached
  made opened other reached := by
    by_cases own : other = call
    · simp only [own, Function.update_self] at reached ⊢
      exact made opened reached
    · simp only [Function.update_of_ne own] at reached
      exact ledger.made opened other reached

theorem fails (ledger : Ledger apply base store) (call : ℕ) :
    Ledger apply base (store.fails call) := by
  have cases_ := (store.progress call).failing_cases
  refine ledger.update (fun _ => Progress.failing_failing _) (fun reached => ?_)
    (fun _ reached => ?_)
  · rcases cases_ with unasked | failed | ⟨_, returned⟩
    · simp [unasked] at reached
    · simp [failed] at reached
    · exact ledger.acknowledged call (Or.inr returned)
  · rcases cases_ with found | found | ⟨found, _⟩ <;> simp [found] at reached

/-- No call waits for a change or a commit when the process has ended. -/
theorem running_of_waiting (ledger : Ledger apply base store) {call : ℕ}
    (waiting : (store.progress call).failing ≠ store.progress call) : store.running = true := by
  by_contra stopped
  exact waiting (ledger.idle (Bool.not_eq_true _ ▸ stopped) call)

theorem advances_changed (ledger : Ledger apply base store) {call : ℕ}
    (made : call ∈ (store.kept ++ store.undone ++ store.pending).map Prod.fst) :
    Ledger apply base (store.advances call .asked .changed) := by
  unfold advances
  split
  · next asked =>
    have running := ledger.running_of_waiting (by rw [asked]; nofun)
    exact ledger.update (by simp [running]) (by simp) fun _ _ => made
  · exact ledger

theorem advances_committed (ledger : Ledger apply base store) {call : ℕ}
    (saved : store.progress call = .committing →
      call ∈ (store.kept ++ store.undone).map Prod.fst) :
    Ledger apply base (store.advances call .committing .committed) := by
  unfold advances
  split
  · next committing =>
    have running := ledger.running_of_waiting (by rw [committing]; nofun)
    exact ledger.update (by simp [running]) (fun _ => saved committing) (by simp)
  · exact ledger

/-- Demands that are no changes may come and go. -/
theorem withDemands (ledger : Ledger apply base store) {demands : List (Demand κ)}
    (fewer : (demands.filterMap Demand.entry?).Sublist store.queued) :
    Ledger apply base { store with demands } where
  saved := ledger.saved
  seen := ledger.seen
  ascending := ledger.ascending.sublist ((fewer.append_left _).map _)
  once := ledger.once_of_subperm (fewer.append_left _).subperm
  recorded := ledger.recorded_of_subperm (fewer.append_left _).subperm
  idle := ledger.idle
  acknowledged := ledger.acknowledged
  made := ledger.made

theorem resumes (ledger : Ledger apply base store) (call : ℕ) :
    Ledger apply base (store.resumes call) := by
  unfold SharedTransaction.resumes
  split
  · next changed =>
    have running := ledger.running_of_waiting (by rw [changed]; nofun)
    have same : (store.demands ++ [Demand.commit call]).filterMap Demand.entry? =
        store.queued := by
      rw [List.filterMap_append]
      exact List.append_nil _
    have demanded := @withDemands _ _ _ _ _ ledger (store.demands ++ [.commit call]) (by rw [same])
    exact demanded.update (by simp [running]) (by simp) fun opened _ =>
      ledger.made opened call (Or.inl changed)
  · next committed =>
    exact ledger.update (fun _ => rfl) (fun _ => ledger.acknowledged call (Or.inl committed))
      (by simp)
  · exact ledger

/-! ## The thread -/

theorem faults (ledger : Ledger apply base store) {current : Open σ κ}
    (opened : store.transaction = some current) (rolledBack : Bool) :
    Ledger apply base (store.faults rolledBack current.pending) := by
  cases rolledBack with
  | false => exact ledger
  | true =>
      have held := pending_of_open opened
      have moved : (store.kept ++ (store.undone ++ current.pending) ++ [] ++ store.queued).Subperm
          store.entries := by
        unfold entries
        rw [held, List.append_nil, List.append_assoc store.kept store.undone]
      exact
        { saved := ledger.saved
          seen := fun _ reopened => by
            obtain rfl := Option.some.inj reopened
            rfl
          ascending := ledger.ascending.sublist
            (((List.append_sublist_append_right _).mpr
              ((List.append_sublist_append_left _).mpr (List.nil_sublist _))).map _)
          once := ledger.once_of_subperm moved
          recorded := ledger.recorded_of_subperm moved
          idle := ledger.idle
          acknowledged := fun call reached => by
            have known := ledger.acknowledged call reached
            simp only [SharedTransaction.faults, if_true, List.map_append, List.mem_append] at *
            tauto
          made := fun _ call reached => by
            have known := ledger.made (by rw [opened]; simp) call reached
            rw [held] at known
            simp only [SharedTransaction.faults, if_true, List.map_append, List.mem_append] at *
            tauto }

/-- The thread makes the change that is next. -/
theorem makes (ledger : Ledger apply base store) {entry : CallChange κ} {demands : List (Demand κ)}
    (next : store.demands = .change entry :: demands) (fault : Option Bool) :
    Ledger apply base ({ store with demands }.makes apply entry fault) := by
  have queue : store.queued = entry :: demands.filterMap Demand.entry? := by
    unfold queued
    rw [next]
    rfl
  have popped : Ledger apply base { store with demands } :=
    ledger.withDemands (queue ▸ List.sublist_cons_self _ _)
  unfold SharedTransaction.makes
  split
  · exact popped.fails entry.1
  · next current _ opened => exact (popped.faults opened _).fails entry.1
  · next current opened =>
    have held : store.pending = current.pending := pending_of_open opened
    have moved : (store.kept ++ store.undone ++ (current.pending ++ [entry]) ++
        demands.filterMap Demand.entry?).Subperm store.entries := by
      unfold entries
      rw [held, queue, List.append_assoc _ _ (demands.filterMap _),
        List.append_assoc current.pending, List.singleton_append,
        List.append_assoc _ current.pending]
    have ordered := ledger.ascending
    rw [held, queue] at ordered
    refine advances_changed ?_ (by simp [SharedTransaction.pending])
    exact
      { saved := ledger.saved
        seen := fun _ reopened => by
          obtain rfl := Option.some.inj reopened
          rw [replay_concat, ← ledger.seen _ opened]
        ascending := by simpa [SharedTransaction.pending, queued] using ordered
        once := ledger.once_of_subperm moved
        recorded := ledger.recorded_of_subperm moved
        idle := ledger.idle
        acknowledged := ledger.acknowledged
        made := fun _ call reached => by
          have known := ledger.made (by rw [opened]; simp) call reached
          rw [held] at known
          simp only [SharedTransaction.pending, Option.map_some, Option.getD_some, List.map_append,
            List.mem_append] at *
          tauto }

/-- A commit moves the changes of the transaction to those that are kept. -/
theorem saves (ledger : Ledger apply base store) {current : Open σ κ}
    (opened : store.transaction = some current) :
    Ledger apply base
      { store with
        saved := current.seen
        kept := store.kept ++ current.pending
        transaction := some ⟨current.seen, []⟩ } := by
  have held := pending_of_open opened
  have moved : (store.kept ++ current.pending ++ store.undone ++ [] ++ store.queued).Perm
      store.entries := by
    unfold entries
    rw [held, List.append_nil, List.append_assoc store.kept current.pending,
      List.append_assoc store.kept store.undone]
    exact (List.perm_append_comm.append_left store.kept).append_right store.queued
  have ordered := ledger.ascending
  rw [held] at ordered
  exact
    { saved := by rw [replay_append, ← ledger.saved, ← ledger.seen _ opened]
      seen := fun _ reopened => by
        obtain rfl := Option.some.inj reopened
        rfl
      ascending := by simpa [SharedTransaction.pending, queued] using ordered
      once := ledger.once_of_subperm moved.subperm
      recorded := ledger.recorded_of_subperm moved.subperm
      idle := ledger.idle
      acknowledged := fun call reached => by
        have known := ledger.acknowledged call reached
        simp only [List.map_append, List.mem_append] at *
        tauto
      made := fun _ call reached => by
        have known := ledger.made (by rw [opened]; simp) call reached
        rw [held] at known
        simp only [List.map_append, List.mem_append] at *
        tauto }

/-- The thread commits. -/
theorem commits (ledger : Ledger apply base store) (call : ℕ) (fault : Option Bool) :
    Ledger apply base (store.commits call fault) := by
  unfold SharedTransaction.commits
  split
  · exact ledger.fails call
  · next current _ opened => exact (ledger.faults opened _).fails call
  · next current opened =>
    refine (ledger.saves opened).advances_committed fun committing => ?_
    have known := ledger.made (by rw [opened]; simp) call (Or.inr committing)
    rw [pending_of_open opened] at known
    simp only [List.map_append, List.mem_append] at *
    tauto

/-- The transaction ends without its changes. -/
theorem closed (ledger : Ledger apply base store) :
    Ledger apply base { store with transaction := none } := by
  have fewer (before after : List (CallChange κ)) :
      (before ++ [] ++ after).Sublist (before ++ store.pending ++ after) :=
    (List.append_sublist_append_right _).mpr
      ((List.append_sublist_append_left _).mpr (List.nil_sublist _))
  exact
    { saved := ledger.saved
      seen := nofun
      ascending := ledger.ascending.sublist ((fewer _ _).map _)
      once := ledger.once_of_subperm (fewer _ _).subperm
      recorded := ledger.recorded_of_subperm (fewer _ _).subperm
      idle := ledger.idle
      acknowledged := ledger.acknowledged
      made := fun opened => absurd rfl opened }

theorem serves (ledger : Ledger apply base store) (fault : Option Bool) :
    Ledger apply base (store.serves apply fault) := by
  unfold SharedTransaction.serves
  split
  · exact ledger
  · next demand demands next =>
    have fewer : (demands.filterMap Demand.entry?).Sublist store.queued := by
      unfold queued
      rw [next]
      exact (List.sublist_cons_self _ _).filterMap _
    cases demand with
    | change entry => exact ledger.makes next fault
    | commit call => exact (ledger.withDemands fewer).commits call fault
    | close => exact (ledger.withDemands fewer).closed

/-! ## Calls and processes -/

theorem asks (ledger : Ledger apply base store) (change : κ) :
    Ledger apply base (store.asks change) := by
  unfold SharedTransaction.asks
  split
  · next running =>
    have earlier : ∀ entry ∈ store.entries, entry.1 < store.changes.length := fun entry member =>
      (List.getElem?_eq_some_iff.mp (ledger.recorded entry member)).1
    have queue : (store.demands ++ [Demand.change (store.changes.length, change)]).filterMap
        Demand.entry? = store.queued ++ [(store.changes.length, change)] := List.filterMap_append
    have below {entries : List (CallChange κ)} (within : entries ⊆ store.entries) :
        ∀ call ∈ entries.map Prod.fst, call < store.changes.length :=
      List.forall_mem_map.mpr fun entry member => earlier entry (within member)
    have demanded : Ledger apply base
        { store with
          demands := store.demands ++ [.change (store.changes.length, change)]
          changes := store.changes ++ [change] } :=
      { saved := ledger.saved
        seen := ledger.seen
        ascending := by
          change ((store.kept ++ store.pending ++ List.filterMap _ _).map Prod.fst).Pairwise _
          rw [queue, ← List.append_assoc, List.map_append]
          refine List.pairwise_append.mpr
            ⟨ledger.ascending, List.pairwise_singleton _ _, fun call member last same => ?_⟩
          obtain rfl := List.mem_singleton.mp same
          refine below (fun entry within => ?_) call member
          simp only [entries, List.mem_append] at within ⊢
          tauto
        once := by
          change ((store.kept ++ store.undone ++ store.pending ++ List.filterMap _ _).map
            Prod.fst).Nodup
          rw [queue, ← List.append_assoc, List.map_append]
          refine ledger.once.append (List.nodup_singleton _) fun call member last => ?_
          obtain rfl := List.mem_singleton.mp last
          exact Nat.lt_irrefl _ (below (List.Subset.refl _) _ member)
        recorded := by
          change ∀ entry ∈ store.kept ++ store.undone ++ store.pending ++ List.filterMap _ _, _
          rw [queue, ← List.append_assoc]
          intro entry member
          rcases List.mem_append.mp member with old | new
          · rw [List.getElem?_append_left (earlier entry old)]
            exact ledger.recorded entry old
          · obtain rfl := List.mem_singleton.mp new
            exact List.getElem?_concat_length
        idle := ledger.idle
        acknowledged := ledger.acknowledged
        made := ledger.made }
    exact demanded.update (by simp [running]) (by simp) (by simp)
  · exact ledger

theorem opens (ledger : Ledger apply base store) : Ledger apply base store.opens := by
  unfold SharedTransaction.opens
  split
  · exact ledger
  · next stopped =>
    have ended : store.running = false := Bool.not_eq_true _ ▸ stopped
    have settled (call : ℕ) (waiting : store.progress call = .changed ∨
        store.progress call = .committing) : False := by
      have same := ledger.idle ended call
      rcases waiting with waiting | waiting <;> simp [waiting, Progress.failing] at same
    have closed := @withDemands _ _ _ _ _ ledger.closed [] (List.nil_sublist _)
    exact
      { saved := closed.saved
        seen := fun _ opened => by
          obtain rfl := Option.some.inj opened
          rfl
        ascending := closed.ascending
        once := closed.once
        recorded := closed.recorded
        idle := nofun
        acknowledged := closed.acknowledged
        made := fun _ call waiting => (settled call waiting).elim }

theorem ends (ledger : Ledger apply base store) : Ledger apply base store.ends := by
  have closed := @withDemands _ _ _ _ _ ledger.closed [] (List.nil_sublist _)
  exact
    { saved := closed.saved
      seen := nofun
      ascending := closed.ascending
      once := closed.once
      recorded := closed.recorded
      idle := fun _ call => Progress.failing_failing _
      acknowledged := fun call reached => by
        rcases (store.progress call).failing_cases with found | found | ⟨_, returned⟩
        · simp [SharedTransaction.ends, found] at reached
        · simp [SharedTransaction.ends, found] at reached
        · exact ledger.acknowledged call (Or.inr returned)
      made := fun opened => absurd rfl opened }

theorem closes (ledger : Ledger apply base store) : Ledger apply base store.closes := by
  unfold SharedTransaction.closes
  split
  · refine ledger.withDemands ?_
    rw [List.filterMap_append]
    exact (List.append_nil _).symm ▸ List.Sublist.refl _
  · exact ledger

/-- Every event is accounted for. -/
theorem perform (ledger : Ledger apply base store) (event : Event κ) :
    Ledger apply base (store.perform apply event) := by
  cases event with
  | opens => exact ledger.opens
  | asks change => exact ledger.asks change
  | serves fault => exact ledger.serves fault
  | resumes call => exact ledger.resumes call
  | cancels call => exact ledger.fails call
  | closes => exact ledger.closes
  | ends => exact ledger.ends

end Ledger

/-- **Every run is accounted for.** -/
theorem ledger_run (apply : κ → σ → σ) (base : σ) (events : List (Event κ)) :
    Ledger apply base ((unopened base).run apply events) := by
  have onward {store : SharedTransaction σ κ} (ledger : Ledger apply base store) :
      Ledger apply base (store.run apply events) := by
    induction events generalizing store with
    | nil => exact ledger
    | cons event events ih => exact ih (ledger.perform event)
  exact onward (Ledger.unopened apply base)

section

variable (apply : κ → σ → σ) (store : SharedTransaction σ κ)

@[simp] theorem undone_advances (call : ℕ) (waiting done : Progress) :
    (store.advances call waiting done).undone = store.undone := by
  unfold advances
  split <;> rfl

theorem undone_makes (entry : CallChange κ) {fault : Option Bool} (plain : fault ≠ some true) :
    (store.makes apply entry fault).undone = store.undone := by
  unfold makes
  rcases store.transaction with _ | current
  · rfl
  · rcases fault with _ | _ | _
    · exact undone_advances _ _ _ _
    · rfl
    · exact absurd rfl plain

theorem undone_commits (call : ℕ) {fault : Option Bool} (plain : fault ≠ some true) :
    (store.commits call fault).undone = store.undone := by
  unfold commits
  rcases store.transaction with _ | current
  · rfl
  · rcases fault with _ | _ | _
    · exact undone_advances _ _ _ _
    · rfl
    · exact absurd rfl plain

/-- Only a fault that rolls the transaction back undoes changes. -/
theorem undone_perform {event : Event κ} (plain : event ≠ .serves (some true)) :
    (store.perform apply event).undone = store.undone := by
  cases event with
  | opens =>
      change store.opens.undone = _
      unfold opens
      split <;> rfl
  | asks change =>
      change (store.asks change).undone = _
      unfold asks
      split <;> rfl
  | serves fault =>
      have gentle : fault ≠ some true := fun same => plain (by rw [same])
      change (store.serves apply fault).undone = _
      unfold serves
      split
      · rfl
      · next demand demands _ =>
        cases demand with
        | change entry => exact undone_makes apply { store with demands } entry gentle
        | commit call => exact undone_commits { store with demands } call gentle
        | close => rfl
  | resumes call =>
      change (store.resumes call).undone = _
      unfold resumes
      split <;> rfl
  | cancels | ends => rfl
  | closes =>
      change store.closes.undone = _
      unfold closes
      split <;> rfl

theorem undone_run {events : List (Event κ)} (plain : .serves (some true) ∉ events) :
    (store.run apply events).undone = store.undone := by
  induction events generalizing store with
  | nil => rfl
  | cons event events ih =>
      obtain ⟨first, later⟩ := List.ne_and_not_mem_of_not_mem_cons plain
      exact (ih _ later).trans (undone_perform apply store first.symm)

/-! ## What the thread and the calls do by themselves -/

/-- The event is neither a new call nor the beginning or the end of a process. -/
def Event.inner : Event κ → Bool
  | .opens | .asks _ | .ends => false
  | .serves _ | .resumes _ | .cancels _ | .closes => true

/-- The process and the calls that were made. -/
def frame : Bool × List κ := (store.running, store.changes)

@[simp] theorem frame_advances (call : ℕ) (waiting done : Progress) :
    (store.advances call waiting done).frame = store.frame := by
  unfold advances
  split <;> rfl

@[simp] theorem frame_faults (rolledBack : Bool) (pending : List (CallChange κ)) :
    (store.faults rolledBack pending).frame = store.frame := by
  cases rolledBack <;> rfl

theorem frame_makes (entry : CallChange κ) (fault : Option Bool) :
    (store.makes apply entry fault).frame = store.frame := by
  unfold makes
  split
  · rfl
  · exact frame_faults _ _ _
  · exact frame_advances _ _ _ _

theorem frame_commits (call : ℕ) (fault : Option Bool) :
    (store.commits call fault).frame = store.frame := by
  unfold commits
  split
  · rfl
  · exact frame_faults _ _ _
  · exact frame_advances _ _ _ _

theorem frame_perform {event : Event κ} (inner : event.inner = true) :
    (store.perform apply event).frame = store.frame := by
  cases event with
  | opens | asks | ends => cases inner
  | serves fault =>
      change (store.serves apply fault).frame = _
      unfold serves
      split
      · rfl
      · next demand demands _ =>
        cases demand with
        | change entry => exact frame_makes apply { store with demands } entry fault
        | commit call => exact frame_commits { store with demands } call fault
        | close => rfl
  | resumes call =>
      change (store.resumes call).frame = _
      unfold resumes
      split <;> rfl
  | cancels => rfl
  | closes =>
      change store.closes.frame = _
      unfold closes
      split <;> rfl

/-! ## The changes in hand -/

theorem ahead_concat (demands : List (Demand κ)) (demand : Demand κ) :
    ahead (demands ++ [demand]) =
      if demands.any Demand.isClose then ahead demands
      else ahead demands ++ demand.entry?.toList := by
  induction demands with
  | nil => cases demand <;> rfl
  | cons first demands ih =>
      cases first with
      | close => rfl
      | commit call => exact ih
      | change entry =>
          have grown : ahead (.change entry :: demands ++ [demand]) =
              entry :: ahead (demands ++ [demand]) := rfl
          rw [grown, ih]
          change entry :: ite _ _ _ = ite (demands.any Demand.isClose = true) _ _
          split <;> rfl

/-- Nothing is saved but what was in hand, and nothing new is in hand. -/
structure Narrows (store next : SharedTransaction σ κ) : Prop where
  kept : ∃ more, next.kept = store.kept ++ more ∧ more ⊆ store.inHand
  inHand : next.inHand ⊆ store.inHand
  closing : store.Closing → next.Closing

namespace Narrows

variable {apply store} {next : SharedTransaction σ κ}

theorem of_same (kept : next.kept = store.kept) (transaction : next.transaction = store.transaction)
    (demands : next.demands = store.demands) : store.Narrows next where
  kept := ⟨[], kept.trans (List.append_nil _).symm, List.nil_subset _⟩
  inHand := by
    unfold SharedTransaction.inHand
    rw [transaction, demands]
    exact List.Subset.refl _
  closing := by
    unfold SharedTransaction.Closing
    rw [transaction, demands]
    exact id

theorem trans {last : SharedTransaction σ κ} (first : store.Narrows next)
    (second : next.Narrows last) : store.Narrows last where
  kept := by
    obtain ⟨more, kept, within⟩ := first.kept
    obtain ⟨further, kept', within'⟩ := second.kept
    refine ⟨more ++ further, by rw [kept', kept, List.append_assoc], ?_⟩
    exact List.append_subset.mpr ⟨within, List.Subset.trans within' first.inHand⟩
  inHand := List.Subset.trans second.inHand first.inHand
  closing := second.closing ∘ first.closing

theorem advances (call : ℕ) (waiting done : Progress) :
    store.Narrows (store.advances call waiting done) := by
  unfold SharedTransaction.advances
  split <;> exact of_same rfl rfl rfl

theorem faults {current : Open σ κ} (opened : store.transaction = some current)
    (rolledBack : Bool) : store.Narrows (store.faults rolledBack current.pending) := by
  cases rolledBack with
  | false => exact of_same rfl rfl rfl
  | true =>
      refine ⟨⟨[], (List.append_nil _).symm, List.nil_subset _⟩, ?_, fun closing => ?_⟩
      · unfold SharedTransaction.inHand
        rw [opened]
        exact List.subset_append_right _ _
      · rcases closing with none | demanded
        · rw [opened] at none
          cases none
        · exact Or.inr demanded

/-- Where nothing is in hand, what is saved stays. -/
theorem saved {base : σ} (narrows : store.Narrows next) (ledger : Ledger apply base store)
    (ledger' : Ledger apply base next) (none : store.inHand = []) : next.saved = store.saved := by
  obtain ⟨more, kept, within⟩ := narrows.kept
  rw [none] at within
  rw [ledger'.saved, kept, List.subset_nil.mp within, List.append_nil, ledger.saved]

theorem fails (call : ℕ) : store.Narrows (store.fails call) := of_same rfl rfl rfl

/-- Nothing is in hand of a transaction that has ended. -/
theorem of_none (kept : next.kept = store.kept) (transaction : next.transaction = none) :
    store.Narrows next where
  kept := ⟨[], kept.trans (List.append_nil _).symm, List.nil_subset _⟩
  inHand := by
    unfold SharedTransaction.inHand
    rw [transaction]
    exact List.nil_subset _
  closing _ := Or.inl transaction

/-- The thread is left with fewer demands. -/
theorem popped {demand : Demand κ} {demands : List (Demand κ)}
    (next : store.demands = demand :: demands) (goesOn : demand.isClose = false) :
    store.Narrows { store with demands } where
  kept := ⟨[], (List.append_nil _).symm, List.nil_subset _⟩
  inHand := by
    unfold SharedTransaction.inHand
    rcases store.transaction with _ | current
    · exact List.Subset.refl _
    · rw [next]
      refine List.append_subset.mpr ⟨List.subset_append_left _ _, ?_⟩
      refine List.subset_append_of_subset_right _ ?_
      cases demand with
      | close => cases goesOn
      | commit call => exact List.Subset.refl _
      | change entry => exact List.subset_cons_self _ _
  closing closing := by
    unfold SharedTransaction.Closing at closing ⊢
    rwa [next, List.any_cons, goesOn, Bool.false_or] at closing

/-- The thread makes the change that is next. -/
theorem makes {entry : CallChange κ} {demands : List (Demand κ)}
    (next : store.demands = .change entry :: demands) (fault : Option Bool) :
    store.Narrows ({ store with demands }.makes apply entry fault) := by
  have left := popped next rfl
  unfold SharedTransaction.makes
  split
  · exact left.trans (fails _)
  · next current rolledBack opened =>
    exact (left.trans (faults opened rolledBack)).trans (fails _)
  · next current opened =>
    refine trans ?_ (advances _ _ _)
    refine ⟨⟨[], (List.append_nil _).symm, List.nil_subset _⟩, ?_, fun closing => ?_⟩
    · have held : store.transaction = some current := opened
      unfold SharedTransaction.inHand
      rw [held, next]
      dsimp only
      rw [List.append_assoc]
      exact List.Subset.refl _
    · rcases left.closing closing with none | demanded
      · exact absurd (none.symm.trans opened) nofun
      · exact Or.inr demanded

/-- The thread commits. -/
theorem commits {call : ℕ} {demands : List (Demand κ)}
    (next : store.demands = .commit call :: demands) (fault : Option Bool) :
    store.Narrows ({ store with demands }.commits call fault) := by
  have left := popped next rfl
  unfold SharedTransaction.commits
  split
  · exact left.trans (fails _)
  · next current rolledBack opened =>
    exact (left.trans (faults opened rolledBack)).trans (fails _)
  · next current opened =>
    refine trans ?_ (advances _ _ _)
    have held : store.transaction = some current := opened
    have inHand : store.inHand = current.pending ++ ahead store.demands := by
      unfold SharedTransaction.inHand
      rw [held]
    refine ⟨⟨current.pending, rfl, ?_⟩, ?_, fun closing => ?_⟩
    · rw [inHand]
      exact List.subset_append_left _ _
    · rw [inHand, next]
      exact List.subset_append_right _ _
    · rcases left.closing closing with none | demanded
      · exact absurd (none.symm.trans opened) nofun
      · exact Or.inr demanded

theorem serves (fault : Option Bool) : store.Narrows (store.serves apply fault) := by
  unfold SharedTransaction.serves
  split
  · exact of_same rfl rfl rfl
  · next demand demands next =>
    cases demand with
    | change entry => exact makes next fault
    | commit call => exact commits next fault
    | close => exact of_none rfl rfl

/-- A demand is put behind the others. -/
theorem demands (demand : Demand κ) (none : demand.entry? = none) (progress : ℕ → Progress) :
    store.Narrows { store with demands := store.demands ++ [demand], progress } where
  kept := ⟨[], (List.append_nil _).symm, List.nil_subset _⟩
  inHand := by
    unfold SharedTransaction.inHand
    rcases store.transaction with _ | current
    · exact List.Subset.refl _
    · refine List.append_subset.mpr ⟨List.subset_append_left _ _, ?_⟩
      refine List.subset_append_of_subset_right _ ?_
      dsimp only
      rw [ahead_concat, none]
      split
      · exact List.Subset.refl _
      · rw [Option.toList_none, List.append_nil]
        exact List.Subset.refl _
  closing closing := by
    rcases closing with ended | demanded
    · exact Or.inl ended
    · refine Or.inr ?_
      dsimp only
      rw [List.any_append, demanded]
      rfl

/-- The thread and the calls narrow down what is in hand. -/
theorem perform {event : Event κ} (inner : event.inner = true) :
    store.Narrows (store.perform apply event) := by
  cases event with
  | opens | asks | ends => cases inner
  | serves fault => exact serves fault
  | resumes call =>
      change store.Narrows (store.resumes call)
      unfold SharedTransaction.resumes
      split
      · exact demands (.commit call) rfl _
      · exact of_same rfl rfl rfl
      · exact of_same rfl rfl rfl
  | cancels call => exact fails call
  | closes =>
      change store.Narrows store.closes
      unfold SharedTransaction.closes
      split
      · exact demands .close rfl _
      · exact of_same rfl rfl rfl

end Narrows

variable {store}

theorem closing_closes (running : store.running = true) : store.closes.Closing := by
  unfold closes
  rw [if_pos running]
  refine Or.inr ?_
  dsimp only
  rw [List.any_append]
  exact Bool.or_true _

theorem closing_asks (closing : store.Closing) (change : κ) : (store.asks change).Closing := by
  unfold asks
  split
  · rcases closing with ended | demanded
    · exact Or.inl ended
    · refine Or.inr ?_
      dsimp only
      rw [List.any_append, demanded]
      rfl
  · exact closing

theorem saved_asks (change : κ) : (store.asks change).saved = store.saved := by
  unfold asks
  split <;> rfl

theorem kept_asks (change : κ) : (store.asks change).kept = store.kept := by
  unfold asks
  split <;> rfl

/-- A new change is in hand, unless the connection closes. -/
theorem mem_inHand_asks {change : κ} {entry : CallChange κ}
    (member : entry ∈ (store.asks change).inHand) :
    entry ∈ store.inHand ∨ entry = (store.changes.length, change) ∧ ¬ store.Closing := by
  unfold asks at member
  split at member
  · unfold inHand at member ⊢
    rcases opened : store.transaction with _ | current
    · rw [opened] at member
      cases member
    · rw [opened] at member
      dsimp only at member ⊢
      rw [ahead_concat] at member
      split at member
      · exact Or.inl member
      · next going =>
        rw [← List.append_assoc, List.mem_append] at member
        refine member.imp_right fun own => ⟨List.mem_singleton.mp own, ?_⟩
        unfold Closing
        rw [opened]
        exact fun closing => closing.elim nofun going
  · exact Or.inl member

end

end SharedTransaction

end Vcompany.Foundation
