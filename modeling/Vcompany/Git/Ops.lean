import Vcompany.Foundation.Text
import Mathlib.Data.Option.Basic
import Mathlib.Logic.Function.Basic

/-! # Git commands on a clone

A clone has its local branches, the branch that is checked out, and what a conflicting merge
leaves: the recorded merge and the unmerged files. `mergeOf` gives the merge of two commits,
or none if they conflict. A command may also fail without doing anything.
-/

namespace Vcompany.Git

open Foundation

structure Clone (Commit : Type) where
  branches : Text → Option Commit
  head : Text
  /-- A merge is recorded (`MERGE_HEAD`). -/
  mergeHead : Bool := false
  /-- The index has unmerged files. -/
  unmerged : Bool := false

/-- What decides a command beside the state of the clone. -/
structure GitReply where
  /-- The command gets to do its work: no timeout, no lock that is held. -/
  works : Bool := true
  stdout : Text := []
  stderr : Text := []

structure GitResult where
  success : Bool
  stdout : Text
  stderr : Text

variable {Commit : Type}

def GitReply.result (success : Bool) (reply : GitReply) : GitResult where
  success := success
  stdout := reply.stdout
  stderr := reply.stderr

namespace Clone

/-- The commit in the working tree; none if files in it are unmerged. -/
def worktree (clone : Clone Commit) : Option Commit :=
  if clone.unmerged then none else clone.branches clone.head

/-- `git fetch` changes no local branch. -/
def fetch (reply : GitReply) (clone : Clone Commit) : Clone Commit × GitResult :=
  (clone, reply.result reply.works)

/-- `git push` changes nothing in the clone. -/
def push (reply : GitReply) (clone : Clone Commit) : Clone Commit × GitResult :=
  (clone, reply.result reply.works)

/-- `git checkout <branch>`: refused while files are unmerged. -/
def checkout (branch : Text) (reply : GitReply) (clone : Clone Commit) :
    Clone Commit × GitResult :=
  if reply.works ∧ ¬ clone.unmerged ∧ (clone.branches branch).isSome then
    ({ clone with head := branch }, reply.result true)
  else (clone, reply.result false)

/-- `git checkout -b <branch>`: refused if the branch exists. It does not look at the files,
and drops a recorded merge. -/
def checkoutNewBranch (branch : Text) (reply : GitReply) (clone : Clone Commit) :
    Clone Commit × GitResult :=
  if reply.works ∧ clone.branches branch = none then
    ({ clone with
        branches := Function.update clone.branches branch (clone.branches clone.head)
        head := branch
        mergeHead := false },
      reply.result true)
  else (clone, reply.result false)

/-- `git merge <branch>`: refused while files are unmerged. A conflict leaves the merge in
progress. -/
def merge (mergeOf : Commit → Commit → Option Commit) (branch : Text) (reply : GitReply)
    (clone : Clone Commit) : Clone Commit × GitResult :=
  if reply.works ∧ ¬ clone.unmerged then
    match clone.branches clone.head, clone.branches branch with
    | some ours, some theirs =>
        match mergeOf ours theirs with
        | some merged =>
            ({ clone with branches := Function.update clone.branches clone.head (some merged) },
              reply.result true)
        | none => ({ clone with mergeHead := true, unmerged := true }, reply.result false)
    | _, _ => (clone, reply.result false)
  else (clone, reply.result false)

/-- `git merge --abort`: refused without a recorded merge. -/
def mergeAbort (reply : GitReply) (clone : Clone Commit) : Clone Commit × GitResult :=
  if reply.works ∧ clone.mergeHead then
    ({ clone with mergeHead := false, unmerged := false }, reply.result true)
  else (clone, reply.result false)

/-- No merge is in progress. -/
def Settled (clone : Clone Commit) : Prop := clone.mergeHead = false ∧ clone.unmerged = false

variable {clone : Clone Commit} {branch : Text} {reply : GitReply}
  {mergeOf : Commit → Commit → Option Commit}

/-- A checkout moves the head, or does nothing. -/
theorem checkout_cases (clone : Clone Commit) (branch : Text) (reply : GitReply) :
    (clone.checkout branch reply).1 = clone ∨
      (clone.checkout branch reply).1 = { clone with head := branch } := by
  unfold checkout
  split
  · exact .inr rfl
  · exact .inl rfl

theorem checkout_of_settled (settled : clone.Settled) (works : reply.works = true)
    (exist : (clone.branches branch).isSome = true) :
    (clone.checkout branch reply).1 = { clone with head := branch } := by
  unfold checkout
  rw [if_pos ⟨works, by rw [settled.2]; exact Bool.false_ne_true, exist⟩]

theorem checkoutNewBranch_of_fresh (works : reply.works = true)
    (fresh : clone.branches branch = none) :
    (clone.checkoutNewBranch branch reply).1 = { clone with
      branches := Function.update clone.branches branch (clone.branches clone.head)
      head := branch
      mergeHead := false } := by
  unfold checkoutNewBranch
  rw [if_pos ⟨works, fresh⟩]

/-- A new branch is created at the branch that was just checked out. -/
theorem branch_off {base : Text} {tip : Commit} {first second : GitReply}
    (settled : clone.Settled) (isBase : clone.branches base = some tip)
    (checkedOut : first.works = true) (works : second.works = true)
    (fresh : clone.branches branch = none) :
    ((clone.checkout base first).1.checkoutNewBranch branch second).1 = { clone with
      branches := Function.update clone.branches branch (some tip)
      head := branch
      mergeHead := false } := by
  have exist : (clone.branches base).isSome = true := by
    rw [isBase]
    rfl
  have fresh' : { clone with head := base }.branches branch = none := fresh
  rw [checkout_of_settled settled checkedOut exist, checkoutNewBranch_of_fresh works fresh', isBase]

/-- A merge that succeeds makes the branch that is checked out the merge of the two. -/
theorem merge_success (succeeds : (clone.merge mergeOf branch reply).2.success = true) :
    ∃ ours theirs merged, clone.branches clone.head = some ours ∧
      clone.branches branch = some theirs ∧ mergeOf ours theirs = some merged ∧
      reply.works = true ∧
      (clone.merge mergeOf branch reply).1 =
        { clone with branches := Function.update clone.branches clone.head (some merged) } := by
  unfold merge at succeeds ⊢
  split at succeeds
  · next able =>
      rw [if_pos able]
      split at succeeds
      · next ours theirs isOurs isTheirs =>
          split at succeeds
          · next merged isMerged =>
              exact ⟨ours, theirs, merged, isOurs, isTheirs, isMerged, able.1, rfl⟩
          · cases succeeds
      · cases succeeds
  · cases succeeds

theorem merge_succeeds {ours theirs merged : Commit} (works : reply.works = true)
    (clean : clone.unmerged = false) (isOurs : clone.branches clone.head = some ours)
    (isTheirs : clone.branches branch = some theirs) (isMerged : mergeOf ours theirs = some merged) :
    (clone.merge mergeOf branch reply).2.success = true := by
  unfold merge
  rw [if_pos ⟨works, by rw [clean]; exact Bool.false_ne_true⟩, isOurs, isTheirs]
  dsimp only
  rw [isMerged]
  rfl

/-- A merge that fails leaves the clone as it is, or in a merge of commits that conflict. -/
theorem merge_failure (fails : (clone.merge mergeOf branch reply).2.success = false) :
    (clone.merge mergeOf branch reply).1 = clone ∨
      ∃ ours theirs, clone.branches clone.head = some ours ∧
        clone.branches branch = some theirs ∧ mergeOf ours theirs = none ∧
        (clone.merge mergeOf branch reply).1 =
          { clone with mergeHead := true, unmerged := true } := by
  unfold merge at fails ⊢
  split at fails
  · next able =>
      rw [if_pos able]
      split at fails
      · next ours theirs isOurs isTheirs =>
          split at fails
          · cases fails
          · next conflict =>
              exact .inr ⟨ours, theirs, isOurs, isTheirs, conflict, rfl⟩
      · exact .inl rfl
  · next unable =>
      rw [if_neg unable]
      exact .inl rfl

theorem mergeAbort_branches : (clone.mergeAbort reply).1.branches = clone.branches := by
  unfold mergeAbort
  split <;> rfl

/-- Aborting ends a merge that is recorded. -/
theorem mergeAbort_settled (works : reply.works = true)
    (recorded : clone.mergeHead = clone.unmerged) : (clone.mergeAbort reply).1.Settled := by
  unfold mergeAbort
  split
  · exact ⟨rfl, rfl⟩
  · next unable =>
      have none : clone.mergeHead = false := by simpa [works] using unable
      exact ⟨none, recorded.symm.trans none⟩

end Clone

end Vcompany.Git
