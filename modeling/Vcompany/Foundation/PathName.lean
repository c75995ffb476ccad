import Vcompany.Foundation.Text

/-! # Paths and the places they name

A place is the list of names from the root directory to it. A path is followed from the root
or from the working directory, segment by segment: the empty segment and `.` stay, `..` goes
up, and any other segment is a name to go down by. What a list of segments does to any place
is a number of levels to go up and then names to go down (`Net`).
-/

namespace Vcompany.Foundation

namespace PathName

def dot : Text := ['.']

def dotdot : Text := ['.', '.']

/-- The segments between the slashes of a path; repeated slashes have empty ones between them. -/
def segments (path : Text) : List Text := path.splitOn '/'

/-- From a place along one segment. -/
def step (place : List Text) (segment : Text) : List Text :=
  if segment = [] ∨ segment = dot then place
  else if segment = dotdot then place.dropLast
  else place ++ [segment]

/-- From a place along a list of segments. -/
def walk (place segments : List Text) : List Text := segments.foldl step place

/-- The place where a path is followed from. -/
def origin (cwd : List Text) (path : Text) : List Text := if ['/'] <+: path then [] else cwd

/-- The place that a path names in a working directory. -/
def resolve (cwd : List Text) (path : Text) : List Text :=
  walk (origin cwd path) (segments path)

/-- The place is the directory or lies below it. -/
def Inside (directory place : List Text) : Prop := directory <+: place

instance (directory place : List Text) : Decidable (Inside directory place) :=
  inferInstanceAs (Decidable (_ <+: _))

/-- The place lies below the directory. -/
def StrictlyInside (directory place : List Text) : Prop :=
  Inside directory place ∧ directory ≠ place

instance (directory place : List Text) : Decidable (StrictlyInside directory place) :=
  inferInstanceAs (Decidable (_ ∧ _))

/-! ## The net effect of segments -/

/-- Levels to go up, and then names to go down by. -/
structure Net where
  ups : ℕ := 0
  names : List Text := []
  deriving DecidableEq, Repr

namespace Net

/-- One more segment: `..` takes back the last name, or goes up when there is none. -/
def step (net : Net) (segment : Text) : Net :=
  if segment = [] ∨ segment = dot then net
  else if segment = dotdot then
    if net.names = [] then { net with ups := net.ups + 1 }
    else { net with names := net.names.dropLast }
  else { net with names := net.names ++ [segment] }

/-- From a place, up and then down. -/
def apply (net : Net) (place : List Text) : List Text :=
  place.take (place.length - net.ups) ++ net.names

end Net

/-- The net effect of a list of segments. -/
def net (segments : List Text) : Net := segments.foldl Net.step {}

theorem walk_append (place first second : List Text) :
    walk place (first ++ second) = walk (walk place first) second := List.foldl_append

theorem segments_append_slash (before after : Text) :
    segments (before ++ '/' :: after) = segments before ++ segments after :=
  List.splitOn_append_cons_self before after

/-- A slash at the end of a path changes nothing. -/
theorem resolve_append_trailing (cwd : List Text) {path : Text} (inhabited : path ≠ []) :
    resolve cwd (path ++ ['/']) = resolve cwd path := by
  have sameOrigin : origin cwd (path ++ ['/']) = origin cwd path := by
    unfold origin
    cases path with
    | nil => exact absurd rfl inhabited
    | cons c path => simp only [List.cons_append, List.cons_prefix_cons]; simp
  unfold resolve
  rw [sameOrigin, segments_append_slash, walk_append]
  rfl

/-! ## Plain names -/

/-- The segments are names to go down by. -/
def Names (segments : List Text) : Prop :=
  ∀ segment ∈ segments, segment ≠ [] ∧ segment ≠ dot ∧ segment ≠ dotdot

instance (segments : List Text) : Decidable (Names segments) := List.decidableBAll _ segments

theorem walk_names (place : List Text) {names : List Text} (plain : Names names) :
    walk place names = place ++ names := by
  unfold walk
  induction names generalizing place with
  | nil => simp
  | cons name rest ih =>
      obtain ⟨⟨solid, notDot, notDotdot⟩, later⟩ := List.forall_mem_cons.mp plain
      have down : step place name = place ++ [name] := by
        unfold step
        rw [if_neg (by simp [solid, notDot]), if_neg notDotdot]
      rw [List.foldl_cons, down, ih _ later, List.append_assoc, List.singleton_append]

/-- A path of plain names is followed from the working directory. -/
theorem resolve_names (cwd : List Text) {path : Text} (plain : Names (segments path)) :
    resolve cwd path = cwd ++ segments path := by
  have relative : origin cwd path = cwd := by
    refine if_neg fun absolute => ?_
    obtain ⟨rest, rfl⟩ := absolute
    have first : segments (['/'] ++ rest) = [] :: segments rest := segments_append_slash [] rest
    exact (plain [] (first ▸ List.mem_cons_self)).1 rfl
  rw [resolve, relative, walk_names cwd plain]

/-- A path with a slash behind it is made of its segments with a slash behind each. -/
theorem flatMap_segments (path : Text) :
    (segments path).flatMap (· ++ ['/']) = path ++ ['/'] := by
  unfold segments
  induction path with
  | nil => simp
  | cons c rest ih =>
      rw [List.splitOn_cons_eq_if_modifyHead]
      split
      · next slash =>
          rw [List.flatMap_cons, ih, beq_iff_eq.mp slash]
          rfl
      · obtain ⟨first, others, parts⟩ := List.exists_cons_of_ne_nil (List.splitOn_ne_nil '/' rest)
        rw [parts, List.flatMap_cons] at ih
        rw [parts, List.modifyHead_cons, List.flatMap_cons, List.cons_append, List.cons_append,
          List.cons_append, ih]

/-- A path whose segments start those of another starts it, with a slash behind each. -/
theorem prefix_of_segments_prefix {path other : Text}
    (starts : segments path <+: segments other) : path ++ ['/'] <+: other ++ ['/'] := by
  obtain ⟨later, parts⟩ := starts
  rw [← flatMap_segments path, ← flatMap_segments other, ← parts, List.flatMap_append]
  exact List.prefix_append _ _

end PathName

end Vcompany.Foundation
