import Vcompany.Foundation.Template

/-! # Resolving merge conflicts

The conflict blocks of a file are found line by line, and the PM is asked about each of them.
What the file becomes is decided by a pattern, of whose matches the first is replaced by the
last answer.
-/

namespace Vcompany.Integration

open Foundation

namespace ConflictResolver

/-- `CONTEXT_LINES`. -/
def contextLines : ℕ := 10

def openMarker : Text := "<<<<<<<".toList

def closeMarker : Text := ">>>>>>>".toList

/-- The first and the last line of each block among the lines from number `i` on, where a block
is open that starts at `start`. A block that is not closed is malformed. -/
def conflictBounds : ℕ → Option ℕ → List Text → List (ℕ × ℕ)
  | _, _, [] => []
  | i, none, line :: lines =>
      conflictBounds (i + 1) (if openMarker <+: line then some i else none) lines
  | i, some start, line :: lines =>
      if closeMarker <+: line then (start, i) :: conflictBounds (i + 1) none lines
      else conflictBounds (i + 1) (some start) lines

/-- The lines of a block and those around it. -/
def hunkOf (lines : List Text) (bounds : ℕ × ℕ) : Text :=
  let ctxStart := bounds.1 - contextLines
  let ctxEnd := min lines.length (bounds.2 + 1 + contextLines)
  List.intercalate ['\n'] ((lines.take ctxEnd).drop ctxStart)

/-- `_extract_conflict_hunks`, of a file that can be read. -/
def extractConflictHunks (content : Text) : List Text :=
  let lines := Text.splitlines content
  (conflictBounds 0 none lines).map (hunkOf lines)

/-- The match of ``<<<<<<<[^\n]*\n.*?\n>>>>>>>[^\n]*`` at the start of a text, and the rest. -/
def matchHere (text : Text) : Option (Text × Text) :=
  if openMarker <+: text then
    let afterMarker := text.drop openMarker.length
    match afterMarker.dropWhile (· ≠ '\n') with
    | [] => none
    | _ :: body =>
        (Text.cut ('\n' :: closeMarker) body).map fun (inner, rest) =>
          (openMarker ++ afterMarker.takeWhile (· ≠ '\n') ++ '\n' :: inner ++
              '\n' :: closeMarker ++ rest.takeWhile (· ≠ '\n'),
            rest.dropWhile (· ≠ '\n'))
  else none

/-- The first match of the pattern, between the texts before and after it. -/
def firstMatch : Text → Option (Text × Text × Text)
  | [] => none
  | c :: rest =>
      match matchHere (c :: rest) with
      | some (found, after) => some ([], found, after)
      | none => (firstMatch rest).map fun (before, found, after) => (c :: before, found, after)

/-- `_apply_resolution`. The template is read before the search. -/
def applyResolution (fileContent resolvedHunk : Text) : Except PyExc Text := do
  let template ← Template.parse resolvedHunk.strip
  match firstMatch fileContent with
  | some (before, found, after) => return before ++ Template.expand template found ++ after
  | none => return fileContent

def resolvePrompt (hunk : Text) : Text :=
  "Resolve this merge conflict. Return ONLY the resolved code, ".toList ++
    "no explanations or markers. If you cannot confidently resolve it, ".toList ++
    "respond with exactly 'unsure'.\n\n".toList ++
    "Conflicting section:\n```\n".toList ++ hunk ++ "\n```".toList

/-- What the PM says when it has low confidence. -/
def lowConfidence : List Text :=
  ["unsure".toList, "escalate".toList, "cannot resolve".toList, "not confident".toList]

def declines (casing : Text.Casing) (response : Text) : Bool :=
  lowConfidence.any fun keyword => keyword <:+: (Text.lower casing response).strip

/-- The PM, by the number of the question: what `_answer_directly` returns or raises. -/
abbrev Answers := ℕ → Text → Except PyExc PyValue

variable (casing : Text.Casing) (answers : Answers)

/-- The questions about the hunks, with the last response; none if the PM does not resolve. -/
def askHunks : ℕ → Text → List Text → Except PyExc (Option Text)
  | _, response, [] => .ok (some response)
  | number, _, hunk :: hunks =>
      match answers number (resolvePrompt hunk) with
      | .error _ => .ok none
      | .ok (.str response) =>
          if declines casing response then .ok none else askHunks (number + 1) response hunks
      -- `response.lower`, and a text that is looked for in bytes
      | .ok (.bytes _) => .error .typeError
      | .ok _ => .error .attributeError

/-- `resolve`, of a file that can be read. -/
def resolve (pm : Option Answers) (content : Text) : Except PyExc (Option Text) :=
  match pm with
  | none => .ok none
  | some answers =>
      if extractConflictHunks content = [] then .ok none
      else do
        match ← askHunks casing answers 0 [] (extractConflictHunks content) with
        | none => return none
        | some response => return some (← applyResolution content response)

end ConflictResolver

end Vcompany.Integration
