import Vcompany.Daemon.RoutingState
import Vcompany.Foundation.Balanced
import Vcompany.Foundation.FileSteps
import Vcompany.Transport.Framing

/-! # Routing files that are cut off

`RoutingState.save` truncates the file and writes it in parts, so a process that is killed in
between leaves the start of an object, which no reader of JSON takes (`save_recovers_iff`). Such a
file is a torn one of the model that the daemon's start is proved about
(`save_describes`, `load_describes`). Written by `write_atomic`, it would be whole at every point
(`replace_recovers`).
-/

namespace Vcompany.Daemon

open Foundation Transport

/-! ## JSON -/

/-- What an octet is in JSON. -/
def jsonRole (octet : UInt8) : SymbolRole :=
  if octet = 34 then .quote
  else if octet = 92 then .escape
  else if octet = 123 ∨ octet = 91 then .opens
  else if octet = 125 ∨ octet = 93 then .closes
  else .plain

section Codec

variable {M : Type}

/-- A value is written as an object, and validated as itself. -/
structure Serializes (codec : Codec M) (value : M) : Prop where
  validated : codec.validateJson (codec.modelDumpJson value) = .ok value
  object : Group jsonRole (codec.modelDumpJson value)

/-- Only documents are validated: texts with their brackets in pairs and their strings closed,
and not the empty one. -/
def AcceptsDocuments (codec : Codec M) : Prop :=
  ∀ data value, codec.validateJson data = .ok value → data ≠ [] ∧ Balanced jsonRole data

/-- The start of a serialized value is validated only if it is all of it. -/
theorem eq_of_validated {codec : Codec M} (documents : AcceptsDocuments codec) {value : M}
    (serializes : Serializes codec value) {start : Octets}
    (starts : start <+: codec.modelDumpJson value) {read : M}
    (validated : codec.validateJson start = .ok read) : start = codec.modelDumpJson value := by
  obtain ⟨inhabited, balanced⟩ := documents start read validated
  by_contra cutOff
  exact serializes.object.not_balanced starts inhabited cutOff balanced

end Codec

/-! ## Saving and loading -/

variable (codec : Codec RoutingState) (path : Text)

/-- `RoutingState.load`, from the content of the file if it exists. -/
def loadContent : Option Octets → Except PyExc RoutingState
  | none => .ok RoutingState.empty
  | some data => codec.validateJson data

/-- The steps of `RoutingState.save`, which writes the text in some parts. -/
def saveSteps (parts : List Octets) : List (FileStep Text UInt8) := FileStep.write path parts

/-- The steps of `write_atomic`, which writes a temporary file and renames it. -/
def writeAtomicSteps (tmpPath : Text) (parts : List Octets) : List (FileStep Text UInt8) :=
  FileStep.replace path tmpPath parts

/-- Loading succeeds, with the previous state or the new one. -/
def Recovers (previous new : RoutingState) (files : Files Text UInt8) : Prop :=
  loadContent codec (files path) = .ok previous ∨ loadContent codec (files path) = .ok new

/-- The process is killed before the file is truncated, or once all of it is written. -/
def Untorn (parts : List Octets) (count : ℕ) : Prop :=
  count < 2 ∨ (parts.take (count - 2)).flatten = parts.flatten

instance (parts : List Octets) (count : ℕ) : Decidable (Untorn parts count) :=
  inferInstanceAs (Decidable (_ ∨ _))

variable {codec path} {files : Files Text UInt8} {previous new : RoutingState}
  {parts : List Octets}

theorem isPrefix_flatten_take (parts : List Octets) (count : ℕ) :
    (parts.take count).flatten <+: parts.flatten :=
  ⟨(parts.drop count).flatten, by rw [← List.flatten_append, List.take_append_drop]⟩

/-- The parts that a `write_atomic` has written do not matter. -/
theorem replace_recovers {tmpPath : Text} (apart : path ≠ tmpPath)
    (held : loadContent codec (files path) = .ok previous)
    (serializes : Serializes codec new) (dumped : parts.flatten = codec.modelDumpJson new)
    (count : ℕ) :
    Recovers codec path previous new
      (FileStep.crash (writeAtomicSteps path tmpPath parts) files count) := by
  unfold Recovers writeAtomicSteps
  rw [FileStep.crash_replace apart]
  split
  · exact .inl held
  · refine .inr ?_
    rw [dumped]
    exact serializes.validated

/-- **Crashes while saving.** Wherever the process is killed while it saves the routing state,
the file can be loaded afterwards, with the previous or the new state, exactly when it has not
been truncated yet, or all of it is written. -/
theorem save_recovers_iff (documents : AcceptsDocuments codec)
    (held : loadContent codec (files path) = .ok previous)
    (serializes : Serializes codec new) (dumped : parts.flatten = codec.modelDumpJson new)
    (count : ℕ) :
    Recovers codec path previous new (FileStep.crash (saveSteps path parts) files count) ↔
      Untorn parts count := by
  unfold Recovers saveSteps Untorn
  rw [FileStep.crash_write]
  by_cases early : count < 2
  · rw [if_pos early]
    exact iff_of_true (.inl held) (.inl early)
  · rw [if_neg early, or_iff_right early, dumped]
    have starts : (parts.take (count - 2)).flatten <+: codec.modelDumpJson new := by
      rw [← dumped]
      exact isPrefix_flatten_take parts _
    constructor
    · rintro (loaded | loaded)
      · exact eq_of_validated documents serializes starts loaded
      · exact eq_of_validated documents serializes starts loaded
    · intro whole
      rw [whole]
      exact .inr serializes.validated

/-! ## The files of the daemon -/

variable (codec) in
/-- The content of a file, by how it was left. -/
def Describes : RoutingFile → Option Octets → Prop
  | .missing, content => content = none
  | .written state, content => content = some (codec.modelDumpJson state) ∧ Serializes codec state
  | .torn, content => ∃ state start, content = some start ∧ Serializes codec state ∧
      start <+: codec.modelDumpJson state ∧ start ≠ codec.modelDumpJson state

/-- What is loaded from the content is what the model of the file says. -/
theorem load_describes (documents : AcceptsDocuments codec) {file : RoutingFile}
    {content : Option Octets} (describes : Describes codec file content) (state : RoutingState) :
    loadContent codec content = .ok state ↔ RoutingState.load file = .ok state := by
  cases file with
  | missing =>
      obtain rfl : content = none := describes
      rfl
  | written saved =>
      obtain ⟨rfl, serializes⟩ := describes
      rw [loadContent, serializes.validated]
      rfl
  | torn =>
      obtain ⟨saved, start, rfl, serializes, starts, cutOff⟩ := describes
      refine iff_of_false (fun loaded => ?_) fun loaded => by cases loaded
      exact cutOff (eq_of_validated documents serializes starts loaded)

/-- How a save leaves the file when the process is killed. -/
theorem save_describes {file : RoutingFile} (held : Describes codec file (files path))
    (serializes : Serializes codec new) (dumped : parts.flatten = codec.modelDumpJson new)
    (count : ℕ) :
    Describes codec
      (if count < 2 then file else if Untorn parts count then .written new else .torn)
      (FileStep.crash (saveSteps path parts) files count path) := by
  unfold saveSteps
  rw [FileStep.crash_write]
  by_cases early : count < 2
  · rw [if_pos early, if_pos early]
    exact held
  · rw [if_neg early, if_neg early]
    split
    · next untorn =>
        rw [untorn.resolve_left early, dumped]
        exact ⟨rfl, serializes⟩
    · next torn =>
        refine ⟨new, _, rfl, serializes, ?_, fun whole => torn (.inr (whole.trans dumped.symm))⟩
        rw [← dumped]
        exact isPrefix_flatten_take parts _

/-! ## A first agent -/

/-- A text of a document, without escapes. -/
def textDump (text : Text) : Octets := 34 :: (asciiOctets text ++ [34])

/-- A member of an object, on its own line. -/
def memberDump (indent : ℕ) (member : Text × Octets) : Octets :=
  newline :: (List.replicate indent 32 ++ (textDump member.1 ++ 58 :: 32 :: member.2))

def membersDump (indent : ℕ) : List (Text × Octets) → Octets
  | [] => []
  | [member] => memberDump indent member
  | member :: rest => memberDump indent member ++ 44 :: membersDump indent rest

/-- An object with members, at an indent. -/
def objectDump (indent : ℕ) (members : List (Text × Octets)) : Octets :=
  123 :: ((membersDump (indent + 2) members ++ newline :: List.replicate indent 32) ++ [125])

/-- The text of a state without agents. -/
def emptyDump : Octets := objectDump 0 [("agents", [123, 125])]

def firstState : RoutingState := RoutingState.empty.addAgent { agentId := "a" }

/-- The text of that state. -/
def firstDump : Octets :=
  objectDump 0 [("agents", objectDump 2 [("a", objectDump 4
    [ ("agent_id", textDump "a"),
      ("channel_id", asciiOctets "null"),
      ("category_id", asciiOctets "null"),
      ("agent_type", textDump "task"),
      ("handler_type", textDump "session"),
      ("config", [123, 125]),
      ("capabilities", [91, 93]),
      ("transport_type", textDump "native")])])]

/-- The serialization of the two states. -/
def firstCodec : Codec RoutingState where
  modelDumpJson state := if state.agents.keys = [] then emptyDump else firstDump
  validateJson data :=
    if data = emptyDump then .ok RoutingState.empty
    else if data = firstDump then .ok firstState
    else .error .valueError

/-- No octet is a quote, an escape or a bracket. -/
def PlainOctets (data : Octets) : Prop := ∀ octet ∈ data, jsonRole octet = .plain

instance (data : Octets) : Decidable (PlainOctets data) := List.decidableBAll _ data

namespace PlainOctets

variable {data : Octets}

theorem balanced (plain : PlainOctets data) : Balanced jsonRole data := by
  induction data with
  | nil => exact .nil
  | cons octet rest ih =>
      obtain ⟨first, later⟩ := List.forall_mem_cons.mp plain
      exact .plain first (ih later)

theorem stringBody (plain : PlainOctets data) : StringBody jsonRole data := by
  induction data with
  | nil => exact .nil
  | cons octet rest ih =>
      obtain ⟨first, later⟩ := List.forall_mem_cons.mp plain
      exact .symbol (by rw [first]; nofun) (by rw [first]; nofun) (ih later)

theorem replicate (indent : ℕ) : PlainOctets (List.replicate indent 32) := by
  intro octet member
  rw [List.eq_of_mem_replicate member]
  rfl

theorem balanced_textDump {text : Text} (plain : PlainOctets (asciiOctets text)) :
    Balanced jsonRole (textDump text) :=
  .quoted rfl plain.stringBody rfl .nil

end PlainOctets

/-- The name of a member is plain, and its value balanced. -/
def BalancedMember (member : Text × Octets) : Prop :=
  PlainOctets (asciiOctets member.1) ∧ Balanced jsonRole member.2

theorem BalancedMember.balanced {member : Text × Octets} (balanced : BalancedMember member)
    (indent : ℕ) : Balanced jsonRole (memberDump indent member) :=
  .plain rfl ((PlainOctets.replicate indent).balanced.append
    (balanced.1.balanced_textDump.append (.plain rfl (.plain rfl balanced.2))))

theorem balanced_membersDump (indent : ℕ) {members : List (Text × Octets)}
    (each : ∀ member ∈ members, BalancedMember member) :
    Balanced jsonRole (membersDump indent members) := by
  induction members with
  | nil => exact .nil
  | cons member rest ih =>
      obtain ⟨first, later⟩ := List.forall_mem_cons.mp each
      cases rest with
      | nil => exact first.balanced indent
      | cons second rest => exact (first.balanced indent).append (.plain rfl (ih later))

theorem group_objectDump (indent : ℕ) {members : List (Text × Octets)}
    (each : ∀ member ∈ members, BalancedMember member) :
    Group jsonRole (objectDump indent members) :=
  ⟨123, _, 125, rfl, rfl, (balanced_membersDump _ each).append
    (.plain rfl (PlainOctets.replicate indent).balanced), rfl⟩

theorem group_emptyDump : Group jsonRole emptyDump := by
  refine group_objectDump 0 (List.forall_mem_singleton.mpr ⟨by decide, ?_⟩)
  exact Balanced.group rfl .nil rfl .nil

theorem group_firstDump : Group jsonRole firstDump := by
  have braces : Balanced jsonRole [123, 125] := Balanced.group rfl .nil rfl .nil
  have brackets : Balanced jsonRole [91, 93] := Balanced.group rfl .nil rfl .nil
  have null : PlainOctets (asciiOctets "null") := by decide
  have text (text : Text) (plain : PlainOctets (asciiOctets text)) :=
    plain.balanced_textDump
  refine group_objectDump 0 (List.forall_mem_singleton.mpr ⟨by decide, Group.balanced ?_⟩)
  refine group_objectDump 2 (List.forall_mem_singleton.mpr ⟨by decide, Group.balanced ?_⟩)
  refine group_objectDump 4 ?_
  simp only [List.forall_mem_cons]
  exact ⟨⟨by decide, text _ (by decide)⟩, ⟨by decide, null.balanced⟩,
    ⟨by decide, null.balanced⟩, ⟨by decide, text _ (by decide)⟩, ⟨by decide, text _ (by decide)⟩,
    ⟨by decide, braces⟩, ⟨by decide, brackets⟩, ⟨by decide, text _ (by decide)⟩, nofun⟩

theorem firstDump_ne_emptyDump : firstDump ≠ emptyDump := by decide +kernel

theorem firstCodec_empty : firstCodec.validateJson emptyDump = .ok RoutingState.empty := by
  unfold firstCodec
  dsimp only
  rw [if_pos rfl]

theorem firstCodec_serializes : Serializes firstCodec firstState := by
  refine ⟨?_, group_firstDump⟩
  change firstCodec.validateJson firstDump = .ok firstState
  unfold firstCodec
  dsimp only
  rw [if_neg firstDump_ne_emptyDump, if_pos rfl]

theorem firstCodec_acceptsDocuments : AcceptsDocuments firstCodec := by
  intro data value validated
  unfold firstCodec at validated
  dsimp only at validated
  split at validated
  · next same =>
      rw [same]
      exact ⟨List.cons_ne_nil _ _, group_emptyDump.balanced⟩
  · split at validated
    · next same =>
        rw [same]
        exact ⟨List.cons_ne_nil _ _, group_firstDump.balanced⟩
    · cases validated

/-- The text of the state with the agent, which reaches the file in two parts. -/
def firstParts : List Octets := [firstDump.take 40, firstDump.drop 40]

theorem flatten_firstParts : firstParts.flatten = firstCodec.modelDumpJson firstState := by
  unfold firstParts
  rw [List.flatten_cons, List.flatten_singleton, List.take_append_drop]
  rfl

/-- The first agent is saved over the state without agents. Killed between the two parts, the
process leaves neither state, and killed behind the second part it leaves the new one. -/
theorem written_recovers :
    ¬ Recovers firstCodec "routing.json" RoutingState.empty firstState
        (FileStep.crash (saveSteps "routing.json" firstParts) (fun _ => some emptyDump) 3) ∧
      Recovers firstCodec "routing.json" RoutingState.empty firstState
        (FileStep.crash (saveSteps "routing.json" firstParts) (fun _ => some emptyDump) 4) := by
  have recovers (count : ℕ) := @save_recovers_iff firstCodec "routing.json"
    (fun _ => some emptyDump) RoutingState.empty firstState firstParts
    firstCodec_acceptsDocuments firstCodec_empty firstCodec_serializes flatten_firstParts count
  exact ⟨(recovers 3).not.mpr (by decide +kernel), (recovers 4).mpr (by decide +kernel)⟩

/-- Killed behind the truncation, the process leaves a file that cannot be loaded. -/
theorem truncated_unrecoverable :
    ¬ ∀ (codec : Codec RoutingState) (files : Files Text UInt8) (path : Text)
      (previous new : RoutingState) (parts : List Octets) (count : ℕ), AcceptsDocuments codec →
        loadContent codec (files path) = .ok previous → Serializes codec new →
          parts.flatten = codec.modelDumpJson new →
            Recovers codec path previous new
              (FileStep.crash (saveSteps path parts) files count) := by
  intro always
  have recovers := always firstCodec (fun _ => some emptyDump) "routing.json" RoutingState.empty
    firstState firstParts 2 firstCodec_acceptsDocuments firstCodec_empty firstCodec_serializes
    flatten_firstParts
  unfold Recovers saveSteps at recovers
  rw [FileStep.crash_write, if_neg (by decide)] at recovers
  have refused : loadContent firstCodec (some []) = .error .valueError := by
    have noEmpty : ([] : Octets) ≠ emptyDump := (List.cons_ne_nil _ _).symm
    have noFirst : ([] : Octets) ≠ firstDump := (List.cons_ne_nil _ _).symm
    unfold loadContent firstCodec
    dsimp only
    rw [if_neg noEmpty, if_neg noFirst]
  rw [show (firstParts.take (2 - 2)).flatten = [] from rfl, refused] at recovers
  rcases recovers with loaded | loaded <;> cases loaded

end Vcompany.Daemon
