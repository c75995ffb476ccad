import Vcompany.Foundation.Json
import Vcompany.Foundation.PyValue
import Vcompany.Foundation.Search

/-! # The decision log

`DecisionLogger` appends each decision as a line of JSON to a file. It reads the file back by
splitting it at line feeds, while the PM tier reads it with `splitlines`, which also ends a line
at characters that the serializer does not escape. So the PM tier sees the entries without
these characters only (`loadDecisionLog_logged`).

The parser and the validation of an entry come from outside (`EntryReader`).
-/

namespace Vcompany.Strategist

open Foundation
open Json (Closed ObjectStart ObjectTail IsKey scan)

/-- A time in ISO format. -/
structure IsoTime where
  text : Text
  oneLine : ∀ c ∈ text, Text.isLineBreak c = false
  deriving DecidableEq

structure DecisionLogEntry where
  timestamp : IsoTime
  questionOrPlan : Text
  decision : Text
  confidenceLevel : Text
  decidedBy : Text
  agentId : Text
  deriving DecidableEq

/-- The texts of an entry, under their keys. -/
def DecisionLogEntry.texts (entry : DecisionLogEntry) : List (Text × Text) :=
  [("question_or_plan", entry.questionOrPlan), ("decision", entry.decision),
    ("confidence_level", entry.confidenceLevel), ("decided_by", entry.decidedBy),
    ("agent_id", entry.agentId)]

/-- `entry.model_dump_json()`. -/
def DecisionLogEntry.modelDumpJson (entry : DecisionLogEntry) : Text :=
  Json.object "timestamp" entry.timestamp.text entry.texts

/-- `json.loads`, and the validation of an entry. An entry has required fields, so that only an
object with members is validated as one; the text of an object has closed strings, and starts
with a brace, a string and a colon. -/
structure EntryReader where
  loads : Text → Except PyExc PyValue
  validate : PyValue → Except PyExc DecisionLogEntry
  validate_members : ∀ data entry, validate data = .ok entry →
    ∃ first members, data = .dict (first :: members)
  loads_object : ∀ text first members, loads text = .ok (.dict (first :: members)) →
    Closed text ∧ ObjectStart text

/-- What is serialized for the entry is read as it. -/
def EntryReader.RoundTrips (reader : EntryReader) (entry : DecisionLogEntry) : Prop :=
  ∃ data, reader.loads entry.modelDumpJson = .ok data ∧ reader.validate data = .ok entry

/-! ## Writing and reading -/

/-- `DecisionLogger._append_to_file`, on the content of the file if it exists. -/
def appendToFile (content : Option Text) (entry : DecisionLogEntry) : Option Text :=
  some (content.getD [] ++ (entry.modelDumpJson ++ "\n".toList))

/-- The file after a sequence of decisions, none of which was logged before. -/
def logged (entries : List DecisionLogEntry) : Option Text := entries.foldl appendToFile none

/-- The line ends that reading a file in text mode translates. -/
def universalNewlines : Text → Text
  | [] => []
  | '\r' :: '\n' :: rest => '\n' :: universalNewlines rest
  | c :: rest => (if c = '\r' then '\n' else c) :: universalNewlines rest

/-- The entry of a line, unless it is empty or malformed. -/
def EntryReader.readLine (reader : EntryReader) (line : Text) : Option DecisionLogEntry :=
  if Text.strip line = [] then none
  else (reader.loads (Text.strip line) >>= reader.validate).toOption

/-- `DecisionLogger.load_decisions`. -/
def loadDecisions (reader : EntryReader) : Option Text → List DecisionLogEntry
  | none => []
  | some content =>
      ((Text.strip (universalNewlines content)).splitOn '\n').filterMap reader.readLine

/-- `PMTier._load_decision_log`. -/
def loadDecisionLog (reader : EntryReader) : Option Text → List DecisionLogEntry
  | none => []
  | some content => (Text.splitlines (universalNewlines content)).filterMap reader.readLine

/-! ## The line of an entry -/

/-- No text of the entry has a line break that is not escaped: U+0085, U+2028 or U+2029. -/
def DecisionLogEntry.oneLine (entry : DecisionLogEntry) : Bool :=
  entry.texts.all fun text =>
    text.2.all fun c => c ≠ '\u0085' && c ≠ '\u2028' && c ≠ '\u2029'

section Entry

variable (entry : DecisionLogEntry)

private theorem isKey_of_letters {c : Char} {more : Text} (alpha : c.isAlpha = true)
    (plain : ((c :: more).all fun d => d ≠ '"' && d ≠ '\\' && !Text.isLineBreak d) = true) :
    IsKey (c :: more) where
  plain d member := by
    have all := List.all_eq_true.mp plain d member
    simpa [and_assoc] using all
  letter := ⟨c, more, rfl, alpha⟩

private theorem timestamp_isKey : IsKey "timestamp" := isKey_of_letters (by decide) (by decide)

private theorem texts_isKey : ∀ text ∈ entry.texts, IsKey text.1 := by
  unfold DecisionLogEntry.texts
  simp only [List.forall_mem_cons]
  exact ⟨isKey_of_letters (by decide) (by decide), isKey_of_letters (by decide) (by decide),
    isKey_of_letters (by decide) (by decide), isKey_of_letters (by decide) (by decide),
    isKey_of_letters (by decide) (by decide), by simp⟩

private theorem unescaped_iff (c : Char) :
    Text.isLineBreak c = true ∧ 32 ≤ c.toNat ↔ c = '\u0085' ∨ c = '\u2028' ∨ c = '\u2029' := by
  have code (d : Char) : c = d ↔ c.toNat = d.toNat :=
    ⟨congrArg Char.toNat, fun same => Char.toNat_inj.mp same⟩
  rw [code, code, code]
  simp only [Text.isLineBreak, Bool.or_eq_true, Bool.and_eq_true, decide_eq_true_eq, beq_iff_eq]
  change _ ↔ c.toNat = 0x85 ∨ c.toNat = 0x2028 ∨ c.toNat = 0x2029
  omega

/-- The line of an entry has no line break exactly when its texts have none that is not
escaped. -/
theorem oneLine_iff :
    entry.oneLine = true ↔ ∀ c ∈ entry.modelDumpJson, Text.isLineBreak c = false := by
  have texts : entry.oneLine = true ↔ ∀ text ∈ entry.texts, ∀ c ∈ text.2,
      ¬ (Text.isLineBreak c = true ∧ 32 ≤ c.toNat) := by
    simp only [DecisionLogEntry.oneLine, List.all_eq_true, unescaped_iff, Bool.and_eq_true,
      decide_eq_true_eq, not_or, and_assoc, ne_eq]
  rw [texts]
  constructor
  · intro none c member
    by_contra ends
    rw [Bool.not_eq_false] at ends
    obtain ⟨printable, inValue | ⟨text, isText, inValue⟩⟩ :=
      (Json.mem_object_iff timestamp_isKey (texts_isKey entry) ends).mp member
    · rw [entry.timestamp.oneLine c inValue] at ends
      cases ends
    · exact none text isText c inValue ⟨ends, printable⟩
  · rintro none text isText c inValue ⟨ends, printable⟩
    have member : c ∈ entry.modelDumpJson :=
      (Json.mem_object_iff timestamp_isKey (texts_isKey entry) ends).mpr
        ⟨printable, .inr ⟨text, isText, inValue⟩⟩
    rw [none c member] at ends
    cases ends

/-- A line break in the line of an entry, and what is around it. -/
theorem modelDumpJson_cut {before after : Text} {c : Char} (ends : Text.isLineBreak c = true)
    (same : entry.modelDumpJson = before ++ c :: after) :
    32 ≤ c.toNat ∧ scan .outside before = .inside ∧ ObjectTail after :=
  Json.object_cut timestamp_isKey (texts_isKey entry) ends same

/-- Neither a line feed nor a carriage return is in the line of an entry. -/
theorem not_mem_modelDumpJson {c : Char} (ends : Text.isLineBreak c = true)
    (control : c.toNat < 32) : c ∉ entry.modelDumpJson := by
  intro member
  obtain ⟨before, after, same⟩ := List.append_of_mem member
  have printable := (modelDumpJson_cut entry ends same).1
  omega

theorem modelDumpJson_braces : ∃ fields, entry.modelDumpJson = '{' :: fields ++ ['}'] :=
  Json.object_braces _ _ _

theorem strip_modelDumpJson : Text.strip entry.modelDumpJson = entry.modelDumpJson := by
  obtain ⟨fields, shape⟩ := modelDumpJson_braces entry
  rw [shape]
  exact Text.strip_of_solid (by decide) (by decide) fields

end Entry

/-! ## Lines that are read, and lines that are skipped -/

section Lines

variable {reader : EntryReader}

theorem readLine_modelDumpJson {entry : DecisionLogEntry} (roundTrips : reader.RoundTrips entry) :
    reader.readLine entry.modelDumpJson = some entry := by
  obtain ⟨data, loaded, validated⟩ := roundTrips
  obtain ⟨fields, shape⟩ := modelDumpJson_braces entry
  have inhabited : entry.modelDumpJson ≠ [] := by
    rw [shape]
    exact List.cons_ne_nil _ _
  rw [EntryReader.readLine, strip_modelDumpJson, if_neg inhabited, loaded, PyExc.ok_bind,
    validated]
  rfl

/-- What a line that is read as an entry looks like. -/
theorem object_of_readLine {line : Text} {entry : DecisionLogEntry}
    (read : reader.readLine line = some entry) :
    Closed (Text.strip line) ∧ ObjectStart (Text.strip line) := by
  unfold EntryReader.readLine at read
  split at read
  · cases read
  · rcases result : reader.loads (Text.strip line) >>= reader.validate with raised | found
    · rw [result] at read
      cases read
    · obtain ⟨data, loaded, validated⟩ := PyExc.bind_eq_ok_iff.mp result
      obtain ⟨first, members, rfl⟩ := reader.validate_members data found validated
      exact reader.loads_object _ first members loaded

/-- A line that ends inside a string is skipped. -/
theorem readLine_of_inside {line : Text} (inside : scan .outside line = .inside) :
    reader.readLine line = none := by
  refine Option.eq_none_iff_forall_ne_some.mpr fun entry read => ?_
  obtain ⟨before, after, shape, blank, blank'⟩ := Text.exists_strip line
  have plain {text : Text} (spaces : ∀ c ∈ text, Text.isSpace c = true) :
      ∀ c ∈ text, c ≠ '"' ∧ c ≠ '\\' := by
    intro c member
    have space := spaces c member
    constructor <;>
    · rintro rfl
      exact absurd space (by decide)
  have closed : scan .outside (Text.strip line) = .outside := (object_of_readLine read).1
  rw [shape, Json.scan_append, Json.scan_append, Json.scan_plain (by decide) (plain blank),
    closed, Json.scan_plain (by decide) (plain blank')] at inside
  cases inside

/-- A line that starts inside a value is skipped. -/
theorem readLine_of_tail {line text : Text} (goesOn : ObjectTail text) (start : line <+: text) :
    reader.readLine line = none := by
  refine Option.eq_none_iff_forall_ne_some.mpr fun entry read => ?_
  obtain ⟨before, after, shape, blank, _⟩ := Text.exists_strip line
  have within : before ++ Text.strip line <+: text := by
    refine List.IsPrefix.trans ?_ start
    exact ⟨after, shape.symm⟩
  exact goesOn.not_objectStart blank within (object_of_readLine read).2

/-- All lines of a text that goes on from inside a value are skipped. -/
theorem readLines_of_tail (rest : Text) : ∀ {text : Text}, ObjectTail text →
    '\n' ∉ text → (Text.splitlines (text ++ '\n' :: rest)).filterMap reader.readLine =
      (Text.splitlines rest).filterMap reader.readLine := by
  intro text
  induction size : text.length using Nat.strong_induction_on generalizing text with
  | _ n ih =>
      intro goesOn noFeed
      rcases Text.exists_cut_lineBreak text with plain | ⟨line, c, later, rfl, ends, plain⟩
      · rw [Text.splitlines_append_break plain (by decide) (by decide),
          List.filterMap_cons_none (readLine_of_tail goesOn List.prefix_rfl)]
      · obtain ⟨printable, goesOn'⟩ := goesOn.cut ends
        have notReturn : c ≠ '\r' := by
          rintro rfl
          exact absurd printable (by decide)
        have shorter : later.length < n := by
          rw [← size, List.length_append, List.length_cons]
          omega
        rw [List.append_assoc, List.cons_append,
          Text.splitlines_append_break plain ends notReturn,
          List.filterMap_cons_none (readLine_of_tail goesOn (List.prefix_append _ _))]
        exact ih later.length shorter rfl goesOn' fun member =>
          noFeed (List.mem_append_right _ (List.mem_cons_of_mem _ member))

end Lines

/-! ## Reading the file back -/

/-- The lines of the entries. -/
def fileText (entries : List DecisionLogEntry) : Text :=
  entries.flatMap fun entry => entry.modelDumpJson ++ "\n".toList

theorem fileText_cons (entry : DecisionLogEntry) (entries : List DecisionLogEntry) :
    fileText (entry :: entries) = entry.modelDumpJson ++ '\n' :: fileText entries := by
  unfold fileText
  rw [List.flatMap_cons, List.append_assoc]
  rfl

private theorem foldl_appendToFile (entries : List DecisionLogEntry) (content : Text) :
    entries.foldl appendToFile (some content) = some (content ++ fileText entries) := by
  induction entries generalizing content with
  | nil => simp [fileText]
  | cons entry entries ih =>
      rw [List.foldl_cons, appendToFile, ih, Option.getD_some, List.append_assoc]
      rfl

theorem logged_cons (entry : DecisionLogEntry) (entries : List DecisionLogEntry) :
    logged (entry :: entries) = some (fileText (entry :: entries)) :=
  foldl_appendToFile entries _

theorem universalNewlines_of_noReturn {text : Text} (noReturn : '\r' ∉ text) :
    universalNewlines text = text := by
  fun_induction universalNewlines text with
  | case1 => rfl
  | case2 => exact absurd List.mem_cons_self noReturn
  | case3 c rest _ ih =>
      obtain ⟨other, later⟩ := not_or.mp (mt List.mem_cons.mpr noReturn)
      rw [if_neg (Ne.symm other), ih later]

theorem universalNewlines_fileText (entries : List DecisionLogEntry) :
    universalNewlines (fileText entries) = fileText entries := by
  apply universalNewlines_of_noReturn
  intro member
  obtain ⟨entry, _, inLine⟩ := List.mem_flatMap.mp member
  rcases List.mem_append.mp inLine with inEntry | feed
  · exact not_mem_modelDumpJson entry (by decide) (by decide) inEntry
  · exact absurd (List.mem_singleton.mp feed) (by decide)

section Read

variable {reader : EntryReader} {entries : List DecisionLogEntry}

/-- What `splitlines` makes of the file: the entries without unescaped line breaks. -/
theorem readLines_fileText (roundTrips : ∀ entry ∈ entries, reader.RoundTrips entry) :
    (Text.splitlines (fileText entries)).filterMap reader.readLine =
      entries.filter DecisionLogEntry.oneLine := by
  induction entries with
  | nil => rfl
  | cons entry entries ih =>
      obtain ⟨first, later⟩ := List.forall_mem_cons.mp roundTrips
      rw [fileText_cons]
      by_cases oneLine : entry.oneLine = true
      · rw [Text.splitlines_append_break ((oneLine_iff entry).mp oneLine) (by decide) (by decide),
          List.filterMap_cons_some (readLine_modelDumpJson first), ih later,
          List.filter_cons_of_pos oneLine]
      · rw [List.filter_cons_of_neg oneLine, ← ih later]
        rcases Text.exists_cut_lineBreak entry.modelDumpJson with
          plain | ⟨line, c, after, shape, ends, plain⟩
        · exact absurd ((oneLine_iff entry).mpr plain) oneLine
        · obtain ⟨printable, inside, goesOn⟩ := modelDumpJson_cut entry ends shape
          have notReturn : c ≠ '\r' := by
            rintro rfl
            exact absurd printable (by decide)
          have noFeed : '\n' ∉ after := fun member =>
            not_mem_modelDumpJson entry (by decide) (by decide)
              (shape ▸ List.mem_append_right _ (List.mem_cons_of_mem _ member))
          rw [shape, List.append_assoc, List.cons_append,
            Text.splitlines_append_break plain ends notReturn,
            List.filterMap_cons_none (readLine_of_inside inside), readLines_of_tail _ goesOn noFeed]

/-- The PM tier sees the entries without unescaped line breaks. -/
theorem loadDecisionLog_logged (roundTrips : ∀ entry ∈ entries, reader.RoundTrips entry) :
    loadDecisionLog reader (logged entries) = entries.filter DecisionLogEntry.oneLine := by
  cases entries with
  | nil => rfl
  | cons entry entries =>
      rw [logged_cons, loadDecisionLog, universalNewlines_fileText, readLines_fileText roundTrips]

private theorem fileText_eq_intercalate (entry : DecisionLogEntry)
    (entries : List DecisionLogEntry) :
    fileText (entry :: entries) = List.intercalate ['\n']
      ((entry :: entries).map DecisionLogEntry.modelDumpJson) ++ ['\n'] := by
  induction entries generalizing entry with
  | nil => simp [fileText]
  | cons next entries ih =>
      rw [fileText_cons, ih, List.map_cons, List.map_cons, List.map_cons,
        List.intercalate_cons_cons]
      simp

private theorem intercalate_braces (entry : DecisionLogEntry)
    (entries : List DecisionLogEntry) :
    ∃ fields, List.intercalate ['\n']
      ((entry :: entries).map DecisionLogEntry.modelDumpJson) = '{' :: fields ++ ['}'] := by
  induction entries generalizing entry with
  | nil => simpa using modelDumpJson_braces entry
  | cons next entries ih =>
      obtain ⟨first, shape⟩ := modelDumpJson_braces entry
      obtain ⟨others, joined⟩ := ih next
      rw [List.map_cons, List.map_cons, List.intercalate_cons_cons, ← List.map_cons, joined, shape]
      exact ⟨first ++ '}' :: '\n' :: '{' :: others, by simp⟩

/-- The logger reads back what it wrote. -/
theorem loadDecisions_logged (roundTrips : ∀ entry ∈ entries, reader.RoundTrips entry) :
    loadDecisions reader (logged entries) = entries := by
  cases entries with
  | nil => rfl
  | cons entry entries =>
      obtain ⟨fields, joined⟩ := intercalate_braces entry entries
      have trimmed : Text.strip (fileText (entry :: entries)) = List.intercalate ['\n']
          ((entry :: entries).map DecisionLogEntry.modelDumpJson) := by
        rw [fileText_eq_intercalate, joined]
        exact Text.strip_append_newline (by decide) (by decide) fields
      have oneLine : ∀ line ∈ (entry :: entries).map DecisionLogEntry.modelDumpJson,
          '\n' ∉ line := by
        intro line member
        obtain ⟨written, _, rfl⟩ := List.mem_map.mp member
        exact not_mem_modelDumpJson written (by decide) (by decide)
      rw [logged_cons, loadDecisions, universalNewlines_fileText, trimmed,
        List.splitOn_intercalate '\n' oneLine (List.cons_ne_nil _ _), List.filterMap_map]
      have each : ∀ written ∈ entry :: entries,
          (reader.readLine ∘ DecisionLogEntry.modelDumpJson) written = some written :=
        fun written member => readLine_modelDumpJson (roundTrips written member)
      rw [List.filterMap_congr each, List.filterMap_some]

/-- **When the decision log reads back what was written.** The logger always does; the PM tier
does exactly when no text of an entry has a line break that JSON leaves as it is. -/
theorem decisions_read_back_iff (reader : EntryReader) (entries : List DecisionLogEntry)
    (roundTrips : ∀ entry ∈ entries, reader.RoundTrips entry) :
    loadDecisions reader (logged entries) = entries ∧
        loadDecisionLog reader (logged entries) = entries ↔
      ∀ entry ∈ entries, entry.oneLine = true := by
  rw [and_iff_right (loadDecisions_logged roundTrips), loadDecisionLog_logged roundTrips,
    List.filter_eq_self]

end Read

/-- A decision with a line separator in it. -/
def separatedEntry : DecisionLogEntry where
  timestamp := ⟨"2026-01-01T00:00:00Z", by
    have all : ("2026-01-01T00:00:00Z".toList.all fun c => !Text.isLineBreak c) = true := by
      decide
    simpa using all⟩
  questionOrPlan := "q"
  decision := ['a', '\u2028', 'b']
  confidenceLevel := "HIGH"
  decidedBy := "PM"
  agentId := "a"

/-- What the decision's line is parsed to. -/
def separatedData : PyValue :=
  .dict ((.str "timestamp".toList, .str separatedEntry.timestamp.text) ::
    separatedEntry.texts.map fun text => (.str text.1, .str text.2))

/-- A reader of the decision's line. -/
def separatedReader : EntryReader where
  loads text :=
    if text = separatedEntry.modelDumpJson then .ok separatedData else .error .jsonDecodeError
  validate
    | .dict (_ :: _) => .ok separatedEntry
    | _ => .error .valueError
  validate_members data entry validated := by
    split at validated
    · next first members => exact ⟨first, members, rfl⟩
    · cases validated
  loads_object text first members loaded := by
    split at loaded
    · next same =>
        rw [same]
        exact ⟨Json.object_closed _ timestamp_isKey (texts_isKey separatedEntry),
          Json.object_start _ _ timestamp_isKey⟩
    · cases loaded

private theorem separatedReader_roundTrips :
    ∀ entry ∈ [separatedEntry], separatedReader.RoundTrips entry := by
  refine List.forall_mem_singleton.mpr ⟨separatedData, ?_, rfl⟩
  unfold separatedReader
  dsimp only
  rw [if_pos rfl]

theorem decisions_read_back_iff_of_separated :
    loadDecisions separatedReader (logged [separatedEntry]) = [separatedEntry] ∧
        loadDecisionLog separatedReader (logged [separatedEntry]) = [separatedEntry] ↔
      ∀ entry ∈ [separatedEntry], entry.oneLine = true :=
  decisions_read_back_iff separatedReader [separatedEntry] separatedReader_roundTrips

/-- The PM tier does not see the decision. -/
theorem separatedEntry_not_read_back :
    ¬ (loadDecisions separatedReader (logged [separatedEntry]) = [separatedEntry] ∧
      loadDecisionLog separatedReader (logged [separatedEntry]) = [separatedEntry]) := by
  rw [loadDecisionLog_logged separatedReader_roundTrips]
  rintro ⟨_, same⟩
  have oneLine := List.filter_eq_self.mp same separatedEntry List.mem_cons_self
  exact absurd oneLine (by decide)

end Vcompany.Strategist
