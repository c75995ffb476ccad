import Vcompany.Foundation.JsonText
import Vcompany.Worker.SessionHandler

/-! # The stored form of a session

The session handler stores an assignment as `json.dumps` writes it, and a checkpoint of the
lifecycle as pydantic does. Both are read back as they were (`loads_assignmentText`,
`modelValidateJson_modelDumpJson`).
-/

namespace Vcompany.Worker

open Foundation

/-! ## The assignment -/

/-- The members of the assignment that a message describes. -/
def assignmentMembers (now : Moment) (content : Text) : List (Text × Text) :=
  ("raw", content) :: ("assigned_at", now.isoformat) ::
    match assignmentItem content with
    | some itemId => [("item_id", itemId)]
    | none => []

/-- An object of strings. -/
def stringObject (members : List (Text × Text)) : JsonValue :=
  .object (members.map fun member => (member.1, .str member.2))

/-- `json.dumps(assignment)`. -/
def assignmentText (now : Moment) (content : Text) : Text :=
  JsonText.dumps (stringObject (assignmentMembers now content))

theorem plain_stringObject {members : List (Text × Text)}
    (distinct : (members.map Prod.fst).Nodup) : JsonText.Plain (stringObject members) := by
  refine .object ?_ fun member found => ?_
  · rw [List.map_map]
    exact distinct
  · obtain ⟨entry, _, rfl⟩ := List.mem_map.mp found
    exact .str _

theorem assignmentMembers_distinct (now : Moment) (content : Text) :
    ((assignmentMembers now content).map Prod.fst).Nodup := by
  unfold assignmentMembers
  rcases assignmentItem content with _ | itemId
  · change (["raw", "assigned_at"] : List Text).Nodup
    decide
  · change (["raw", "assigned_at", "item_id"] : List Text).Nodup
    decide

theorem py_stringObject (parse : Text → PyValue) (members : List (Text × Text)) :
    (stringObject members).py parse =
      .dict (members.map fun member => (.str member.1, .str member.2)) := by
  unfold stringObject
  rw [JsonValue.py]
  congr 1
  induction members with
  | nil => rfl
  | cons member members ih =>
      rw [List.map_cons, List.map_cons, JsonValue.pyMembers, ih, JsonValue.py]

/-- What is stored for a message is read as the assignment that it describes. -/
theorem loads_assignmentText (parse : Text → PyValue) (now : Moment) (content : Text) :
    (JsonText.loads (assignmentText now content)).map (JsonValue.py parse) =
      .ok (assignmentOf now content) := by
  unfold assignmentText
  rw [JsonText.dumps,
    JsonText.loads_write _ (plain_stringObject (assignmentMembers_distinct now content))]
  refine congrArg Except.ok ((py_stringObject parse _).trans ?_)
  unfold assignmentMembers assignmentOf
  rcases assignmentItem content with _ | itemId <;> rfl

/-! ## The checkpoint -/

namespace CheckpointData

/-- `checkpoint.model_dump_json()`. -/
def modelDumpJson (checkpoint : CheckpointData) : Text :=
  JsonText.write JsonText.compact (.object
    [ ("configuration", .list (checkpoint.configuration.states.map .str)),
      ("phase", .str checkpoint.phase),
      ("timestamp", .str checkpoint.timestamp) ])

/-- A field of type `list[str]`. -/
def textsField : JsonValue → Except PyExc (List Text)
  | .list items => items.mapM JsonValue.textField
  | _ => .error .valueError

/-- `CheckpointData.model_validate_json`. A configuration has states, and none of them twice. -/
def modelValidateJson (data : Text) : Except PyExc CheckpointData := do
  match ← JsonText.loads data with
  | .object members =>
      let states ← textsField (← JsonValue.requiredField "configuration" members)
      let phase ← JsonValue.textField (← JsonValue.requiredField "phase" members)
      let timestamp ← JsonValue.textField (← JsonValue.requiredField "timestamp" members)
      if valid : states ≠ [] ∧ states.Nodup then
        return { configuration := ⟨states, valid.1, valid.2⟩, phase, timestamp }
      else .error .valueError
  | _ => .error .valueError

theorem textsField_map (texts : List Text) : textsField (.list (texts.map .str)) = .ok texts := by
  change (texts.map JsonValue.str).mapM JsonValue.textField = .ok texts
  induction texts with
  | nil => rfl
  | cons text texts ih =>
      rw [List.map_cons, List.mapM_cons, ih]
      rfl

theorem plain_modelDumpJson (checkpoint : CheckpointData) :
    JsonText.Plain (.object
      [ ("configuration", .list (checkpoint.configuration.states.map .str)),
        ("phase", .str checkpoint.phase),
        ("timestamp", .str checkpoint.timestamp) ]) := by
  have distinct : (["configuration", "phase", "timestamp"] : List Text).Nodup := by decide
  refine .object distinct ?_
  intro member found
  simp only [List.mem_cons, List.not_mem_nil, or_false] at found
  rcases found with rfl | rfl | rfl
  · refine .list fun item among => ?_
    obtain ⟨state, _, rfl⟩ := List.mem_map.mp among
    exact .str _
  · exact .str _
  · exact .str _

/-- **The round trip.** A checkpoint is read back from its text. -/
theorem modelValidateJson_modelDumpJson (checkpoint : CheckpointData) :
    modelValidateJson checkpoint.modelDumpJson = .ok checkpoint := by
  unfold modelValidateJson modelDumpJson
  rw [JsonText.loads_write _ checkpoint.plain_modelDumpJson, PyExc.ok_bind]
  change (do
    let states ← textsField (.list (checkpoint.configuration.states.map .str))
    if valid : states ≠ [] ∧ states.Nodup then
      return { checkpoint with configuration := ⟨states, valid.1, valid.2⟩ }
    else Except.error PyExc.valueError) = Except.ok checkpoint
  rw [textsField_map, PyExc.ok_bind]
  exact dif_pos ⟨checkpoint.configuration.nonempty, checkpoint.configuration.distinct⟩

end CheckpointData

end Vcompany.Worker
