import Vcompany.Foundation.IsoFormat
import Vcompany.Foundation.JsonText
import Vcompany.Supervisor.Scheduler

/-! # The stored form of the schedules

`_persist` writes the entries of the schedule map as a JSON document, with the wake times in ISO
format, and `load` validates the entries of the document that it finds and sets them in the map.

`load_text`: what is written for a map whose entries stand under their own agents is loaded as
that map, where the map is empty.
-/

namespace Vcompany.Supervisor

open Foundation

namespace ScheduleEntry

/-- The wake time as `datetime.isoformat()` writes it. -/
def wakeText (entry : ScheduleEntry) : Text :=
  IsoFormat.isoformat (entry.nextWakeUtc - minInstant).toNat

/-- `entry.model_dump()`. -/
def modelDump (entry : ScheduleEntry) : JsonValue :=
  .object
    [ ("agent_id", .str entry.agentId),
      ("interval_seconds", .int entry.intervalSeconds),
      ("next_wake_utc", .str entry.wakeText) ]

/-- The wake time is one of `datetime`. -/
def InRange (entry : ScheduleEntry) : Prop :=
  minInstant ≤ entry.nextWakeUtc ∧ entry.nextWakeUtc ≤ maxInstant

end ScheduleEntry

/-- A field of type `int`, which may also be validated from another type. -/
def integerField (lax : JsonValue → Except PyExc ℤ) : JsonValue → Except PyExc ℤ
  | .int value => .ok value
  | value => lax value

/-- The instant of a wake time. -/
def wakeInstant (text : Text) : Except PyExc ℤ :=
  match IsoFormat.fromisoformat text with
  | some instant => .ok (minInstant + instant)
  | none => .error .valueError

/-- `ScheduleEntry.model_validate`. The entry keeps the text of its wake time; here it is read
as the instant that every check reads it as. -/
def ScheduleEntry.modelValidate (lax : JsonValue → Except PyExc ℤ) :
    JsonValue → Except PyExc ScheduleEntry
  | .object members => do
      let agentId ← JsonValue.textField (← JsonValue.requiredField "agent_id" members)
      let intervalSeconds ← integerField lax (← JsonValue.requiredField "interval_seconds" members)
      let nextWakeUtc ← wakeInstant
        (← JsonValue.textField (← JsonValue.requiredField "next_wake_utc" members))
      return { agentId, intervalSeconds, nextWakeUtc }
  | _ => .error .valueError

/-- `for entry_dict in entries`. -/
def entryDicts : JsonValue → Except PyExc (List JsonValue)
  | .list items => .ok items
  | .object members => .ok (members.map fun member => .str member.1)
  | .str text => .ok (text.map fun c => .str [c])
  | _ => .error .typeError

namespace Schedules

/-- `self._schedules[entry.agent_id] = entry`, for each of the values up to one that is not
valid. -/
def loadEntries (lax : JsonValue → Except PyExc ℤ) :
    Schedules → List JsonValue → Schedules × Except PyExc Unit
  | schedules, [] => (schedules, .ok ())
  | schedules, value :: rest =>
      match ScheduleEntry.modelValidate lax value with
      | .error raised => (schedules, .error raised)
      | .ok entry => loadEntries lax (Dict.set schedules entry.agentId entry) rest

/-- `load`, of what the store has under its key, into the map as it is by then. -/
def load (lax : JsonValue → Except PyExc ℤ) (data : Option Text) (schedules : Schedules) :
    Schedules × Except PyExc Unit :=
  match data with
  | none => (schedules, .ok ())
  | some data =>
      match JsonText.loads data >>= entryDicts with
      | .error raised => (schedules, .error raised)
      | .ok values => loadEntries lax schedules values

/-- `json.dumps` of the entries. -/
def text (schedules : Schedules) : Text :=
  JsonText.dumps (.list (schedules.values.map ScheduleEntry.modelDump))

/-- Each entry stands under its agent, and wakes it at a time of `datetime`. -/
def Sound (schedules : Schedules) : Prop :=
  ∀ entry ∈ schedules.entries, entry.2.agentId = entry.1 ∧ entry.2.InRange

end Schedules

/-! ## What is written is loaded -/

theorem ScheduleEntry.plain_modelDump (entry : ScheduleEntry) : JsonText.Plain entry.modelDump := by
  have distinct : (["agent_id", "interval_seconds", "next_wake_utc"] : List Text).Nodup := by
    decide
  refine .object distinct ?_
  intro member found
  simp only [List.mem_cons, List.not_mem_nil, or_false] at found
  rcases found with rfl | rfl | rfl
  · exact .str _
  · exact .int _
  · exact .str _

theorem ScheduleEntry.modelValidate_modelDump (lax : JsonValue → Except PyExc ℤ)
    {entry : ScheduleEntry} (inRange : entry.InRange) :
    modelValidate lax entry.modelDump = .ok entry := by
  have bounded : (entry.nextWakeUtc - minInstant).toNat <
      IsoFormat.maxOrdinal * IsoFormat.microsecondsPerDay := by
    have range := inRange
    unfold InRange minInstant maxInstant at range
    unfold minInstant IsoFormat.maxOrdinal IsoFormat.microsecondsPerDay
    omega
  have same : minInstant + ((entry.nextWakeUtc - minInstant).toNat : ℤ) = entry.nextWakeUtc := by
    have first := inRange.1
    omega
  have wake : wakeInstant entry.wakeText = .ok entry.nextWakeUtc := by
    unfold wakeInstant wakeText
    rw [IsoFormat.fromisoformat_isoformat bounded]
    exact congrArg Except.ok same
  change (do
    let nextWakeUtc ← wakeInstant entry.wakeText
    return { entry with nextWakeUtc }) = Except.ok entry
  rw [wake]
  rfl

namespace Schedules

variable {schedules : Schedules}

theorem sound_empty : Sound Dict.empty := nofun

theorem Sound.set (sound : schedules.Sound) {agentId : Text} {entry : ScheduleEntry}
    (keyed : entry.agentId = agentId) (inRange : entry.InRange) :
    Sound (Dict.set schedules agentId entry) := by
  rintro ⟨other, found⟩ member
  rw [← Dict.get?_eq_some_iff, Dict.get?_set_eq_some_iff] at member
  rcases member with ⟨rfl, rfl⟩ | ⟨_, old⟩
  · exact ⟨keyed, inRange⟩
  · exact sound _ (Dict.get?_eq_some_iff.mp old)

theorem Sound.pop (sound : schedules.Sound) (agentId : Text) :
    Sound (Dict.pop schedules agentId) :=
  fun entry member => sound entry (List.mem_filter.mp member).1

/-- The first entry is valid, and set before the others. -/
theorem loadEntries_cons (lax : JsonValue → Except PyExc ℤ) {entry : ScheduleEntry}
    (inRange : entry.InRange) (values : List JsonValue) :
    loadEntries lax schedules (entry.modelDump :: values) =
      loadEntries lax (Dict.set schedules entry.agentId entry) values := by
  rw [loadEntries, ScheduleEntry.modelValidate_modelDump lax inRange]

/-- The entries are set behind those that are there. -/
theorem loadEntries_modelDump (lax : JsonValue → Except PyExc ℤ)
    {entries : List (Text × ScheduleEntry)}
    (sound : ∀ entry ∈ entries, entry.2.agentId = entry.1 ∧ entry.2.InRange)
    (distinct : ((schedules.entries ++ entries).map Prod.fst).Nodup) :
    ∃ loaded : Schedules,
      loadEntries lax schedules (entries.map fun entry => entry.2.modelDump) =
          (loaded, .ok ()) ∧
        loaded.entries = schedules.entries ++ entries := by
  induction entries generalizing schedules with
  | nil => exact ⟨schedules, rfl, (List.append_nil _).symm⟩
  | cons entry entries ih =>
      obtain ⟨⟨keyed, inRange⟩, later⟩ := List.forall_mem_cons.mp sound
      have fresh : entry.1 ∉ schedules.keys := fun old =>
        (List.nodup_append.mp (List.map_append ▸ distinct)).2.2 _ old _
          (List.mem_map.mpr ⟨entry, List.mem_cons_self, rfl⟩) rfl
      have appended := Dict.entries_set_of_notMem entry.2 fresh
      obtain ⟨loaded, same, found⟩ := @ih (Dict.set schedules entry.1 entry.2) later
        (by rwa [appended, List.append_assoc])
      refine ⟨loaded, ?_, by rw [found, appended, List.append_assoc]; rfl⟩
      rw [List.map_cons, loadEntries_cons lax inRange, keyed]
      exact same

/-- What is loaded of a text are the entries that it was written for. -/
theorem load_text_eq (lax : JsonValue → Except PyExc ℤ) (stored schedules : Schedules) :
    load lax (some stored.text) schedules =
      loadEntries lax schedules (stored.entries.map fun entry => entry.2.modelDump) := by
  have plain : JsonText.Plain (.list (stored.values.map ScheduleEntry.modelDump)) := by
    refine .list fun value member => ?_
    obtain ⟨entry, _, rfl⟩ := List.mem_map.mp member
    exact entry.plain_modelDump
  have values : JsonText.loads stored.text >>= entryDicts =
      .ok (stored.values.map ScheduleEntry.modelDump) := by
    rw [text, JsonText.dumps, JsonText.loads_write _ plain]
    rfl
  rw [load, values]
  change loadEntries lax schedules (stored.values.map ScheduleEntry.modelDump) = _
  rw [Dict.values, List.map_map]
  rfl

/-- **The round trip.** What is written for the map is loaded as the map. -/
theorem load_text (lax : JsonValue → Except PyExc ℤ) (sound : schedules.Sound) :
    load lax (some schedules.text) Dict.empty = (schedules, .ok ()) := by
  obtain ⟨loaded, same, found⟩ :=
    @loadEntries_modelDump Dict.empty lax schedules.entries sound schedules.distinct
  rw [load_text_eq, same]
  exact congrArg (·, Except.ok ()) (Dict.eq_of_entries (found.trans (List.nil_append _)))

/-- What is written for one map can be loaded into another. -/
theorem Sound.load_text {stored : Schedules} (sound : schedules.Sound)
    (lax : JsonValue → Except PyExc ℤ) (written : stored.Sound) :
    ∃ loaded : Schedules, load lax (some stored.text) schedules = (loaded, .ok ()) ∧
      loaded.Sound := by
  have onward (entries : List (Text × ScheduleEntry))
      (each : ∀ entry ∈ entries, entry.2.agentId = entry.1 ∧ entry.2.InRange) :
      ∃ loaded : Schedules,
        loadEntries lax schedules (entries.map fun entry => entry.2.modelDump) =
          (loaded, .ok ()) ∧ loaded.Sound := by
    induction entries generalizing schedules with
    | nil => exact ⟨schedules, rfl, sound⟩
    | cons entry entries ih =>
        obtain ⟨⟨_, inRange⟩, later⟩ := List.forall_mem_cons.mp each
        rw [List.map_cons, loadEntries_cons lax inRange]
        exact ih (sound.set rfl inRange) later
  rw [load_text_eq]
  exact onward stored.entries written

end Schedules

end Vcompany.Supervisor
