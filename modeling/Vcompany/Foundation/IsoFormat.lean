import Vcompany.Foundation.Text
import Mathlib.Algebra.Group.Nat.Defs
import Mathlib.Tactic.SplitIfs

/-! # Dates and times in ISO format

The calendar of `datetime`, whose days are numbered from 1 January of the year 1, and the text
that `isoformat` writes for an instant in UTC. Instants are in microseconds from the first one.

`fromisoformat_isoformat`: an instant in the range of `datetime` is read back from its text.
-/

namespace Vcompany.Foundation

namespace IsoFormat

/-! ## The calendar -/

def isLeap (year : ℕ) : Bool := year % 4 == 0 && (year % 100 != 0 || year % 400 == 0)

/-- The days before the year. -/
def daysBeforeYear (year : ℕ) : ℕ :=
  (year - 1) * 365 + (year - 1) / 4 - (year - 1) / 100 + (year - 1) / 400

def daysInMonth (leap : Bool) (month : ℕ) : ℕ :=
  if month = 2 then (if leap then 29 else 28)
  else if month = 4 ∨ month = 6 ∨ month = 9 ∨ month = 11 then 30
  else 31

/-- The days of the year before the month. -/
def daysBeforeMonth (leap : Bool) (month : ℕ) : ℕ :=
  [0, 0, 31, 59, 90, 120, 151, 181, 212, 243, 273, 304, 334].getD month 0 +
    (if 2 < month ∧ leap then 1 else 0)

structure Date where
  year : ℕ
  month : ℕ
  day : ℕ
  deriving DecidableEq, Repr

/-- The number of the day. -/
def Date.toOrdinal (date : Date) : ℕ :=
  daysBeforeYear date.year + daysBeforeMonth (isLeap date.year) date.month + date.day

/-- The month and the day in it, from the days of the year before. The estimate of the month is
right or one too large. -/
def monthDay (leap : Bool) (days : ℕ) : ℕ × ℕ :=
  let month := (days + 50) / 32
  if days < daysBeforeMonth leap month then
    (month - 1, days - daysBeforeMonth leap (month - 1) + 1)
  else (month, days - daysBeforeMonth leap month + 1)

/-- The date that is so many periods of 400, 100, 4 and 1 years, and days, after the first. -/
def Date.ofPeriods (n400 n100 n4 n1 days : ℕ) : Date :=
  let year := n400 * 400 + 1 + n100 * 100 + n4 * 4 + n1
  if n1 = 4 ∨ n100 = 4 then ⟨year - 1, 12, 31⟩
  else
    let leap := n1 == 3 && (n4 != 24 || n100 == 3)
    ⟨year, (monthDay leap days).1, (monthDay leap days).2⟩

/-- The date of the day with the number. -/
def Date.ofOrdinal (ordinal : ℕ) : Date :=
  let days := ordinal - 1
  let inPeriod := days % 146097
  let inCentury := inPeriod % 36524
  let inFour := inCentury % 1461
  .ofPeriods (days / 146097) (inPeriod / 36524) (inCentury / 1461) (inFour / 365) (inFour % 365)

/-- The last day of the year 9999. -/
def maxOrdinal : ℕ := 3652059

structure Date.Valid (date : Date) : Prop where
  year : 1 ≤ date.year ∧ date.year ≤ 9999
  month : 1 ≤ date.month ∧ date.month ≤ 12
  day : 1 ≤ date.day ∧ date.day ≤ daysInMonth (isLeap date.year) date.month

instance (date : Date) : Decidable date.Valid :=
  decidable_of_iff
    ((1 ≤ date.year ∧ date.year ≤ 9999) ∧ (1 ≤ date.month ∧ date.month ≤ 12) ∧
      (1 ≤ date.day ∧ date.day ≤ daysInMonth (isLeap date.year) date.month))
    ⟨fun ⟨year, month, day⟩ => ⟨year, month, day⟩, fun ⟨year, month, day⟩ => ⟨year, month, day⟩⟩

/-- The month and the day are those of the year's calendar. -/
structure Placed (leap : Bool) (days : ℕ) (found : ℕ × ℕ) : Prop where
  month : 1 ≤ found.1 ∧ found.1 ≤ 12
  day : 1 ≤ found.2 ∧ found.2 ≤ daysInMonth leap found.1
  same : daysBeforeMonth leap found.1 + found.2 = days + 1

instance (leap : Bool) (days : ℕ) (found : ℕ × ℕ) : Decidable (Placed leap days found) :=
  decidable_of_iff
    ((1 ≤ found.1 ∧ found.1 ≤ 12) ∧ (1 ≤ found.2 ∧ found.2 ≤ daysInMonth leap found.1) ∧
      daysBeforeMonth leap found.1 + found.2 = days + 1)
    ⟨fun ⟨month, day, same⟩ => ⟨month, day, same⟩, fun ⟨month, day, same⟩ => ⟨month, day, same⟩⟩

set_option maxRecDepth 4000 in
theorem monthDay_placed (leap : Bool) : ∀ days < 365, Placed leap days (monthDay leap days) := by
  cases leap <;> decide

/-- The days before a year, by its place in the periods. -/
theorem daysBeforeYear_eq {n400 n100 n4 n1 : ℕ} (centuries : n100 < 4) (fours : n4 < 25)
    (years : n1 < 4) : daysBeforeYear (n400 * 400 + 1 + n100 * 100 + n4 * 4 + n1) =
      n400 * 146097 + n100 * 36524 + n4 * 1461 + n1 * 365 := by
  have before : n400 * 400 + 1 + n100 * 100 + n4 * 4 + n1 - 1 =
      n400 * 400 + n100 * 100 + n4 * 4 + n1 := by
    omega
  have byFour : (n400 * 400 + n100 * 100 + n4 * 4 + n1) / 4 = n400 * 100 + n100 * 25 + n4 := by
    omega
  have byCentury : (n400 * 400 + n100 * 100 + n4 * 4 + n1) / 100 = n400 * 4 + n100 := by
    omega
  have byPeriod : (n400 * 400 + n100 * 100 + n4 * 4 + n1) / 400 = n400 := by
    omega
  unfold daysBeforeYear
  rw [before, byFour, byCentury, byPeriod]
  omega

theorem isLeap_eq {n400 n100 n4 n1 : ℕ} (centuries : n100 < 4) (fours : n4 < 25)
    (years : n1 < 4) : isLeap (n400 * 400 + 1 + n100 * 100 + n4 * 4 + n1) =
      (n1 == 3 && (n4 != 24 || n100 == 3)) := by
  rw [Bool.eq_iff_iff]
  simp only [isLeap, Bool.and_eq_true, Bool.or_eq_true, beq_iff_eq, bne_iff_ne]
  omega

/-- A date is the last day of a leap year, or a day that is found in its year. -/
theorem ofPeriods_cases {n400 n100 n4 n1 days : ℕ} (fours : n4 < 25) (rest : days < 365)
    (yearly : n1 ≤ 4) (lastYear : n1 = 4 → days = 0 ∧ n4 < 24 ∧ n100 < 4)
    (secular : n100 ≤ 4) (lastCentury : n100 = 4 → n4 = 0 ∧ n1 = 0 ∧ days = 0) {total : ℕ}
    (whole : n400 * 146097 + n100 * 36524 + n4 * 1461 + n1 * 365 + days = total) :
    (∃ year, Date.ofPeriods n400 n100 n4 n1 days = ⟨year, 12, 31⟩ ∧ isLeap year = true ∧
        daysBeforeYear year + 365 = total ∧ 1 ≤ year) ∨
      ∃ year, Date.ofPeriods n400 n100 n4 n1 days =
          ⟨year, (monthDay (isLeap year) days).1, (monthDay (isLeap year) days).2⟩ ∧
        daysBeforeYear year + days = total ∧ 1 ≤ year := by
  unfold Date.ofPeriods
  dsimp only
  by_cases century : n100 = 4
  · obtain ⟨rfl, rfl, rfl⟩ := lastCentury century
    -- The last year of the period is the fourth of its century.
    have same : n400 * 400 + 1 + n100 * 100 + 0 * 4 + 0 - 1 =
        n400 * 400 + 1 + 3 * 100 + 24 * 4 + 3 := by
      omega
    rw [if_pos (Or.inr century), same]
    refine Or.inl ⟨_, rfl, isLeap_eq (by omega) (by omega) (by omega), ?_, by omega⟩
    rw [daysBeforeYear_eq (by omega) (by omega) (by omega)]
    omega
  · by_cases year : n1 = 4
    · obtain ⟨rfl, early, _⟩ := lastYear year
      have same : n400 * 400 + 1 + n100 * 100 + n4 * 4 + n1 - 1 =
          n400 * 400 + 1 + n100 * 100 + n4 * 4 + 3 := by
        omega
      rw [if_pos (Or.inl year), same]
      refine Or.inl ⟨_, rfl, ?_, ?_, by omega⟩
      · rw [isLeap_eq (by omega) fours (by omega)]
        simp only [beq_self_eq_true, Bool.true_and, Bool.or_eq_true, bne_iff_ne]
        omega
      · rw [daysBeforeYear_eq (by omega) fours (by omega)]
        omega
    · rw [if_neg (by omega)]
      refine Or.inr ⟨n400 * 400 + 1 + n100 * 100 + n4 * 4 + n1, ?_, ?_, by omega⟩
      · rw [isLeap_eq (by omega) fours (by omega)]
      · rw [daysBeforeYear_eq (by omega) fours (by omega)]
        omega

/-- The date of a day has the number of the day, and is one of the calendar. -/
theorem ofOrdinal_sound {ordinal : ℕ} (positive : 1 ≤ ordinal) (bounded : ordinal ≤ maxOrdinal) :
    (Date.ofOrdinal ordinal).toOrdinal = ordinal ∧ (Date.ofOrdinal ordinal).Valid := by
  have rest : (ordinal - 1) % 146097 % 36524 % 1461 % 365 < 365 := Nat.mod_lt _ (by omega)
  have inRange {year : ℕ} (before : daysBeforeYear year < ordinal) : year ≤ 9999 := by
    unfold daysBeforeYear at before
    unfold maxOrdinal at bounded
    omega
  have cases_ := @ofPeriods_cases ((ordinal - 1) / 146097) ((ordinal - 1) % 146097 / 36524)
    ((ordinal - 1) % 146097 % 36524 / 1461) ((ordinal - 1) % 146097 % 36524 % 1461 / 365) _
    (by omega) rest (by omega) (by omega) (by omega) (by omega) (ordinal - 1) (by omega)
  rcases cases_ with ⟨year, same, leap, total, first⟩ | ⟨year, same, total, first⟩
  · have date : Date.ofOrdinal ordinal = ⟨year, 12, 31⟩ := same
    have within : year ≤ 9999 := inRange (by omega)
    have december : 1 ≤ 31 ∧ 31 ≤ daysInMonth (isLeap year) 12 := ⟨by decide, le_rfl⟩
    rw [date]
    refine ⟨?_, ⟨first, within⟩, (by decide : 1 ≤ 12 ∧ 12 ≤ 12), december⟩
    change daysBeforeYear year + daysBeforeMonth (isLeap year) 12 + 31 = ordinal
    rw [leap]
    change daysBeforeYear year + 335 + 31 = ordinal
    omega
  · have date : Date.ofOrdinal ordinal = ⟨year, _, _⟩ := same
    have placed := monthDay_placed (isLeap year) _ rest
    have within : year ≤ 9999 := inRange (by omega)
    rw [date]
    refine ⟨?_, ⟨first, within⟩, placed.month, placed.day⟩
    change daysBeforeYear year + daysBeforeMonth (isLeap year) _ + _ = ordinal
    rw [Nat.add_assoc, placed.same]
    omega

/-! ## Digits -/

/-- A number by its last digits, so many of them. -/
def digits : ℕ → ℕ → Text
  | 0, _ => []
  | width + 1, value => digits width (value / 10) ++ [Nat.digitChar (value % 10)]

/-- The number of so many digits, and what is behind them. -/
def readDigits (width : ℕ) (text : Text) : Option (ℕ × Text) :=
  if (text.take width).length = width ∧ (text.take width).all Char.isDigit then
    some (Nat.ofDigitChars 10 (text.take width) 0, text.drop width)
  else none

theorem length_digits (width value : ℕ) : (digits width value).length = width := by
  induction width generalizing value with
  | zero => rfl
  | succ width ih => rw [digits, List.length_append, ih, List.length_singleton]

theorem isDigit_digits (width value : ℕ) : ∀ c ∈ digits width value, c.isDigit = true := by
  induction width generalizing value with
  | zero => nofun
  | succ width ih =>
      refine List.forall_mem_append.mpr ⟨ih _, List.forall_mem_singleton.mpr ?_⟩
      rw [Nat.isDigit_digitChar]
      exact decide_eq_true (Nat.mod_lt _ (by omega))

theorem ofDigitChars_digits {width value : ℕ} (small : value < 10 ^ width) :
    Nat.ofDigitChars 10 (digits width value) 0 = value := by
  induction width generalizing value with
  | zero =>
      rw [digits, Nat.ofDigitChars_nil]
      omega
  | succ width ih =>
      rw [digits, Nat.ofDigitChars_append, ih (by omega),
        Nat.ofDigitChars_cons_digitChar_of_lt_ten (Nat.mod_lt _ (by omega)), Nat.ofDigitChars_nil]
      omega

theorem readDigits_digits {width value : ℕ} (small : value < 10 ^ width) (rest : Text) :
    readDigits width (digits width value ++ rest) = some (value, rest) := by
  have taken : (digits width value ++ rest).take width = digits width value :=
    List.take_left' (length_digits width value)
  have dropped : (digits width value ++ rest).drop width = rest :=
    List.drop_left' (length_digits width value)
  unfold readDigits
  rw [taken, dropped, if_pos ⟨length_digits width value,
    List.all_eq_true.mpr (isDigit_digits width value)⟩, ofDigitChars_digits small]

/-! ## Instants -/

def microsecondsPerDay : ℕ := 86400000000

/-- `+00:00`. -/
def utcOffset : Text := ['+', '0', '0', ':', '0', '0']

/-- The microseconds of the second, if there are any. -/
def fractionText (microseconds : ℕ) : Text :=
  if microseconds = 0 then [] else '.' :: digits 6 microseconds

/-- The time of the day, in microseconds, and the offset. -/
def timeText (time : ℕ) : Text :=
  digits 2 (time / 3600000000) ++ ':' :: (digits 2 (time / 60000000 % 60) ++
    ':' :: (digits 2 (time / 1000000 % 60) ++ (fractionText (time % 1000000) ++ utcOffset)))

def dateText (date : Date) (rest : Text) : Text :=
  digits 4 date.year ++ '-' :: (digits 2 date.month ++ '-' :: (digits 2 date.day ++ rest))

/-- `datetime.isoformat()`, in UTC. -/
def isoformat (instant : ℕ) : Text :=
  dateText (Date.ofOrdinal (instant / microsecondsPerDay + 1))
    ('T' :: timeText (instant % microsecondsPerDay))

/-- The text behind the character. -/
def expect (c : Char) : Text → Option Text
  | [] => none
  | first :: rest => if first = c then some rest else none

def readDate (text : Text) : Option (Date × Text) := do
  let (year, text) ← readDigits 4 text
  let (month, text) ← readDigits 2 (← expect '-' text)
  let (day, text) ← readDigits 2 (← expect '-' text)
  if (⟨year, month, day⟩ : Date).Valid then some (⟨year, month, day⟩, text) else none

def readFraction : Text → Option (ℕ × Text)
  | '.' :: rest => readDigits 6 rest
  | text => some (0, text)

def readTime (text : Text) : Option ℕ := do
  let (hour, text) ← readDigits 2 text
  let (minute, text) ← readDigits 2 (← expect ':' text)
  let (second, text) ← readDigits 2 (← expect ':' text)
  let (microsecond, text) ← readFraction text
  if text = utcOffset ∧ hour < 24 ∧ minute < 60 ∧ second < 60 then
    some (((hour * 60 + minute) * 60 + second) * 1000000 + microsecond)
  else none

/-- `datetime.fromisoformat`, of the texts that `isoformat` writes. -/
def fromisoformat (text : Text) : Option ℕ := do
  let (date, text) ← readDate text
  let time ← readTime (← expect 'T' text)
  return (date.toOrdinal - 1) * microsecondsPerDay + time

theorem readDate_dateText {date : Date} (valid : date.Valid) (rest : Text) :
    readDate (dateText date rest) = some (date, rest) := by
  have year : date.year < 10 ^ 4 := Nat.lt_succ_of_le valid.year.2
  have month : date.month < 10 ^ 2 := by
    have bound := valid.month.2
    omega
  have day : date.day < 10 ^ 2 := by
    have bound := valid.day.2
    unfold daysInMonth at bound
    split_ifs at bound <;> omega
  unfold readDate dateText
  rw [readDigits_digits year]
  simp only [bind, Option.bind, expect, if_true]
  rw [readDigits_digits month]
  simp only [if_true]
  rw [readDigits_digits day]
  exact if_pos valid

theorem readFraction_fractionText {microseconds : ℕ} (small : microseconds < 1000000) :
    readFraction (fractionText microseconds ++ utcOffset) = some (microseconds, utcOffset) := by
  unfold fractionText
  split
  · next none => rw [none]; rfl
  · exact readDigits_digits small utcOffset

theorem readTime_timeText {time : ℕ} (inDay : time < microsecondsPerDay) :
    readTime (timeText time) = some time := by
  have hour : time / 3600000000 < 10 ^ 2 := by
    unfold microsecondsPerDay at inDay
    omega
  unfold readTime timeText
  rw [readDigits_digits hour]
  simp only [bind, Option.bind, expect, if_true]
  rw [readDigits_digits (by omega)]
  simp only [if_true]
  rw [readDigits_digits (by omega)]
  simp only
  rw [readFraction_fractionText (Nat.mod_lt _ (by omega))]
  unfold microsecondsPerDay at inDay
  dsimp only
  rw [if_pos ⟨rfl, by omega, by omega, by omega⟩]
  exact congrArg some (by omega)

/-- **The round trip.** An instant is read back from its text. -/
theorem fromisoformat_isoformat {instant : ℕ}
    (bounded : instant < maxOrdinal * microsecondsPerDay) :
    fromisoformat (isoformat instant) = some instant := by
  have day : instant / microsecondsPerDay + 1 ≤ maxOrdinal :=
    Nat.div_lt_of_lt_mul (by rwa [Nat.mul_comm])
  obtain ⟨same, valid⟩ := ofOrdinal_sound (Nat.succ_le_succ (Nat.zero_le _)) day
  unfold fromisoformat isoformat
  rw [readDate_dateText valid]
  simp only [bind, Option.bind, expect, if_true]
  rw [readTime_timeText (Nat.mod_lt _ (by decide)), same]
  exact congrArg some (Nat.div_add_mod' instant microsecondsPerDay)

end IsoFormat

end Vcompany.Foundation
