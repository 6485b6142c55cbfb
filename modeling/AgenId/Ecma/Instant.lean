import AgenId.Ecma.Pattern
import Mathlib.Tactic.Linarith
import Mathlib.Tactic.Ring

/-!
# Time values and their ISO spelling

A time value is a number of milliseconds since 1970-01-01T00:00:00Z.
`Date.parse` is fixed here on the interchange format with seconds and the
suffix `Z`, for any precision of the fraction from none to nine digits; the
engine keeps the first three.  On every other text the engine is free, so
the parser takes its answer there as an argument.
-/

namespace AgenId.Ecma

/-! ## The proleptic Gregorian calendar -/

/-- The day on which a year starts, counted from 1970-01-01. -/
def dayFromYear (year : Int) : Int :=
  365 * (year - 1970) + (year - 1969) / 4 - (year - 1901) / 100 +
    (year - 1601) / 400

/-- The year a day falls in. -/
def yearFromDay (day : Int) : Int :=
  let guess := 1970 + day * 400 / 146097
  if dayFromYear (guess + 1) ≤ day then
    guess + 1
  else if dayFromYear guess ≤ day then
    guess
  else
    guess - 1

/-- One in a leap year, zero in any other. -/
def leapDay (year : Int) : Int :=
  dayFromYear (year + 1) - dayFromYear year - 365

/-- The day of the year on which a month starts, for months from 1. -/
def dayFromMonth (leap : Int) : Nat → Int
  | 2 => 31
  | 3 => 59 + leap
  | 4 => 90 + leap
  | 5 => 120 + leap
  | 6 => 151 + leap
  | 7 => 181 + leap
  | 8 => 212 + leap
  | 9 => 243 + leap
  | 10 => 273 + leap
  | 11 => 304 + leap
  | 12 => 334 + leap
  | _ => 0

/-- The month a day of the year falls in. -/
def monthFromDay (leap dayInYear : Int) : Nat :=
  if dayInYear < 31 then 1
  else if dayInYear < 59 + leap then 2
  else if dayInYear < 90 + leap then 3
  else if dayInYear < 120 + leap then 4
  else if dayInYear < 151 + leap then 5
  else if dayInYear < 181 + leap then 6
  else if dayInYear < 212 + leap then 7
  else if dayInYear < 243 + leap then 8
  else if dayInYear < 273 + leap then 9
  else if dayInYear < 304 + leap then 10
  else if dayInYear < 334 + leap then 11
  else 12

/-- A day of the year is found in the month that `monthFromDay` names, at
most thirty days after its start. -/
theorem monthFromDay_spec
    {leap dayInYear : Int}
    (leapCases : leap = 0 ∨ leap = 1)
    (lower : 0 ≤ dayInYear) (upper : dayInYear < 365 + leap) :
    1 ≤ monthFromDay leap dayInYear ∧
      monthFromDay leap dayInYear ≤ 12 ∧
      dayFromMonth leap (monthFromDay leap dayInYear) ≤ dayInYear ∧
      dayInYear <
        dayFromMonth leap (monthFromDay leap dayInYear) + 31 := by
  have leapLow : 0 ≤ leap := by omega
  have leapHigh : leap ≤ 1 := by omega
  clear leapCases
  fun_cases monthFromDay leap dayInYear <;>
    refine ⟨by decide, by decide, ?_, ?_⟩ <;>
    simp only [dayFromMonth] <;>
    omega

theorem leapDay_cases (year : Int) : leapDay year = 0 ∨ leapDay year = 1 := by
  unfold leapDay dayFromYear
  omega

/-- The year of a day is the one whose first day is the last not after it. -/
theorem yearFromDay_spec (day : Int) :
    dayFromYear (yearFromDay day) ≤ day ∧
      day < dayFromYear (yearFromDay day + 1) := by
  have guessLow :
      dayFromYear (1970 + day * 400 / 146097 - 1) ≤ day := by
    unfold dayFromYear
    omega
  have guessHigh :
      day < dayFromYear (1970 + day * 400 / 146097 + 1 + 1) := by
    unfold dayFromYear
    omega
  unfold yearFromDay
  simp only
  split
  · exact ⟨‹_›, guessHigh⟩
  · split
    · exact ⟨‹_›, by omega⟩
    · refine ⟨guessLow, ?_⟩
      rw [Int.sub_add_cancel]
      omega

/-! ## Reading the interchange format -/

/-- What a text in the format says, before any range is checked. -/
structure DateFields where
  year : Int
  month : Nat
  day : Nat
  hour : Nat
  minute : Nat
  second : Nat
  /-- The digits of the fraction, in order. -/
  fraction : List Nat
  /-- Whether the year is spelled `-000000`, which denotes no year. -/
  negativeZero : Bool

/-- Read exactly `count` decimal digits onto an accumulator. -/
def readDigits : Nat → Nat → JsString → Option (Nat × JsString)
  | 0, accumulated, text => some (accumulated, text)
  | _ + 1, _, [] => none
  | count + 1, accumulated, unit :: rest =>
    if isDigit unit then
      readDigits count (accumulated * 10 + (unit.toNat - 0x30)) rest
    else
      none

/-- Read one given code unit. -/
def expect (unit : UInt16) : JsString → Option JsString
  | [] => none
  | head :: rest => if head = unit then some rest else none

/-- Read a separator and then a number of exactly `count` digits. -/
def readField (separator : UInt16) (count : Nat) (text : JsString) :
    Option (Nat × JsString) :=
  (expect separator text).bind (readDigits count 0)

/-- Read `YYYY`, `+YYYYYY` or `-YYYYYY`: the sign and the magnitude. -/
def readYear : JsString → Option ((Bool × Nat) × JsString)
  | [] => none
  | unit :: rest =>
    if unit = 0x2B then
      (readDigits 6 0 rest).map fun (year, rest) => ((false, year), rest)
    else if unit = 0x2D then
      (readDigits 6 0 rest).map fun (year, rest) => ((true, year), rest)
    else
      (readDigits 4 0 (unit :: rest)).map
        fun (year, rest) => ((false, year), rest)

/-- Read an optional fraction of one to nine digits. -/
def readFraction (text : JsString) : Option (List Nat × JsString) :=
  match text with
  | [] => some ([], [])
  | unit :: rest =>
    if unit = 0x2E then
      let digits := rest.takeWhile isDigit
      if 1 ≤ digits.length ∧ digits.length ≤ 9 then
        some (digits.map fun digit => digit.toNat - 0x30,
          rest.dropWhile isDigit)
      else
        none
    else
      some ([], unit :: rest)

/-- Read a whole text in the format. -/
def readInstant (text : JsString) : Option DateFields := do
  let ((negative, year), text) ← readYear text
  let (month, text) ← readField 0x2D 2 text
  let (day, text) ← readField 0x2D 2 text
  let (hour, text) ← readField 0x54 2 text
  let (minute, text) ← readField 0x3A 2 text
  let (second, text) ← readField 0x3A 2 text
  let (fraction, text) ← readFraction text
  let text ← expect 0x5A text
  if text = [] then
    some {
      year := if negative then -(year : Int) else year
      month, day, hour, minute, second, fraction
      negativeZero := negative && year == 0 }
  else
    none

/-- The milliseconds of a fraction: its first three digits. -/
def milliseconds (fraction : List Nat) : Nat :=
  match fraction with
  | [] => 0
  | [tenths] => tenths * 100
  | [tenths, hundredths] => tenths * 100 + hundredths * 10
  | tenths :: hundredths :: thousandths :: _ =>
    tenths * 100 + hundredths * 10 + thousandths

/-- The greatest magnitude of a time value. -/
def maxTime : Int := 8640000000000000

/-- A time value, or none beyond the range of `Date`. -/
def timeClip (time : Int) : Option Int :=
  if time.natAbs ≤ maxTime.natAbs then some time else none

/-- The time the fields denote, or none where they denote no time.  A day up
to 31 is taken in every month and runs over into the next, and the hour 24
stands for the end of the day. -/
def DateFields.time (fields : DateFields) : Option Int :=
  let clock := fields.hour * 3600000 + fields.minute * 60000 +
    fields.second * 1000 + milliseconds fields.fraction
  let endOfDay := fields.hour = 24 ∧ fields.minute = 0 ∧ fields.second = 0 ∧
    fields.fraction.all (· == 0)
  if fields.negativeZero = false ∧
      1 ≤ fields.month ∧ fields.month ≤ 12 ∧
      1 ≤ fields.day ∧ fields.day ≤ 31 ∧
      (fields.hour ≤ 23 ∨ endOfDay) ∧
      fields.minute ≤ 59 ∧ fields.second ≤ 59 then
    timeClip
      ((dayFromYear fields.year +
          dayFromMonth (leapDay fields.year) fields.month +
          (fields.day - 1)) * 86400000 + clock)
  else
    none

/-- `Date.parse(text)`, with `none` for `NaN`; `other` answers for the texts
outside the format. -/
def parseDate (other : JsString → Option Int) (text : JsString) : Option Int :=
  match readInstant text with
  | some fields => fields.time
  | none => other text

/-! ## Writing it -/

/-- `left < right` on the results of `Date.parse`; `NaN` compares as false. -/
def dateLess (left right : Option Int) : Bool :=
  match left, right with
  | some left, some right => decide (left < right)
  | _, _ => false

/-- `left >= right` on the results of `Date.parse`. -/
def dateAtLeast (left right : Option Int) : Bool :=
  match left, right with
  | some left, some right => decide (right ≤ left)
  | _, _ => false

@[simp]
theorem dateLess_some (left right : Int) :
    dateLess (some left) (some right) = decide (left < right) := rfl

@[simp]
theorem dateAtLeast_some (left right : Int) :
    dateAtLeast (some left) (some right) = decide (right ≤ left) := rfl

@[simp]
theorem dateLess_none_left (right : Option Int) :
    dateLess none right = false := rfl

@[simp]
theorem dateLess_none_right (left : Option Int) :
    dateLess left none = false := by
  cases left <;> rfl

theorem dateLess_eq_true_iff {left right : Option Int} :
    dateLess left right = true ↔
      ∃ first second, left = some first ∧ right = some second ∧
        first < second := by
  cases left with
  | none => simp
  | some first =>
      cases right with
      | none => simp
      | some second => simp

@[simp]
theorem dateAtLeast_none_left (right : Option Int) :
    dateAtLeast none right = false := rfl

@[simp]
theorem dateAtLeast_none_right (left : Option Int) :
    dateAtLeast left none = false := by
  cases left <;> rfl

/-- The year as `toISOString` spells it. -/
def isoYear (year : Int) : JsString :=
  if 0 ≤ year ∧ year ≤ 9999 then
    padded 4 year.natAbs
  else if year < 0 then
    0x2D :: padded 6 year.natAbs
  else
    0x2B :: padded 6 year.natAbs

/-- `new Date(time).toISOString()` for a time value that is not `NaN`. -/
def isoString (time : Int) : JsString :=
  let day := time / 86400000
  let clock := (time % 86400000).toNat
  let year := yearFromDay day
  let dayInYear := day - dayFromYear year
  let month := monthFromDay (leapDay year) dayInYear
  let dayInMonth := dayInYear - dayFromMonth (leapDay year) month + 1
  isoYear year ++ 0x2D :: (padded 2 month ++ 0x2D ::
    (padded 2 dayInMonth.toNat ++ 0x54 ::
      (padded 2 (clock / 3600000) ++ 0x3A ::
        (padded 2 (clock / 60000 % 60) ++ 0x3A ::
          (padded 2 (clock / 1000 % 60) ++ 0x2E ::
            (padded 3 (clock % 1000) ++ [0x5A]))))))

/-! ## Reading back what was written -/

theorem readDigits_append
    (first second accumulated : Nat) (text : JsString) :
    readDigits (first + second) accumulated text =
      (readDigits first accumulated text).bind
        fun (value, rest) => readDigits second value rest := by
  induction first generalizing accumulated text with
  | zero =>
      simp [readDigits]
  | succ first inductionHypothesis =>
      cases text with
      | nil =>
          rw [Nat.succ_add]
          rfl
      | cons unit rest =>
          rw [Nat.succ_add]
          simp only [readDigits]
          split
          · exact inductionHypothesis _ _
          · rfl

/-- Reading back padded digits appends them to the accumulator. -/
theorem readDigits_padded
    (width n accumulated : Nat) (rest : JsString) :
    readDigits width accumulated (padded width n ++ rest) =
      some (accumulated * 10 ^ width + n % 10 ^ width, rest) := by
  induction width generalizing n accumulated rest with
  | zero =>
      simp [readDigits, padded, Nat.mod_one]
  | succ width inductionHypothesis =>
      have small : n % 10 < 10 := Nat.mod_lt _ (by omega)
      rw [readDigits_append, padded, List.append_assoc, inductionHypothesis]
      simp only [Option.bind_some, List.cons_append, List.nil_append,
        readDigits, isDigit_digitUnit small, digitUnit_toNat small, if_true,
        Option.some.injEq, Prod.mk.injEq, and_true]
      rw [Nat.pow_succ, Nat.mul_comm (10 ^ width) 10, Nat.mod_mul,
        Nat.add_sub_cancel_left]
      ring

theorem readDigits_padded_of_lt
    {width n : Nat} (fits : n < 10 ^ width) (rest : JsString) :
    readDigits width 0 (padded width n ++ rest) = some (n, rest) := by
  rw [readDigits_padded, Nat.zero_mul, Nat.zero_add, Nat.mod_eq_of_lt fits]

@[simp]
theorem expect_cons (unit : UInt16) (rest : JsString) :
    expect unit (unit :: rest) = some rest := by
  simp [expect]

theorem readField_padded
    {separator : UInt16} {width n : Nat}
    (fits : n < 10 ^ width) (rest : JsString) :
    readField separator width (separator :: (padded width n ++ rest)) =
      some (n, rest) := by
  rw [readField, expect_cons, Option.bind_some, readDigits_padded_of_lt fits]

theorem readYear_isoYear
    {year : Int} (fits : year.natAbs < 1000000) (rest : JsString) :
    readYear (isoYear year ++ rest) =
      some ((decide (year < 0), year.natAbs), rest) := by
  unfold isoYear
  split
  · have small : year.natAbs < 10 ^ 4 := by omega
    have digits := readDigits_padded_of_lt small rest
    have nonneg : ¬ year < 0 := by omega
    have first : ∃ tail, padded 4 year.natAbs =
        digitUnit (year.natAbs / 10 / 10 / 10 % 10) :: tail :=
      ⟨_, rfl⟩
    obtain ⟨tail, shape⟩ := first
    have isDigitHead :
        isDigit (digitUnit (year.natAbs / 10 / 10 / 10 % 10)) =
          true :=
      isDigit_digitUnit (Nat.mod_lt _ (by omega))
    rw [shape] at digits ⊢
    rw [List.cons_append] at digits ⊢
    rw [readYear, if_neg, if_neg, digits]
    · simp [nonneg]
    · intro same
      rw [same] at isDigitHead
      exact absurd isDigitHead (by decide)
    · intro same
      rw [same] at isDigitHead
      exact absurd isDigitHead (by decide)
  · have small : year.natAbs < 10 ^ 6 := by omega
    split
    · rename_i negative
      simp [readYear, readDigits_padded_of_lt small, negative]
    · rename_i nonnegative
      simp [readYear, readDigits_padded_of_lt small, nonnegative]

/-- The three digits a written fraction has. -/
theorem readFraction_padded (millis : Nat) (rest : JsString) :
    readFraction (0x2E :: (padded 3 millis ++ 0x5A :: rest)) =
      some ([millis / 10 / 10 % 10, millis / 10 % 10, millis % 10],
        0x5A :: rest) := by
  have hundreds : millis / 10 / 10 % 10 < 10 := Nat.mod_lt _ (by omega)
  have tens : millis / 10 % 10 < 10 := Nat.mod_lt _ (by omega)
  have ones : millis % 10 < 10 := Nat.mod_lt _ (by omega)
  have notDigit : isDigit 0x5A = false := by decide
  simp [readFraction, padded, List.takeWhile, List.dropWhile,
    isDigit_digitUnit hundreds, isDigit_digitUnit tens,
    isDigit_digitUnit ones, notDigit, digitUnit_toNat hundreds,
    digitUnit_toNat tens, digitUnit_toNat ones]

/-- A text written with two-digit fields and three fractional digits is read
back field by field. -/
theorem readInstant_written
    {year : Int} {month day hour minute second : Nat}
    (yearFits : year.natAbs < 1000000)
    (monthFits : month < 10 ^ 2) (dayFits : day < 10 ^ 2)
    (hourFits : hour < 10 ^ 2) (minuteFits : minute < 10 ^ 2)
    (secondFits : second < 10 ^ 2) (millis : Nat) :
    readInstant
        (isoYear year ++ 0x2D :: (padded 2 month ++ 0x2D ::
          (padded 2 day ++ 0x54 :: (padded 2 hour ++ 0x3A ::
            (padded 2 minute ++ 0x3A :: (padded 2 second ++ 0x2E ::
              (padded 3 millis ++ [0x5A]))))))) =
      some {
        year, month, day, hour, minute, second
        fraction := [millis / 10 / 10 % 10, millis / 10 % 10, millis % 10]
        negativeZero := false } := by
  have signed :
      (if decide (year < 0) = true then -(year.natAbs : Int)
        else (year.natAbs : Int)) = year := by
    split <;> rename_i sign <;>
      simp only [decide_eq_true_eq] at sign <;> omega
  have notNegativeZero :
      (decide (year < 0) && year.natAbs == 0) = false := by
    by_cases negative : year < 0
    · simp [negative]
      omega
    · simp [negative]
  unfold readInstant
  rw [readYear_isoYear yearFits]
  dsimp only [bind, Option.bind]
  rw [readField_padded monthFits]
  dsimp only
  rw [readField_padded dayFits]
  dsimp only
  rw [readField_padded hourFits]
  dsimp only
  rw [readField_padded minuteFits]
  dsimp only
  rw [readField_padded secondFits]
  dsimp only
  rw [readFraction_padded]
  dsimp only
  rw [expect_cons]
  dsimp only
  rw [if_pos rfl, signed, notNegativeZero]

theorem yearFromDay_bounds {day : Int} (inRange : day.natAbs ≤ 100000000) :
    (yearFromDay day).natAbs < 1000000 := by
  obtain ⟨notAfter, before⟩ := yearFromDay_spec day
  unfold dayFromYear at notAfter before
  omega

/-- `Date.parse` inverts `toISOString`, whatever the engine does outside the
format. -/
theorem parseDate_isoString
    (other : JsString → Option Int) {time : Int}
    (inRange : time.natAbs ≤ maxTime.natAbs) :
    parseDate other (isoString time) = some time := by
  have dayRange : (time / 86400000).natAbs ≤ 100000000 := by
    simp only [maxTime] at inRange
    omega
  have yearFits := yearFromDay_bounds dayRange
  obtain ⟨yearNotAfter, beforeNext⟩ := yearFromDay_spec (time / 86400000)
  obtain ⟨clockBelow, clockEq⟩ :
      (time % 86400000).toNat < 86400000 ∧
        ((time % 86400000).toNat : Int) = time % 86400000 := by
    omega
  have leapCases := leapDay_cases (yearFromDay (time / 86400000))
  have dayUpper :
      time / 86400000 - dayFromYear (yearFromDay (time / 86400000)) <
        365 + leapDay (yearFromDay (time / 86400000)) := by
    unfold leapDay
    omega
  obtain ⟨monthLow, monthHigh, monthNotAfter, monthBefore⟩ :=
    monthFromDay_spec leapCases (by omega) dayUpper
  unfold isoString
  simp only
  generalize hYear : yearFromDay (time / 86400000) = year at *
  generalize hDayInYear :
    time / 86400000 - dayFromYear year = dayInYear at *
  generalize hMonth : monthFromDay (leapDay year) dayInYear = month at *
  generalize hClock : (time % 86400000).toNat = clock at *
  generalize hDay :
    dayInYear - dayFromMonth (leapDay year) month + 1 = dayInMonth at *
  have dayFits : dayInMonth.toNat < 10 ^ 2 := by omega
  have monthFits : month < 10 ^ 2 := by omega
  have hourFits : clock / 3600000 < 10 ^ 2 := by omega
  have minuteFits : clock / 60000 % 60 < 10 ^ 2 := by omega
  have secondFits : clock / 1000 % 60 < 10 ^ 2 := by omega
  have inRangeFields :
      (1 ≤ month ∧ month ≤ 12) ∧
        (1 ≤ dayInMonth.toNat ∧ dayInMonth.toNat ≤ 31) ∧
        clock / 3600000 ≤ 23 ∧ clock / 60000 % 60 ≤ 59 ∧
        clock / 1000 % 60 ≤ 59 := by
    omega
  obtain ⟨monthIn, dayIn, hourIn, minuteIn, secondIn⟩ := inRangeFields
  have recomposed :
      (dayFromYear year + dayFromMonth (leapDay year) month +
            ((dayInMonth.toNat : Int) - 1)) * 86400000 +
          ((clock / 3600000 * 3600000 + clock / 60000 % 60 * 60000 +
              clock / 1000 % 60 * 1000 +
              (clock % 1000 / 10 / 10 % 10 * 100 +
                clock % 1000 / 10 % 10 * 10 + clock % 1000 % 10) : Nat) :
            Int) =
        time := by
    omega
  unfold parseDate
  rw [readInstant_written yearFits monthFits dayFits hourFits minuteFits
    secondFits]
  simp only [DateFields.time, milliseconds]
  rw [if_pos ⟨trivial, monthIn.1, monthIn.2, dayIn.1, dayIn.2, Or.inl hourIn,
    minuteIn, secondIn⟩, recomposed, timeClip, if_pos inRange]

end AgenId.Ecma
