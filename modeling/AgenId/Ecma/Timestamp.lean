import AgenId.Ecma.Instant
import AgenId.Ecma.Integer
import Mathlib.Tactic.IntervalCases

/-!
# Timestamps and the instants they denote

A timestamp is a date, a time of the day and a fraction of up to nine digits,
each spelled with its own number of digits.  The instant it denotes is counted
in nanoseconds; `Date.parse` keeps its whole milliseconds.  The texts of two
timestamps are in the order of their instants, unless one of them repeats the
other up to its end and goes on with more digits, or has a day that its month
does not have.
-/

namespace AgenId.Ecma

/-! ## Digits -/

/-- A text of as many digits as are asked for. -/
def AreDigits (count : Nat) (text : JsString) : Prop :=
  text.length = count ∧ ∀ unit ∈ text, isDigit unit = true

/-- The number that digits spell. -/
def number (digits : JsString) : Nat := digitsValue 0 digits

theorem readDigits_digits
    {digits : JsString} (areDigits : ∀ unit ∈ digits, isDigit unit = true)
    (initial : Nat) (rest : JsString) :
    readDigits digits.length initial (digits ++ rest) =
      some (digitsValue initial digits, rest) := by
  induction digits generalizing initial with
  | nil => rfl
  | cons unit digits inductionHypothesis =>
      obtain ⟨isFirst, areOthers⟩ := List.forall_mem_cons.mp areDigits
      have step : digitsValue initial (unit :: digits) =
          digitsValue (initial * 10 + (unit.toNat - 0x30)) digits := rfl
      rw [List.length_cons, List.cons_append, readDigits, if_pos isFirst,
        inductionHypothesis areOthers, step]

theorem AreDigits.readDigits
    {count : Nat} {digits : JsString} (areDigits : AreDigits count digits)
    (rest : JsString) :
    Ecma.readDigits count 0 (digits ++ rest) = some (number digits, rest) := by
  obtain ⟨length, eachDigit⟩ := areDigits
  rw [← length]
  exact readDigits_digits eachDigit 0 rest

theorem AreDigits.readField
    {count : Nat} {digits : JsString} (areDigits : AreDigits count digits)
    (separator : UInt16) (rest : JsString) :
    Ecma.readField separator count (separator :: (digits ++ rest)) =
      some (number digits, rest) := by
  rw [Ecma.readField, expect_cons, Option.bind_some, areDigits.readDigits]

theorem AreDigits.number_lt
    {count : Nat} {digits : JsString} (areDigits : AreDigits count digits) :
    number digits < 10 ^ count := by
  obtain ⟨length, eachDigit⟩ := areDigits
  rw [← length]
  exact digitsValue_lt eachDigit

theorem AreDigits.number_lt_iff
    {count : Nat} {left right : JsString} (areLeft : AreDigits count left)
    (areRight : AreDigits count right) :
    number left < number right ↔ left < right :=
  digitsValue_lt_iff (areLeft.1.trans areRight.1.symm) areLeft.2 areRight.2 0

/-- The values of digits, in order. -/
def digitValues (digits : JsString) : List Nat :=
  digits.map fun digit => digit.toNat - 0x30

theorem digitValues_lt
    {digits : JsString} (areDigits : ∀ unit ∈ digits, isDigit unit = true) :
    ∀ digit ∈ digitValues digits, digit < 10 := by
  intro digit isValue
  obtain ⟨unit, isUnit, rfl⟩ := List.mem_map.mp isValue
  have bounds := isDigit_iff.mp (areDigits unit isUnit)
  omega

/-- The first digits of a fraction, as a number of so many digits. -/
def scaled : Nat → List Nat → Nat
  | 0, _ => 0
  | _ + 1, [] => 0
  | width + 1, digit :: rest => digit * 10 ^ width + scaled width rest

theorem scaled_nil (width : Nat) : scaled width [] = 0 := by
  cases width <;> rfl

theorem scaled_lt
    {fraction : List Nat} (areDigits : ∀ digit ∈ fraction, digit < 10)
    (width : Nat) :
    scaled width fraction < 10 ^ width := by
  induction width generalizing fraction with
  | zero => exact Nat.zero_lt_one
  | succ width inductionHypothesis =>
      cases fraction with
      | nil => exact Nat.pow_pos (by decide)
      | cons digit rest =>
          obtain ⟨isDigit, areOthers⟩ := List.forall_mem_cons.mp areDigits
          have restSmall := inductionHypothesis areOthers
          have most : digit * 10 ^ width ≤ 9 * 10 ^ width :=
            Nat.mul_le_mul_right _ (by omega)
          rw [scaled, Nat.pow_succ]
          omega

/-- The digits of a fraction beyond the first ones come after them. -/
theorem scaled_add (width more : Nat) (fraction : List Nat) :
    scaled (width + more) fraction =
      scaled width fraction * 10 ^ more +
        scaled more (fraction.drop width) := by
  induction width generalizing fraction with
  | zero => simp [scaled]
  | succ width inductionHypothesis =>
      cases fraction with
      | nil => simp [scaled_nil]
      | cons digit rest =>
          rw [Nat.succ_add, scaled, scaled, inductionHypothesis,
            List.drop_succ_cons, Nat.pow_add]
          ring

theorem milliseconds_eq_scaled (fraction : List Nat) :
    milliseconds fraction = scaled 3 fraction := by
  match fraction with
  | [] => rfl
  | [tenths] => simp [milliseconds, scaled]
  | [tenths, hundredths] => simp [milliseconds, scaled]
  | tenths :: hundredths :: thousandths :: _ =>
    simp [milliseconds, scaled]
    ring

/-- The instant of a text in the interchange format, in nanoseconds. -/
def exactTime (text : JsString) : Option Int := do
  let fields ← readInstant text
  let time ← fields.time
  return time * 1000000 + scaled 6 (fields.fraction.drop 3)

/-! ## Timestamps -/

/-- A fraction and the letter of the zone. -/
def ending (fraction : JsString) : JsString :=
  if fraction = [] then [0x5A] else 0x2E :: (fraction ++ [0x5A])

/-- The parts of a timestamp, as they are spelled. -/
structure Timestamp where
  year : JsString
  month : JsString
  day : JsString
  hour : JsString
  minute : JsString
  second : JsString
  fraction : JsString
  yearDigits : AreDigits 4 year
  monthDigits : AreDigits 2 month
  dayDigits : AreDigits 2 day
  hourDigits : AreDigits 2 hour
  minuteDigits : AreDigits 2 minute
  secondDigits : AreDigits 2 second
  fractionDigits : ∀ unit ∈ fraction, isDigit unit = true
  fractionLength : fraction.length ≤ 9

namespace Timestamp

variable (stamp : Timestamp)

/-- The date and the time of a timestamp, to the second. -/
def toSecond : JsString :=
  stamp.year ++ 0x2D :: (stamp.month ++ 0x2D :: (stamp.day ++ 0x54 ::
    (stamp.hour ++ 0x3A :: (stamp.minute ++ 0x3A :: stamp.second))))

/-- The text of a timestamp. -/
def text : JsString := stamp.toSecond ++ ending stamp.fraction

/-- The digits of the fraction. -/
def digits : List Nat := digitValues stamp.fraction

/-- What a timestamp says. -/
def fields : DateFields where
  year := number stamp.year
  month := number stamp.month
  day := number stamp.day
  hour := number stamp.hour
  minute := number stamp.minute
  second := number stamp.second
  fraction := stamp.digits
  negativeZero := false

theorem digits_lt : ∀ digit ∈ stamp.digits, digit < 10 :=
  digitValues_lt stamp.fractionDigits

theorem readFraction_ending :
    readFraction (ending stamp.fraction) = some (stamp.digits, [0x5A]) := by
  have notDigit : isDigit 0x5A = false := by decide
  unfold ending digits digitValues
  by_cases isEmpty : stamp.fraction = []
  · rw [if_pos isEmpty, isEmpty]
    rfl
  · have positive := List.length_pos_iff.mpr isEmpty
    have taken : (stamp.fraction ++ [0x5A]).takeWhile isDigit =
        stamp.fraction := by
      rw [List.takeWhile_append_of_pos stamp.fractionDigits]
      simp [notDigit]
    have left : (stamp.fraction ++ [0x5A]).dropWhile isDigit = [0x5A] := by
      rw [List.dropWhile_append_of_pos stamp.fractionDigits]
      simp [notDigit]
    rw [if_neg isEmpty, readFraction, if_pos rfl]
    simp only [taken, left]
    rw [if_pos ⟨positive, stamp.fractionLength⟩]

theorem readYear_year (rest : JsString) :
    readYear (stamp.year ++ rest) =
      some ((false, number stamp.year), rest) := by
  obtain ⟨length, areDigits⟩ := stamp.yearDigits
  have read := stamp.yearDigits.readDigits rest
  cases isYear : stamp.year with
  | nil => simp [isYear] at length
  | cons first others =>
      have isFirst : isDigit first = true :=
        areDigits first (by simp [isYear])
      have notPlus : first ≠ 0x2B := by
        rintro rfl
        exact absurd isFirst (by decide)
      have notMinus : first ≠ 0x2D := by
        rintro rfl
        exact absurd isFirst (by decide)
      rw [isYear, List.cons_append] at read
      rw [List.cons_append, readYear, if_neg notPlus, if_neg notMinus, read]
      rfl

/-- A timestamp is read back as what it says. -/
theorem readInstant_text : readInstant stamp.text = some stamp.fields := by
  unfold text toSecond
  simp only [List.append_assoc, List.cons_append]
  unfold readInstant
  rw [stamp.readYear_year]
  dsimp only [bind, Option.bind]
  rw [stamp.monthDigits.readField]
  dsimp only
  rw [stamp.dayDigits.readField]
  dsimp only
  rw [stamp.hourDigits.readField]
  dsimp only
  rw [stamp.minuteDigits.readField]
  dsimp only
  rw [stamp.secondDigits.readField]
  dsimp only
  rw [stamp.readFraction_ending]
  dsimp only
  rw [expect_cons]
  rfl

/-- `Date.parse` keeps the whole milliseconds of the instant. -/
theorem parseDate_text (other : JsString → Option Int) :
    parseDate other stamp.text =
      (exactTime stamp.text).map fun instant => instant / 1000000 := by
  have areDigits : ∀ digit ∈ stamp.digits.drop 3, digit < 10 :=
    fun digit isDigit =>
      stamp.digits_lt digit (List.mem_of_mem_drop isDigit)
  have small := scaled_lt areDigits 6
  unfold parseDate exactTime
  rw [stamp.readInstant_text]
  cases isTime : stamp.fields.time with
  | none => simp [isTime]
  | some time =>
      simp only [isTime, Option.bind_eq_bind, Option.bind_some,
        Option.pure_def, Option.map_some, Option.some.injEq]
      change time = (time * 1000000 + scaled 6 (stamp.digits.drop 3)) / 1000000
      omega

/-! ## Times that are read -/

/-- The days of a month, in a year with so many leap days. -/
def monthLength (leap : Int) : Nat → Int
  | 2 => 28 + leap
  | 4 => 30
  | 6 => 30
  | 9 => 30
  | 11 => 30
  | _ => 31

/-- The numbers of a timestamp are those of a time that `Date.parse` reads:
a day may run over its month, and the hour 24 ends a day. -/
structure IsTime : Prop where
  month : 1 ≤ number stamp.month ∧ number stamp.month ≤ 12
  day : 1 ≤ number stamp.day ∧ number stamp.day ≤ 31
  hour : number stamp.hour ≤ 23 ∨
    number stamp.hour = 24 ∧ number stamp.minute = 0 ∧
      number stamp.second = 0 ∧ ∀ digit ∈ stamp.digits, digit = 0
  minute : number stamp.minute ≤ 59
  second : number stamp.second ≤ 59

/-- The day of a timestamp is beyond its month. -/
def RunsOver : Prop :=
  monthLength (leapDay (number stamp.year)) (number stamp.month) <
    number stamp.day

/-- The day of a timestamp, counted from 1970-01-01. -/
def dayNumber : Int :=
  dayFromYear (number stamp.year) +
    dayFromMonth (leapDay (number stamp.year)) (number stamp.month) +
    (number stamp.day - 1)

/-- The whole seconds of a timestamp. -/
def seconds : Int :=
  stamp.dayNumber * 86400 + number stamp.hour * 3600 +
    number stamp.minute * 60 + number stamp.second

theorem dayFromMonth_next
    {leap : Int} (leapCases : leap = 0 ∨ leap = 1) {month later : Nat}
    (positive : 1 ≤ month) (order : month < later) (isMonth : later ≤ 12) :
    dayFromMonth leap month + monthLength leap month ≤
      dayFromMonth leap later := by
  interval_cases later <;> interval_cases month <;>
    simp only [dayFromMonth, monthLength] <;> omega

theorem dayFromMonth_end
    {leap : Int} (leapCases : leap = 0 ∨ leap = 1) {month : Nat}
    (positive : 1 ≤ month) (isMonth : month ≤ 12) :
    0 ≤ dayFromMonth leap month ∧
      dayFromMonth leap month + monthLength leap month ≤ 365 + leap := by
  interval_cases month <;> simp only [dayFromMonth, monthLength] <;> omega

theorem dayFromYear_next {year later : Int} (order : year < later) :
    dayFromYear year + 365 + leapDay year ≤ dayFromYear later := by
  unfold leapDay dayFromYear
  omega

variable {stamp}

/-- Years of four digits are far inside the range of time values. -/
theorem IsTime.seconds_bound (isTime : stamp.IsTime) :
    stamp.seconds.natAbs < 300000000000 := by
  have yearSmall := stamp.yearDigits.number_lt
  have leapCases := leapDay_cases (number stamp.year)
  have monthBounds := dayFromMonth_end leapCases isTime.month.1 isTime.month.2
  have yearBounds : -720000 ≤ dayFromYear (number stamp.year) ∧
      dayFromYear (number stamp.year) ≤ 2940000 := by
    unfold dayFromYear
    omega
  have dayBounds := isTime.day
  have hour : number stamp.hour ≤ 24 := by
    rcases isTime.hour with atMost | ⟨isEnd, -⟩ <;> omega
  have monthLeast : 28 ≤ monthLength (leapDay (number stamp.year))
      (number stamp.month) := by
    unfold monthLength
    split <;> omega
  have minute := isTime.minute
  have second := isTime.second
  unfold seconds dayNumber
  omega

theorem scaled_zeros
    {fraction : List Nat} (areZeros : ∀ digit ∈ fraction, digit = 0)
    (width : Nat) :
    scaled width fraction = 0 := by
  induction width generalizing fraction with
  | zero => rfl
  | succ width inductionHypothesis =>
      cases fraction with
      | nil => rfl
      | cons digit rest =>
          obtain ⟨isZero, areOthers⟩ := List.forall_mem_cons.mp areZeros
          rw [scaled, isZero, inductionHypothesis areOthers]
          omega

variable (stamp) in
/-- The instant of a timestamp, in nanoseconds. -/
def instant : Int :=
  stamp.seconds * 1000000000 + scaled 9 stamp.digits

/-- A timestamp is read exactly when its numbers are those of a time. -/
theorem isTime_of_fields (isRead : stamp.fields.time.isSome) :
    stamp.IsTime := by
  unfold DateFields.time at isRead
  dsimp only at isRead
  split at isRead
  · rename_i conditions
    obtain ⟨-, monthLeast, monthMost, dayLeast, dayMost, hour, minute,
      second⟩ := conditions
    refine ⟨⟨monthLeast, monthMost⟩, ⟨dayLeast, dayMost⟩, ?_, minute, second⟩
    rcases hour with atMost | ⟨isEnd, noMinute, noSecond, areZeros⟩
    · exact Or.inl atMost
    · refine Or.inr ⟨isEnd, noMinute, noSecond, ?_⟩
      intro digit isDigit
      exact beq_iff_eq.mp (List.all_eq_true.mp areZeros digit isDigit)
  · cases isRead

/-- What a timestamp that is read denotes. -/
theorem IsTime.exactTime_text (isTime : stamp.IsTime) :
    exactTime stamp.text = some stamp.instant := by
  have fractionSmall := scaled_lt stamp.digits_lt 3
  have parts : scaled 9 stamp.digits = scaled 3 stamp.digits * 10 ^ 6 +
      scaled 6 (stamp.digits.drop 3) := scaled_add 3 6 stamp.digits
  have hour : number stamp.hour ≤ 23 ∨ number stamp.hour = 24 ∧
      number stamp.minute = 0 ∧ number stamp.second = 0 ∧
        (stamp.digits.all (· == 0)) = true := by
    rcases isTime.hour with atMost | ⟨isEnd, noMinute, noSecond, areZeros⟩
    · exact Or.inl atMost
    · exact Or.inr ⟨isEnd, noMinute, noSecond, List.all_eq_true.mpr
        fun digit isDigit => beq_iff_eq.mpr (areZeros digit isDigit)⟩
  have isTimeValue : stamp.fields.time =
      some (stamp.seconds * 1000 + scaled 3 stamp.digits) := by
    unfold DateFields.time fields
    dsimp only
    rw [if_pos ⟨rfl, isTime.month.1, isTime.month.2, isTime.day.1,
      isTime.day.2, hour, isTime.minute, isTime.second⟩,
      milliseconds_eq_scaled]
    have sameTime : (dayFromYear (number stamp.year) +
          dayFromMonth (leapDay (number stamp.year)) (number stamp.month) +
          (number stamp.day - 1)) * 86400000 +
        ((number stamp.hour * 3600000 + number stamp.minute * 60000 +
          number stamp.second * 1000 + scaled 3 stamp.digits : Nat) : Int) =
        stamp.seconds * 1000 + scaled 3 stamp.digits := by
      unfold seconds dayNumber
      push_cast
      ring
    have bound := isTime.seconds_bound
    rw [sameTime, timeClip, if_pos]
    unfold maxTime
    omega
  unfold exactTime
  rw [stamp.readInstant_text]
  simp only [isTimeValue, Option.bind_eq_bind, Option.bind_some,
    Option.pure_def, Option.some.injEq]
  change (stamp.seconds * 1000 + scaled 3 stamp.digits) * 1000000 +
      scaled 6 (stamp.digits.drop 3) = _
  unfold instant
  rw [parts]
  push_cast
  ring

/-- The instant of a timestamp is within its day, up to its end. -/
theorem IsTime.instant_bounds (isTime : stamp.IsTime) :
    stamp.dayNumber * 86400000000000 ≤ stamp.instant ∧
      stamp.instant ≤ (stamp.dayNumber + 1) * 86400000000000 := by
  have fractionSmall := scaled_lt stamp.digits_lt 9
  have minute := isTime.minute
  have second := isTime.second
  unfold instant seconds
  rcases isTime.hour with atMost | ⟨isEnd, noMinute, noSecond, areZeros⟩
  · omega
  · rw [scaled_zeros areZeros]
    omega

end Timestamp

/-! ## The order of texts and of instants -/

/-- Texts that begin with parts of one length are ordered by these first. -/
theorem append_lt_append_iff
    {left right leftRest rightRest : JsString}
    (sameLength : left.length = right.length) :
    left ++ leftRest < right ++ rightRest ↔
      left < right ∨ left = right ∧ leftRest < rightRest := by
  induction left generalizing right with
  | nil =>
      have isNil : right = [] := List.length_eq_zero_iff.mp sameLength.symm
      simp [isNil]
  | cons first firsts inductionHypothesis =>
      cases right with
      | nil => cases sameLength
      | cons second seconds =>
          have sameRest : firsts.length = seconds.length := by
            simpa using sameLength
          simp only [List.cons_append, List.cons_lt_cons_iff,
            inductionHypothesis sameRest, List.cons.injEq]
          tauto

theorem field_lt_iff
    {count : Nat} {left right leftRest rightRest : JsString}
    (areLeft : AreDigits count left) (areRight : AreDigits count right)
    {separator : UInt16} :
    left ++ separator :: leftRest < right ++ separator :: rightRest ↔
      number left < number right ∨ left = right ∧ leftRest < rightRest := by
  rw [append_lt_append_iff (areLeft.1.trans areRight.1.symm),
    areLeft.number_lt_iff areRight]
  simp

theorem field_eq
    {count : Nat} {left right leftRest rightRest : JsString}
    (areLeft : AreDigits count left) (areRight : AreDigits count right)
    {separator : UInt16}
    (same : left ++ separator :: leftRest = right ++ separator :: rightRest) :
    left = right ∧ leftRest = rightRest := by
  obtain ⟨sameField, sameRest⟩ :=
    List.append_inj same (areLeft.1.trans areRight.1.symm)
  exact ⟨sameField, (List.cons.inj sameRest).2⟩

/-- One fraction goes on where another one ends, and not with zeros only. -/
def GoesOn (shorter longer : JsString) : Prop :=
  ∃ more, longer = shorter ++ more ∧ ∃ unit ∈ more, unit ≠ 0x30

theorem goesOn_cons {unit : UInt16} {shorter longer : JsString} :
    GoesOn (unit :: shorter) (unit :: longer) ↔ GoesOn shorter longer := by
  simp [GoesOn]

theorem scaled_eq_zero_iff
    {digits : JsString} (areDigits : ∀ unit ∈ digits, isDigit unit = true)
    {width : Nat} (fits : digits.length ≤ width) :
    scaled width (digitValues digits) = 0 ↔ ∀ unit ∈ digits, unit = 0x30 := by
  induction digits generalizing width with
  | nil => simp [digitValues, scaled_nil]
  | cons unit rest inductionHypothesis =>
      cases width with
      | zero => simp at fits
      | succ width =>
          obtain ⟨isFirst, areOthers⟩ := List.forall_mem_cons.mp areDigits
          have bounds := isDigit_iff.mp isFirst
          have restFits : rest.length ≤ width := by simpa using fits
          have isZero : unit.toNat - 0x30 = 0 ↔ unit = 0x30 := by
            rw [← UInt16.toNat_inj]
            change _ ↔ unit.toNat = 0x30
            omega
          rw [List.forall_mem_cons, ← inductionHypothesis areOthers restFits,
            ← isZero]
          change (unit.toNat - 0x30) * 10 ^ width +
            scaled width (digitValues rest) = 0 ↔ _
          simp

/-- A fraction that goes on where another one ends is greater. -/
theorem GoesOn.scaled_lt
    {shorter longer : JsString} (goesOn : GoesOn shorter longer)
    (areDigits : ∀ unit ∈ longer, isDigit unit = true)
    {width : Nat} (fits : longer.length ≤ width) :
    scaled width (digitValues shorter) < scaled width (digitValues longer) := by
  induction shorter generalizing longer width with
  | nil =>
      rcases goesOn with ⟨_, rfl, unit, isUnit, nonzero⟩
      have notZero : scaled width (digitValues longer) ≠ 0 := by
        intro isZero
        exact nonzero ((scaled_eq_zero_iff areDigits fits).mp isZero unit isUnit)
      change scaled width [] < _
      rw [scaled_nil]
      exact Nat.pos_of_ne_zero notZero
  | cons unit rest inductionHypothesis =>
      obtain ⟨more, rfl, nonzero⟩ := goesOn
      cases width with
      | zero => simp at fits
      | succ width =>
          have restFits : (rest ++ more).length ≤ width := by simpa using fits
          have restLess := inductionHypothesis ⟨more, rfl, nonzero⟩
            (List.forall_mem_cons.mp areDigits).2 restFits
          change (unit.toNat - 0x30) * 10 ^ width + _ <
            (unit.toNat - 0x30) * 10 ^ width + _
          exact Nat.add_lt_add_left restLess _

theorem GoesOn.ending_lt
    {shorter longer : JsString} (goesOn : GoesOn shorter longer)
    (areDigits : ∀ unit ∈ longer, isDigit unit = true) :
    ending longer < ending shorter := by
  obtain ⟨more, rfl, unit, isUnit, -⟩ := goesOn
  obtain ⟨next, others, rfl⟩ := List.exists_cons_of_ne_nil
    (List.ne_nil_of_mem isUnit)
  have isNext : isDigit next = true := areDigits next (by simp)
  have nextLess : next < 0x5A := by
    rw [UInt16.lt_iff_toNat_lt]
    have bounds := isDigit_iff.mp isNext
    change next.toNat < 0x5A
    omega
  unfold ending
  rw [if_neg (by simp)]
  by_cases isEmpty : shorter = []
  · rw [if_pos isEmpty]
    exact List.cons_lt_cons_iff.mpr (Or.inl (by decide))
  · rw [if_neg isEmpty, List.append_assoc]
    refine List.cons_lt_cons_iff.mpr (Or.inr ⟨rfl, ?_⟩)
    rw [append_lt_append_iff rfl]
    exact Or.inr ⟨rfl, List.cons_lt_cons_iff.mpr (Or.inl nextLess)⟩

/-- Digits that come first as a text, with the letter of the zone after them,
and are the greater fraction, go on where the others end. -/
theorem goesOn_of_inverted
    {left right : JsString} (less : left ++ [0x5A] < right ++ [0x5A])
    (leftDigits : ∀ unit ∈ left, isDigit unit = true)
    (rightDigits : ∀ unit ∈ right, isDigit unit = true)
    {width : Nat} (leftFits : left.length ≤ width)
    (greater : scaled width (digitValues right) <
      scaled width (digitValues left)) :
    GoesOn right left := by
  induction left generalizing right width with
  | nil =>
      change _ < scaled width [] at greater
      rw [scaled_nil] at greater
      exact absurd greater (Nat.not_lt_zero _)
  | cons first firsts inductionHypothesis =>
      obtain ⟨isFirst, areFirsts⟩ := List.forall_mem_cons.mp leftDigits
      cases right with
      | nil =>
          change scaled width [] < _ at greater
          rw [scaled_nil] at greater
          refine ⟨first :: firsts, rfl, ?_⟩
          by_contra allZero
          push Not at allZero
          have isZero := (scaled_eq_zero_iff leftDigits leftFits).mpr allZero
          omega
      | cons second seconds =>
          obtain ⟨isSecond, areSeconds⟩ := List.forall_mem_cons.mp rightDigits
          have firstBound := isDigit_iff.mp isFirst
          have secondBound := isDigit_iff.mp isSecond
          cases width with
          | zero => simp at leftFits
          | succ width =>
              have firstsFit : firsts.length ≤ width := by simpa using leftFits
              have firstsSmall := Ecma.scaled_lt (digitValues_lt areFirsts)
                width
              change (second.toNat - 0x30) * 10 ^ width +
                scaled width (digitValues seconds) <
                (first.toNat - 0x30) * 10 ^ width +
                  scaled width (digitValues firsts) at greater
              rcases List.cons_lt_cons_iff.mp less with lower | ⟨rfl, restLess⟩
              · rw [UInt16.lt_iff_toNat_lt] at lower
                have carry : (first.toNat - 0x30 + 1) * 10 ^ width ≤
                    (second.toNat - 0x30) * 10 ^ width :=
                  Nat.mul_le_mul_right _ (by omega)
                rw [Nat.add_mul, Nat.one_mul] at carry
                omega
              · exact goesOn_cons.mpr (inductionHypothesis restLess areFirsts
                  areSeconds firstsFit (by omega))

/-- A fraction that comes first as a text and is the greater one goes on where
the other ends. -/
theorem goesOn_of_ending_lt
    {left right : JsString} (less : ending left < ending right)
    (leftDigits : ∀ unit ∈ left, isDigit unit = true)
    (rightDigits : ∀ unit ∈ right, isDigit unit = true)
    {width : Nat} (leftFits : left.length ≤ width)
    (greater : scaled width (digitValues right) <
      scaled width (digitValues left)) :
    GoesOn right left := by
  refine goesOn_of_inverted ?_ leftDigits rightDigits leftFits greater
  by_cases leftEmpty : left = []
  · rw [leftEmpty] at greater
    change _ < scaled width [] at greater
    rw [scaled_nil] at greater
    exact absurd greater (Nat.not_lt_zero _)
  · obtain ⟨first, others, rfl⟩ := List.exists_cons_of_ne_nil leftEmpty
    by_cases rightEmpty : right = []
    · have bounds := isDigit_iff.mp (leftDigits first List.mem_cons_self)
      rw [rightEmpty, List.cons_append, List.nil_append]
      refine List.cons_lt_cons_iff.mpr (Or.inl ?_)
      rw [UInt16.lt_iff_toNat_lt]
      change first.toNat < 0x5A
      omega
    · unfold ending at less
      rw [if_neg leftEmpty, if_neg rightEmpty] at less
      rcases List.cons_lt_cons_iff.mp less with impossible | ⟨-, rest⟩
      · exact absurd impossible (lt_irrefl _)
      · exact rest

namespace Timestamp

variable {first second : Timestamp}

/-- Dates in order are days in order, unless the first runs over its month. -/
theorem IsTime.dayNumber_lt
    (isFirst : first.IsTime) (isSecond : second.IsTime)
    (within : ¬ first.RunsOver)
    (less : number first.year < number second.year ∨
      first.year = second.year ∧
        (number first.month < number second.month ∨
          first.month = second.month ∧
            number first.day < number second.day)) :
    first.dayNumber < second.dayNumber := by
  have leapCases := leapDay_cases (number first.year)
  have firstEnd := dayFromMonth_end leapCases isFirst.month.1 isFirst.month.2
  have secondEnd := dayFromMonth_end (leapDay_cases (number second.year))
    isSecond.month.1 isSecond.month.2
  have secondDay := isSecond.day
  unfold RunsOver at within
  unfold dayNumber
  rcases less with year | ⟨sameYear, month | ⟨sameMonth, day⟩⟩
  · have later := dayFromYear_next (Int.ofNat_lt.mpr year)
    omega
  · have later := dayFromMonth_next leapCases isFirst.month.1 month
      isSecond.month.2
    rw [← sameYear]
    omega
  · rw [← sameYear, ← sameMonth]
    omega

/-- Texts in order, to the second, are of instants in order, unless the day of
the first runs over its month. -/
theorem IsTime.instant_le
    (isFirst : first.IsTime) (isSecond : second.IsTime)
    (within : ¬ first.RunsOver) (less : first.toSecond < second.toSecond) :
    first.instant ≤ second.instant := by
  have dayLess := isFirst.dayNumber_lt isSecond within
  have firstSmall := scaled_lt first.digits_lt 9
  have firstHour := isFirst.hour
  have secondHour := isSecond.hour
  have firstMinute := isFirst.minute
  have firstSecond := isFirst.second
  have earlierDay : first.dayNumber < second.dayNumber →
      first.instant ≤ second.instant := by
    intro earlier
    have firstBounds := isFirst.instant_bounds
    have secondBounds := isSecond.instant_bounds
    omega
  unfold toSecond at less
  rw [field_lt_iff first.yearDigits second.yearDigits,
    field_lt_iff first.monthDigits second.monthDigits,
    field_lt_iff first.dayDigits second.dayDigits,
    field_lt_iff first.hourDigits second.hourDigits,
    field_lt_iff first.minuteDigits second.minuteDigits,
    ← first.secondDigits.number_lt_iff second.secondDigits] at less
  rcases less with year | ⟨sameYear, month | ⟨sameMonth, day |
    ⟨sameDay, ofClock⟩⟩⟩
  · exact earlierDay (dayLess (Or.inl year))
  · exact earlierDay (dayLess (Or.inr ⟨sameYear, Or.inl month⟩))
  · exact earlierDay
      (dayLess (Or.inr ⟨sameYear, Or.inr ⟨sameMonth, day⟩⟩))
  · unfold instant seconds dayNumber
    rw [← sameYear, ← sameMonth, ← sameDay]
    rcases ofClock with hour | ⟨sameHour, minute | ⟨sameMinute, lower⟩⟩
    · omega
    · rw [← sameHour] at secondHour ⊢
      omega
    · rw [← sameHour, ← sameMinute] at secondHour ⊢
      omega

theorem seconds_eq (same : first.toSecond = second.toSecond) :
    first.seconds = second.seconds := by
  obtain ⟨sameYear, same⟩ :=
    field_eq first.yearDigits second.yearDigits same
  obtain ⟨sameMonth, same⟩ :=
    field_eq first.monthDigits second.monthDigits same
  obtain ⟨sameDay, same⟩ := field_eq first.dayDigits second.dayDigits same
  obtain ⟨sameHour, same⟩ := field_eq first.hourDigits second.hourDigits same
  obtain ⟨sameMinute, sameSecond⟩ :=
    field_eq first.minuteDigits second.minuteDigits same
  unfold seconds dayNumber
  rw [sameYear, sameMonth, sameDay, sameHour, sameMinute, sameSecond]

theorem toSecond_length (stamp : Timestamp) : stamp.toSecond.length = 19 := by
  simp [toSecond, stamp.yearDigits.1, stamp.monthDigits.1, stamp.dayDigits.1,
    stamp.hourDigits.1, stamp.minuteDigits.1, stamp.secondDigits.1]

theorem text_lt_iff :
    first.text < second.text ↔ first.toSecond < second.toSecond ∨
      first.toSecond = second.toSecond ∧
        ending first.fraction < ending second.fraction :=
  append_lt_append_iff
    (first.toSecond_length.trans second.toSecond_length.symm)

variable (first second) in
/-- The text of a timestamp comes before that of another one although it
denotes the later instant: its fraction goes on where the other's ends, or its
day runs over its month beyond the other. -/
def Misorders : Prop :=
  first.toSecond = second.toSecond ∧ GoesOn second.fraction first.fraction ∨
    first.RunsOver ∧ first.toSecond < second.toSecond ∧
      second.instant < first.instant

/-- The texts of two timestamps are in the order of their instants, unless
they are misordered. -/
theorem IsTime.inverted_iff
    (isFirst : first.IsTime) (isSecond : second.IsTime) :
    (first.text < second.text ∧ second.instant < first.instant) ↔
      first.Misorders second := by
  rw [text_lt_iff]
  constructor
  · rintro ⟨lower | ⟨same, less⟩, inverted⟩
    · by_cases runsOver : first.RunsOver
      · exact Or.inr ⟨runsOver, lower, inverted⟩
      · exact absurd inverted
          (isFirst.instant_le isSecond runsOver lower).not_gt
    · left
      refine ⟨same, ?_⟩
      unfold instant at inverted
      rw [seconds_eq same] at inverted
      exact goesOn_of_ending_lt less first.fractionDigits
        second.fractionDigits first.fractionLength
        (show scaled 9 second.digits < scaled 9 first.digits by omega)
  · rintro (⟨same, goesOn⟩ | ⟨-, lower, inverted⟩)
    · have greater : scaled 9 second.digits < scaled 9 first.digits :=
        goesOn.scaled_lt first.fractionDigits first.fractionLength
      refine ⟨Or.inr ⟨same, goesOn.ending_lt first.fractionDigits⟩, ?_⟩
      unfold instant
      rw [seconds_eq same]
      omega
    · exact ⟨Or.inl lower, inverted⟩

end Timestamp

end AgenId.Ecma
