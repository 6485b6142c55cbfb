import AgenId.Ecma.Json
import AgenId.Ecma.Pattern
import Mathlib.Algebra.Order.Field.Power
import Mathlib.Data.Int.Log
import Mathlib.Data.Rat.Floor
import Mathlib.Tactic.FieldSimp
import Mathlib.Tactic.GCongr
import Mathlib.Tactic.NormNum
import Mathlib.Tactic.Positivity
import Mathlib.Tactic.Ring

/-!
# Number tokens

Reading a decimal numeral rounds its exact value to the nearest binary64
datum, ties to even.  Writing a number follows Number::toString: the fewest
digits that read back as the number, and among those the closest.  The last
theorem is that a written token reads back as the number it was written for,
with the two zeros written alike.
-/

namespace AgenId.Ecma

/-! ## Rounding -/

/-- The nearest integer, and the even one of two. -/
def roundEven (value : ℚ) : Int :=
  let below := ⌊value⌋
  if value - below < 1 / 2 then
    below
  else if 1 / 2 < value - below then
    below + 1
  else if below % 2 = 0 then
    below
  else
    below + 1

/-- The exponent of the last place of the data around a magnitude. -/
def placeExponent (magnitude : ℚ) : Int :=
  if magnitude = 0 then
    -1074
  else
    max (Int.log 2 magnitude - 52) (-1074)

/-- The datum with these parts, or the infinity when it is out of range. -/
def assembleNumber
    (negative : Bool) (significand : Nat) (exponent : Int) : JsNumber :=
  if canonical : significand < 2 ^ 53 ∧ -1074 ≤ exponent ∧ exponent ≤ 971 ∧
      (2 ^ 52 ≤ significand ∨ exponent = -1074) then
    .finite ⟨negative, significand, exponent, canonical⟩
  else
    .infinity negative

/-- The number nearest to a magnitude, with a sign. -/
def roundToNumber (negative : Bool) (magnitude : ℚ) : JsNumber :=
  let exponent := placeExponent magnitude
  let significand := (roundEven (magnitude / 2 ^ exponent)).toNat
  if significand = 2 ^ 53 then
    assembleNumber negative (2 ^ 52) (exponent + 1)
  else
    assembleNumber negative significand exponent

/-- The absolute value of a finite datum. -/
def Binary64.magnitude (value : Binary64) : ℚ :=
  value.significand * 2 ^ value.exponent

/-! ## Writing -/

/-- Whether a decimal reads as a given datum. -/
def readsAs (value : Binary64) (digits : Nat) (scale : Int) : Bool :=
  decide (roundToNumber value.negative (digits * 10 ^ scale) = .finite value)

/-- The decimal with `count` digits that reads as the datum, the closest one
when there are two; ten to the power `count` is one with a larger scale. -/
def decimalOfLength (value : Binary64) (count : Nat) : Option (Nat × Int) :=
  let scale := Int.log 10 value.magnitude + 1 - count
  let exact := value.magnitude / 10 ^ scale
  let nearest := (roundEven exact).toNat
  let below := ⌊exact⌋.toNat
  match [nearest, below, below + 1].find? (readsAs value · scale) with
  | none => none
  | some digits =>
    if digits = 10 ^ count then some (1, scale + count)
    else some (digits, scale)

/-- All decimal digits of a datum. -/
def exactDecimal (value : Binary64) : Nat × Int :=
  if 0 ≤ value.exponent then
    (value.significand * 2 ^ value.exponent.toNat, 0)
  else
    (value.significand * 5 ^ (-value.exponent).toNat, value.exponent)

/-- The shortest decimal of a nonzero datum: 17 digits are always enough, so
that the exact decimal is never the one taken. -/
def shortestDecimal (value : Binary64) : Nat × Int :=
  match (List.range 17).findSome? fun index =>
      decimalOfLength value (index + 1) with
  | some decimal => decimal
  | none => exactDecimal value

/-- A number of zeros. -/
def zeros (count : Nat) : JsString :=
  List.replicate count (digitUnit 0)

/-- The digits of a decimal, with the decimal point after the first `point`
of them, in the notation that the size calls for. -/
def layoutDigits (digits : JsString) (point : Int) : JsString :=
  if digits.length ≤ point ∧ point ≤ 21 then
    digits ++ zeros (point - digits.length).toNat
  else if 0 < point ∧ point ≤ 21 then
    digits.take point.toNat ++ units "." ++ digits.drop point.toNat
  else if -6 < point ∧ point ≤ 0 then
    units "0." ++ zeros (-point).toNat ++ digits
  else
    let exponent :=
      units "e" ++ (if 0 < point then units "+" else units "-") ++
        decimal (point - 1).natAbs
    if digits.length = 1 then
      digits ++ exponent
    else
      digits.take 1 ++ units "." ++ digits.drop 1 ++ exponent

/-- Number::toString of a finite number. -/
def finiteToString (value : Binary64) : JsString :=
  if value.significand = 0 then
    units "0"
  else
    let shortest := shortestDecimal value
    let digits := decimal shortest.1
    (if value.negative then units "-" else []) ++
      layoutDigits digits (shortest.2 + digits.length)

/-- Number::toString, which is `String(value)` for a number. -/
def numberToString : JsNumber → JsString
  | .nan => units "NaN"
  | .infinity false => units "Infinity"
  | .infinity true => units "-Infinity"
  | .finite value => finiteToString value

/-! ## Reading -/

/-- The value of digits that follow a number already read. -/
def digitsValue (initial : Nat) (digits : JsString) : Nat :=
  digits.foldl (fun value unit => value * 10 + (unit.toNat - 0x30)) initial

/-- Digits, at least one, and what follows them. -/
def readSomeDigits (text : JsString) : Option (JsString × JsString) :=
  match text.takeWhile isDigit with
  | [] => none
  | digits => some (digits, text.dropWhile isDigit)

/-- The integer part of a numeral: zero alone, or digits that do not begin
with zero. -/
def readWhole (text : JsString) : Option (JsString × JsString) :=
  match text with
  | [] => none
  | head :: rest =>
    if head = 0x30 then some ([head], rest) else readSomeDigits text

/-- The digits of the fraction of a numeral, if it has one. -/
def readDecimals (text : JsString) : Option (JsString × JsString) :=
  match text with
  | [] => some ([], [])
  | head :: rest =>
    if head = 0x2E then readSomeDigits rest else some ([], text)

/-- The exponent of a numeral, if it has one. -/
def readExponent (text : JsString) : Option (Int × JsString) :=
  match text with
  | [] => some (0, [])
  | head :: rest =>
    if head = 0x65 ∨ head = 0x45 then
      match rest with
      | [] => none
      | sign :: digits =>
        if sign = 0x2B then
          (readSomeDigits digits).map fun read =>
            ((digitsValue 0 read.1 : Int), read.2)
        else if sign = 0x2D then
          (readSomeDigits digits).map fun read =>
            (-(digitsValue 0 read.1 : Int), read.2)
        else
          (readSomeDigits rest).map fun read =>
            ((digitsValue 0 read.1 : Int), read.2)
    else
      some (0, text)

/-- A numeral without its sign. -/
def readMagnitude (text : JsString) : Option (ℚ × JsString) := do
  let (whole, text) ← readWhole text
  let (decimals, text) ← readDecimals text
  let (exponent, text) ← readExponent text
  return (digitsValue 0 (whole ++ decimals) *
    10 ^ (exponent - decimals.length), text)

/-- A JSONNumber at the beginning of a text, and what follows it. -/
def readNumber (text : JsString) : Option (JsNumber × JsString) :=
  match text with
  | [] => none
  | head :: rest =>
    if head = 0x2D then
      (readMagnitude rest).map fun read => (roundToNumber true read.1, read.2)
    else
      (readMagnitude text).map fun read =>
        (roundToNumber false read.1, read.2)

/-! ## A datum is the number nearest to itself -/

theorem roundEven_intCast (value : Int) : roundEven value = value := by
  simp [roundEven]

theorem assembleNumber_parts (value : Binary64) :
    assembleNumber value.negative value.significand value.exponent =
      .finite value :=
  dif_pos value.canonical

theorem placeExponent_magnitude (value : Binary64) :
    placeExponent value.magnitude = value.exponent ∨
      value.significand = 0 ∧ placeExponent value.magnitude = -1074 := by
  obtain ⟨small, leastExponent, -, normalized⟩ := value.canonical
  by_cases isZero : value.significand = 0
  · right
    simp [isZero, placeExponent, Binary64.magnitude]
  · left
    have positive : 0 < value.magnitude := by
      have : (0 : ℚ) < value.significand := by
        exact_mod_cast Nat.pos_of_ne_zero isZero
      unfold Binary64.magnitude
      positivity
    have upper : value.magnitude < (2 : ℚ) ^ (53 + value.exponent) := by
      rw [zpow_add₀ (by norm_num), Binary64.magnitude]
      gcongr
      exact_mod_cast small
    have below : Int.log 2 value.magnitude < 53 + value.exponent :=
      (Int.lt_zpow_iff_log_lt (by norm_num) positive).mp (by
        exact_mod_cast upper)
    rw [placeExponent, if_neg positive.ne']
    rcases normalized with large | least
    · have lower : (2 : ℚ) ^ (52 + value.exponent) ≤ value.magnitude := by
        rw [zpow_add₀ (by norm_num), Binary64.magnitude]
        gcongr
        exact_mod_cast large
      have above : 52 + value.exponent ≤ Int.log 2 value.magnitude :=
        (Int.zpow_le_iff_le_log (by norm_num) positive).mp (by
          exact_mod_cast lower)
      omega
    · omega

/-- The number nearest to the magnitude of a datum is the datum. -/
theorem roundToNumber_magnitude (value : Binary64) :
    roundToNumber value.negative value.magnitude = .finite value := by
  have significandKept :
      value.magnitude / 2 ^ placeExponent value.magnitude =
        ((value.significand : Int) : ℚ) := by
    rcases placeExponent_magnitude value with same | ⟨isZero, -⟩
    · rw [same, Binary64.magnitude, mul_div_assoc,
        div_self (zpow_ne_zero _ (by norm_num)), mul_one]
      norm_cast
    · simp [Binary64.magnitude, isZero]
  have exponentKept : placeExponent value.magnitude = value.exponent := by
    rcases placeExponent_magnitude value with same | ⟨isZero, least⟩
    · exact same
    · obtain ⟨-, -, -, normalized⟩ := value.canonical
      omega
  have inRange : value.significand ≠ 2 ^ 53 := value.canonical.1.ne
  rw [exponentKept] at significandKept
  simp only [roundToNumber, exponentKept, significandKept,
    roundEven_intCast, Int.toNat_natCast, if_neg inRange]
  exact assembleNumber_parts value

theorem exactDecimal_value (value : Binary64) :
    ((exactDecimal value).1 : ℚ) * 10 ^ (exactDecimal value).2 =
      value.magnitude := by
  unfold exactDecimal Binary64.magnitude
  split
  · rename_i nonnegative
    obtain ⟨count, isCount⟩ := Int.eq_ofNat_of_zero_le nonnegative
    simp [isCount]
  · rename_i negative
    obtain ⟨count, isCount⟩ :=
      Int.eq_ofNat_of_zero_le (show 0 ≤ -value.exponent by omega)
    have isNegated : value.exponent = -(count : Int) := by omega
    rw [isNegated]
    have tens : (10 : ℚ) ^ count = 2 ^ count * 5 ^ count := by
      rw [← mul_pow]
      norm_num
    simp only [neg_neg, Int.toNat_natCast, zpow_neg, zpow_natCast, tens]
    push_cast
    field_simp

/-- A decimal found for a datum reads as the datum. -/
theorem decimalOfLength_reads
    {value : Binary64} {count : Nat} {decimal : Nat × Int}
    (found : decimalOfLength value count = some decimal) :
    roundToNumber value.negative (decimal.1 * 10 ^ decimal.2) =
      .finite value := by
  unfold decimalOfLength at found
  dsimp only at found
  split at found
  · simp at found
  · rename_i digits first
    have reads := List.find?_some first
    simp only [readsAs, decide_eq_true_eq] at reads
    split at found
    · rename_i isPower
      obtain rfl := Option.some.inj found
      rw [← reads, isPower]
      congr 1
      rw [zpow_add₀ (by norm_num)]
      push_cast
      rw [zpow_natCast]
      ring
    · obtain rfl := Option.some.inj found
      exact reads

theorem shortestDecimal_reads (value : Binary64) :
    roundToNumber value.negative
        ((shortestDecimal value).1 * 10 ^ (shortestDecimal value).2) =
      .finite value := by
  unfold shortestDecimal
  split
  · rename_i decimal found
    obtain ⟨index, -, foundHere⟩ := List.exists_of_findSome?_eq_some found
    exact decimalOfLength_reads foundHere
  · rw [exactDecimal_value]
    exact roundToNumber_magnitude value

theorem shortestDecimal_positive
    {value : Binary64} (nonzero : value.significand ≠ 0) :
    0 < (shortestDecimal value).1 := by
  rw [Nat.pos_iff_ne_zero]
  intro noDigits
  have reads := shortestDecimal_reads value
  simp [noDigits, roundToNumber, placeExponent, assembleNumber,
    roundEven] at reads
  exact nonzero (by rw [← reads])

/-! ## Digits read back -/

theorem digitsValue_append (initial : Nat) (front back : JsString) :
    digitsValue initial (front ++ back) =
      digitsValue (digitsValue initial front) back := by
  simp [digitsValue]

/-- The value of a decimal spelling, read after another number. -/
theorem digitsValue_decimal (initial n : Nat) :
    digitsValue initial (decimal n) =
      initial * 10 ^ (decimal n).length + n := by
  induction n using decimal.induct generalizing initial with
  | case1 n small =>
      rw [decimal, if_pos small]
      simp [digitsValue, digitUnit_toNat small]
  | case2 n large inductionHypothesis =>
      have last := digitUnit_toNat (Nat.mod_lt n (show 0 < 10 by omega))
      rw [decimal, if_neg large, digitsValue_append, inductionHypothesis]
      simp only [digitsValue, List.foldl_cons, List.foldl_nil, last,
        List.length_append, List.length_singleton, Nat.pow_succ]
      rw [Nat.add_mul, Nat.mul_assoc]
      omega

theorem decimal_digits (n : Nat) :
    ∀ unit ∈ decimal n, isDigit unit = true := by
  induction n using decimal.induct with
  | case1 n small =>
      rw [decimal, if_pos small]
      simp [isDigit_iff, digitUnit_toNat small]
      omega
  | case2 n large inductionHypothesis =>
      have last := digitUnit_toNat (Nat.mod_lt n (show 0 < 10 by omega))
      rw [decimal, if_neg large]
      simp only [List.mem_append, List.mem_singleton]
      rintro unit (isEarlier | rfl)
      · exact inductionHypothesis unit isEarlier
      · rw [isDigit_iff, last]
        omega

/-- The spelling of a positive number does not begin with zero. -/
theorem decimal_head {n : Nat} (positive : 0 < n) :
    ∃ head rest, decimal n = head :: rest ∧ head ≠ 0x30 := by
  induction n using decimal.induct with
  | case1 n small =>
      refine ⟨digitUnit n, [], by rw [decimal, if_pos small], ?_⟩
      intro isZero
      have := digitUnit_toNat small
      simp [isZero] at this
      omega
  | case2 n large inductionHypothesis =>
      obtain ⟨head, rest, spelled, nonzero⟩ :=
        inductionHypothesis (by omega)
      exact ⟨head, rest ++ [digitUnit (n % 10)], by
        rw [decimal, if_neg large, spelled, List.cons_append], nonzero⟩

theorem zeros_digits (count : Nat) :
    ∀ unit ∈ zeros count, isDigit unit = true := by
  intro unit isMember
  rw [List.eq_of_mem_replicate isMember]
  rfl

theorem digitsValue_zeros (initial count : Nat) :
    digitsValue initial (zeros count) = initial * 10 ^ count := by
  induction count generalizing initial with
  | zero =>
      simp [zeros, digitsValue]
  | succ count inductionHypothesis =>
      have unfolded : digitsValue initial (zeros (count + 1)) =
          digitsValue (initial * 10) (zeros count) := rfl
      rw [unfolded, inductionHypothesis, Nat.pow_succ, Nat.mul_assoc,
        Nat.mul_comm 10]

/-! ## A token reads back -/

/-- Whether a numeral that is complete cannot go on with a text. -/
def EndsToken (rest : JsString) : Prop :=
  ∀ unit ∈ rest.head?,
    isDigit unit = false ∧ unit ≠ 0x2E ∧ unit ≠ 0x65 ∧ unit ≠ 0x45

theorem readSomeDigits_append
    {digits rest : JsString} (nonempty : digits ≠ [])
    (areDigits : ∀ unit ∈ digits, isDigit unit = true)
    (ends : ∀ unit ∈ rest.head?, isDigit unit = false) :
    readSomeDigits (digits ++ rest) = some (digits, rest) := by
  have taken : (digits ++ rest).takeWhile isDigit = digits := by
    rw [List.takeWhile_append_of_pos areDigits]
    cases rest with
    | nil => simp
    | cons unit rest => simp [ends unit rfl]
  have dropped : (digits ++ rest).dropWhile isDigit = rest := by
    rw [List.dropWhile_append_of_pos areDigits]
    cases rest with
    | nil => simp
    | cons unit rest => simp [ends unit rfl]
  unfold readSomeDigits
  rw [taken, dropped]
  cases digits with
  | nil => exact absurd rfl nonempty
  | cons unit digits => rfl

theorem zero_digits : ∀ unit ∈ ([0x30] : JsString), isDigit unit = true := by
  simp only [List.mem_singleton, forall_eq]
  rfl

/-- The parts of a written numeral: its integer part, its fraction, which is
left out when empty, and its exponent, which is left out when absent. -/
structure Numeral where
  whole : JsString
  decimals : JsString
  exponent : Option Int
  wholeDigits : ∀ unit ∈ whole, isDigit unit = true
  decimalDigits : ∀ unit ∈ decimals, isDigit unit = true
  wholeHead :
    whole = [0x30] ∨ ∃ head rest, whole = head :: rest ∧ head ≠ 0x30

namespace Numeral

variable (numeral : Numeral)

/-- The text of the fraction. -/
def decimalsText : JsString :=
  if numeral.decimals = [] then [] else units "." ++ numeral.decimals

/-- The text of the exponent. -/
def exponentText : JsString :=
  match numeral.exponent with
  | none => []
  | some exponent =>
    units "e" ++ (if 0 ≤ exponent then units "+" else units "-") ++
      decimal exponent.natAbs

/-- The numeral as a text. -/
def text : JsString :=
  numeral.whole ++ numeral.decimalsText ++ numeral.exponentText

/-- The magnitude that a numeral denotes. -/
def magnitude : ℚ :=
  digitsValue 0 (numeral.whole ++ numeral.decimals) *
    10 ^ (numeral.exponent.getD 0 - numeral.decimals.length)

theorem readExponent_text {rest : JsString} (ends : EndsToken rest) :
    readExponent (numeral.exponentText ++ rest) =
      some (numeral.exponent.getD 0, rest) := by
  unfold exponentText
  cases numeral.exponent with
  | none =>
      cases rest with
      | nil => rfl
      | cons unit rest =>
          obtain ⟨-, -, notSmall, notLarge⟩ := ends unit rfl
          simp [readExponent, notSmall, notLarge]
  | some exponent =>
      have nonempty : decimal exponent.natAbs ≠ [] := by
        rw [decimal]
        split <;> simp
      have read := readSomeDigits_append nonempty
        (decimal_digits exponent.natAbs)
        (fun unit isHead => (ends unit isHead).1)
      have value := digitsValue_decimal 0 exponent.natAbs
      by_cases nonnegative : 0 ≤ exponent
      · dsimp only
        rw [if_pos nonnegative]
        change (readSomeDigits (decimal exponent.natAbs ++ rest)).map _ = _
        rw [read, Option.map_some, value, Nat.zero_mul, Nat.zero_add,
          Int.natAbs_of_nonneg nonnegative, Option.getD_some]
      · dsimp only
        rw [if_neg nonnegative]
        change (readSomeDigits (decimal exponent.natAbs ++ rest)).map _ = _
        rw [read, Option.map_some, value, Nat.zero_mul, Nat.zero_add,
          Int.ofNat_natAbs_of_nonpos (by omega), neg_neg, Option.getD_some]

/-- What follows the fraction does not go on with it. -/
theorem exponentText_head {rest : JsString} (ends : EndsToken rest) :
    ∀ unit ∈ (numeral.exponentText ++ rest).head?,
      isDigit unit = false ∧ unit ≠ 0x2E := by
  unfold exponentText
  cases numeral.exponent with
  | none =>
      intro unit isHead
      obtain ⟨notDigit, notPoint, -, -⟩ := ends unit isHead
      exact ⟨notDigit, notPoint⟩
  | some exponent =>
      rintro unit ⟨⟩
      exact ⟨rfl, by decide⟩

theorem readDecimals_text {rest : JsString} (ends : EndsToken rest) :
    readDecimals
        (numeral.decimalsText ++ (numeral.exponentText ++ rest)) =
      some (numeral.decimals, numeral.exponentText ++ rest) := by
  have head := numeral.exponentText_head ends
  unfold decimalsText
  split
  · rename_i isEmpty
    rw [isEmpty, List.nil_append]
    cases following : numeral.exponentText ++ rest with
    | nil => rfl
    | cons unit others =>
        rw [following] at head
        simp [readDecimals, (head unit rfl).2]
  · rename_i nonempty
    exact readSomeDigits_append nonempty numeral.decimalDigits
      (fun unit isHead => (head unit isHead).1)

/-- What follows the integer part does not go on with it. -/
theorem decimalsText_head {rest : JsString} (ends : EndsToken rest) :
    ∀ unit ∈
        (numeral.decimalsText ++ (numeral.exponentText ++ rest)).head?,
      isDigit unit = false := by
  unfold decimalsText
  split
  · intro unit isHead
    exact (numeral.exponentText_head ends unit isHead).1
  · rintro unit ⟨⟩
    rfl

theorem readWhole_text {rest : JsString} (ends : EndsToken rest) :
    readWhole (numeral.whole ++
        (numeral.decimalsText ++ (numeral.exponentText ++ rest))) =
      some (numeral.whole,
        numeral.decimalsText ++ (numeral.exponentText ++ rest)) := by
  rcases numeral.wholeHead with isZero | ⟨head, others, spelled, nonzero⟩
  · rw [isZero]
    rfl
  · have read := readSomeDigits_append
      (show numeral.whole ≠ [] by simp [spelled])
      numeral.wholeDigits (numeral.decimalsText_head ends)
    rw [spelled] at read ⊢
    simpa [readWhole, nonzero] using read

theorem readMagnitude_text {rest : JsString} (ends : EndsToken rest) :
    readMagnitude (numeral.text ++ rest) = some (numeral.magnitude, rest) := by
  simp only [text, List.append_assoc]
  unfold readMagnitude
  rw [numeral.readWhole_text ends]
  simp only [Option.bind_eq_bind, Option.bind_some,
    numeral.readDecimals_text ends, numeral.readExponent_text ends]
  rfl

/-- A numeral with a sign reads back as the nearest number. -/
theorem readNumber_text
    (negative : Bool) {rest : JsString} (ends : EndsToken rest) :
    readNumber
        ((if negative then units "-" else []) ++ (numeral.text ++ rest)) =
      some (roundToNumber negative numeral.magnitude, rest) := by
  have read := numeral.readMagnitude_text ends
  cases negative with
  | true =>
      change (readMagnitude (numeral.text ++ rest)).map _ = _
      rw [read]
      rfl
  | false =>
      obtain ⟨head, others, begins, notSign⟩ :
          ∃ head others, numeral.text ++ rest = head :: others ∧
            head ≠ 0x2D := by
        rcases numeral.wholeHead with isZero | ⟨head, others, spelled, -⟩
        · exact ⟨0x30, _, by rw [text, isZero]; rfl, by decide⟩
        · refine ⟨head, _, by simp only [text, spelled]; rfl, ?_⟩
          rintro rfl
          have isDigit := numeral.wholeDigits 0x2D (by simp [spelled])
          exact absurd isDigit (by decide)
      rw [begins] at read
      simp only [Bool.false_eq_true, if_false, List.nil_append, begins,
        readNumber, if_neg notSign, read, Option.map_some]

end Numeral

/-! ## Written numbers are numerals -/

theorem value_decimal (n : Nat) : digitsValue 0 (decimal n) = n := by
  rw [digitsValue_decimal, Nat.zero_mul, Nat.zero_add]

section Layout

variable {n : Nat} (positive : 0 < n)

include positive

/-- Digits and zeros after them. -/
theorem numeral_whole (count : Nat) :
    ∃ numeral : Numeral, decimal n ++ zeros count = numeral.text ∧
      numeral.magnitude = n * 10 ^ (count : Int) := by
  obtain ⟨head, others, spelled, nonzero⟩ := decimal_head positive
  refine ⟨⟨decimal n ++ zeros count, [], none, ?_, by simp, Or.inr
    ⟨head, others ++ zeros count, by rw [spelled]; rfl, nonzero⟩⟩, ?_, ?_⟩
  · intro unit isMember
    rcases List.mem_append.mp isMember with isDigit | isZero
    · exact decimal_digits n unit isDigit
    · exact zeros_digits count unit isZero
  · simp [Numeral.text, Numeral.decimalsText, Numeral.exponentText]
  · simp [Numeral.magnitude, digitsValue_append, value_decimal n,
      digitsValue_zeros]

/-- Digits with a point inside. -/
theorem numeral_pointed
    (count : Nat) (after : 0 < count) (before : count < (decimal n).length) :
    ∃ numeral : Numeral,
      (decimal n).take count ++ units "." ++ (decimal n).drop count =
          numeral.text ∧
        numeral.magnitude =
          n * 10 ^ ((count : Int) - (decimal n).length) := by
  obtain ⟨head, others, spelled, nonzero⟩ := decimal_head positive
  have nonempty : (decimal n).drop count ≠ [] := by
    simp only [ne_eq, List.drop_eq_nil_iff]
    omega
  refine ⟨⟨(decimal n).take count, (decimal n).drop count, none,
    fun unit isMember => decimal_digits n unit (List.mem_of_mem_take isMember),
    fun unit isMember => decimal_digits n unit (List.mem_of_mem_drop isMember),
    Or.inr ⟨head, others.take (count - 1), ?_, nonzero⟩⟩, ?_, ?_⟩
  · obtain ⟨fewer, rfl⟩ : ∃ fewer, count = fewer + 1 :=
      ⟨count - 1, by omega⟩
    simp [spelled]
  · simp only [Numeral.text, Numeral.decimalsText, Numeral.exponentText,
      if_neg nonempty, List.append_nil, List.append_assoc]
  · have sameScale : (0 : Int) - ((decimal n).drop count).length =
        count - (decimal n).length := by
      rw [List.length_drop]
      omega
    simp only [Numeral.magnitude, List.take_append_drop,
      value_decimal n, Option.getD_none, sameScale]

/-- Digits after a point and zeros. -/
theorem numeral_small (count : Nat) :
    ∃ numeral : Numeral,
      units "0." ++ zeros count ++ decimal n = numeral.text ∧
        numeral.magnitude =
          n * 10 ^ (-(count : Int) - (decimal n).length) := by
  obtain ⟨head, others, spelled, -⟩ := decimal_head positive
  refine ⟨⟨[0x30], zeros count ++ decimal n, none, zero_digits, ?_,
    Or.inl rfl⟩, ?_, ?_⟩
  · intro unit isMember
    rcases List.mem_append.mp isMember with isZero | isDigit
    · exact zeros_digits count unit isZero
    · exact decimal_digits n unit isDigit
  · have nonempty : zeros count ++ decimal n ≠ [] := by
      simp [spelled]
    simp only [Numeral.text, Numeral.decimalsText, Numeral.exponentText,
      if_neg nonempty, List.append_nil, List.append_assoc]
    rfl
  · have sameScale : (0 : Int) - (zeros count ++ decimal n).length =
        -(count : Int) - (decimal n).length := by
      rw [List.length_append, zeros, List.length_replicate]
      push_cast
      omega
    have sameDigits :
        digitsValue 0 ([0x30] ++ (zeros count ++ decimal n)) = n := by
      rw [digitsValue_append, digitsValue_append, digitsValue_zeros,
        digitsValue_decimal]
      simp [digitsValue]
    simp only [Numeral.magnitude, sameDigits, Option.getD_none, sameScale]

/-- Digits with a point after the first of several, and an exponent. -/
theorem numeral_scientific (exponent : Int) :
    ∃ numeral : Numeral,
      (if (decimal n).length = 1 then decimal n
        else (decimal n).take 1 ++ units "." ++ (decimal n).drop 1) ++
          (units "e" ++ (if 0 ≤ exponent then units "+" else units "-") ++
            decimal exponent.natAbs) = numeral.text ∧
        numeral.magnitude =
          n * 10 ^ (exponent + 1 - (decimal n).length) := by
  obtain ⟨head, others, spelled, nonzero⟩ := decimal_head positive
  have atLeastOne : 1 ≤ (decimal n).length := by simp [spelled]
  split
  · rename_i isSingle
    refine ⟨⟨decimal n, [], some exponent, decimal_digits n, by simp,
      Or.inr ⟨head, others, spelled, nonzero⟩⟩, ?_, ?_⟩
    · simp [Numeral.text, Numeral.decimalsText, Numeral.exponentText]
    · simp [Numeral.magnitude, value_decimal n, isSingle]
  · rename_i isLonger
    have nonempty : (decimal n).drop 1 ≠ [] := by
      simp only [ne_eq, List.drop_eq_nil_iff]
      omega
    refine ⟨⟨(decimal n).take 1, (decimal n).drop 1, some exponent,
      fun unit isMember =>
        decimal_digits n unit (List.mem_of_mem_take isMember),
      fun unit isMember =>
        decimal_digits n unit (List.mem_of_mem_drop isMember),
      Or.inr ⟨head, [], by simp [spelled], nonzero⟩⟩, ?_, ?_⟩
    · simp only [Numeral.text, Numeral.decimalsText, Numeral.exponentText,
        if_neg nonempty, List.append_assoc]
    · have sameScale : exponent - ((decimal n).drop 1).length =
          exponent + 1 - (decimal n).length := by
        rw [List.length_drop]
        omega
      simp only [Numeral.magnitude, List.take_append_drop,
        value_decimal n, Option.getD_some, sameScale]

/-- A layout of digits is the text of a numeral with their value. -/
theorem layoutDigits_numeral (scale : Int) :
    ∃ numeral : Numeral,
      layoutDigits (decimal n) (scale + (decimal n).length) = numeral.text ∧
        numeral.magnitude = n * 10 ^ scale := by
  unfold layoutDigits
  split
  · rename_i inRange
    obtain ⟨numeral, isText, isMagnitude⟩ :=
      numeral_whole positive (scale + (decimal n).length -
        (decimal n).length).toNat
    refine ⟨numeral, isText, isMagnitude.trans ?_⟩
    congr 2
    omega
  · split
    · rename_i notWhole inRange
      obtain ⟨numeral, isText, isMagnitude⟩ := numeral_pointed positive
        (scale + (decimal n).length).toNat (by omega) (by omega)
      refine ⟨numeral, isText, isMagnitude.trans ?_⟩
      congr 2
      omega
    · split
      · rename_i notWhole notInside inRange
        obtain ⟨numeral, isText, isMagnitude⟩ := numeral_small positive
          (-(scale + (decimal n).length)).toNat
        refine ⟨numeral, isText, isMagnitude.trans ?_⟩
        congr 2
        omega
      · obtain ⟨numeral, isText, isMagnitude⟩ := numeral_scientific positive
          (scale + (decimal n).length - 1)
        have isSign : 0 ≤ scale + ((decimal n).length : Int) - 1 ↔
            0 < scale + ((decimal n).length : Int) := by
          omega
        refine ⟨numeral, ?_, isMagnitude.trans ?_⟩
        · rw [← isText]
          simp only [isSign]
          split
          · rfl
          · rw [List.append_assoc]
        · congr 2
          omega

end Layout

theorem finiteToString_head (value : Binary64) :
    ∃ head rest, finiteToString value = head :: rest ∧
      (head = 0x2D ∨ isDigit head = true) := by
  unfold finiteToString
  split
  · exact ⟨0x30, [], rfl, Or.inr rfl⟩
  · rename_i nonzero
    obtain ⟨numeral, isText, -⟩ :=
      layoutDigits_numeral (shortestDecimal_positive nonzero)
        (shortestDecimal value).2
    dsimp only
    rw [isText]
    cases value.negative with
    | true =>
        exact ⟨0x2D, numeral.text, rfl, Or.inl rfl⟩
    | false =>
        rcases numeral.wholeHead with isZero | ⟨head, others, spelled, -⟩
        · exact ⟨0x30, _, by rw [Numeral.text, isZero]; rfl, Or.inr rfl⟩
        · exact ⟨head, _, by simp only [Numeral.text, spelled]; rfl,
            Or.inr (numeral.wholeDigits head (by simp [spelled]))⟩

/-- A datum with the sign of zero dropped. -/
def Binary64.withoutNegativeZero (value : Binary64) : Binary64 :=
  if value.significand = 0 then { value with negative := false } else value

theorem readNumber_finiteToString
    (value : Binary64) {rest : JsString} (ends : EndsToken rest) :
    readNumber (finiteToString value ++ rest) =
      some (.finite value.withoutNegativeZero, rest) := by
  unfold finiteToString Binary64.withoutNegativeZero
  by_cases isZero : value.significand = 0
  · let zero : Numeral :=
      ⟨[0x30], [], none, zero_digits, by simp, Or.inl rfl⟩
    have read := zero.readNumber_text false ends
    have least : value.exponent = -1074 := by
      obtain ⟨-, -, -, normalized⟩ := value.canonical
      omega
    have magnitude : zero.magnitude =
        Binary64.magnitude { value with negative := false } := by
      simp [Numeral.magnitude, Binary64.magnitude, isZero, zero, digitsValue]
    rw [if_pos isZero, if_pos isZero]
    rw [magnitude] at read
    rw [← roundToNumber_magnitude { value with negative := false }]
    exact read
  · obtain ⟨numeral, isText, magnitude⟩ :=
      layoutDigits_numeral (shortestDecimal_positive isZero)
        (shortestDecimal value).2
    have read := numeral.readNumber_text value.negative ends
    rw [magnitude, shortestDecimal_reads] at read
    rw [if_neg isZero, if_neg isZero]
    dsimp only
    rw [isText, List.append_assoc]
    exact read

end AgenId.Ecma
