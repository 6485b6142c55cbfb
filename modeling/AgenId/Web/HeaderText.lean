import AgenId.Core.Identified
import AgenId.Core.Schemas
import AgenId.Ecma.Casing
import AgenId.Ecma.Integer
import Mathlib.Data.List.DropRight
import Mathlib.Data.Nat.Digits.Defs

/-!
# The text of a header

`trim` as the handlers apply it to what a header holds, before the case is
folded, and `Number` of a text.
-/

namespace AgenId.Web

open AgenId.Core
open AgenId.Ecma

/-- `text.trim()`. -/
def trim (text : JsString) : JsString :=
  (text.dropWhile isWhiteSpace).rdropWhile isWhiteSpace

/-- A unit of ASCII that is neither a space nor a control. -/
def IsGraphic (unit : UInt16) : Prop :=
  0x21 ≤ unit.toNat ∧ unit.toNat ≤ 0x7E

theorem isWhiteSpace_of_graphic {unit : UInt16} (graphic : IsGraphic unit) :
    isWhiteSpace unit = false := by
  unfold IsGraphic at graphic
  rw [isWhiteSpace, decide_eq_false_iff_not]
  simp only [UInt16.le_iff_toNat_le, ← UInt16.toNat_inj, UInt16.reduceToNat]
  omega

theorem isAscii_of_graphic {text : JsString}
    (graphic : ∀ unit ∈ text, IsGraphic unit) : IsAscii text := by
  intro unit isMember
  have bounds := graphic unit isMember
  unfold IsGraphic at bounds
  omega

theorem isGraphic_of_base64Url {unit : UInt16}
    (isUnit : isBase64Url unit = true) : IsGraphic unit := by
  unfold isBase64Url at isUnit
  unfold IsGraphic
  rw [Bool.or_eq_true] at isUnit
  rcases isUnit with alphanumeric | isMark
  · have ranges := isAlphanumeric_iff.mp alphanumeric
    omega
  · simp only [isOneOf, List.any_cons, List.any_nil, Bool.or_false,
      Bool.or_eq_true, beq_iff_eq] at isMark
    have marks : '_'.toNat = 0x5F ∧ '-'.toNat = 0x2D := by decide
    omega

/-- A unit that is no space stops the cut at the end. -/
theorem rdropWhile_append_cons {stops : UInt16 → Bool} {unit : UInt16}
    (notStop : stops unit = false) (before after : JsString) :
    (before ++ unit :: after).rdropWhile stops =
      before ++ unit :: after.rdropWhile stops := by
  have isReverse : (before ++ unit :: after).reverse =
      after.reverse ++ unit :: before.reverse := by
    simp
  rw [List.rdropWhile, isReverse, List.dropWhile_append]
  cases isCut : after.reverse.dropWhile stops with
  | nil =>
      rw [List.isEmpty_nil, if_pos rfl,
        List.dropWhile_cons_of_neg (by simp [notStop]), List.rdropWhile,
        isCut]
      simp
  | cons last others =>
      rw [List.isEmpty_cons, if_neg Bool.false_ne_true, List.rdropWhile,
        isCut]
      simp

theorem trim_of_graphic {text : JsString}
    (graphic : ∀ unit ∈ text, IsGraphic unit) : trim text = text := by
  have areNot : ∀ unit ∈ text, isWhiteSpace unit = false :=
    fun unit isMember => isWhiteSpace_of_graphic (graphic unit isMember)
  have isFront : text.dropWhile isWhiteSpace = text := by
    rw [List.dropWhile_eq_self_iff]
    intro nonempty
    simp [areNot _ (List.getElem_mem nonempty)]
  rw [trim, isFront, List.rdropWhile_eq_self_iff]
  intro nonempty
  simp [areNot _ (List.getLast_mem nonempty)]

/-- Behind a text without spaces, only what follows is trimmed. -/
theorem trim_graphic_append {text : JsString} {unit : UInt16}
    (graphic : ∀ other ∈ text ++ [unit], IsGraphic other)
    (after : JsString) :
    ∃ rest, trim (text ++ unit :: after) = text ++ unit :: rest := by
  have areNot : ∀ other ∈ text ++ [unit], isWhiteSpace other = false :=
    fun other isMember => isWhiteSpace_of_graphic (graphic other isMember)
  have isFront : (text ++ unit :: after).dropWhile isWhiteSpace =
      text ++ unit :: after := by
    cases text with
    | nil =>
        rw [List.nil_append, List.dropWhile_cons_of_neg]
        simp [areNot unit]
    | cons first others =>
        rw [List.cons_append, List.dropWhile_cons_of_neg]
        simp [areNot first]
  have notUnit := areNot unit (List.mem_append_right text
    List.mem_cons_self)
  rw [trim, isFront, rdropWhile_append_cons notUnit]
  exact ⟨_, rfl⟩

/-! ## Numbers -/

/-- The radix that a letter after zero stands for. -/
def radixOf (letter : UInt16) : Option ℕ :=
  if letter = 0x78 ∨ letter = 0x58 then some 16
  else if letter = 0x6F ∨ letter = 0x4F then some 8
  else if letter = 0x62 ∨ letter = 0x42 then some 2
  else none

/-- The integer that digits of a radix denote. -/
def radixNumber (radix : ℕ) (digits : JsString) : Option ℕ := do
  let values ← digits.mapM fun unit =>
    (hexValue? unit).filter (· < radix)
  if values = [] then none else some (Nat.ofDigits radix values.reverse)

/-- A decimal literal without a sign; digits may be missing on one side of
the point. -/
def readDecimalLiteral (text : JsString) : Option ℚ := do
  let whole := text.takeWhile isDigit
  let (decimals, text) := match text.dropWhile isDigit with
    | 0x2E :: rest => (rest.takeWhile isDigit, rest.dropWhile isDigit)
    | text => ([], text)
  let (exponent, text) ← readExponent text
  if whole ++ decimals = [] ∨ text ≠ [] then
    none
  else
    return digitsValue 0 (whole ++ decimals) *
      10 ^ (exponent - decimals.length)

def unsignedNumber (negative : Bool) (text : JsString) : JsNumber :=
  if text = units "Infinity" then
    .infinity negative
  else
    ((readDecimalLiteral text).map (roundToNumber negative)).getD .nan

/-- `Number(text)`. -/
def toNumber (text : JsString) : JsNumber :=
  match trim text with
  | [] => roundToNumber false 0
  | 0x2B :: rest => unsignedNumber false rest
  | 0x2D :: rest => unsignedNumber true rest
  | first :: letter :: digits =>
    match if first = 0x30 then radixOf letter else none with
    | some radix =>
      ((radixNumber radix digits).map fun n =>
        roundToNumber false n).getD .nan
    | none => unsignedNumber false (first :: letter :: digits)
  | text => unsignedNumber false text

/-- The number that a finite datum is. -/
def numericValue (datum : Binary64) : ℚ :=
  if datum.negative then -datum.magnitude else datum.magnitude

/-- `Number.isFinite(number) && number > bound`. -/
def exceeds (bound : ℕ) : JsNumber → Bool
  | .finite datum => decide ((bound : ℚ) < numericValue datum)
  | _ => false

theorem exceeds_eq_false_iff {bound : ℕ} {number : JsNumber} :
    exceeds bound number = false ↔
      ∀ datum, number = .finite datum → numericValue datum ≤ bound := by
  cases number <;> simp [exceeds]

/-! ### Decimal spellings -/

theorem readDecimalLiteral_digits {text : JsString}
    (digits : ∀ unit ∈ text, isDigit unit = true) (nonempty : text ≠ []) :
    readDecimalLiteral text = some (digitsValue 0 text : ℚ) := by
  have isWhole : text.takeWhile isDigit = text :=
    List.takeWhile_eq_self_iff.mpr digits
  have noRest : text.dropWhile isDigit = [] :=
    List.dropWhile_eq_nil_iff.mpr digits
  simp [readDecimalLiteral, isWhole, noRest, readExponent, nonempty]

theorem graphic_of_digit {unit : UInt16} (digit : isDigit unit = true) :
    IsGraphic unit := by
  rw [isDigit_iff] at digit
  exact ⟨by omega, by omega⟩

theorem unsignedNumber_digits {text : JsString} (negative : Bool)
    (digits : ∀ unit ∈ text, isDigit unit = true) (nonempty : text ≠ []) :
    unsignedNumber negative text =
      roundToNumber negative (digitsValue 0 text) := by
  have notInfinity : text ≠ units "Infinity" := by
    intro isInfinity
    have isLetter : (0x49 : UInt16) ∈ text := by
      rw [isInfinity]
      decide
    exact absurd (digits 0x49 isLetter) (by decide)
  rw [unsignedNumber, if_neg notInfinity,
    readDecimalLiteral_digits digits nonempty]
  rfl

/-- A decimal spelling of several digits does not begin with zero. -/
theorem decimal_cons (n : ℕ) :
    ∃ head others, decimal n = head :: others ∧
      (others ≠ [] → head ≠ 0x30) := by
  rcases Nat.eq_zero_or_pos n with isZero | positive
  · refine ⟨0x30, [], ?_, fun nonempty => absurd rfl nonempty⟩
    rw [isZero, decimal, if_pos (by decide)]
    rfl
  · obtain ⟨head, others, spelled, nonzero⟩ := decimal_head positive
    exact ⟨head, others, spelled, fun _ => nonzero⟩

/-- The number of a decimal spelling. -/
theorem toNumber_decimal {n : ℕ} (small : n < 2 ^ 53) :
    toNumber (decimal n) = .finite (.ofNat false n small) := by
  obtain ⟨head, others, spelled, nonzero⟩ := decimal_cons n
  have digits := decimal_digits n
  have value := digitsValue_decimal 0 n
  rw [Nat.zero_mul, Nat.zero_add] at value
  have isRead : unsignedNumber false (head :: others) =
      .finite (.ofNat false n small) := by
    rw [← spelled, unsignedNumber_digits false digits (by simp [spelled]),
      value, roundToNumber_natCast]
  rw [toNumber, trim_of_graphic fun unit isMember =>
    graphic_of_digit (digits unit isMember), spelled]
  have isHead : isDigit head = true := digits head (by simp [spelled])
  split
  · rename_i isEmpty
    cases isEmpty
  · rename_i isPlus
    rw [(List.cons.inj isPlus).1] at isHead
    exact absurd isHead (by decide)
  · rename_i isMinus
    rw [(List.cons.inj isMinus).1] at isHead
    exact absurd isHead (by decide)
  · rename_i isSplit
    obtain ⟨isFirst, isRest⟩ := List.cons.inj isSplit
    have notZero := nonzero (by rw [isRest]; exact List.cons_ne_nil _ _)
    rw [← isFirst, ← isRest, if_neg notZero]
    exact isRead
  · exact isRead

end AgenId.Web
