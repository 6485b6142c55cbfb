import AgenId.Ecma.CodeUnits
import Mathlib.Tactic.IntervalCases

/-!
# String tokens

Writing a string as `JSON.stringify` does, and reading a string token as
`JSON.parse` does.  A surrogate outside a pair is written as an escape, so a
token is well-formed even when the string is not.  What is written reads back
as the same string.
-/

namespace AgenId.Ecma

/-! ## Writing -/

/-- The lower-case hexadecimal digit of a number below sixteen. -/
def hexUnit (digit : Nat) : UInt16 :=
  if digit < 10 then UInt16.ofNat (0x30 + digit)
  else UInt16.ofNat (0x57 + digit)

/-- The escape `\uXXXX` of a code unit. -/
def unicodeEscape (unit : UInt16) : JsString :=
  [0x5C, 0x75, hexUnit (unit.toNat / 0x1000),
    hexUnit (unit.toNat / 0x100 % 0x10), hexUnit (unit.toNat / 0x10 % 0x10),
    hexUnit (unit.toNat % 0x10)]

/-- The spelling of a code unit that is not a surrogate. -/
def quoteUnit (unit : UInt16) : JsString :=
  if unit = 0x08 then [0x5C, 0x62]
  else if unit = 0x09 then [0x5C, 0x74]
  else if unit = 0x0A then [0x5C, 0x6E]
  else if unit = 0x0C then [0x5C, 0x66]
  else if unit = 0x0D then [0x5C, 0x72]
  else if unit = 0x22 then [0x5C, 0x22]
  else if unit = 0x5C then [0x5C, 0x5C]
  else if unit < 0x20 then unicodeEscape unit
  else [unit]

/-- The text of a string between the quotation marks. -/
def quoteUnits : JsString → JsString
  | [] => []
  | lead :: rest =>
    if isHighSurrogate lead then
      match rest with
      | [] => unicodeEscape lead
      | trail :: after =>
        if isLowSurrogate trail then
          lead :: trail :: quoteUnits after
        else
          unicodeEscape lead ++ quoteUnits (trail :: after)
    else if isLowSurrogate lead then
      unicodeEscape lead ++ quoteUnits rest
    else
      quoteUnit lead ++ quoteUnits rest

/-- `JSON.stringify(text)` for a string. -/
def quote (text : JsString) : JsString :=
  0x22 :: (quoteUnits text ++ [0x22])

/-! ## Reading -/

/-- The value of a hexadecimal digit. -/
def hexValue? (unit : UInt16) : Option Nat :=
  if 0x30 ≤ unit ∧ unit ≤ 0x39 then some (unit.toNat - 0x30)
  else if 0x41 ≤ unit ∧ unit ≤ 0x46 then some (unit.toNat - 0x37)
  else if 0x61 ≤ unit ∧ unit ≤ 0x66 then some (unit.toNat - 0x57)
  else none

/-- The code unit with four given hexadecimal digits. -/
def escapedUnit (first second third fourth : UInt16) : Option UInt16 := do
  let first ← hexValue? first
  let second ← hexValue? second
  let third ← hexValue? third
  let fourth ← hexValue? fourth
  return UInt16.ofNat
    (first * 0x1000 + second * 0x100 + third * 0x10 + fourth)

/-- What a one-letter escape stands for. -/
def simpleEscape (letter : UInt16) : Option UInt16 :=
  if letter = 0x22 ∨ letter = 0x5C ∨ letter = 0x2F then some letter
  else if letter = 0x62 then some 0x08
  else if letter = 0x66 then some 0x0C
  else if letter = 0x6E then some 0x0A
  else if letter = 0x72 then some 0x0D
  else if letter = 0x74 then some 0x09
  else none

/-- The rest of a string token after its first quotation mark, and what
follows the token. -/
def readString : JsString → Option (JsString × JsString)
  | [] => none
  | unit :: rest =>
    if unit = 0x22 then
      some ([], rest)
    else if unit = 0x5C then
      match rest with
      | [] => none
      | letter :: rest =>
        if letter = 0x75 then
          match rest with
          | first :: second :: third :: fourth :: rest =>
            match escapedUnit first second third fourth with
            | none => none
            | some unit =>
              (readString rest).map fun read => (unit :: read.1, read.2)
          | _ => none
        else
          match simpleEscape letter with
          | none => none
          | some unit =>
            (readString rest).map fun read => (unit :: read.1, read.2)
    else if unit < 0x20 then
      none
    else
      (readString rest).map fun read => (unit :: read.1, read.2)

/-! ## Reading back what was written -/

/-- A result of reading with one more code unit in front. -/
def consRead (unit : UInt16) (read : Option (JsString × JsString)) :
    Option (JsString × JsString) :=
  read.map fun read => (unit :: read.1, read.2)

theorem hexValue?_hexUnit {digit : Nat} (small : digit < 0x10) :
    hexValue? (hexUnit digit) = some digit := by
  interval_cases digit <;> rfl

theorem readString_unicodeEscape (unit : UInt16) (rest : JsString) :
    readString (unicodeEscape unit ++ rest) =
      consRead unit (readString rest) := by
  have bound := unit.toNat_lt
  have digits : escapedUnit (hexUnit (unit.toNat / 0x1000))
      (hexUnit (unit.toNat / 0x100 % 0x10))
      (hexUnit (unit.toNat / 0x10 % 0x10)) (hexUnit (unit.toNat % 0x10)) =
        some unit := by
    have sum : unit.toNat / 0x1000 * 0x1000 +
        unit.toNat / 0x100 % 0x10 * 0x100 +
        unit.toNat / 0x10 % 0x10 * 0x10 + unit.toNat % 0x10 =
          unit.toNat := by
      omega
    unfold escapedUnit
    rw [hexValue?_hexUnit (by omega), hexValue?_hexUnit (by omega),
      hexValue?_hexUnit (by omega), hexValue?_hexUnit (by omega)]
    simp only [Option.bind_eq_bind, Option.bind_some, Option.pure_def, sum,
      UInt16.ofNat_toNat]
  simp only [unicodeEscape, List.cons_append, List.nil_append]
  rw [readString.eq_def]
  simp only [digits, consRead, if_neg (show (0x5C : UInt16) ≠ 0x22 by decide),
    if_true]

theorem readString_simpleEscape
    {letter unit : UInt16} (rest : JsString)
    (notUnicode : letter ≠ 0x75) (stands : simpleEscape letter = some unit) :
    readString (0x5C :: letter :: rest) = consRead unit (readString rest) := by
  rw [readString.eq_def]
  simp only [stands, consRead, if_neg notUnicode,
    if_neg (show (0x5C : UInt16) ≠ 0x22 by decide), if_true]

theorem readString_raw
    {unit : UInt16} (rest : JsString)
    (notQuote : unit ≠ 0x22) (notEscape : unit ≠ 0x5C)
    (notControl : ¬ unit < 0x20) :
    readString (unit :: rest) = consRead unit (readString rest) := by
  rw [readString.eq_def]
  simp only [if_neg notQuote, if_neg notEscape, if_neg notControl, consRead]

/-- A surrogate is written raw when it is written raw at all. -/
theorem readString_surrogate
    {unit : UInt16} (rest : JsString)
    (surrogate : isHighSurrogate unit = true ∨ isLowSurrogate unit = true) :
    readString (unit :: rest) = consRead unit (readString rest) := by
  have large : 0xD800 ≤ unit := by
    rcases surrogate with high | low
    · simp only [isHighSurrogate, decide_eq_true_eq] at high
      exact high.1
    · simp only [isLowSurrogate, decide_eq_true_eq] at low
      exact le_trans (by decide) low.1
  apply readString_raw
  · rintro rfl
    exact absurd large (by decide)
  · rintro rfl
    exact absurd large (by decide)
  · exact not_lt.mpr (le_trans (by decide) large)

theorem readString_quoteUnit (unit : UInt16) (rest : JsString) :
    readString (quoteUnit unit ++ rest) = consRead unit (readString rest) := by
  unfold quoteUnit
  split_ifs with h08 h09 h0A h0C h0D isQuote isEscape control
  · subst h08
    exact readString_simpleEscape rest (by decide) rfl
  · subst h09
    exact readString_simpleEscape rest (by decide) rfl
  · subst h0A
    exact readString_simpleEscape rest (by decide) rfl
  · subst h0C
    exact readString_simpleEscape rest (by decide) rfl
  · subst h0D
    exact readString_simpleEscape rest (by decide) rfl
  · subst isQuote
    exact readString_simpleEscape rest (by decide) rfl
  · subst isEscape
    exact readString_simpleEscape rest (by decide) rfl
  · exact readString_unicodeEscape unit rest
  · exact readString_raw rest isQuote isEscape control

theorem readString_quote (rest : JsString) :
    readString (0x22 :: rest) = some ([], rest) := by
  rw [readString.eq_def]
  rfl

theorem readString_quoteUnits (text rest : JsString) :
    readString (quoteUnits text ++ 0x22 :: rest) = some (text, rest) := by
  induction text using quoteUnits.induct with
  | case1 =>
      exact readString_quote rest
  | case2 lead high =>
      rw [quoteUnits.eq_def]
      simp only [high, if_true]
      rw [readString_unicodeEscape, readString_quote]
      rfl
  | case3 lead high trail after low inductionHypothesis =>
      rw [quoteUnits.eq_def]
      simp only [high, low, if_true, List.cons_append]
      rw [readString_surrogate _ (Or.inl high),
        readString_surrogate _ (Or.inr low), inductionHypothesis]
      rfl
  | case4 lead high trail after notLow inductionHypothesis =>
      rw [quoteUnits.eq_def]
      simp only [high, if_true, if_neg notLow, List.append_assoc]
      rw [readString_unicodeEscape, inductionHypothesis]
      rfl
  | case5 lead rest' notHigh low inductionHypothesis =>
      rw [quoteUnits.eq_def]
      simp only [if_neg notHigh, low, if_true, List.append_assoc]
      rw [readString_unicodeEscape, inductionHypothesis]
      rfl
  | case6 lead rest' notHigh notLow inductionHypothesis =>
      rw [quoteUnits.eq_def]
      simp only [if_neg notHigh, if_neg notLow, List.append_assoc]
      rw [readString_quoteUnit, inductionHypothesis]
      rfl

end AgenId.Ecma
