import AgenId.Ecma.Utf8

/-!
# Lower case

`toLowerCase` of ECMA-262, which is the full mapping of Unicode: it goes over
code points, and the capital sigma is mapped by what stands around it.  The
letters of ASCII are mapped here; what the Unicode Character Database says of
the other code points is a parameter.
-/

namespace AgenId.Ecma

/-- The Unicode Character Database, as far as case goes: the lower case of a
code point outside ASCII, apart from its context, and two properties. -/
class CaseData where
  lowercase : ℕ → List ℕ
  isCased : ℕ → Bool
  isCaseIgnorable : ℕ → Bool

/-- A database of the letters of ASCII alone. -/
@[reducible]
def asciiCase : CaseData where
  lowercase point := [point]
  isCased point :=
    decide (0x41 ≤ point ∧ point ≤ 0x5A ∨ 0x61 ≤ point ∧ point ≤ 0x7A)
  isCaseIgnorable _ := false

/-- The code points of a string; a surrogate outside a pair is one itself. -/
def codePoints : JsString → List ℕ
  | [] => []
  | lead :: rest =>
    if isHighSurrogate lead then
      match rest with
      | [] => [lead.toNat]
      | trail :: after =>
        if isLowSurrogate trail then
          (0x10000 + (lead.toNat - 0xD800) * 0x400 +
            (trail.toNat - 0xDC00)) :: codePoints after
        else
          lead.toNat :: codePoints (trail :: after)
    else
      lead.toNat :: codePoints rest

/-- Whether code points begin with ones that case ignores and a cased one. -/
def seesCased [CaseData] : List ℕ → Bool
  | [] => false
  | point :: rest =>
    CaseData.isCased point ||
      (CaseData.isCaseIgnorable point && seesCased rest)

/-- The lower case of a code point between others, those before it in reverse
order.  At the end of a word the capital sigma becomes the final one. -/
def lowerPoint [CaseData] (before : List ℕ) (point : ℕ) (after : List ℕ) :
    List ℕ :=
  if point < 0x80 then
    [if 0x41 ≤ point ∧ point ≤ 0x5A then point + 0x20 else point]
  else if point = 0x3A3 then
    if seesCased before && !seesCased after then [0x3C2] else [0x3C3]
  else
    CaseData.lowercase point

def lowerPoints [CaseData] (before : List ℕ) : List ℕ → List ℕ
  | [] => []
  | point :: after =>
    lowerPoint before point after ++ lowerPoints (point :: before) after

/-- `text.toLowerCase()`. -/
def toLowerCase [CaseData] (text : JsString) : JsString :=
  (lowerPoints [] (codePoints text)).flatMap unitsOfCodePoint

/-! ## Texts in ASCII -/

/-- The lower case of a code unit of ASCII. -/
def lowerUnit (unit : UInt16) : UInt16 :=
  if 0x41 ≤ unit ∧ unit ≤ 0x5A then unit + 0x20 else unit

theorem toNat_lowerUnit (unit : UInt16) :
    (lowerUnit unit).toNat =
      if 0x41 ≤ unit.toNat ∧ unit.toNat ≤ 0x5A then unit.toNat + 0x20
      else unit.toNat := by
  have isCapital : (0x41 ≤ unit ∧ unit ≤ 0x5A) ↔
      (0x41 ≤ unit.toNat ∧ unit.toNat ≤ 0x5A) := by
    simp only [UInt16.le_iff_toNat_le]
    rfl
  rw [lowerUnit]
  by_cases capital : 0x41 ≤ unit.toNat ∧ unit.toNat ≤ 0x5A
  · rw [if_pos (isCapital.mpr capital), if_pos capital, UInt16.toNat_add]
    change (unit.toNat + 0x20) % 2 ^ 16 = _
    omega
  · rw [if_neg fun both => capital (isCapital.mp both), if_neg capital]

theorem lowerUnit_lowerUnit (unit : UInt16) :
    lowerUnit (lowerUnit unit) = lowerUnit unit := by
  rw [← UInt16.toNat_inj, toNat_lowerUnit (lowerUnit unit), toNat_lowerUnit]
  split_ifs <;> omega

/-- A unit that is no letter is the lower case of itself alone. -/
theorem lowerUnit_eq_iff {unit other : UInt16} (notLetter : other.toNat < 0x41) :
    lowerUnit unit = other ↔ unit = other := by
  rw [← UInt16.toNat_inj, ← UInt16.toNat_inj, toNat_lowerUnit]
  split_ifs <;> omega

def IsAscii (text : JsString) : Prop :=
  ∀ unit ∈ text, unit.toNat < 0x80

instance (text : JsString) : Decidable (IsAscii text) :=
  List.decidableBAll _ text

theorem isAscii_cons {unit : UInt16} {text : JsString} :
    IsAscii (unit :: text) ↔ unit.toNat < 0x80 ∧ IsAscii text :=
  List.forall_mem_cons

theorem isAscii_append {first second : JsString} :
    IsAscii (first ++ second) ↔ IsAscii first ∧ IsAscii second :=
  List.forall_mem_append

theorem codePoints_ascii_append
    {text : JsString} (ascii : IsAscii text) (rest : JsString) :
    codePoints (text ++ rest) = text.map UInt16.toNat ++ codePoints rest := by
  induction text with
  | nil => rfl
  | cons unit others inductionHypothesis =>
      obtain ⟨small, areSmall⟩ := isAscii_cons.mp ascii
      have notHigh : isHighSurrogate unit = false := by
        rw [← Bool.not_eq_true, isHighSurrogate_iff]
        omega
      have isFirst : codePoints (unit :: (others ++ rest)) =
          unit.toNat :: codePoints (others ++ rest) := by
        rw [codePoints.eq_def]
        simp [notHigh]
      rw [List.cons_append, isFirst, inductionHypothesis areSmall]
      rfl

section Lower

variable [CaseData]

theorem unitsOfCodePoint_lower
    {unit : UInt16} (small : unit.toNat < 0x80) (before after : List ℕ) :
    (lowerPoint before unit.toNat after).flatMap unitsOfCodePoint =
      [lowerUnit unit] := by
  have isCapital : (0x41 ≤ unit ∧ unit ≤ 0x5A) ↔
      (0x41 ≤ unit.toNat ∧ unit.toNat ≤ 0x5A) := by
    simp only [UInt16.le_iff_toNat_le]
    rfl
  rw [lowerPoint, if_pos small, List.flatMap_singleton]
  by_cases capital : 0x41 ≤ unit.toNat ∧ unit.toNat ≤ 0x5A
  · have isSum : UInt16.ofNat (unit.toNat + 0x20) = unit + 0x20 := by
      rw [UInt16.ofNat_add, UInt16.ofNat_toNat]
      rfl
    rw [if_pos capital, unitsOfCodePoint, if_pos (by omega), isSum,
      lowerUnit, if_pos (isCapital.mpr capital)]
  · rw [if_neg capital, unitsOfCodePoint, if_pos (by omega),
      UInt16.ofNat_toNat, lowerUnit,
      if_neg fun both => capital (isCapital.mp both)]

theorem lowerPoints_ascii_append
    {text : JsString} (ascii : IsAscii text) (before rest : List ℕ) :
    (lowerPoints before (text.map UInt16.toNat ++ rest)).flatMap
        unitsOfCodePoint =
      text.map lowerUnit ++
        (lowerPoints ((text.map UInt16.toNat).reverse ++ before)
          rest).flatMap unitsOfCodePoint := by
  induction text generalizing before with
  | nil => rfl
  | cons unit others inductionHypothesis =>
      obtain ⟨small, areSmall⟩ := isAscii_cons.mp ascii
      rw [List.map_cons, List.cons_append, lowerPoints, List.flatMap_append,
        unitsOfCodePoint_lower small, inductionHypothesis areSmall,
        List.reverse_cons, List.append_assoc]
      rfl

/-- The beginning of a text in ASCII is mapped unit by unit. -/
theorem toLowerCase_ascii_append
    {text : JsString} (ascii : IsAscii text) (rest : JsString) :
    ∃ others, toLowerCase (text ++ rest) = text.map lowerUnit ++ others := by
  rw [toLowerCase, codePoints_ascii_append ascii,
    lowerPoints_ascii_append ascii]
  exact ⟨_, rfl⟩

theorem toLowerCase_ascii {text : JsString} (ascii : IsAscii text) :
    toLowerCase text = text.map lowerUnit := by
  have mapped := lowerPoints_ascii_append ascii [] []
  rw [List.append_nil, lowerPoints, List.flatMap_nil, List.append_nil]
    at mapped
  have points := codePoints_ascii_append ascii []
  rw [List.append_nil, codePoints, List.append_nil] at points
  rw [toLowerCase, points, mapped]

end Lower

end AgenId.Ecma
