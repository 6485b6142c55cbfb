import AgenId.Ecma.JsonText

/-!
# Bytes of a text

UTF-8 encodes texts without lone surrogates one to one, and what
`JSON.stringify` writes is such a text.
-/

namespace AgenId.Ecma

/-! ## Texts without lone surrogates -/

/-- Every surrogate of a text is in a pair. -/
def isPaired : JsString → Bool
  | [] => true
  | lead :: rest =>
    if isHighSurrogate lead then
      match rest with
      | [] => false
      | trail :: after => isLowSurrogate trail && isPaired after
    else
      !isLowSurrogate lead && isPaired rest

theorem isHighSurrogate_iff {unit : UInt16} :
    isHighSurrogate unit = true ↔
      0xD800 ≤ unit.toNat ∧ unit.toNat ≤ 0xDBFF := by
  simp [isHighSurrogate, UInt16.le_iff_toNat_le]

theorem isLowSurrogate_iff {unit : UInt16} :
    isLowSurrogate unit = true ↔
      0xDC00 ≤ unit.toNat ∧ unit.toNat ≤ 0xDFFF := by
  simp [isLowSurrogate, UInt16.le_iff_toNat_le]

theorem isPaired_cons
    {unit : UInt16} (notHigh : isHighSurrogate unit = false)
    (notLow : isLowSurrogate unit = false) (rest : JsString) :
    isPaired (unit :: rest) = isPaired rest := by
  simp [isPaired.eq_def (unit :: rest), notHigh, notLow]

theorem isPaired_cons_of_lt
    {unit : UInt16} (small : unit.toNat < 0xD800) (rest : JsString) :
    isPaired (unit :: rest) = isPaired rest := by
  apply isPaired_cons
  · apply Bool.eq_false_of_not_eq_true
    rw [isHighSurrogate_iff]
    omega
  · apply Bool.eq_false_of_not_eq_true
    rw [isLowSurrogate_iff]
    omega

theorem isPaired_pair
    {lead trail : UInt16} (isHigh : isHighSurrogate lead = true)
    (isLow : isLowSurrogate trail = true) (rest : JsString) :
    isPaired (lead :: trail :: rest) = isPaired rest := by
  simp [isPaired.eq_def (lead :: trail :: rest), isHigh, isLow]

/-- The three ways in which a paired text is built. -/
theorem isPaired_induction
    {holds : JsString → Prop} (empty : holds [])
    (single : ∀ unit rest, isHighSurrogate unit = false →
      isLowSurrogate unit = false → isPaired rest = true → holds rest →
        holds (unit :: rest))
    (pair : ∀ lead trail rest, isHighSurrogate lead = true →
      isLowSurrogate trail = true → isPaired rest = true → holds rest →
        holds (lead :: trail :: rest))
    (text : JsString) (paired : isPaired text = true) : holds text := by
  induction size : text.length using Nat.strong_induction_on
    generalizing text with
  | _ length inductionHypothesis =>
      cases text with
      | nil => exact empty
      | cons lead rest =>
          rw [List.length_cons] at size
          rw [isPaired.eq_def] at paired
          dsimp only at paired
          by_cases isHigh : isHighSurrogate lead = true
          · rw [if_pos isHigh] at paired
            cases rest with
            | nil => cases paired
            | cons trail after =>
                rw [Bool.and_eq_true] at paired
                rw [List.length_cons] at size
                exact pair lead trail after isHigh paired.1 paired.2
                  (inductionHypothesis after.length (by omega) after
                    paired.2 rfl)
          · rw [if_neg isHigh, Bool.and_eq_true, Bool.not_eq_true'] at paired
            exact single lead rest (Bool.eq_false_of_not_eq_true isHigh)
              paired.1 paired.2
              (inductionHypothesis rest.length (by omega) rest paired.2 rfl)

theorem isPaired_append
    {front back : JsString} (frontPaired : isPaired front = true)
    (backPaired : isPaired back = true) :
    isPaired (front ++ back) = true := by
  apply isPaired_induction _ _ _ front frontPaired
  · exact backPaired
  · intro unit rest notHigh notLow _ inductionHypothesis
    rw [List.cons_append, isPaired_cons notHigh notLow, inductionHypothesis]
  · intro lead trail rest isHigh isLow _ inductionHypothesis
    rw [List.cons_append, List.cons_append, isPaired_pair isHigh isLow,
      inductionHypothesis]

theorem isPaired_of_lt
    {text : JsString} (small : ∀ unit ∈ text, unit.toNat < 0xD800) :
    isPaired text = true := by
  induction text with
  | nil => rfl
  | cons unit rest inductionHypothesis =>
      rw [isPaired_cons_of_lt (small unit List.mem_cons_self)]
      exact inductionHypothesis
        fun other isMember => small other (List.mem_cons_of_mem unit isMember)

/-! ## Encoding is one to one -/

/-- The bytes of one scalar value begin those of no other. -/
theorem utf8OfScalar_append_inj
    {first second : Nat} (firstBound : first < 0x110000)
    (secondBound : second < 0x110000) {rest others : List UInt8}
    (same : utf8OfScalar first ++ rest = utf8OfScalar second ++ others) :
    first = second ∧ rest = others := by
  unfold utf8OfScalar at same
  split_ifs at same <;>
    simp only [List.cons_append, List.nil_append, List.cons.injEq,
      ← UInt8.toNat_inj, UInt8.toNat_ofNat'] at same
  all_goals first
    | exact ⟨by omega, same.2⟩
    | exact ⟨by omega, same.2.2⟩
    | exact ⟨by omega, same.2.2.2⟩
    | exact ⟨by omega, same.2.2.2.2⟩
    | omega

theorem scalarValues_cons
    {unit : UInt16} (notHigh : isHighSurrogate unit = false)
    (notLow : isLowSurrogate unit = false) (rest : JsString) :
    scalarValues (unit :: rest) = unit.toNat :: scalarValues rest := by
  simp [scalarValues.eq_def (unit :: rest), notHigh, notLow]

theorem scalarValues_pair
    {lead trail : UInt16} (isHigh : isHighSurrogate lead = true)
    (isLow : isLowSurrogate trail = true) (rest : JsString) :
    scalarValues (lead :: trail :: rest) =
      (0x10000 + (lead.toNat - 0xD800) * 0x400 + (trail.toNat - 0xDC00)) ::
        scalarValues rest := by
  simp [scalarValues.eq_def (lead :: trail :: rest), isHigh, isLow]

/-- The scalar values of a paired text spell it. -/
theorem flatMap_unitsOfCodePoint
    {text : JsString} (paired : isPaired text = true) :
    (scalarValues text).flatMap unitsOfCodePoint = text := by
  apply isPaired_induction _ _ _ text paired
  · rfl
  · intro unit rest notHigh notLow _ inductionHypothesis
    have small := unit.toNat_lt
    rw [scalarValues_cons notHigh notLow, List.flatMap_cons,
      inductionHypothesis, unitsOfCodePoint, if_pos small,
      UInt16.ofNat_toNat]
    rfl
  · intro lead trail rest isHigh isLow _ inductionHypothesis
    have leadBounds := isHighSurrogate_iff.mp isHigh
    have trailBounds := isLowSurrogate_iff.mp isLow
    rw [scalarValues_pair isHigh isLow, List.flatMap_cons,
      inductionHypothesis, unitsOfCodePoint, if_neg (by omega)]
    have isLead : 0xD800 + (0x10000 + (lead.toNat - 0xD800) * 0x400 +
        (trail.toNat - 0xDC00) - 0x10000) / 0x400 = lead.toNat := by
      omega
    have isTrail : 0xDC00 + (0x10000 + (lead.toNat - 0xD800) * 0x400 +
        (trail.toNat - 0xDC00) - 0x10000) % 0x400 = trail.toNat := by
      omega
    rw [isLead, isTrail, UInt16.ofNat_toNat, UInt16.ofNat_toNat]
    rfl

/-- A string without lone surrogates encodes scalar values. -/
theorem scalarValues_bounds
    {text : JsString} (paired : isPaired text = true) :
    ∀ scalar ∈ scalarValues text, scalar < 0x110000 ∧
      (scalar < 0xD800 ∨ 0xDFFF < scalar) := by
  apply isPaired_induction _ _ _ text paired
  · intro scalar isMember
    cases isMember
  · intro unit rest notHigh notLow _ inductionHypothesis scalar isMember
    have small := unit.toNat_lt
    rw [scalarValues_cons notHigh notLow, List.mem_cons] at isMember
    rw [← Bool.not_eq_true, isHighSurrogate_iff] at notHigh
    rw [← Bool.not_eq_true, isLowSurrogate_iff] at notLow
    rcases isMember with isUnit | inRest
    · omega
    · exact inductionHypothesis scalar inRest
  · intro lead trail rest isHigh isLow _ inductionHypothesis scalar isMember
    have leadBounds := isHighSurrogate_iff.mp isHigh
    have trailBounds := isLowSurrogate_iff.mp isLow
    rw [scalarValues_pair isHigh isLow, List.mem_cons] at isMember
    rcases isMember with isPair | inRest
    · omega
    · exact inductionHypothesis scalar inRest

theorem utf8OfScalar_ne_nil (scalar : Nat) : utf8OfScalar scalar ≠ [] := by
  unfold utf8OfScalar
  split_ifs <;> exact List.cons_ne_nil _ _

theorem flatMap_utf8OfScalar_inj
    {first second : List Nat}
    (firstBound : ∀ scalar ∈ first, scalar < 0x110000)
    (secondBound : ∀ scalar ∈ second, scalar < 0x110000)
    (same : first.flatMap utf8OfScalar = second.flatMap utf8OfScalar) :
    first = second := by
  induction first generalizing second with
  | nil =>
      cases second with
      | nil => rfl
      | cons other others =>
          rw [List.flatMap_nil, List.flatMap_cons] at same
          have isEmpty := List.append_eq_nil_iff.mp same.symm
          exact absurd isEmpty.1 (utf8OfScalar_ne_nil other)
  | cons scalar rest inductionHypothesis =>
      cases second with
      | nil =>
          rw [List.flatMap_nil, List.flatMap_cons] at same
          have isEmpty := List.append_eq_nil_iff.mp same
          exact absurd isEmpty.1 (utf8OfScalar_ne_nil scalar)
      | cons other others =>
          rw [List.flatMap_cons, List.flatMap_cons] at same
          obtain ⟨sameScalar, sameRest⟩ := utf8OfScalar_append_inj
            (firstBound scalar List.mem_cons_self)
            (secondBound other List.mem_cons_self) same
          rw [sameScalar, inductionHypothesis
            (fun value isMember =>
              firstBound value (List.mem_cons_of_mem scalar isMember))
            (fun value isMember =>
              secondBound value (List.mem_cons_of_mem other isMember))
            sameRest]

theorem encodeUtf8_injective
    {first second : JsString} (firstPaired : isPaired first = true)
    (secondPaired : isPaired second = true)
    (same : encodeUtf8 first = encodeUtf8 second) : first = second := by
  have sameScalars := flatMap_utf8OfScalar_inj
    (fun scalar isMember =>
      (scalarValues_bounds firstPaired scalar isMember).1)
    (fun scalar isMember =>
      (scalarValues_bounds secondPaired scalar isMember).1)
    same
  rw [← flatMap_unitsOfCodePoint firstPaired, sameScalars,
    flatMap_unitsOfCodePoint secondPaired]

/-! ## What is written is paired -/

theorem hexUnit_lt {digit : Nat} (small : digit < 0x10) :
    (hexUnit digit).toNat < 0xD800 := by
  interval_cases digit <;> decide

theorem isPaired_unicodeEscape (unit : UInt16) :
    isPaired (unicodeEscape unit) = true := by
  have bound := unit.toNat_lt
  apply isPaired_of_lt
  simp only [unicodeEscape, List.forall_mem_cons, List.not_mem_nil,
    false_implies, implies_true, and_true]
  exact ⟨by decide, by decide, hexUnit_lt (by omega), hexUnit_lt (by omega),
    hexUnit_lt (by omega), hexUnit_lt (by omega)⟩

theorem isPaired_quoteUnit
    {unit : UInt16} (notHigh : isHighSurrogate unit = false)
    (notLow : isLowSurrogate unit = false) :
    isPaired (quoteUnit unit) = true := by
  unfold quoteUnit
  split_ifs
  any_goals rfl
  · exact isPaired_unicodeEscape unit
  · rw [isPaired_cons notHigh notLow]
    rfl

theorem isPaired_quoteUnits (text : JsString) :
    isPaired (quoteUnits text) = true := by
  induction text using quoteUnits.induct with
  | case1 => rfl
  | case2 lead isHigh =>
      rw [quoteUnits.eq_def]
      simp only [isHigh, if_true]
      exact isPaired_unicodeEscape lead
  | case3 lead isHigh trail after isLow inductionHypothesis =>
      rw [quoteUnits.eq_def]
      simp only [isHigh, isLow, if_true]
      rw [isPaired_pair isHigh isLow, inductionHypothesis]
  | case4 lead isHigh trail after notLow inductionHypothesis =>
      rw [quoteUnits.eq_def]
      simp only [isHigh, notLow, if_true]
      exact isPaired_append (isPaired_unicodeEscape lead) inductionHypothesis
  | case5 lead rest notHigh isLow inductionHypothesis =>
      rw [quoteUnits.eq_def]
      simp only [notHigh, isLow, if_true]
      exact isPaired_append (isPaired_unicodeEscape lead) inductionHypothesis
  | case6 lead rest notHigh notLow inductionHypothesis =>
      rw [quoteUnits.eq_def]
      simp only [notHigh, notLow]
      exact isPaired_append (isPaired_quoteUnit
        (Bool.eq_false_of_not_eq_true notHigh)
        (Bool.eq_false_of_not_eq_true notLow)) inductionHypothesis

theorem isPaired_quote (text : JsString) : isPaired (quote text) = true := by
  rw [quote, isPaired_cons_of_lt (by decide)]
  exact isPaired_append (isPaired_quoteUnits text) rfl

theorem isDigit_lt {unit : UInt16} (digit : isDigit unit = true) :
    unit.toNat < 0xD800 := by
  have bounds := isDigit_iff.mp digit
  omega

theorem isPaired_digits
    {text : JsString} (digits : ∀ unit ∈ text, isDigit unit = true) :
    isPaired text = true :=
  isPaired_of_lt fun unit isMember => isDigit_lt (digits unit isMember)

theorem Numeral.isPaired_text (numeral : Numeral) :
    isPaired numeral.text = true := by
  have decimals : isPaired numeral.decimalsText = true := by
    unfold Numeral.decimalsText
    split
    · rfl
    · exact isPaired_append rfl (isPaired_digits numeral.decimalDigits)
  have exponent : isPaired numeral.exponentText = true := by
    unfold Numeral.exponentText
    split
    · rfl
    · rename_i exponent _
      have sign : isPaired (units "e" ++
          if 0 ≤ exponent then units "+" else units "-") = true := by
        split <;> rfl
      exact isPaired_append sign (isPaired_digits (decimal_digits _))
  exact isPaired_append
    (isPaired_append (isPaired_digits numeral.wholeDigits) decimals) exponent

theorem isPaired_finiteToString (value : Binary64) :
    isPaired (finiteToString value) = true := by
  unfold finiteToString
  split
  · rfl
  · rename_i nonzero
    obtain ⟨numeral, isText, -⟩ :=
      layoutDigits_numeral (shortestDecimal_positive nonzero)
        (shortestDecimal value).2
    dsimp only
    rw [isText]
    apply isPaired_append _ numeral.isPaired_text
    split <;> rfl

theorem isPaired_join
    {parts : List JsString} (paired : ∀ part ∈ parts, isPaired part = true) :
    isPaired (join [0x2C] parts) = true := by
  induction parts with
  | nil => rfl
  | cons part rest inductionHypothesis =>
      have restPaired := inductionHypothesis
        fun other isMember => paired other (List.mem_cons_of_mem part isMember)
      cases rest with
      | nil => exact paired part List.mem_cons_self
      | cons second others =>
          rw [join_cons_cons]
          exact isPaired_append (isPaired_append
            (paired part List.mem_cons_self) rfl) restPaired

theorem isPaired_stringifyItems
    {items : List Json}
    (paired : ∀ item ∈ items, isPaired (stringify item) = true) :
    ∀ part ∈ stringifyItems items, isPaired part = true := by
  induction items with
  | nil =>
      intro part isMember
      cases isMember
  | cons item rest inductionHypothesis =>
      rw [List.forall_mem_cons] at paired
      exact List.forall_mem_cons.mpr
        ⟨paired.1, inductionHypothesis paired.2⟩

theorem isPaired_stringifyMembers
    {members : Members}
    (paired : ∀ entry ∈ members, isPaired (stringify entry.2) = true) :
    ∀ part ∈ stringifyMembers members, isPaired part = true := by
  induction members with
  | nil =>
      intro part isMember
      cases isMember
  | cons entry rest inductionHypothesis =>
      rw [List.forall_mem_cons] at paired
      refine List.forall_mem_cons.mpr ⟨?_, inductionHypothesis paired.2⟩
      apply isPaired_append (isPaired_quote entry.1)
      rw [isPaired_cons_of_lt (by decide)]
      exact paired.1

theorem isPaired_stringify (value : Json) :
    isPaired (stringify value) = true := by
  induction value using Json.inductionOn with
  | null => rfl
  | boolean value => cases value <;> rfl
  | number value =>
      cases value with
      | finite datum => exact isPaired_finiteToString datum
      | nan => rfl
      | infinity negative => rfl
  | string text => exact isPaired_quote text
  | array items inductionHypothesis =>
      rw [stringify, isPaired_cons_of_lt (by decide)]
      exact isPaired_append
        (isPaired_join (isPaired_stringifyItems inductionHypothesis)) rfl
  | object members inductionHypothesis =>
      rw [stringify, isPaired_cons_of_lt (by decide)]
      exact isPaired_append
        (isPaired_join (isPaired_stringifyMembers inductionHypothesis)) rfl

end AgenId.Ecma
