import AgenId.Ecma.JsonString
import AgenId.Ecma.Pattern

/-!
# URI components

`encodeURIComponent` and `decodeURIComponent`, with `none` for a URIError.
-/

namespace AgenId.Ecma

/-- The code units that `encodeURIComponent` leaves as they are. -/
def isUnescaped (unit : UInt16) : Bool :=
  isAlphanumeric unit || unit = 0x27 ||
    isOneOf ['-', '_', '.', '!', '~', '*', '(', ')'] unit

/-- The upper-case hexadecimal digit of a number below sixteen. -/
def upperHexUnit (digit : Nat) : UInt16 :=
  if digit < 10 then UInt16.ofNat (0x30 + digit)
  else UInt16.ofNat (0x37 + digit)

/-- The escape `%XX` of a byte. -/
def percentEscape (byte : UInt8) : JsString :=
  [0x25, upperHexUnit (byte.toNat / 0x10), upperHexUnit (byte.toNat % 0x10)]

def encodeURIComponent : JsString → Option JsString
  | [] => some []
  | lead :: rest =>
    if isHighSurrogate lead then
      match rest with
      | [] => none
      | trail :: after =>
        if isLowSurrogate trail then
          (encodeURIComponent after).map
            (((encodeUtf8 [lead, trail]).flatMap percentEscape) ++ ·)
        else
          none
    else if isLowSurrogate lead then
      none
    else if isUnescaped lead then
      (encodeURIComponent rest).map (lead :: ·)
    else
      (encodeURIComponent rest).map
        (((encodeUtf8 [lead]).flatMap percentEscape) ++ ·)

/-- The byte of an escape at the beginning of a text, and what follows. -/
def readPercent : JsString → Option (Nat × JsString)
  | percent :: high :: low :: rest =>
    if percent = 0x25 then
      match hexValue? high, hexValue? low with
      | some high, some low => some (high * 0x10 + low, rest)
      | _, _ => none
    else
      none
  | _ => none

/-- The bits that a given number of continuation bytes add to a prefix. -/
def readContinuation : Nat → Nat → JsString → Option (Nat × JsString)
  | 0, value, text => some (value, text)
  | count + 1, value, text =>
    match readPercent text with
    | none => none
    | some (byte, rest) =>
      if 0x80 ≤ byte ∧ byte ≤ 0xBF then
        readContinuation count (value * 0x40 + (byte - 0x80)) rest
      else
        none

/-- The scalar value that starts with an escaped byte, in the shortest form
and not a surrogate. -/
def readScalarValue (lead : Nat) (text : JsString) :
    Option (Nat × JsString) :=
  if lead < 0x80 then
    some (lead, text)
  else if 0xC2 ≤ lead ∧ lead ≤ 0xDF then
    readContinuation 1 (lead - 0xC0) text
  else if 0xE0 ≤ lead ∧ lead ≤ 0xEF then
    match readContinuation 2 (lead - 0xE0) text with
    | none => none
    | some (scalar, rest) =>
      if scalar < 0x800 ∨ (0xD800 ≤ scalar ∧ scalar ≤ 0xDFFF) then none
      else some (scalar, rest)
  else if 0xF0 ≤ lead ∧ lead ≤ 0xF4 then
    match readContinuation 3 (lead - 0xF0) text with
    | none => none
    | some (scalar, rest) =>
      if scalar < 0x10000 ∨ 0x10FFFF < scalar then none
      else some (scalar, rest)
  else
    none

/-- The decoding of a text, with fuel for its length. -/
def decodeUnits : Nat → JsString → Option JsString
  | _, [] => some []
  | 0, _ :: _ => none
  | fuel + 1, unit :: rest =>
    if unit = 0x25 then
      match readPercent (unit :: rest) with
      | none => none
      | some (lead, after) =>
        match readScalarValue lead after with
        | none => none
        | some (scalar, after) =>
          (decodeUnits fuel after).map (unitsOfCodePoint scalar ++ ·)
    else
      (decodeUnits fuel rest).map (unit :: ·)

def decodeURIComponent (text : JsString) : Option JsString :=
  decodeUnits text.length text

/-! ## Decoding step by step -/

theorem readPercent_eq_some_iff
    {text rest : JsString} {byte : Nat} :
    readPercent text = some (byte, rest) ↔
      ∃ high low first second, text = 0x25 :: high :: low :: rest ∧
        hexValue? high = some first ∧ hexValue? low = some second ∧
        byte = first * 0x10 + second := by
  constructor
  · intro isRead
    unfold readPercent at isRead
    split at isRead
    · rename_i percent high low after
      split at isRead
      · rename_i isPercent
        subst isPercent
        split at isRead
        · rename_i first second isFirst isSecond
          simp only [Option.some.injEq, Prod.mk.injEq] at isRead
          obtain ⟨isByte, rfl⟩ := isRead
          exact ⟨high, low, first, second, rfl, isFirst, isSecond,
            isByte.symm⟩
        · cases isRead
      · cases isRead
    · cases isRead
  · intro isSpelled
    obtain ⟨high, low, first, second, rfl, isFirst, isSecond, rfl⟩ :=
      isSpelled
    simp [readPercent, isFirst, isSecond]

theorem length_of_readPercent
    {text rest : JsString} {byte : Nat}
    (isRead : readPercent text = some (byte, rest)) :
    rest.length + 3 = text.length := by
  obtain ⟨high, low, first, second, rfl, -⟩ :=
    readPercent_eq_some_iff.mp isRead
  rfl

/-- A continuation byte is read, and the rest is read on. -/
theorem readContinuation_succ_eq_some_iff
    {count value scalar : Nat} {text rest : JsString} :
    readContinuation (count + 1) value text = some (scalar, rest) ↔
      ∃ byte after, readPercent text = some (byte, after) ∧
        (0x80 ≤ byte ∧ byte ≤ 0xBF) ∧
        readContinuation count (value * 0x40 + (byte - 0x80)) after =
          some (scalar, rest) := by
  rw [readContinuation]
  cases isRead : readPercent text with
  | none => simp
  | some read =>
      obtain ⟨byte, after⟩ := read
      by_cases continues : 0x80 ≤ byte ∧ byte ≤ 0xBF
      · simp [continues]
      · simp [continues]

/-- A scalar value is its first byte, or that many continuation bytes have
been read. -/
theorem continued_of_readScalarValue
    {lead scalar : Nat} {text rest : JsString}
    (isRead : readScalarValue lead text = some (scalar, rest)) :
    lead < 0x80 ∧ scalar = lead ∧ rest = text ∨
      ∃ count value, readContinuation count value text =
        some (scalar, rest) := by
  unfold readScalarValue at isRead
  split at isRead
  · rename_i ascii
    simp only [Option.some.injEq, Prod.mk.injEq] at isRead
    exact Or.inl ⟨ascii, isRead.1.symm, isRead.2.symm⟩
  · split at isRead
    · exact Or.inr ⟨1, _, isRead⟩
    · split at isRead
      · split at isRead
        · cases isRead
        · rename_i isContinued
          split at isRead
          · cases isRead
          · rw [isRead] at isContinued
            exact Or.inr ⟨2, _, isContinued⟩
      · split at isRead
        · split at isRead
          · cases isRead
          · rename_i isContinued
            split at isRead
            · cases isRead
            · rw [isRead] at isContinued
              exact Or.inr ⟨3, _, isContinued⟩
        · cases isRead

theorem length_of_readContinuation
    {count value scalar : Nat} {text rest : JsString}
    (isRead : readContinuation count value text = some (scalar, rest)) :
    rest.length ≤ text.length := by
  induction count generalizing value text with
  | zero =>
      simp only [readContinuation, Option.some.injEq, Prod.mk.injEq] at isRead
      rw [isRead.2]
  | succ count inductionHypothesis =>
      obtain ⟨byte, after, isByte, -, isRest⟩ :=
        readContinuation_succ_eq_some_iff.mp isRead
      have shorter := length_of_readPercent isByte
      have notLonger := inductionHypothesis isRest
      omega

theorem length_of_readScalarValue
    {lead scalar : Nat} {text rest : JsString}
    (isRead : readScalarValue lead text = some (scalar, rest)) :
    rest.length ≤ text.length := by
  rcases continued_of_readScalarValue isRead with ⟨-, -, same⟩ | continued
  · rw [same]
  · obtain ⟨count, value, isContinued⟩ := continued
    exact length_of_readContinuation isContinued

/-- Any fuel that the length of the text does not exceed is enough. -/
theorem decodeUnits_of_le
    {fuel : Nat} {text : JsString} (enough : text.length ≤ fuel) :
    decodeUnits fuel text = decodeURIComponent text := by
  unfold decodeURIComponent
  induction fuel using Nat.strong_induction_on generalizing text with
  | _ fuel inductionHypothesis =>
      cases text with
      | nil => cases fuel <;> rfl
      | cons unit rest =>
          cases fuel with
          | zero => cases enough
          | succ fuel =>
              have restEnough : rest.length ≤ fuel :=
                Nat.le_of_succ_le_succ enough
              rw [List.length_cons, decodeUnits, decodeUnits]
              split
              · cases isByte : readPercent (unit :: rest) with
                | none => rfl
                | some read =>
                    obtain ⟨lead, after⟩ := read
                    have shorter := length_of_readPercent isByte
                    rw [List.length_cons] at shorter
                    dsimp only
                    cases isScalar : readScalarValue lead after with
                    | none => rfl
                    | some read =>
                        obtain ⟨scalar, left⟩ := read
                        have notLonger := length_of_readScalarValue isScalar
                        dsimp only
                        rw [inductionHypothesis fuel (by omega)
                            (by omega : left.length ≤ fuel),
                          inductionHypothesis rest.length (by omega)
                            (by omega : left.length ≤ rest.length)]
              · rw [inductionHypothesis fuel (by omega) restEnough]

theorem decodeURIComponent_cons
    {unit : UInt16} (plain : unit ≠ 0x25) (rest : JsString) :
    decodeURIComponent (unit :: rest) =
      (decodeURIComponent rest).map (unit :: ·) := by
  rw [decodeURIComponent, List.length_cons, decodeUnits, if_neg plain]
  rfl

theorem decodeURIComponent_of_read
    {rest after left : JsString} {lead scalar : Nat}
    (isByte : readPercent (0x25 :: rest) = some (lead, after))
    (isScalar : readScalarValue lead after = some (scalar, left)) :
    decodeURIComponent (0x25 :: rest) =
      (decodeURIComponent left).map (unitsOfCodePoint scalar ++ ·) := by
  have shorter := length_of_readPercent isByte
  have notLonger := length_of_readScalarValue isScalar
  rw [List.length_cons] at shorter
  rw [decodeURIComponent, List.length_cons, decodeUnits, if_pos rfl, isByte]
  dsimp only
  rw [isScalar]
  dsimp only
  rw [decodeUnits_of_le (by omega)]

/-- An escape that decodes: the scalar value that begins there, and the
decoding of what follows it. -/
theorem decodeURIComponent_percent
    {rest decoded : JsString}
    (isDecoded : decodeURIComponent (0x25 :: rest) = some decoded) :
    ∃ lead after scalar left others,
      readPercent (0x25 :: rest) = some (lead, after) ∧
      readScalarValue lead after = some (scalar, left) ∧
      decodeURIComponent left = some others ∧
      decoded = unitsOfCodePoint scalar ++ others := by
  cases isByte : readPercent (0x25 :: rest) with
  | none =>
      rw [decodeURIComponent, List.length_cons, decodeUnits, if_pos rfl,
        isByte] at isDecoded
      cases isDecoded
  | some read =>
      obtain ⟨lead, after⟩ := read
      cases isScalar : readScalarValue lead after with
      | none =>
          rw [decodeURIComponent, List.length_cons, decodeUnits, if_pos rfl,
            isByte] at isDecoded
          dsimp only at isDecoded
          rw [isScalar] at isDecoded
          cases isDecoded
      | some read =>
          obtain ⟨scalar, left⟩ := read
          rw [decodeURIComponent_of_read isByte isScalar,
            Option.map_eq_some_iff] at isDecoded
          obtain ⟨others, isOthers, isAll⟩ := isDecoded
          exact ⟨lead, after, scalar, left, others, rfl, isScalar, isOthers,
            isAll.symm⟩

theorem decodeURIComponent_of_notMem
    {text : JsString} (plain : (0x25 : UInt16) ∉ text) :
    decodeURIComponent text = some text := by
  induction text with
  | nil => rfl
  | cons unit rest inductionHypothesis =>
      rw [List.mem_cons, not_or] at plain
      rw [decodeURIComponent_cons (Ne.symm plain.1),
        inductionHypothesis plain.2, Option.map_some]

/-! ## Encoded number signs -/

/-- The escape of a number sign lies within no other escape. -/
theorem infix_of_readPercent
    {text rest : JsString} {byte : Nat}
    (isRead : readPercent text = some (byte, rest))
    (within : [0x25, 0x32, 0x33] <:+: text) :
    byte = 0x23 ∨ [0x25, 0x32, 0x33] <:+: rest := by
  obtain ⟨high, low, first, second, rfl, isFirst, isSecond, rfl⟩ :=
    readPercent_eq_some_iff.mp isRead
  have noValue : hexValue? 0x25 = none := rfl
  have notHigh : high ≠ 0x25 := by
    intro same
    rw [same, noValue] at isFirst
    cases isFirst
  have notLow : low ≠ 0x25 := by
    intro same
    rw [same, noValue] at isSecond
    cases isSecond
  rcases List.infix_cons_iff.mp within with isPrefix | inRest
  · simp only [List.cons_prefix_cons, List.nil_prefix, and_true, true_and]
      at isPrefix
    obtain ⟨rfl, rfl⟩ := isPrefix
    obtain rfl : 2 = first := Option.some.inj isFirst
    obtain rfl : 3 = second := Option.some.inj isSecond
    exact Or.inl rfl
  · rcases List.infix_cons_iff.mp inRest with isPrefix | inRest
    · exact absurd (List.cons_prefix_cons.mp isPrefix).1.symm notHigh
    · rcases List.infix_cons_iff.mp inRest with isPrefix | inRest
      · exact absurd (List.cons_prefix_cons.mp isPrefix).1.symm notLow
      · exact Or.inr inRest

theorem infix_of_readContinuation
    {count value scalar : Nat} {text rest : JsString}
    (isRead : readContinuation count value text = some (scalar, rest))
    (within : [0x25, 0x32, 0x33] <:+: text) :
    [0x25, 0x32, 0x33] <:+: rest := by
  induction count generalizing value text with
  | zero =>
      simp only [readContinuation, Option.some.injEq, Prod.mk.injEq] at isRead
      rwa [← isRead.2]
  | succ count inductionHypothesis =>
      obtain ⟨byte, after, isByte, continues, isRest⟩ :=
        readContinuation_succ_eq_some_iff.mp isRead
      rcases infix_of_readPercent isByte within with isHash | inAfter
      · omega
      · exact inductionHypothesis isRest inAfter

/-- A text with an encoded number sign decodes to one with a number sign, or
not at all. -/
theorem hash_mem_of_decodeURIComponent
    {text decoded : JsString}
    (isDecoded : decodeURIComponent text = some decoded)
    (within : [0x25, 0x32, 0x33] <:+: text) : (0x23 : UInt16) ∈ decoded := by
  induction size : text.length using Nat.strong_induction_on
    generalizing text decoded with
  | _ length inductionHypothesis =>
      cases text with
      | nil => simp at within
      | cons unit rest =>
          rw [List.length_cons] at size
          by_cases isPercent : unit = 0x25
          · subst isPercent
            obtain ⟨lead, after, scalar, left, others, isByte, isScalar,
              isOthers, rfl⟩ := decodeURIComponent_percent isDecoded
            have shorter := length_of_readPercent isByte
            have notLonger := length_of_readScalarValue isScalar
            rw [List.length_cons] at shorter
            have later : [0x25, 0x32, 0x33] <:+: left →
                (0x23 : UInt16) ∈ unitsOfCodePoint scalar ++ others := by
              intro inLeft
              exact List.mem_append_right _ (inductionHypothesis left.length
                (by omega) isOthers inLeft rfl)
            rcases infix_of_readPercent isByte within with rfl | inAfter
            · obtain ⟨rfl, -⟩ : 0x23 = scalar ∧ after = left := by
                simpa [readScalarValue] using isScalar
              exact List.mem_append_left _ (by decide)
            · rcases continued_of_readScalarValue isScalar with
                ⟨-, -, rfl⟩ | ⟨count, value, isRead⟩
              · exact later inAfter
              · exact later (infix_of_readContinuation isRead inAfter)
          · rw [decodeURIComponent_cons isPercent, Option.map_eq_some_iff]
              at isDecoded
            obtain ⟨others, isOthers, rfl⟩ := isDecoded
            rcases List.infix_cons_iff.mp within with isPrefix | inRest
            · exact absurd (List.cons_prefix_cons.mp isPrefix).1.symm
                isPercent
            · exact List.mem_cons_of_mem unit (inductionHypothesis
                rest.length (by omega) isOthers inRest rfl)

/-! ## Texts of ASCII -/

/-- What `encodeURIComponent` makes of a code unit of ASCII. -/
def escapeUnit (unit : UInt16) : JsString :=
  if isUnescaped unit then [unit]
  else percentEscape (UInt8.ofNat unit.toNat)

theorem encodeURIComponent_ascii
    {text : JsString} (ascii : ∀ unit ∈ text, unit.toNat < 0x80) :
    encodeURIComponent text = some (text.flatMap escapeUnit) := by
  induction text with
  | nil => rfl
  | cons unit rest inductionHypothesis =>
      have small := ascii unit List.mem_cons_self
      have notHigh : isHighSurrogate unit = false := by
        rw [isHighSurrogate, decide_eq_false_iff_not]
        simp only [UInt16.le_iff_toNat_le, UInt16.reduceToNat]
        omega
      have notLow : isLowSurrogate unit = false := by
        rw [isLowSurrogate, decide_eq_false_iff_not]
        simp only [UInt16.le_iff_toNat_le, UInt16.reduceToNat]
        omega
      have isRest := inductionHypothesis
        fun other isMember => ascii other (List.mem_cons_of_mem unit isMember)
      rw [encodeURIComponent.eq_def, List.flatMap_cons]
      simp only [notHigh, notLow, isRest, Bool.false_eq_true, if_false,
        Option.map_some]
      by_cases unescaped : isUnescaped unit = true
      · simp [unescaped, escapeUnit]
      · have isByte : encodeUtf8 [unit] = [UInt8.ofNat unit.toNat] := by
          simp [encodeUtf8, scalarValues, notHigh, notLow, utf8OfScalar,
            small]
        simp [unescaped, escapeUnit, isByte]

theorem isUnescaped_upperHexUnit {digit : Nat} (small : digit < 0x10) :
    isUnescaped (upperHexUnit digit) = true := by
  interval_cases digit <;> rfl

/-- An encoded text has only code units that need no escape, and the signs
that begin escapes. -/
theorem isUnescaped_of_mem_escapeUnit
    {unit escaped : UInt16} (isMember : unit ∈ escapeUnit escaped) :
    isUnescaped unit = true ∨ unit = 0x25 := by
  unfold escapeUnit at isMember
  split at isMember
  · rename_i unescaped
    rw [List.mem_singleton.mp isMember]
    exact Or.inl unescaped
  · have small := (UInt8.ofNat escaped.toNat).toNat_lt
    simp only [percentEscape, List.mem_cons, List.not_mem_nil, or_false]
      at isMember
    rcases isMember with isPercent | isHigh | isLow
    · exact Or.inr isPercent
    · rw [isHigh]
      exact Or.inl (isUnescaped_upperHexUnit (by omega))
    · rw [isLow]
      exact Or.inl (isUnescaped_upperHexUnit (by omega))

theorem hexValue?_upperHexUnit {digit : Nat} (small : digit < 0x10) :
    hexValue? (upperHexUnit digit) = some digit := by
  interval_cases digit <;> rfl

theorem readPercent_percentEscape (byte : UInt8) (rest : JsString) :
    readPercent (percentEscape byte ++ rest) = some (byte.toNat, rest) := by
  have small := byte.toNat_lt
  apply readPercent_eq_some_iff.mpr
  refine ⟨_, _, byte.toNat / 0x10, byte.toNat % 0x10, rfl, ?_, ?_, ?_⟩
  · exact hexValue?_upperHexUnit (by omega)
  · exact hexValue?_upperHexUnit (by omega)
  · omega

theorem decodeURIComponent_escapeUnit
    {unit : UInt16} (ascii : unit.toNat < 0x80) (rest : JsString) :
    decodeURIComponent (escapeUnit unit ++ rest) =
      (decodeURIComponent rest).map (unit :: ·) := by
  by_cases unescaped : isUnescaped unit = true
  · have plain : unit ≠ 0x25 := by
      intro same
      rw [same] at unescaped
      exact absurd unescaped (by decide)
    rw [escapeUnit, if_pos unescaped, List.singleton_append,
      decodeURIComponent_cons plain]
  · have isByte := readPercent_percentEscape (UInt8.ofNat unit.toNat) rest
    have isLead : (UInt8.ofNat unit.toNat).toNat = unit.toNat := by
      rw [UInt8.toNat_ofNat']
      omega
    have isScalar : readScalarValue unit.toNat rest =
        some (unit.toNat, rest) := by
      rw [readScalarValue, if_pos ascii]
    have isUnit : unitsOfCodePoint unit.toNat = [unit] := by
      rw [unitsOfCodePoint, if_pos (by omega), UInt16.ofNat_toNat]
    rw [isLead] at isByte
    rw [escapeUnit, if_neg unescaped]
    have isDecoded := decodeURIComponent_of_read isByte isScalar
    rw [isUnit] at isDecoded
    exact isDecoded

theorem decodeURIComponent_escapes
    {text : JsString} (ascii : ∀ unit ∈ text, unit.toNat < 0x80) :
    decodeURIComponent (text.flatMap escapeUnit) = some text := by
  induction text with
  | nil => rfl
  | cons unit rest inductionHypothesis =>
      have isRest := inductionHypothesis
        fun other isMember => ascii other (List.mem_cons_of_mem unit isMember)
      rw [List.flatMap_cons, decodeURIComponent_escapeUnit
        (ascii unit List.mem_cons_self), isRest, Option.map_some]

end AgenId.Ecma
