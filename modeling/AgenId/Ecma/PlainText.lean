import AgenId.Ecma.Casing
import AgenId.Ecma.IndentedText

/-!
# Plain texts

Texts of printable ASCII that JSON does not escape.  A value made of them is
written in ASCII, so that its text has as many bytes as code units, and the
length of the text follows from those of its parts.
-/

namespace AgenId.Ecma

/-- A unit that a JSON string holds as it is. -/
structure IsPlainUnit (unit : UInt16) : Prop where
  notControl : 0x20 ≤ unit.toNat
  ascii : unit.toNat < 0x80
  notQuote : unit ≠ 0x22
  notBackslash : unit ≠ 0x5C

def IsPlain (text : JsString) : Prop := ∀ unit ∈ text, IsPlainUnit unit

instance (unit : UInt16) : Decidable (IsPlainUnit unit) :=
  decidable_of_iff (0x20 ≤ unit.toNat ∧ unit.toNat < 0x80 ∧ unit ≠ 0x22 ∧
      unit ≠ 0x5C)
    ⟨fun ⟨notControl, ascii, notQuote, notBackslash⟩ =>
      ⟨notControl, ascii, notQuote, notBackslash⟩,
    fun ⟨notControl, ascii, notQuote, notBackslash⟩ =>
      ⟨notControl, ascii, notQuote, notBackslash⟩⟩

instance (text : JsString) : Decidable (IsPlain text) :=
  List.decidableBAll _ text

theorem IsPlain.isAscii {text : JsString} (plain : IsPlain text) :
    IsAscii text :=
  fun unit isMember => (plain unit isMember).ascii

theorem IsPlainUnit.not_surrogate {unit : UInt16} (plain : IsPlainUnit unit) :
    isHighSurrogate unit = false ∧ isLowSurrogate unit = false := by
  have small := plain.ascii
  constructor
  · rw [← Bool.not_eq_true, isHighSurrogate_iff]
    omega
  · rw [← Bool.not_eq_true, isLowSurrogate_iff]
    omega

theorem IsPlainUnit.quoteUnit_eq {unit : UInt16} (plain : IsPlainUnit unit) :
    quoteUnit unit = [unit] := by
  have isOther : ∀ control : UInt16, control.toNat < 0x20 →
      unit ≠ control := by
    intro control small same
    have large := plain.notControl
    rw [same] at large
    omega
  have notControl : ¬ unit < 0x20 := by
    rw [UInt16.lt_iff_toNat_lt]
    exact not_lt.mpr plain.notControl
  rw [quoteUnit, if_neg (isOther 0x08 (by decide)),
    if_neg (isOther 0x09 (by decide)), if_neg (isOther 0x0A (by decide)),
    if_neg (isOther 0x0C (by decide)), if_neg (isOther 0x0D (by decide)),
    if_neg plain.notQuote, if_neg plain.notBackslash, if_neg notControl]

/-! ## Texts that an expression matches -/

/-- A piece that takes plain units only. -/
def Piece.TakesPlain : Piece → Prop
  | .run accepts _ _ => ∀ unit, accepts unit = true → IsPlainUnit unit
  | _ => True

/-- A sequence of pieces up to the end of the text takes all of it. -/
theorem isPlain_of_matchesAt {pieces : List Piece} {previous : Option UInt16}
    {text : JsString} (takePlain : ∀ piece ∈ pieces, piece.TakesPlain)
    (matched : matchesAt (pieces ++ [.finish]) previous text = true) :
    IsPlain text := by
  induction pieces generalizing previous text with
  | nil =>
      rw [List.nil_append, matchesAt_finish] at matched
      rw [matched]
      exact List.forall_mem_nil _
  | cons piece others inductionHypothesis =>
      obtain ⟨isPlain, arePlain⟩ := List.forall_mem_cons.mp takePlain
      cases piece with
      | run accepts least most =>
          obtain ⟨taken, rest, isText, accepted, -, -, isRest⟩ :=
            matchesAt_run_iff.mp matched
          rw [isText]
          exact List.forall_mem_append.mpr
            ⟨fun unit isMember => isPlain unit (accepted unit isMember),
              inductionHypothesis arePlain isRest⟩
      | wordBoundary =>
          rw [List.cons_append, matchesAt, Bool.and_eq_true] at matched
          exact inductionHypothesis arePlain matched.2
      | finish =>
          rw [List.cons_append, matchesAt, Bool.and_eq_true,
            List.isEmpty_iff] at matched
          rw [matched.1]
          exact List.forall_mem_nil _

theorem isPlain_of_test {pieces : List Piece} {text : JsString}
    (takePlain : ∀ piece ∈ pieces, piece.TakesPlain)
    (matched : (Regex.whole pieces).test text = true) : IsPlain text := by
  simp only [Regex.whole, Regex.test, List.any_cons, List.any_nil,
    Bool.or_false, if_true] at matched
  exact isPlain_of_matchesAt takePlain matched

theorem takesPlain_literally
    {literal : String} (plain : IsPlain (units literal)) :
    ∀ piece ∈ literally literal, piece.TakesPlain := by
  intro piece isMember
  obtain ⟨unit, isUnit, isPiece⟩ := List.mem_map.mp isMember
  rw [← isPiece]
  intro other isSame
  rw [beq_iff_eq.mp isSame]
  exact plain unit isUnit

/-! ## Lengths -/

theorem quote_of_plain {text : JsString} (plain : IsPlain text) :
    quote text = 0x22 :: (text ++ [0x22]) := by
  have isSame : quoteUnits text = text := by
    induction text with
    | nil => rfl
    | cons unit rest inductionHypothesis =>
        obtain ⟨isPlain, arePlain⟩ := List.forall_mem_cons.mp plain
        rw [quoteUnits.eq_def]
        simp only [isPlain.not_surrogate, Bool.false_eq_true, if_false,
          isPlain.quoteUnit_eq, inductionHypothesis arePlain]
        rfl
  rw [quote, isSame]

theorem length_quote {text : JsString} (plain : IsPlain text) :
    (quote text).length = text.length + 2 := by
  rw [quote_of_plain plain]
  simp

theorem length_encodeUtf8 {text : JsString} (ascii : IsAscii text) :
    (encodeUtf8 text).length = text.length := by
  unfold encodeUtf8
  induction text with
  | nil => rfl
  | cons unit rest inductionHypothesis =>
      obtain ⟨small, areSmall⟩ := isAscii_cons.mp ascii
      have notHigh : isHighSurrogate unit = false := by
        rw [← Bool.not_eq_true, isHighSurrogate_iff]
        omega
      have notLow : isLowSurrogate unit = false := by
        rw [← Bool.not_eq_true, isLowSurrogate_iff]
        omega
      rw [scalarValues_cons notHigh notLow, List.flatMap_cons, utf8OfScalar,
        if_pos small, List.length_append, inductionHypothesis areSmall,
        List.length_singleton, List.length_cons, Nat.add_comm]

theorem length_join (separator : JsString) {parts : List JsString}
    (nonempty : parts ≠ []) :
    (join separator parts).length + separator.length =
      (parts.map List.length).sum + parts.length * separator.length := by
  induction parts with
  | nil => exact absurd rfl nonempty
  | cons part others inductionHypothesis =>
      cases others with
      | nil => simp [join]
      | cons next rest =>
          have isRest := inductionHypothesis (List.cons_ne_nil _ _)
          rw [join_cons_cons, List.length_append, List.length_append,
            List.map_cons, List.sum_cons, List.length_cons, Nat.succ_mul]
          omega

/-! ## Indented values -/

/-- A value of `null`, plain strings, arrays and objects with plain names. -/
inductive PlainJson : Json → Prop
  | null : PlainJson .null
  | string {text : JsString} (plain : IsPlain text) : PlainJson (.string text)
  | array {items : List Json} (each : ∀ item ∈ items, PlainJson item) :
    PlainJson (.array items)
  | object {members : Members} (names : ∀ entry ∈ members, IsPlain entry.1)
    (each : ∀ entry ∈ members, PlainJson entry.2) :
    PlainJson (.object members)

theorem isAscii_join {separator : JsString} (ascii : IsAscii separator)
    {parts : List JsString} (each : ∀ part ∈ parts, IsAscii part) :
    IsAscii (join separator parts) := by
  induction parts with
  | nil => exact List.forall_mem_nil _
  | cons part others inductionHypothesis =>
      obtain ⟨isFirst, areOthers⟩ := List.forall_mem_cons.mp each
      cases others with
      | nil => exact isFirst
      | cons next rest =>
          rw [join_cons_cons]
          exact isAscii_append.mpr ⟨isAscii_append.mpr ⟨isFirst, ascii⟩,
            inductionHypothesis areOthers⟩

theorem isAscii_quote {text : JsString} (plain : IsPlain text) :
    IsAscii (quote text) := by
  rw [quote_of_plain plain]
  exact isAscii_cons.mpr ⟨by decide, isAscii_append.mpr ⟨plain.isAscii,
    List.forall_mem_singleton.mpr (by decide)⟩⟩

section Indented

variable {gap indent : JsString}

theorem isAscii_newLine (ascii : IsAscii indent) : IsAscii (newLine indent) :=
  isAscii_cons.mpr ⟨by decide, ascii⟩

theorem indentedItems_eq_map (gap indent : JsString) (items : List Json) :
    indentedItems gap indent items =
      items.map (stringifyIndented gap indent) := by
  induction items with
  | nil => rfl
  | cons item rest inductionHypothesis =>
      rw [indentedItems, inductionHypothesis, List.map_cons]

theorem indentedMembers_eq_map (gap indent : JsString) (members : Members) :
    indentedMembers gap indent members = members.map fun entry =>
      quote entry.1 ++ 0x3A :: 0x20 ::
        stringifyIndented gap indent entry.2 := by
  induction members with
  | nil => rfl
  | cons entry rest inductionHypothesis =>
      rw [indentedMembers, inductionHypothesis, List.map_cons]

theorem isAscii_lines {parts : List JsString} {opening closing : UInt16}
    (openingSmall : opening.toNat < 0x80) (closingSmall : closing.toNat < 0x80)
    (asciiGap : IsAscii gap) (ascii : IsAscii indent)
    (each : ∀ part ∈ parts, IsAscii part) :
    IsAscii (opening :: (newLine (indent ++ gap) ++
      join (0x2C :: newLine (indent ++ gap)) parts ++ newLine indent ++
        [closing])) := by
  have inner := isAscii_newLine (isAscii_append.mpr ⟨ascii, asciiGap⟩)
  have separator : IsAscii (0x2C :: newLine (indent ++ gap)) :=
    isAscii_cons.mpr ⟨by decide, inner⟩
  refine isAscii_cons.mpr ⟨openingSmall, ?_⟩
  refine isAscii_append.mpr ⟨?_, List.forall_mem_singleton.mpr closingSmall⟩
  refine isAscii_append.mpr ⟨?_, isAscii_newLine ascii⟩
  exact isAscii_append.mpr ⟨inner, isAscii_join separator each⟩

/-- A plain value is written in ASCII. -/
theorem PlainJson.isAscii {value : Json} (plain : PlainJson value)
    (asciiGap : IsAscii gap) (ascii : IsAscii indent) :
    IsAscii (stringifyIndented gap indent value) := by
  induction plain generalizing indent with
  | null =>
      have letters : IsAscii (units "null") := by decide
      exact letters
  | string plain => exact isAscii_quote plain
  | @array items each inductionHypothesis =>
      rw [stringifyIndented]
      split
      · exact isAscii_cons.mpr ⟨by decide,
          List.forall_mem_singleton.mpr (by decide)⟩
      · apply isAscii_lines (by decide) (by decide) asciiGap ascii
        rw [indentedItems_eq_map, List.forall_mem_map]
        exact fun item isItem => inductionHypothesis item isItem
          (isAscii_append.mpr ⟨ascii, asciiGap⟩)
  | @object members names each inductionHypothesis =>
      rw [stringifyIndented]
      split
      · exact isAscii_cons.mpr ⟨by decide,
          List.forall_mem_singleton.mpr (by decide)⟩
      · apply isAscii_lines (by decide) (by decide) asciiGap ascii
        rw [indentedMembers_eq_map, List.forall_mem_map]
        intro entry isEntry
        have isValue := inductionHypothesis entry isEntry
          (isAscii_append.mpr ⟨ascii, asciiGap⟩)
        exact isAscii_append.mpr ⟨isAscii_quote (names entry isEntry),
          isAscii_cons.mpr ⟨by decide, isAscii_cons.mpr ⟨by decide,
            isValue⟩⟩⟩

theorem length_lines {parts : List JsString} (nonempty : parts ≠ [])
    (opening closing : UInt16) :
    (opening :: (newLine (indent ++ gap) ++
      join (0x2C :: newLine (indent ++ gap)) parts ++ newLine indent ++
        [closing])).length =
      (parts.map List.length).sum +
        parts.length * (indent.length + gap.length + 2) + indent.length +
          2 := by
  have joined := length_join (0x2C :: newLine (indent ++ gap)) nonempty
  simp only [newLine, List.length_cons, List.length_append, List.length_nil]
    at joined ⊢
  have isStep : indent.length + gap.length + 1 + 1 =
      indent.length + gap.length + 2 := by
    omega
  rw [isStep] at joined
  omega

/-- The length of an array with items. -/
theorem length_indented_array {items : List Json} (nonempty : items ≠ []) :
    (stringifyIndented gap indent (.array items)).length =
      (items.map fun item =>
        (stringifyIndented gap (indent ++ gap) item).length).sum +
        items.length * (indent.length + gap.length + 2) + indent.length +
          2 := by
  have isFilled : ¬ items.isEmpty = true := by
    rwa [List.isEmpty_iff]
  rw [stringifyIndented, if_neg isFilled, indentedItems_eq_map,
    length_lines (by rwa [ne_eq, List.map_eq_nil_iff]), List.map_map,
    List.length_map]
  rfl

/-- The length of an object with members of plain names. -/
theorem length_indented_object {members : Members} (nonempty : members ≠ [])
    (names : ∀ entry ∈ members, IsPlain entry.1) :
    (stringifyIndented gap indent (.object members)).length =
      (members.map fun entry => entry.1.length +
        (stringifyIndented gap (indent ++ gap) entry.2).length).sum +
        members.length * (indent.length + gap.length + 6) + indent.length +
          2 := by
  have isFilled : ¬ members.isEmpty = true := by
    rwa [List.isEmpty_iff]
  have each : ∀ entry ∈ members, (quote entry.1 ++ 0x3A :: 0x20 ::
      stringifyIndented gap (indent ++ gap) entry.2).length =
        entry.1.length + (stringifyIndented gap (indent ++ gap)
          entry.2).length + 4 := by
    intro entry isEntry
    rw [List.length_append, length_quote (names entry isEntry),
      List.length_cons, List.length_cons]
    omega
  have isSum : ((members.map fun entry => quote entry.1 ++ 0x3A :: 0x20 ::
      stringifyIndented gap (indent ++ gap) entry.2).map List.length).sum =
        (members.map fun entry => entry.1.length +
          (stringifyIndented gap (indent ++ gap) entry.2).length).sum +
          members.length * 4 := by
    rw [List.map_map]
    change (members.map fun entry => (quote entry.1 ++ 0x3A :: 0x20 ::
      stringifyIndented gap (indent ++ gap) entry.2).length).sum = _
    rw [List.map_congr_left each, List.sum_map_add, List.map_const',
      List.sum_replicate_nat]
  have isSpread : members.length * (indent.length + gap.length + 6) =
      members.length * 4 +
        members.length * (indent.length + gap.length + 2) := by
    ring
  rw [stringifyIndented, if_neg isFilled, indentedMembers_eq_map,
    length_lines (by rwa [ne_eq, List.map_eq_nil_iff]), isSum,
    List.length_map, isSpread]
  omega

end Indented

end AgenId.Ecma
