import AgenId.Ecma.IndentedText
import AgenId.Ecma.Utf8Decode

/-!
# JSON files

A program that keeps a JSON value in a file writes its indented text, a line
end, and the UTF-8 bytes of both.  Whoever decodes and parses the bytes has
the value again.
-/

namespace AgenId.Ecma

/-- The bytes of `JSON.stringify(value, null, 2) + "\n"`. -/
def jsonFile (value : Json) : List UInt8 :=
  encodeUtf8 (stringifyIndented (units "  ") [] value ++ [0x0A])

/-- `JSON.parse` on the text of a file, or none where it throws. -/
def parseJsonFile (bytes : List UInt8) : Option Json :=
  parseJson (decodeUtf8 bytes)

/-! ## The text is paired -/

theorem isBlank_paired {space : JsString} (blank : IsBlank space) :
    isPaired space = true := by
  apply isPaired_of_lt
  intro unit isMember
  have isWhite := blank unit isMember
  rw [isSpace] at isWhite
  simp only [Bool.or_eq_true, beq_iff_eq] at isWhite
  rcases isWhite with ((rfl | rfl) | rfl) | rfl
  all_goals decide

theorem isPaired_joined
    {separator : JsString} (separatorPaired : isPaired separator = true)
    {parts : List JsString} (paired : ∀ part ∈ parts, isPaired part = true) :
    isPaired (join separator parts) = true := by
  induction parts with
  | nil => rfl
  | cons part rest inductionHypothesis =>
      have restPaired := inductionHypothesis
        fun other isMember => paired other (List.mem_cons_of_mem part isMember)
      cases rest with
      | nil => exact paired part List.mem_cons_self
      | cons second others =>
          rw [join_cons_cons]
          exact isPaired_append (isPaired_append
            (paired part List.mem_cons_self) separatorPaired) restPaired

section Lines

variable {gap indent : JsString}

theorem isPaired_indentedItems
    {items : List Json}
    (paired : ∀ item ∈ items,
      isPaired (stringifyIndented gap indent item) = true) :
    ∀ part ∈ indentedItems gap indent items, isPaired part = true := by
  induction items with
  | nil =>
      intro part isMember
      cases isMember
  | cons item rest inductionHypothesis =>
      rw [List.forall_mem_cons] at paired
      exact List.forall_mem_cons.mpr
        ⟨paired.1, inductionHypothesis paired.2⟩

theorem isPaired_indentedMembers
    {members : Members}
    (paired : ∀ entry ∈ members,
      isPaired (stringifyIndented gap indent entry.2) = true) :
    ∀ part ∈ indentedMembers gap indent members, isPaired part = true := by
  induction members with
  | nil =>
      intro part isMember
      cases isMember
  | cons entry rest inductionHypothesis =>
      rw [List.forall_mem_cons] at paired
      refine List.forall_mem_cons.mpr ⟨?_, inductionHypothesis paired.2⟩
      apply isPaired_append (isPaired_quote entry.1)
      rw [isPaired_cons_of_lt (by decide), isPaired_cons_of_lt (by decide)]
      exact paired.1

/-- Parts on lines of their own, between brackets. -/
theorem isPaired_lines
    (gapBlank : IsBlank gap) (indentBlank : IsBlank indent)
    {opening closing : UInt16} (openingSmall : opening.toNat < 0xD800)
    (closingSmall : closing.toNat < 0xD800) {parts : List JsString}
    (paired : ∀ part ∈ parts, isPaired part = true) :
    isPaired (opening :: (newLine (indent ++ gap) ++
      join (0x2C :: newLine (indent ++ gap)) parts ++ newLine indent ++
        [closing])) = true := by
  have inner := isBlank_newLine (indentBlank.append gapBlank)
  have separatorPaired :
      isPaired (0x2C :: newLine (indent ++ gap)) = true := by
    rw [isPaired_cons_of_lt (by decide)]
    exact isBlank_paired inner
  have closingPaired : isPaired [closing] = true := by
    rw [isPaired_cons_of_lt closingSmall]
    rfl
  rw [isPaired_cons_of_lt openingSmall]
  apply isPaired_append _ closingPaired
  apply isPaired_append _ (isBlank_paired (isBlank_newLine indentBlank))
  exact isPaired_append (isBlank_paired inner)
    (isPaired_joined separatorPaired paired)

theorem isPaired_stringifyIndented
    (gapBlank : IsBlank gap) (value : Json) :
    ∀ {indent : JsString}, IsBlank indent →
      isPaired (stringifyIndented gap indent value) = true := by
  induction value using Json.inductionOn with
  | null => exact fun _ => isPaired_stringify .null
  | boolean value => exact fun _ => isPaired_stringify (.boolean value)
  | number value => exact fun _ => isPaired_stringify (.number value)
  | string text => exact fun _ => isPaired_stringify (.string text)
  | array items inductionHypothesis =>
      intro indent indentBlank
      by_cases isEmpty : items.isEmpty = true
      · rw [stringifyIndented, if_pos isEmpty]
        rfl
      · rw [stringifyIndented, if_neg isEmpty]
        apply isPaired_lines gapBlank indentBlank (by decide) (by decide)
        apply isPaired_indentedItems
        intro item isItem
        exact inductionHypothesis item isItem (indentBlank.append gapBlank)
  | object members inductionHypothesis =>
      intro indent indentBlank
      by_cases isEmpty : members.isEmpty = true
      · rw [stringifyIndented, if_pos isEmpty]
        rfl
      · rw [stringifyIndented, if_neg isEmpty]
        apply isPaired_lines gapBlank indentBlank (by decide) (by decide)
        apply isPaired_indentedMembers
        intro entry isEntry
        exact inductionHypothesis entry isEntry (indentBlank.append gapBlank)

end Lines

/-! ## Reading a file back -/

theorem stringifyIndented_object_head
    (gap indent : JsString) (members : Members) :
    (stringifyIndented gap indent (.object members)).head? = some 0x7B := by
  by_cases isEmpty : members.isEmpty = true
  · rw [stringifyIndented, if_pos isEmpty]
    rfl
  · rw [stringifyIndented, if_neg isEmpty]
    rfl

/-- An object that is kept in a file is parsed from it. -/
theorem parseJsonFile_jsonFile
    {members : Members} (printable : (Json.object members).Printable) :
    parseJsonFile (jsonFile (.object members)) = some (.object members) := by
  have gapBlank : IsBlank (units "  ") := by decide
  have lineEnd : IsBlank [0x0A] := by decide
  have noIndent : IsBlank [] := List.forall_mem_nil _
  have paired : isPaired (stringifyIndented (units "  ") []
      (.object members) ++ [0x0A]) = true :=
    isPaired_append (isPaired_stringifyIndented gapBlank _ noIndent)
      (isBlank_paired lineEnd)
  have noMark : (stringifyIndented (units "  ") [] (.object members) ++
      [0x0A]).head? ≠ some 0xFEFF := by
    rw [List.head?_append, stringifyIndented_object_head]
    decide
  rw [parseJsonFile, jsonFile, decodeUtf8_encodeUtf8 paired noMark]
  exact parseJson_indented gapBlank printable lineEnd

end AgenId.Ecma
