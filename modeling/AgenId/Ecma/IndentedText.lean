import AgenId.Ecma.JsonText

/-!
# Indented JSON text

`JSON.stringify` with a space: each item of an array and each member of an
object stands on a line of its own.  White space does not matter to
`JSON.parse`, so that such a text reads back as the value too.
-/

namespace AgenId.Ecma

open AgenId.Library

/-! ## Writing -/

/-- A new line with an indentation. -/
def newLine (indent : JsString) : JsString := 0x0A :: indent

mutual

/-- `JSON.stringify(value, null, gap)` on a line that is indented already; the
gap is not empty. -/
def stringifyIndented (gap indent : JsString) : Json → JsString
  | .array items =>
    if items.isEmpty then
      [0x5B, 0x5D]
    else
      0x5B :: (newLine (indent ++ gap) ++
        join (0x2C :: newLine (indent ++ gap))
          (indentedItems gap (indent ++ gap) items) ++
        newLine indent ++ [0x5D])
  | .object members =>
    if members.isEmpty then
      [0x7B, 0x7D]
    else
      0x7B :: (newLine (indent ++ gap) ++
        join (0x2C :: newLine (indent ++ gap))
          (indentedMembers gap (indent ++ gap) members) ++
        newLine indent ++ [0x7D])
  | value => stringify value

/-- The texts of the items of an array. -/
def indentedItems (gap indent : JsString) : List Json → List JsString
  | [] => []
  | item :: rest =>
    stringifyIndented gap indent item :: indentedItems gap indent rest

/-- The texts of the members of an object. -/
def indentedMembers (gap indent : JsString) :
    List (JsString × Json) → List JsString
  | [] => []
  | (name, value) :: rest =>
    (quote name ++ 0x3A :: 0x20 :: stringifyIndented gap indent value) ::
      indentedMembers gap indent rest

end

/-! ## White space -/

/-- White space only. -/
def IsBlank (space : JsString) : Prop := ∀ unit ∈ space, isSpace unit = true

instance (space : JsString) : Decidable (IsBlank space) :=
  List.decidableBAll _ space

section Blank

variable {space : JsString} (blank : IsBlank space)

include blank

theorem skipSpace_append (text : JsString) :
    skipSpace (space ++ text) = skipSpace text := by
  rw [skipSpace, List.dropWhile_append_of_pos blank]
  rfl

theorem readMark_append (mark : UInt16) (text : JsString) :
    readMark mark (space ++ text) = readMark mark text := by
  rw [readMark, skipSpace_append blank]
  rfl

theorem readValue_append (fuel : ℕ) (text : JsString) :
    readValue fuel (space ++ text) = readValue fuel text := by
  cases fuel with
  | zero => rfl
  | succ fuel => rw [readValue, readValue, skipSpace_append blank]

theorem readItems_append (fuel : ℕ) (text : JsString) :
    readItems fuel (space ++ text) = readItems fuel text := by
  cases fuel with
  | zero => rfl
  | succ fuel => rw [readItems, readItems, readValue_append blank]

theorem readMembers_append (fuel : ℕ) (before : Members) (text : JsString) :
    readMembers fuel before (space ++ text) =
      readMembers fuel before text := by
  cases fuel with
  | zero => rfl
  | succ fuel => rw [readMembers, readMembers, readMark_append blank]

theorem isBlank_newLine : IsBlank (newLine space) :=
  List.forall_mem_cons.mpr ⟨rfl, blank⟩

end Blank

theorem isBlank_space : IsBlank [0x20] :=
  List.forall_mem_singleton.mpr rfl

theorem IsBlank.append {first second : JsString} (firstBlank : IsBlank first)
    (secondBlank : IsBlank second) : IsBlank (first ++ second) :=
  List.forall_mem_append.mpr ⟨firstBlank, secondBlank⟩

/-! ## Reading back what was written -/

section Reading

variable {gap indent : JsString}

/-- A value is read back from its indented text. -/
def ReadsBack (gap : JsString) (value : Json) : Prop :=
  ∀ {indent : JsString}, IsBlank indent → ∀ (fuel : ℕ) (rest : JsString),
    2 * (stringifyIndented gap indent value).length ≤ fuel →
      EndsToken rest →
        readValue fuel (stringifyIndented gap indent value ++ rest) =
          some (value, rest)

theorem endsToken_newLine (rest : JsString) :
    EndsToken (newLine indent ++ rest) := by
  rintro _ ⟨⟩
  decide

theorem stringifyIndented_head (value : Json) :
    ∃ head rest, stringifyIndented gap indent value = head :: rest ∧
      isSpace head = false ∧ head ≠ 0x5D := by
  cases value with
  | array items =>
      by_cases isEmpty : items.isEmpty = true
      · exact ⟨0x5B, [0x5D], by rw [stringifyIndented, if_pos isEmpty], rfl,
          by decide⟩
      · exact ⟨0x5B, _, by rw [stringifyIndented, if_neg isEmpty], rfl,
          by decide⟩
  | object members =>
      by_cases isEmpty : members.isEmpty = true
      · exact ⟨0x7B, [0x7D], by rw [stringifyIndented, if_pos isEmpty], rfl,
          by decide⟩
      · exact ⟨0x7B, _, by rw [stringifyIndented, if_neg isEmpty], rfl,
          by decide⟩
  | null => exact stringify_head .null
  | boolean value => exact stringify_head (.boolean value)
  | number value => exact stringify_head (.number value)
  | string text => exact stringify_head (.string text)

/-- A joined text begins as its first part does. -/
theorem join_head (separator part : JsString) (parts : List JsString) :
    ∃ rest, join separator (part :: parts) = part ++ rest := by
  cases parts with
  | nil => exact ⟨[], (List.append_nil part).symm⟩
  | cons next others =>
      exact ⟨separator ++ join separator (next :: others), by
        rw [join_cons_cons, List.append_assoc]⟩

theorem stringifyIndented_ne_nil (value : Json) :
    stringifyIndented gap indent value ≠ [] := by
  obtain ⟨head, rest, spelled, -⟩ :=
    @stringifyIndented_head gap indent value
  rw [spelled]
  exact List.cons_ne_nil _ _

theorem exists_fuel {value : Json} {fuel : ℕ}
    (enough : 2 * (stringifyIndented gap indent value).length ≤ fuel) :
    ∃ less, fuel = less + 1 := by
  have isLong := List.length_pos_iff.mpr
    (@stringifyIndented_ne_nil gap indent value)
  exact ⟨fuel - 1, by omega⟩

/-- Items on lines of their own are read up to the closing bracket. -/
theorem readItems_indented
    (blank : IsBlank indent) {item : Json} {items : List Json}
    (readBack : ∀ other ∈ item :: items, ReadsBack gap other)
    (fuel : ℕ) (rest : JsString) {outer : JsString}
    (blankOuter : IsBlank outer)
    (enough : 2 * (join (0x2C :: newLine indent)
      (indentedItems gap indent (item :: items))).length + 1 ≤ fuel) :
    readItems fuel (join (0x2C :: newLine indent)
        (indentedItems gap indent (item :: items)) ++
          (newLine outer ++ 0x5D :: rest)) = some (item :: items, rest) := by
  induction items generalizing item fuel with
  | nil =>
      cases fuel with
      | zero => omega
      | succ fuel =>
          have isRead := readBack item List.mem_cons_self blank fuel
            (newLine outer ++ 0x5D :: rest) (by
              simp only [indentedItems, join] at enough
              omega) (endsToken_newLine _)
          rw [readItems]
          simp only [indentedItems, join]
          rw [isRead]
          dsimp only
          rw [readMark_append (isBlank_newLine blankOuter),
            readMark_append (isBlank_newLine blankOuter),
            readMark_of_ne _ _ _ rfl (by decide), readMark_cons _ _ rfl]
          rfl
  | cons next others inductionHypothesis =>
      cases fuel with
      | zero => omega
      | succ fuel =>
          obtain ⟨first, areOthers⟩ := List.forall_mem_cons.mp readBack
          have isTail := inductionHypothesis areOthers fuel
          rw [indentedItems] at isTail
          simp only [indentedItems, join_cons_cons, List.append_assoc,
            List.length_append, List.length_cons, List.cons_append]
            at enough isTail ⊢
          have isRead := first blank fuel _ (by omega)
            (endsToken_cons (newLine indent ++ (join (0x2C :: newLine indent)
              (stringifyIndented gap indent next ::
                indentedItems gap indent others) ++
                  (newLine outer ++ 0x5D :: rest))) (Or.inl rfl))
          rw [readItems, isRead]
          dsimp only
          rw [readMark_cons _ _ rfl]
          dsimp only
          rw [readItems_append (isBlank_newLine blank), isTail (by omega)]
          rfl

theorem readMembers_spaced
    {fuel : ℕ} {before : Members} {name text after : JsString} {value : Json}
    (fresh : name ∉ before.map Prod.fst)
    (isRead : readValue fuel text = some (value, after)) :
    readMembers (fuel + 1) before (quote name ++ 0x3A :: 0x20 :: text) =
      match readMark 0x2C after with
      | some following =>
        readMembers fuel (before ++ [(name, value)]) following
      | none =>
        (readMark 0x7D after).map fun following =>
          (before ++ [(name, value)], following) := by
  rw [← readValue_append isBlank_space] at isRead
  exact readMembers_member fresh isRead

/-- Members on lines of their own are read up to the closing brace, after
members with other names. -/
theorem readMembers_indented
    (blank : IsBlank indent) {before : Members}
    {member : JsString × Json} {members : Members}
    (distinct : ((before ++ member :: members).map Prod.fst).Nodup)
    (readBack : ∀ other ∈ member :: members, ReadsBack gap other.2)
    (fuel : ℕ) (rest : JsString) {outer : JsString}
    (blankOuter : IsBlank outer)
    (enough : 2 * (join (0x2C :: newLine indent)
      (indentedMembers gap indent (member :: members))).length + 1 ≤ fuel) :
    readMembers fuel before (join (0x2C :: newLine indent)
        (indentedMembers gap indent (member :: members)) ++
          (newLine outer ++ 0x7D :: rest)) =
      some (before ++ member :: members, rest) := by
  induction members generalizing before member fuel with
  | nil =>
      cases fuel with
      | zero => omega
      | succ fuel =>
          obtain ⟨name, value⟩ := member
          simp only [indentedMembers, join, List.append_assoc,
            List.cons_append, List.length_append, List.length_cons]
            at enough ⊢
          have isRead := readBack (name, value) List.mem_cons_self blank fuel
            (newLine outer ++ 0x7D :: rest) (by
              dsimp only
              omega) (endsToken_newLine _)
          rw [readMembers_spaced (fresh_of_distinct distinct) isRead,
            readMark_append (isBlank_newLine blankOuter),
            readMark_append (isBlank_newLine blankOuter),
            readMark_of_ne _ _ _ rfl (by decide), readMark_cons _ _ rfl]
          rfl
  | cons next others inductionHypothesis =>
      cases fuel with
      | zero => omega
      | succ fuel =>
          obtain ⟨name, value⟩ := member
          obtain ⟨first, areOthers⟩ := List.forall_mem_cons.mp readBack
          have distinctRest : (((before ++ [(name, value)]) ++
              next :: others).map Prod.fst).Nodup := by
            simpa using distinct
          have isTail := inductionHypothesis distinctRest areOthers fuel
          simp only [indentedMembers, join_cons_cons, List.append_assoc,
            List.length_append, List.length_cons, List.cons_append,
            List.nil_append] at enough isTail ⊢
          have isRead := first blank fuel (0x2C :: (newLine indent ++
            (join (0x2C :: newLine indent)
              ((quote next.1 ++ 0x3A :: 0x20 ::
                stringifyIndented gap indent next.2) ::
                  indentedMembers gap indent others) ++
                    (newLine outer ++ 0x7D :: rest)))) (by
              dsimp only
              omega) (endsToken_cons _ (Or.inl rfl))
          rw [readMembers_spaced (fresh_of_distinct distinct) isRead,
            readMark_cons _ _ rfl]
          dsimp only
          rw [readMembers_append (isBlank_newLine blank), isTail (by omega)]

/-- Lines do not begin with a mark when their first part does not. -/
theorem readMark_lines (blank : IsBlank indent) {mark head : UInt16}
    {part after : JsString} (begins : part = head :: after)
    (solid : isSpace head = false) (notMark : head ≠ mark)
    (parts : List JsString) (separator rest : JsString) :
    readMark mark (newLine indent ++ (join separator (part :: parts) ++
      rest)) = none := by
  obtain ⟨following, isJoined⟩ := join_head separator part parts
  rw [readMark_append (isBlank_newLine blank), isJoined, begins]
  exact readMark_of_ne _ _ _ solid notMark

/-- A value whose text does not depend on the indentation. -/
theorem readsBack_plain {value : Json} (printable : value.Printable)
    (isPlain : ∀ indent,
      stringifyIndented gap indent value = stringify value) :
    ReadsBack gap value := by
  intro indent _ fuel rest enough ends
  rw [isPlain] at enough ⊢
  exact readValue_stringify value printable fuel rest enough ends

theorem readsBack_array (blankGap : IsBlank gap) {item : Json}
    {items : List Json}
    (readBack : ∀ other ∈ item :: items, ReadsBack gap other) :
    ReadsBack gap (.array (item :: items)) := by
  intro indent blank fuel rest enough ends
  obtain ⟨fuel, rfl⟩ := exists_fuel enough
  have blankInner := blank.append blankGap
  have isText : stringifyIndented gap indent (.array (item :: items)) =
      0x5B :: (newLine (indent ++ gap) ++
        (join (0x2C :: newLine (indent ++ gap))
          (indentedItems gap (indent ++ gap) (item :: items)) ++
            (newLine indent ++ [0x5D]))) := by
    rw [stringifyIndented, if_neg (by simp), List.append_assoc,
      List.append_assoc]
  have isRead := readItems_indented blankInner readBack fuel rest blank (by
    rw [isText, List.length_cons, List.length_append, List.length_append]
      at enough
    omega)
  obtain ⟨head, after, begins, solid, notClose⟩ :=
    @stringifyIndented_head gap (indent ++ gap) item
  have notClosed := readMark_lines blankInner begins solid notClose
    (indentedItems gap (indent ++ gap) items)
    (0x2C :: newLine (indent ++ gap)) (newLine indent ++ 0x5D :: rest)
  rw [← indentedItems] at notClosed
  rw [isText, List.cons_append, List.append_assoc, List.append_assoc,
    List.append_assoc, List.singleton_append,
    readValue_array fuel notClosed,
    readItems_append (isBlank_newLine blankInner), isRead]
  rfl

theorem readsBack_object (blankGap : IsBlank gap)
    {member : JsString × Json} {members : Members}
    (distinct : ((member :: members).map Prod.fst).Nodup)
    (readBack : ∀ other ∈ member :: members, ReadsBack gap other.2) :
    ReadsBack gap (.object (member :: members)) := by
  intro indent blank fuel rest enough ends
  obtain ⟨fuel, rfl⟩ := exists_fuel enough
  obtain ⟨name, value⟩ := member
  have blankInner := blank.append blankGap
  have isText : stringifyIndented gap indent
      (.object ((name, value) :: members)) =
        0x7B :: (newLine (indent ++ gap) ++
          (join (0x2C :: newLine (indent ++ gap))
            (indentedMembers gap (indent ++ gap)
              ((name, value) :: members)) ++
                (newLine indent ++ [0x7D]))) := by
    rw [stringifyIndented, if_neg (by simp), List.append_assoc,
      List.append_assoc]
  have isRead := @readMembers_indented gap (indent ++ gap) blankInner []
    (name, value) members distinct readBack fuel rest indent blank (by
      rw [isText, List.length_cons, List.length_append, List.length_append]
        at enough
      omega)
  have begins : quote name ++ 0x3A :: 0x20 ::
      stringifyIndented gap (indent ++ gap) value =
        0x22 :: (quoteUnits name ++ [0x22] ++ 0x3A :: 0x20 ::
          stringifyIndented gap (indent ++ gap) value) := rfl
  have notClosed := @readMark_lines (indent ++ gap) blankInner 0x7D 0x22 _ _
    begins rfl (by decide) (indentedMembers gap (indent ++ gap) members)
    (0x2C :: newLine (indent ++ gap)) (newLine indent ++ 0x7D :: rest)
  rw [← indentedMembers] at notClosed
  rw [isText, List.cons_append, List.append_assoc, List.append_assoc,
    List.append_assoc, List.singleton_append,
    readValue_object fuel notClosed,
    readMembers_append (isBlank_newLine blankInner), isRead]
  rfl

/-- A value whose numbers are finite and whose objects name no member twice
is read back from its indented text. -/
theorem readsBack_of_printable (blankGap : IsBlank gap) (value : Json) :
    value.Printable → ReadsBack gap value := by
  induction value using Json.inductionOn with
  | null => exact fun printable => readsBack_plain printable fun _ => rfl
  | boolean value =>
      exact fun printable => readsBack_plain printable fun _ => rfl
  | number value =>
      exact fun printable => readsBack_plain printable fun _ => rfl
  | string text =>
      exact fun printable => readsBack_plain printable fun _ => rfl
  | array items inductionHypothesis =>
      intro printable
      cases items with
      | nil => exact readsBack_plain printable fun _ => rfl
      | cons item others =>
          apply readsBack_array blankGap
          exact fun other isItem => inductionHypothesis other isItem
            (printableItems_iff.mp printable other isItem)
  | object members inductionHypothesis =>
      intro printable
      cases members with
      | nil => exact readsBack_plain printable fun _ => rfl
      | cons member others =>
          apply readsBack_object blankGap printable.1
          exact fun other isEntry => inductionHypothesis other isEntry
            (printableMembers_iff.mp printable.2 other isEntry)

/-- The indented text of a value, with white space behind it, is parsed as
the value. -/
theorem parseJson_indented
    (blankGap : IsBlank gap) {value : Json} (printable : value.Printable)
    {space : JsString} (blank : IsBlank space) :
    parseJson (stringifyIndented gap [] value ++ space) = some value := by
  have noIndent : IsBlank [] := List.forall_mem_nil _
  have ends : EndsToken space := by
    intro unit isHead
    have isWhite := blank unit (List.mem_of_mem_head? isHead)
    rw [isSpace] at isWhite
    simp only [Bool.or_eq_true, beq_iff_eq] at isWhite
    rcases isWhite with ((isTab | isLine) | isReturn) | isBlank
    · rw [isTab]
      decide
    · rw [isLine]
      decide
    · rw [isReturn]
      decide
    · rw [isBlank]
      decide
  have isRead := readsBack_of_printable blankGap value printable noIndent
    (2 * (stringifyIndented gap [] value ++ space).length + 1) space (by
      rw [List.length_append]
      omega) ends
  have isEnd := skipSpace_append blank []
  rw [List.append_nil] at isEnd
  rw [parseJson, isRead]
  dsimp only
  rw [isEnd]
  rfl

end Reading

end AgenId.Ecma
