import AgenId.Ecma.JsonString
import AgenId.Ecma.Number
import AgenId.Library.Entries

/-!
# JSON text

`JSON.stringify` without a replacer or a space, and `JSON.parse` without a
reviver.  Reading what was written gives the value back, for a value whose
numbers are finite and whose objects name no member twice.
-/

namespace AgenId.Ecma

open AgenId.Library

/-! ## Writing -/

/-- The text of a number; a number that is not finite is written `null`. -/
def numberText : JsNumber → JsString
  | .finite value => finiteToString value
  | _ => units "null"

mutual

/-- `JSON.stringify(value)`. -/
def stringify : Json → JsString
  | .null => units "null"
  | .boolean true => units "true"
  | .boolean false => units "false"
  | .number value => numberText value
  | .string text => quote text
  | .array items => 0x5B :: (join [0x2C] (stringifyItems items) ++ [0x5D])
  | .object members =>
    0x7B :: (join [0x2C] (stringifyMembers members) ++ [0x7D])

/-- The texts of the items of an array. -/
def stringifyItems : List Json → List JsString
  | [] => []
  | item :: rest => stringify item :: stringifyItems rest

/-- The texts of the members of an object. -/
def stringifyMembers : List (JsString × Json) → List JsString
  | [] => []
  | (name, value) :: rest =>
    (quote name ++ 0x3A :: stringify value) :: stringifyMembers rest

end

/-! ## Reading -/

/-- The white space of JSON. -/
def isSpace (unit : UInt16) : Bool :=
  unit == 0x09 || unit == 0x0A || unit == 0x0D || unit == 0x20

/-- A text without its leading white space. -/
def skipSpace (text : JsString) : JsString :=
  text.dropWhile isSpace

/-- What follows a given unit and the white space around it. -/
def readMark (mark : UInt16) (text : JsString) : Option JsString :=
  match skipSpace text with
  | [] => none
  | unit :: rest => if unit = mark then some rest else none

/-- What follows a given word. -/
def readWord (word : String) (text : JsString) : Option JsString :=
  if (units word).isPrefixOf text then
    some (text.drop (units word).length)
  else
    none

/-- A value that is neither a container nor a string. -/
def readScalar (text : JsString) : Option (Json × JsString) :=
  match readWord "null" text with
  | some rest => some (.null, rest)
  | none =>
    match readWord "true" text with
    | some rest => some (.boolean true, rest)
    | none =>
      match readWord "false" text with
      | some rest => some (.boolean false, rest)
      | none => (readNumber text).map fun read => (.number read.1, read.2)

mutual

/-- A value, and what follows it. -/
def readValue : Nat → JsString → Option (Json × JsString)
  | 0, _ => none
  | fuel + 1, text =>
    match skipSpace text with
    | [] => none
    | unit :: rest =>
      if unit = 0x22 then
        (readString rest).map fun read => (.string read.1, read.2)
      else if unit = 0x5B then
        match readMark 0x5D rest with
        | some after => some (.array [], after)
        | none =>
          (readItems fuel rest).map fun read => (.array read.1, read.2)
      else if unit = 0x7B then
        match readMark 0x7D rest with
        | some after => some (.object [], after)
        | none =>
          (readMembers fuel [] rest).map fun read => (.object read.1, read.2)
      else
        readScalar (unit :: rest)

/-- The items of an array up to its closing bracket. -/
def readItems : Nat → JsString → Option (List Json × JsString)
  | 0, _ => none
  | fuel + 1, text =>
    match readValue fuel text with
    | none => none
    | some (item, rest) =>
      match readMark 0x2C rest with
      | some after =>
        (readItems fuel after).map fun read => (item :: read.1, read.2)
      | none => (readMark 0x5D rest).map fun after => ([item], after)

/-- The members of an object up to its closing brace, assigned on top of the
members before them: a later member replaces an earlier one of its name. -/
def readMembers : Nat → Members → JsString → Option (Members × JsString)
  | 0, _, _ => none
  | fuel + 1, before, text =>
    match (readMark 0x22 text).bind readString with
    | none => none
    | some (name, rest) =>
      match (readMark 0x3A rest).bind (readValue fuel) with
      | none => none
      | some (value, rest) =>
        let members := assign name value before
        match readMark 0x2C rest with
        | some after => readMembers fuel members after
        | none => (readMark 0x7D rest).map fun after => (members, after)

end

/-- `JSON.parse(text)`, with `none` for a syntax error.  Two nested readings
read at least one code unit, so that the fuel cannot run out. -/
def parseJson (text : JsString) : Option Json :=
  match readValue (2 * text.length + 1) text with
  | some (value, rest) => if skipSpace rest = [] then some value else none
  | none => none

/-! ## Values that can be read back -/

mutual

/-- A value whose numbers are finite, and not the negative zero, and whose
objects name no member twice. -/
def Json.Printable : Json → Prop
  | .null | .boolean _ | .string _ => True
  | .number value =>
    ∃ datum, value = .finite datum ∧ datum.withoutNegativeZero = datum
  | .array items => PrintableItems items
  | .object members =>
    (members.map Prod.fst).Nodup ∧ PrintableMembers members

/-- All items are printable. -/
def PrintableItems : List Json → Prop
  | [] => True
  | item :: rest => item.Printable ∧ PrintableItems rest

/-- The values of all members are printable. -/
def PrintableMembers : List (JsString × Json) → Prop
  | [] => True
  | (_, value) :: rest => value.Printable ∧ PrintableMembers rest

end

theorem printableItems_iff {items : List Json} :
    PrintableItems items ↔ ∀ item ∈ items, item.Printable := by
  induction items with
  | nil => exact iff_of_true trivial (List.forall_mem_nil _)
  | cons item rest inductionHypothesis =>
      rw [List.forall_mem_cons, ← inductionHypothesis]
      exact Iff.rfl

theorem printableMembers_iff {members : Members} :
    PrintableMembers members ↔ ∀ entry ∈ members, entry.2.Printable := by
  induction members with
  | nil => exact iff_of_true trivial (List.forall_mem_nil _)
  | cons entry rest inductionHypothesis =>
      rw [List.forall_mem_cons, ← inductionHypothesis]
      exact Iff.rfl

/-- The names of the members of a record are among its names, in order. -/
theorem record_names_sublist (entries : List (String × Option Json)) :
    ((entries.filterMap fun entry => entry.2.map fun value =>
        (units entry.1, value)).map Prod.fst).Sublist
      (entries.map fun entry => units entry.1) := by
  induction entries with
  | nil => exact .slnil
  | cons entry rest inductionHypothesis =>
      obtain ⟨name, value⟩ := entry
      cases value with
      | none => exact inductionHypothesis.cons _
      | some value => exact inductionHypothesis.cons_cons _

theorem printable_record
    {entries : List (String × Option Json)}
    (distinct : (entries.map fun entry => units entry.1).Nodup)
    (printable : ∀ entry ∈ entries, ∀ value ∈ entry.2, value.Printable) :
    (Json.record entries).Printable := by
  rw [Json.record, Json.Printable, printableMembers_iff]
  refine ⟨distinct.sublist (record_names_sublist entries), ?_⟩
  intro member isMember
  obtain ⟨entry, isEntry, found⟩ := List.mem_filterMap.mp isMember
  obtain ⟨value, isValue, rfl⟩ := Option.map_eq_some_iff.mp found
  exact printable entry isEntry value isValue

/-! ## Reading back what was written -/

@[simp]
theorem join_cons_cons
    (separator first second : JsString) (parts : List JsString) :
    join separator (first :: second :: parts) =
      first ++ separator ++ join separator (second :: parts) := rfl

theorem skipSpace_cons
    {unit : UInt16} (rest : JsString) (solid : isSpace unit = false) :
    skipSpace (unit :: rest) = unit :: rest := by
  simp [skipSpace, solid]

theorem readMark_cons
    (mark : UInt16) (rest : JsString) (solid : isSpace mark = false) :
    readMark mark (mark :: rest) = some rest := by
  simp [readMark, skipSpace_cons rest solid]

theorem readMark_of_ne
    (mark unit : UInt16) (rest : JsString)
    (solid : isSpace unit = false) (other : unit ≠ mark) :
    readMark mark (unit :: rest) = none := by
  simp [readMark, skipSpace_cons rest solid, other]

theorem isSpace_of_lt {unit : UInt16} (large : 0x20 < unit.toNat) :
    isSpace unit = false := by
  simp only [isSpace, Bool.or_eq_false_iff, beq_eq_false_iff_ne, ne_eq,
    ← UInt16.toNat_inj]
  simp
  omega

theorem numberHead_bounds
    {head : UInt16} (starts : head = 0x2D ∨ isDigit head = true) :
    0x2D ≤ head.toNat ∧ head.toNat ≤ 0x39 := by
  rcases starts with rfl | isDigit
  · decide
  · rw [isDigit_iff] at isDigit
    omega

/-- A written value begins with a unit that is no space and closes nothing. -/
theorem stringify_head (value : Json) :
    ∃ head rest, stringify value = head :: rest ∧
      isSpace head = false ∧ head ≠ 0x5D := by
  cases value with
  | null => exact ⟨0x6E, _, rfl, rfl, by decide⟩
  | boolean value =>
      cases value with
      | true => exact ⟨0x74, _, rfl, rfl, by decide⟩
      | false => exact ⟨0x66, _, rfl, rfl, by decide⟩
  | string text => exact ⟨0x22, _, rfl, rfl, by decide⟩
  | array items => exact ⟨0x5B, _, rfl, rfl, by decide⟩
  | object members => exact ⟨0x7B, _, rfl, rfl, by decide⟩
  | number value =>
      cases value with
      | nan => exact ⟨0x6E, _, rfl, rfl, by decide⟩
      | infinity negative => exact ⟨0x6E, _, rfl, rfl, by decide⟩
      | finite datum =>
          obtain ⟨head, rest, spelled, starts⟩ := finiteToString_head datum
          obtain ⟨least, most⟩ := numberHead_bounds starts
          refine ⟨head, rest, spelled, isSpace_of_lt (by omega), ?_⟩
          rintro rfl
          exact absurd most (by decide)

theorem readWord_of_head
    (word : String) (first : UInt16) {head : UInt16}
    {letters rest : JsString}
    (spelled : units word = first :: letters) (other : head ≠ first) :
    readWord word (head :: rest) = none := by
  simp [readWord, spelled, List.isPrefixOf, Ne.symm other]

theorem readScalar_number
    (datum : Binary64) {rest : JsString} (ends : EndsToken rest) :
    readScalar (finiteToString datum ++ rest) =
      some (.number (.finite datum.withoutNegativeZero), rest) := by
  have read := readNumber_finiteToString datum ends
  obtain ⟨head, others, spelled, starts⟩ := finiteToString_head datum
  have bound := (numberHead_bounds starts).2
  have notLetter : ∀ letter : UInt16, 0x39 < letter.toNat → head ≠ letter := by
    rintro letter large rfl
    omega
  rw [spelled] at read ⊢
  rw [List.cons_append] at read ⊢
  simp only [readScalar, read, Option.map_some,
    readWord_of_head "null" 0x6E rfl
      (notLetter _ (by decide)),
    readWord_of_head "true" 0x74 rfl
      (notLetter _ (by decide)),
    readWord_of_head "false" 0x66 rfl
      (notLetter _ (by decide))]

/-- What follows a value inside a container ends its last token. -/
theorem endsToken_cons
    {unit : UInt16} (rest : JsString)
    (closes : unit = 0x2C ∨ unit = 0x5D ∨ unit = 0x7D) :
    EndsToken (unit :: rest) := by
  rintro _ ⟨⟩
  rcases closes with rfl | rfl | rfl <;> decide

theorem endsToken_nil : EndsToken [] := by
  rintro _ ⟨⟩

theorem readValue_scalar
    (fuel : Nat) {head : UInt16} (rest : JsString)
    (solid : isSpace head = false)
    (notContainer : head ≠ 0x22 ∧ head ≠ 0x5B ∧ head ≠ 0x7B) :
    readValue (fuel + 1) (head :: rest) = readScalar (head :: rest) := by
  obtain ⟨notQuote, notBracket, notBrace⟩ := notContainer
  simp only [readValue, skipSpace_cons rest solid, if_neg notQuote,
    if_neg notBracket, if_neg notBrace]

theorem readValue_string (fuel : Nat) (text rest : JsString) :
    readValue (fuel + 1) (quote text ++ rest) =
      some (.string text, rest) := by
  have read := readString_quoteUnits text rest
  simp only [quote, List.cons_append, List.append_assoc, List.nil_append]
  rw [readValue, skipSpace_cons _ (by rfl)]
  simp only [if_true, read, Option.map_some]

theorem readValue_array
    (fuel : Nat) {text : JsString} (filled : readMark 0x5D text = none) :
    readValue (fuel + 1) (0x5B :: text) =
      (readItems fuel text).map fun read => (.array read.1, read.2) := by
  rw [readValue, skipSpace_cons _ (by rfl)]
  simp [filled]

theorem readValue_object
    (fuel : Nat) {text : JsString} (filled : readMark 0x7D text = none) :
    readValue (fuel + 1) (0x7B :: text) =
      (readMembers fuel [] text).map fun read => (.object read.1, read.2) := by
  rw [readValue, skipSpace_cons _ (by rfl)]
  simp [filled]

theorem readItems_last
    {fuel : Nat} {text rest : JsString} {item : Json}
    (read : readValue fuel text = some (item, 0x5D :: rest)) :
    readItems (fuel + 1) text = some ([item], rest) := by
  rw [readItems]
  simp only [read, readMark_of_ne 0x2C 0x5D rest rfl
    (by decide), readMark_cons 0x5D rest rfl, Option.map_some]

theorem readItems_cons
    {fuel : Nat} {text after rest : JsString} {item : Json}
    {items : List Json}
    (read : readValue fuel text = some (item, 0x2C :: after))
    (readRest : readItems fuel after = some (items, rest)) :
    readItems (fuel + 1) text = some (item :: items, rest) := by
  rw [readItems]
  simp only [read, readMark_cons 0x2C after rfl, readRest,
    Option.map_some]

theorem readMembers_member
    {fuel : Nat} {before : Members} {name text after : JsString}
    {value : Json}
    (fresh : name ∉ before.map Prod.fst)
    (read : readValue fuel text = some (value, after)) :
    readMembers (fuel + 1) before (quote name ++ 0x3A :: text) =
      match readMark 0x2C after with
      | some following =>
        readMembers fuel (before ++ [(name, value)]) following
      | none =>
        (readMark 0x7D after).map fun following =>
          (before ++ [(name, value)], following) := by
  have readName : (readMark 0x22 (quote name ++ 0x3A :: text)).bind
      readString = some (name, 0x3A :: text) := by
    simp only [quote, List.cons_append, List.append_assoc, List.nil_append,
      readMark_cons 0x22 _ rfl, Option.bind_some,
      readString_quoteUnits]
  rw [readMembers]
  simp only [readName, readMark_cons 0x3A text rfl,
    Option.bind_some, read, assign_new fresh]

theorem stringifyItems_head
    (item : Json) (items : List Json) (after : JsString) :
    ∃ head rest,
      join [0x2C] (stringifyItems (item :: items)) ++ after = head :: rest ∧
        isSpace head = false ∧ head ≠ 0x5D := by
  obtain ⟨head, rest, spelled, solid, notClose⟩ := stringify_head item
  cases items with
  | nil =>
      exact ⟨head, _, by
        simp only [stringifyItems, join, spelled]; rfl, solid, notClose⟩
  | cons next items =>
      exact ⟨head, _, by
        simp only [stringifyItems, join_cons_cons, spelled]; rfl, solid,
          notClose⟩

theorem stringifyMembers_head
    (member : JsString × Json) (members : Members) (after : JsString) :
    ∃ rest,
      join [0x2C] (stringifyMembers (member :: members)) ++ after =
        0x22 :: rest := by
  obtain ⟨name, value⟩ := member
  cases members with
  | nil =>
      exact ⟨_, by simp only [stringifyMembers, join, quote]; rfl⟩
  | cons next members =>
      obtain ⟨nextName, nextValue⟩ := next
      exact ⟨_, by
        simp only [stringifyMembers, join_cons_cons, quote]; rfl⟩

theorem fresh_of_distinct
    {before members : Members} {name : JsString} {value : Json}
    (distinct : ((before ++ (name, value) :: members).map Prod.fst).Nodup) :
    name ∉ before.map Prod.fst := by
  rw [List.map_append, List.nodup_append] at distinct
  intro isBefore
  exact distinct.2.2 name isBefore name (by simp) rfl

mutual

/-- A written value reads back, with enough fuel. -/
theorem readValue_stringify :
    (value : Json) → value.Printable → ∀ (fuel : Nat) (rest : JsString),
      2 * (stringify value).length ≤ fuel → EndsToken rest →
        readValue fuel (stringify value ++ rest) = some (value, rest)
  | value, _, 0, rest, enough, _ => by
      obtain ⟨head, others, spelled, -⟩ := stringify_head value
      simp [spelled] at enough
  | .null, _, fuel + 1, rest, _, _ =>
      readValue_scalar fuel _ rfl (by decide)
  | .boolean true, _, fuel + 1, rest, _, _ =>
      readValue_scalar fuel _ rfl (by decide)
  | .boolean false, _, fuel + 1, rest, _, _ =>
      readValue_scalar fuel _ rfl (by decide)
  | .number value, printable, fuel + 1, rest, _, ends => by
      obtain ⟨datum, rfl, positiveZero⟩ := printable
      have read := readScalar_number datum ends
      obtain ⟨head, others, spelled, starts⟩ := finiteToString_head datum
      simp only [stringify, numberText]
      rw [positiveZero] at read
      rw [← read, spelled]
      obtain ⟨least, most⟩ := numberHead_bounds starts
      refine readValue_scalar fuel _ (isSpace_of_lt (by omega)) ⟨?_, ?_, ?_⟩
      · rintro rfl
        exact absurd least (by decide)
      · rintro rfl
        exact absurd most (by decide)
      · rintro rfl
        exact absurd most (by decide)
  | .string text, _, fuel + 1, rest, _, _ =>
      readValue_string fuel text rest
  | .array [], _, fuel + 1, rest, _, _ => by
      simp only [stringify, stringifyItems, join, List.nil_append,
        List.cons_append]
      rw [readValue, skipSpace_cons _ (by rfl)]
      simp [readMark_cons 0x5D rest rfl]
  | .array (item :: items), printable, fuel + 1, rest, enough, _ => by
      have read := readItems_stringify item items printable fuel rest (by
        simp [stringify] at enough ⊢; omega)
      obtain ⟨head, others, begins, solid, notClose⟩ :=
        stringifyItems_head item items (0x5D :: rest)
      simp only [stringify, List.cons_append, List.append_assoc,
        List.nil_append]
      rw [begins] at read ⊢
      rw [readValue_array fuel (readMark_of_ne _ _ others solid notClose), read,
        Option.map_some]
  | .object [], _, fuel + 1, rest, _, _ => by
      simp only [stringify, stringifyMembers, join, List.nil_append,
        List.cons_append]
      rw [readValue, skipSpace_cons _ (by rfl)]
      simp [readMark_cons 0x7D rest rfl]
  | .object (member :: members), printable, fuel + 1, rest, enough, _ => by
      have read := readMembers_stringify [] member members printable.1
        printable.2 fuel rest (by
          simp [stringify] at enough ⊢; omega)
      obtain ⟨others, begins⟩ :=
        stringifyMembers_head member members (0x7D :: rest)
      simp only [stringify, List.cons_append, List.append_assoc,
        List.nil_append]
      rw [begins] at read ⊢
      rw [readValue_object fuel (readMark_of_ne _ _ others rfl (by decide)), read,
        Option.map_some, List.nil_append]

/-- Written items read back up to the closing bracket. -/
theorem readItems_stringify :
    (item : Json) → (items : List Json) → PrintableItems (item :: items) →
      ∀ (fuel : Nat) (rest : JsString),
      2 * (join [0x2C] (stringifyItems (item :: items))).length + 1 ≤ fuel →
        readItems fuel
            (join [0x2C] (stringifyItems (item :: items)) ++ 0x5D :: rest) =
          some (item :: items, rest)
  | _, _, _, 0, _, enough => by omega
  | item, [], printable, fuel + 1, rest, enough =>
      readItems_last (readValue_stringify item printable.1 fuel _ (by
        simp [stringifyItems, join] at enough; omega)
        (endsToken_cons rest (by decide)))
  | item, next :: items, printable, fuel + 1, rest, enough => by
      simp only [stringifyItems, join_cons_cons, List.append_assoc,
        List.length_append] at enough ⊢
      exact readItems_cons
        (readValue_stringify item printable.1 fuel _ (by omega)
          (endsToken_cons _ (by decide)))
        (readItems_stringify next items printable.2 fuel rest (by
          simp only [stringifyItems]
          simp at enough
          omega))

/-- Written members read back up to the closing brace, after members with
other names. -/
theorem readMembers_stringify :
    (before : Members) → (member : JsString × Json) →
      (members : Members) →
      ((before ++ member :: members).map Prod.fst).Nodup →
      PrintableMembers (member :: members) →
      ∀ (fuel : Nat) (rest : JsString),
      2 * (join [0x2C] (stringifyMembers (member :: members))).length + 1 ≤
          fuel →
        readMembers fuel before
            (join [0x2C] (stringifyMembers (member :: members)) ++
              0x7D :: rest) =
          some (before ++ member :: members, rest)
  | _, _, _, _, _, 0, _, enough => by omega
  | before, (name, value), [], distinct, printable, fuel + 1, rest, enough => by
      have read := readValue_stringify value printable.1 fuel (0x7D :: rest)
        (by simp [stringifyMembers, join] at enough; omega)
        (endsToken_cons rest (by decide))
      simp only [stringifyMembers, join, List.append_assoc, List.cons_append]
      rw [readMembers_member (fresh_of_distinct distinct) read]
      simp only [readMark_of_ne 0x2C 0x7D rest rfl
        (by decide), readMark_cons 0x7D rest rfl, Option.map_some]
  | before, (name, value), next :: members, distinct, printable, fuel + 1,
    rest, enough => by
      obtain ⟨nextName, nextValue⟩ := next
      simp only [stringifyMembers, join_cons_cons, List.append_assoc,
        List.cons_append, List.nil_append, List.length_append,
        List.length_cons] at enough ⊢
      have read := readValue_stringify value printable.1 fuel
        (0x2C :: (join [0x2C] (stringifyMembers
          ((nextName, nextValue) :: members)) ++ 0x7D :: rest))
        (by omega) (endsToken_cons _ (by decide))
      have readRest := readMembers_stringify (before ++ [(name, value)])
        (nextName, nextValue) members (by simpa using distinct) printable.2
        fuel rest (by
          simp only [stringifyMembers]
          simp at enough ⊢
          omega)
      simp only [stringifyMembers] at read readRest
      rw [readMembers_member (fresh_of_distinct distinct) read]
      simp only [readMark_cons 0x2C _ rfl, readRest,
        List.append_assoc, List.cons_append, List.nil_append]

end

theorem parseJson_stringify
    {value : Json} (printable : value.Printable) :
    parseJson (stringify value) = some value := by
  have read := readValue_stringify value printable
    (2 * (stringify value).length + 1) [] (by omega) endsToken_nil
  rw [List.append_nil] at read
  simp [parseJson, read, skipSpace]

theorem stringify_injective
    {first second : Json} (firstPrintable : first.Printable)
    (secondPrintable : second.Printable)
    (same : stringify first = stringify second) :
    first = second := by
  have reads := parseJson_stringify firstPrintable
  rw [same, parseJson_stringify secondPrintable] at reads
  exact (Option.some.inj reads).symm

end AgenId.Ecma
