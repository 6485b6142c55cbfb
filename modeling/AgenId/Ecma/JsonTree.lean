import AgenId.Ecma.Integer
import AgenId.Ecma.JsonText

/-!
# JSON text as it is written

The tree of a JSON text keeps what `JSON.parse` drops: the source of every
number, which is what a runtime may pass to a reviver, and every member of an
object, also one that a later member of the same name replaces.  Reading the
tree and taking its value is reading the value.
-/

namespace AgenId.Ecma

open AgenId.Library

/-! ## Trees -/

/-- A number where it stands in a text. -/
structure NumberLiteral where
  source : JsString
  value : JsNumber
  isNumeral : IsNumeral source value

/-- The literal is an integer with this sign and these digits. -/
def NumberLiteral.IsInteger
    (literal : NumberLiteral) (negative : Bool) (digits : JsString) : Prop :=
  literal.source = integerText negative digits ∧ IntegerDigits digits

/-- The literal is an integer that is its own number, or no integer. -/
def NumberLiteral.Exact (literal : NumberLiteral) : Prop :=
  ∀ negative digits, literal.IsInteger negative digits →
    ∃ datum, literal.value = .finite datum ∧ datum.negative = negative ∧
      datum.magnitude = digitsValue 0 digits

/-- A JSON text as it is written. -/
inductive JsonTree where
  | null
  | boolean (value : Bool)
  | number (literal : NumberLiteral)
  | string (text : JsString)
  | array (items : List JsonTree)
  | object (members : List (JsString × JsonTree))

/-- Induction over a text and the texts inside it. -/
@[elab_as_elim]
theorem JsonTree.inductionOn
    {good : JsonTree → Prop} (tree : JsonTree)
    (null : good .null)
    (boolean : ∀ value, good (.boolean value))
    (number : ∀ literal, good (.number literal))
    (string : ∀ text, good (.string text))
    (array : ∀ items : List JsonTree,
      (∀ item ∈ items, good item) → good (.array items))
    (object : ∀ members : List (JsString × JsonTree),
      (∀ entry ∈ members, good entry.2) → good (.object members)) :
    good tree :=
  @JsonTree.rec good (fun items => ∀ item ∈ items, good item)
    (fun members => ∀ entry ∈ members, good entry.2)
    (fun entry => good entry.2)
    null boolean number string array object
    (fun _ isMember => nomatch isMember)
    (fun _ _ goodHead goodRest => List.forall_mem_cons.mpr
      ⟨goodHead, goodRest⟩)
    (fun _ isMember => nomatch isMember)
    (fun _ _ goodHead goodRest => List.forall_mem_cons.mpr
      ⟨goodHead, goodRest⟩)
    (fun _ _ goodValue => goodValue)
    tree

/-! ## Values -/

mutual

/-- The value of a text: of the members of one name, the last one stays, in
the place of the first. -/
def JsonTree.value : JsonTree → Json
  | .null => .null
  | .boolean value => .boolean value
  | .number literal => .number literal.value
  | .string text => .string text
  | .array items => .array (itemValues items)
  | .object members => .object (assignAll [] (memberValues members))

/-- The values of the items of an array. -/
def JsonTree.itemValues : List JsonTree → List Json
  | [] => []
  | item :: rest => item.value :: itemValues rest

/-- The values of all members of an object. -/
def JsonTree.memberValues :
    List (JsString × JsonTree) → List (JsString × Json)
  | [] => []
  | (name, tree) :: rest => (name, tree.value) :: memberValues rest

end

/-! ## Numbers -/

/-- The array index that a name spells, if it spells one. -/
def arrayIndex? (name : JsString) : Option Nat :=
  let index := digitsValue 0 name
  if decimal index = name ∧ index < 2 ^ 32 - 1 then some index else none

/-- Entries in the order in which the names of properties are enumerated:
array indices ascend, and the other names follow as they were created. -/
def enumerated {α : Type} (entries : List (JsString × α)) :
    List (JsString × α) :=
  let indexed := entries.filter fun entry => (arrayIndex? entry.1).isSome
  let others := entries.filter fun entry => (arrayIndex? entry.1).isNone
  indexed.insertionSort
    (fun left right => digitsValue 0 left.1 ≤ digitsValue 0 right.1) ++ others

mutual

/-- The numbers that a reviver is called for, in the order of the calls. -/
def JsonTree.visited : JsonTree → List NumberLiteral
  | .number literal => [literal]
  | .array items => visitedItems items
  | .object members =>
    (enumerated (assignAll [] (visitedMembers members))).flatMap Prod.snd
  | _ => []

/-- The numbers visited in the items of an array. -/
def JsonTree.visitedItems : List JsonTree → List NumberLiteral
  | [] => []
  | item :: rest => item.visited ++ visitedItems rest

/-- The numbers that would be visited in each member of an object, if it is
not replaced. -/
def JsonTree.visitedMembers :
    List (JsString × JsonTree) → List (JsString × List NumberLiteral)
  | [] => []
  | (name, tree) :: rest => (name, tree.visited) :: visitedMembers rest

end

/-- A number stands in a text, also where it is not part of the value. -/
inductive JsonTree.Contains (literal : NumberLiteral) : JsonTree → Prop
  | itself : Contains literal (.number literal)
  | item {item : JsonTree} {items : List JsonTree}
      (isItem : item ∈ items) (contains : Contains literal item) :
      Contains literal (.array items)
  | member {entry : JsString × JsonTree}
      {members : List (JsString × JsonTree)}
      (isMember : entry ∈ members) (contains : Contains literal entry.2) :
      Contains literal (.object members)

/-- No object of a text repeats the name of a member. -/
inductive JsonTree.NamesOnce : JsonTree → Prop
  | null : NamesOnce .null
  | boolean (value : Bool) : NamesOnce (.boolean value)
  | number (literal : NumberLiteral) : NamesOnce (.number literal)
  | string (text : JsString) : NamesOnce (.string text)
  | array {items : List JsonTree}
      (inside : ∀ item ∈ items, NamesOnce item) : NamesOnce (.array items)
  | object {members : List (JsString × JsonTree)}
      (distinct : Distinct members)
      (inside : ∀ entry ∈ members, NamesOnce entry.2) :
      NamesOnce (.object members)

/-- A value that a text denotes: an object takes, for every name in it, the
value of a member of that name, which is chosen when there are several. -/
inductive JsonTree.Denotes : JsonTree → Json → Prop
  | null : Denotes .null .null
  | boolean (value : Bool) : Denotes (.boolean value) (.boolean value)
  | number {literal : NumberLiteral} (exact : literal.Exact) :
      Denotes (.number literal) (.number literal.value)
  | string (text : JsString) : Denotes (.string text) (.string text)
  | array {items : List JsonTree} {values : List Json}
      (length : items.length = values.length)
      (denotes : ∀ (index : Nat) (item : JsonTree) (value : Json),
        items[index]? = some item → values[index]? = some value →
          Denotes item value) :
      Denotes (.array items) (.array values)
  | object {members : List (JsString × JsonTree)} {values : Members}
      (chosen : JsString → JsonTree)
      (distinct : Distinct values)
      (names : ∀ name : JsString,
        name ∈ values.map Prod.fst ↔ name ∈ members.map Prod.fst)
      (areMembers : ∀ entry ∈ values, (entry.1, chosen entry.1) ∈ members)
      (denotes : ∀ entry ∈ values, Denotes (chosen entry.1) entry.2) :
      Denotes (.object members) (.object values)

/-! ## Reading -/

/-- A number at the beginning of a text, with its source. -/
def readLiteral (text : JsString) : Option (NumberLiteral × JsString) :=
  match read : readNumber text with
  | none => none
  | some (value, rest) =>
    some (⟨text.take (text.length - rest.length), value, by
      obtain ⟨source, isSplit, parts⟩ := readNumber_parts read
      have isSource : text.take (text.length - rest.length) = source := by
        rw [isSplit, List.length_append, Nat.add_sub_cancel, List.take_left]
      rw [isSource]
      exact parts⟩, rest)

/-- A text that is neither a container nor a string. -/
def readScalarTree (text : JsString) : Option (JsonTree × JsString) :=
  match readWord "null" text with
  | some rest => some (.null, rest)
  | none =>
    match readWord "true" text with
    | some rest => some (.boolean true, rest)
    | none =>
      match readWord "false" text with
      | some rest => some (.boolean false, rest)
      | none => (readLiteral text).map fun read => (.number read.1, read.2)

mutual

/-- The tree of a value, and what follows it. -/
def readTree : Nat → JsString → Option (JsonTree × JsString)
  | 0, _ => none
  | fuel + 1, text =>
    match skipSpace text with
    | [] => none
    | unit :: rest =>
      if unit = 0x22 then
        (readString rest).map fun read => (.string read.1, read.2)
      else if unit = 0x5B then
        match readMark 0x5D rest with
        | some after => some (.array [], after)
        | none =>
          (readItemTrees fuel rest).map fun read => (.array read.1, read.2)
      else if unit = 0x7B then
        match readMark 0x7D rest with
        | some after => some (.object [], after)
        | none =>
          (readMemberTrees fuel rest).map fun read => (.object read.1, read.2)
      else
        readScalarTree (unit :: rest)

/-- The trees of the items of an array up to its closing bracket. -/
def readItemTrees : Nat → JsString → Option (List JsonTree × JsString)
  | 0, _ => none
  | fuel + 1, text =>
    match readTree fuel text with
    | none => none
    | some (item, rest) =>
      match readMark 0x2C rest with
      | some after =>
        (readItemTrees fuel after).map fun read => (item :: read.1, read.2)
      | none => (readMark 0x5D rest).map fun after => ([item], after)

/-- The trees of all members of an object up to its closing brace. -/
def readMemberTrees :
    Nat → JsString → Option (List (JsString × JsonTree) × JsString)
  | 0, _ => none
  | fuel + 1, text =>
    match (readMark 0x22 text).bind readString with
    | none => none
    | some (name, rest) =>
      match (readMark 0x3A rest).bind (readTree fuel) with
      | none => none
      | some (tree, rest) =>
        match readMark 0x2C rest with
        | some after =>
          (readMemberTrees fuel after).map fun read =>
            ((name, tree) :: read.1, read.2)
        | none => (readMark 0x7D rest).map fun after => ([(name, tree)], after)

end

/-- The tree of a text, with `none` for a syntax error. -/
def parseTree (text : JsString) : Option JsonTree :=
  match readTree (2 * text.length + 1) text with
  | some (tree, rest) => if skipSpace rest = [] then some tree else none
  | none => none

/-! ## The tree of a text has its value -/

theorem readNumber_eq (text : JsString) :
    readNumber text =
      (readLiteral text).map fun read => (read.1.value, read.2) := by
  unfold readLiteral
  split
  · rename_i isNone
    rw [isNone]
    rfl
  · rename_i isSome
    exact isSome

theorem readScalar_eq (text : JsString) :
    readScalar text =
      (readScalarTree text).map fun read => (read.1.value, read.2) := by
  unfold readScalar readScalarTree
  cases readWord "null" text with
  | some rest => rfl
  | none =>
      cases readWord "true" text with
      | some rest => rfl
      | none =>
          cases readWord "false" text with
          | some rest => rfl
          | none =>
              simp only [readNumber_eq, Option.map_map]
              rfl

mutual

theorem readValue_eq :
    (fuel : Nat) → (text : JsString) →
      readValue fuel text =
        (readTree fuel text).map fun read => (read.1.value, read.2)
  | 0, _ => rfl
  | fuel + 1, text => by
      simp only [readValue, readTree]
      cases skipSpace text with
      | nil => rfl
      | cons unit rest =>
          dsimp only
          split_ifs
          · cases readString rest <;> rfl
          · cases readMark 0x5D rest with
            | some after => rfl
            | none =>
                simp only [readItems_eq fuel rest, Option.map_map]
                rfl
          · cases readMark 0x7D rest with
            | some after => rfl
            | none =>
                simp only [readMembers_eq fuel [] rest, Option.map_map]
                rfl
          · exact readScalar_eq (unit :: rest)

theorem readItems_eq :
    (fuel : Nat) → (text : JsString) →
      readItems fuel text =
        (readItemTrees fuel text).map fun read =>
          (JsonTree.itemValues read.1, read.2)
  | 0, _ => rfl
  | fuel + 1, text => by
      simp only [readItems, readItemTrees, readValue_eq fuel text]
      cases readTree fuel text with
      | none => rfl
      | some read =>
          simp only [Option.map_some]
          cases readMark 0x2C read.2 with
          | some after =>
              simp only [readItems_eq fuel after, Option.map_map]
              rfl
          | none => cases readMark 0x5D read.2 <;> rfl

/-- The members read so far take each further member in turn. -/
theorem readMembers_eq :
    (fuel : Nat) → (before : Members) → (text : JsString) →
      readMembers fuel before text =
        (readMemberTrees fuel text).map fun read =>
          (assignAll before (JsonTree.memberValues read.1), read.2)
  | 0, _, _ => rfl
  | fuel + 1, before, text => by
      simp only [readMembers, readMemberTrees]
      cases (readMark 0x22 text).bind readString with
      | none => rfl
      | some named =>
          dsimp only
          cases readMark 0x3A named.2 with
          | none => rfl
          | some following =>
              simp only [Option.bind_some, readValue_eq fuel following]
              cases readTree fuel following with
              | none => rfl
              | some read =>
                  simp only [Option.map_some]
                  cases readMark 0x2C read.2 with
                  | some after =>
                      simp only [readMembers_eq fuel _ after, Option.map_map]
                      rfl
                  | none => cases readMark 0x7D read.2 <;> rfl

end

/-- `JSON.parse` returns the value of the tree. -/
theorem parseJson_eq (text : JsString) :
    parseJson text = (parseTree text).map JsonTree.value := by
  unfold parseJson parseTree
  rw [readValue_eq]
  cases readTree (2 * text.length + 1) text with
  | none => rfl
  | some read =>
      simp only [Option.map_some]
      split_ifs <;> rfl

/-! ## Texts without repeated names -/

namespace JsonTree

theorem itemValues_eq_map (items : List JsonTree) :
    itemValues items = items.map JsonTree.value := by
  induction items with
  | nil => rfl
  | cons item rest inductionHypothesis =>
      exact congrArg (item.value :: ·) inductionHypothesis

theorem memberValues_eq_map (members : List (JsString × JsonTree)) :
    memberValues members =
      members.map fun entry => (entry.1, entry.2.value) := by
  induction members with
  | nil => rfl
  | cons entry rest inductionHypothesis =>
      exact congrArg ((entry.1, entry.2.value) :: ·) inductionHypothesis

theorem visitedItems_eq_flatMap (items : List JsonTree) :
    visitedItems items = items.flatMap JsonTree.visited := by
  induction items with
  | nil => rfl
  | cons item rest inductionHypothesis =>
      exact congrArg (item.visited ++ ·) inductionHypothesis

theorem visitedMembers_eq_map (members : List (JsString × JsonTree)) :
    visitedMembers members =
      members.map fun entry => (entry.1, entry.2.visited) := by
  induction members with
  | nil => rfl
  | cons entry rest inductionHypothesis =>
      exact congrArg ((entry.1, entry.2.visited) :: ·) inductionHypothesis

/-- The value of an object is made of the members that are not replaced. -/
theorem value_object (members : List (JsString × JsonTree)) :
    (JsonTree.object members).value =
      .object ((assignAll [] members).map fun entry =>
        (entry.1, entry.2.value)) := by
  rw [value, memberValues_eq_map, assignAll_map_value]
  rfl

theorem mem_enumerated
    {α : Type} {entries : List (JsString × α)} {entry : JsString × α} :
    entry ∈ enumerated entries ↔ entry ∈ entries := by
  simp only [enumerated, List.mem_append, List.mem_insertionSort,
    List.mem_filter]
  cases arrayIndex? entry.1 <;> simp

theorem mem_visited_array
    {literal : NumberLiteral} {items : List JsonTree} :
    literal ∈ (JsonTree.array items).visited ↔
      ∃ item ∈ items, literal ∈ item.visited := by
  rw [visited, visitedItems_eq_flatMap, List.mem_flatMap]

/-- The numbers visited in an object are those of the members that are not
replaced. -/
theorem mem_visited_object
    {literal : NumberLiteral} {members : List (JsString × JsonTree)} :
    literal ∈ (JsonTree.object members).visited ↔
      ∃ entry ∈ assignAll [] members, literal ∈ entry.2.visited := by
  have merged : assignAll [] (visitedMembers members) =
      (assignAll [] members).map fun entry => (entry.1, entry.2.visited) := by
    rw [visitedMembers_eq_map, assignAll_map_value]
    rfl
  simp only [visited, merged, List.mem_flatMap, mem_enumerated, List.mem_map]
  constructor
  · rintro ⟨-, ⟨entry, isMember, rfl⟩, isVisited⟩
    exact ⟨entry, isMember, isVisited⟩
  · rintro ⟨entry, isMember, isVisited⟩
    exact ⟨_, ⟨entry, isMember, rfl⟩, isVisited⟩

/-- Where no name is repeated, every number of the text is visited. -/
theorem visited_of_contains
    {literal : NumberLiteral} {tree : JsonTree} (once : tree.NamesOnce)
    (contains : tree.Contains literal) :
    literal ∈ tree.visited := by
  induction contains with
  | itself => exact List.mem_singleton_self literal
  | item isItem _ inductionHypothesis =>
      cases once with
      | array inside =>
          exact mem_visited_array.mpr
            ⟨_, isItem, inductionHypothesis (inside _ isItem)⟩
  | member isMember _ inductionHypothesis =>
      cases once with
      | object distinct inside =>
          rw [mem_visited_object, distinct.assignAll_nil]
          exact ⟨_, isMember, inductionHypothesis (inside _ isMember)⟩

/-- A text without repeated names denotes its value, when its integers are
their own numbers. -/
theorem denotes_value
    {tree : JsonTree} (once : tree.NamesOnce)
    (exact : ∀ literal, tree.Contains literal → literal.Exact) :
    tree.Denotes tree.value := by
  induction once with
  | null => exact .null
  | boolean value => exact .boolean value
  | string text => exact .string text
  | number literal => exact .number (exact literal .itself)
  | array inside inductionHypothesis =>
      rw [value, itemValues_eq_map]
      refine .array (List.length_map _).symm ?_
      intro index item value isItem isValue
      rw [List.getElem?_map, isItem] at isValue
      cases isValue
      have isMember := List.mem_of_getElem? isItem
      exact inductionHypothesis item isMember fun literal contains =>
        exact literal (.item isMember contains)
  | @object members distinct inside inductionHypothesis =>
      rw [value_object, distinct.assignAll_nil]
      have found : ∀ entry ∈ members,
          (members.lookup entry.1).getD .null = entry.2 := by
        intro entry isMember
        rw [distinct.lookup_eq_some_iff.mpr isMember, Option.getD_some]
      refine .object (fun name => (members.lookup name).getD .null)
        (distinct.map _ fun _ => rfl) ?_ ?_ ?_
      · intro name
        rw [List.map_map]
        rfl
      · intro entry isEntry
        obtain ⟨member, isMember, rfl⟩ := List.mem_map.mp isEntry
        rw [found member isMember]
        exact isMember
      · intro entry isEntry
        obtain ⟨member, isMember, rfl⟩ := List.mem_map.mp isEntry
        rw [found member isMember]
        exact inductionHypothesis member isMember fun literal contains =>
          exact literal (.member isMember contains)

end JsonTree

end AgenId.Ecma
