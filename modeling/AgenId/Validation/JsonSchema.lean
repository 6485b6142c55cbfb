import AgenId.Validation.Schema

/-!
# JSON Schema

The keywords of JSON Schema 2020-12 that the published schemas use.  A schema
is the list of its keywords, and a value is valid when every keyword holds of
it.  A keyword about values of one type holds of every value of another type,
and a keyword about a member holds of an object without that member.
-/

namespace AgenId.Validation

open AgenId.Ecma

/-- The types of values. -/
inductive JsonType where
  | null | boolean | number | string | array | object
  deriving DecidableEq

/-- The type of a value. -/
def JsonType.of : Json → JsonType
  | .null => .null
  | .boolean _ => .boolean
  | .number _ => .number
  | .string _ => .string
  | .array _ => .array
  | .object _ => .object

/-- A keyword, with what a schema says under it.  `properties` is closed when
`additionalProperties: false` stands beside it. -/
inductive Keyword where
  | type (types : List JsonType)
  | const (text : String)
  | enum (texts : List String)
  | pattern (expression : Regex)
  | minLength (least : Nat)
  | required (names : List String)
  | properties (closed : Bool) (schemas : List (String × List Keyword))
  | allOf (schemas : List (List Keyword))
  | ifThen (condition consequence : List Keyword)

/-- A schema. -/
abbrev JsonSchema := List Keyword

/-! ## Validity -/

mutual

/-- Whether a keyword holds of a value. -/
def Keyword.holds : Keyword → Json → Bool
  | .type types, value => types.contains (JsonType.of value)
  | .const text, value => Schema.isText text (some value)
  | .enum texts, value => texts.any fun text => Schema.isText text (some value)
  | .pattern expression, value =>
    match value with
    | .string text => expression.test text
    | _ => true
  | .minLength least, value =>
    match value with
    | .string text => decide (least ≤ (scalarValues text).length)
    | _ => true
  | .required names, value =>
    match value with
    | .object members =>
      names.all fun name => (members.lookup (units name)).isSome
    | _ => true
  | .properties closed schemas, value =>
    match value with
    | .object members =>
      (!closed ||
        (Schema.unknownNames (schemas.map Prod.fst) members).isEmpty) &&
        membersValid schemas members
    | _ => true
  | .allOf schemas, value => allValid schemas value
  | .ifThen condition consequence, value =>
    !valid condition value || valid consequence value

/-- Whether a value is valid against a schema. -/
def valid : List Keyword → Json → Bool
  | [], _ => true
  | keyword :: rest, value => keyword.holds value && valid rest value

/-- Whether the members that are there are valid, each against its schema. -/
def membersValid : List (String × List Keyword) → Members → Bool
  | [], _ => true
  | (name, schema) :: rest, members =>
    (match members.lookup (units name) with
      | some value => valid schema value
      | none => true) && membersValid rest members

/-- Whether a value is valid against all of some schemas. -/
def allValid : List (List Keyword) → Json → Bool
  | [], _ => true
  | schema :: rest, value => valid schema value && allValid rest value

end

/-! ## What a keyword says -/

@[simp]
theorem valid_nil (value : Json) : valid [] value = true := rfl

@[simp]
theorem valid_cons {keyword : Keyword} {rest : JsonSchema} {value : Json} :
    valid (keyword :: rest) value = true ↔
      keyword.holds value = true ∧ valid rest value = true :=
  Bool.and_eq_true_iff

@[simp]
theorem allValid_nil (value : Json) : allValid [] value = true := rfl

@[simp]
theorem allValid_cons
    {schema : JsonSchema} {rest : List JsonSchema} {value : Json} :
    allValid (schema :: rest) value = true ↔
      valid schema value = true ∧ allValid rest value = true :=
  Bool.and_eq_true_iff

theorem isText_iff {text : String} {value : Json} :
    Schema.isText text (some value) = true ↔ value = .literal text := by
  cases value <;> simp [Schema.isText, Json.literal]

@[simp]
theorem holds_const {text : String} {value : Json} :
    (Keyword.const text).holds value = true ↔ value = .literal text :=
  isText_iff

@[simp]
theorem holds_enum {texts : List String} {value : Json} :
    (Keyword.enum texts).holds value = true ↔
      ∃ text ∈ texts, value = .literal text := by
  have isAny : (Keyword.enum texts).holds value = true ↔
      ∃ text ∈ texts, Schema.isText text (some value) = true :=
    List.any_eq_true
  simpa only [isText_iff] using isAny

@[simp]
theorem holds_type {types : List JsonType} {value : Json} :
    (Keyword.type types).holds value = true ↔ JsonType.of value ∈ types :=
  List.contains_iff_mem

@[simp]
theorem holds_pattern {expression : Regex} {value : Json} :
    (Keyword.pattern expression).holds value = true ↔
      ∀ text, value = .string text → expression.test text = true := by
  cases value <;> simp [Keyword.holds]

@[simp]
theorem holds_allOf {schemas : List JsonSchema} {value : Json} :
    (Keyword.allOf schemas).holds value = true ↔
      allValid schemas value = true := Iff.rfl

@[simp]
theorem holds_ifThen {condition consequence : JsonSchema} {value : Json} :
    (Keyword.ifThen condition consequence).holds value = true ↔
      (valid condition value = true → valid consequence value = true) := by
  change (!valid condition value || valid consequence value) = true ↔ _
  cases valid condition value <;> simp

/-- An object has the members that are required of it. -/
@[simp]
theorem holds_required {names : List String} {members : Members} :
    (Keyword.required names).holds (.object members) = true ↔
      ∀ name ∈ names, ∃ value, members.lookup (units name) = some value := by
  have areAll : (Keyword.required names).holds (.object members) = true ↔
      ∀ name ∈ names, (members.lookup (units name)).isSome = true :=
    List.all_eq_true
  simpa only [Option.isSome_iff_exists] using areAll

@[simp]
theorem membersValid_nil (members : Members) :
    membersValid [] members = true := rfl

@[simp]
theorem membersValid_cons
    {name : String} {schema : JsonSchema}
    {rest : List (String × JsonSchema)} {members : Members} :
    membersValid ((name, schema) :: rest) members = true ↔
      (∀ value, members.lookup (units name) = some value →
        valid schema value = true) ∧
        membersValid rest members = true := by
  rw [membersValid, Bool.and_eq_true]
  cases members.lookup (units name) <;> simp

/-- An object that is closed has no members but the listed ones. -/
@[simp]
theorem holds_properties
    {closed : Bool} {schemas : List (String × JsonSchema)}
    {members : Members} :
    (Keyword.properties closed schemas).holds (.object members) = true ↔
      (closed = true →
        Schema.unknownNames (schemas.map Prod.fst) members = []) ∧
        membersValid schemas members = true := by
  simp only [Keyword.holds, Bool.and_eq_true]
  cases closed <;> simp

/-- Members that are all required are there, each valid. -/
theorem required_and_membersValid_iff
    {schemas : List (String × JsonSchema)} {members : Members} :
    ((Keyword.required (schemas.map Prod.fst)).holds (.object members) = true ∧
        membersValid schemas members = true) ↔
      ∀ entry ∈ schemas, ∃ value,
        members.lookup (units entry.1) = some value ∧
          valid entry.2 value = true := by
  induction schemas with
  | nil => simp
  | cons entry rest inductionHypothesis =>
      obtain ⟨name, schema⟩ := entry
      rw [List.forall_mem_cons, ← inductionHypothesis]
      simp only [holds_required, List.map_cons, List.forall_mem_cons,
        membersValid_cons]
      constructor
      · rintro ⟨⟨⟨value, isMember⟩, required⟩, isValid, restValid⟩
        exact ⟨⟨value, isMember, isValid value isMember⟩, required, restValid⟩
      · rintro ⟨⟨value, isMember, isValid⟩, required, restValid⟩
        refine ⟨⟨⟨value, isMember⟩, required⟩, ?_, restValid⟩
        intro other isOther
        rw [isMember] at isOther
        rwa [← Option.some.inj isOther]

/-- A text with at least one character is any but the empty one. -/
theorem holds_minLength_one {text : JsString} :
    (Keyword.minLength 1).holds (.string text) = true ↔ text ≠ [] := by
  refine Iff.trans decide_eq_true_iff ?_
  cases text with
  | nil => simp [scalarValues]
  | cons lead rest =>
      have nonempty : scalarValues (lead :: rest) ≠ [] := by
        unfold scalarValues
        split_ifs
        · cases rest with
          | nil => simp
          | cons trail after =>
              dsimp only
              split_ifs <;> simp
        · simp
        · simp
      have := List.length_pos_iff.mpr nonempty
      simp only [ne_eq, reduceCtorEq, not_false_eq_true, iff_true]
      omega

end AgenId.Validation
