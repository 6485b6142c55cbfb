import AgenId.Ecma.Json
import AgenId.Ecma.Pattern

/-!
# Schemas over JSON values

A small validation library after the combinators of zod 3.  A schema reads a
value, which may be absent, and yields a value of a type together with the
issues it found; it accepts when there is a value and no issue.  A failed
check keeps the value and records an issue, so that later checks still run,
while a value of the wrong shape is dropped.

Texts of issues that the author of a schema does not give are the library's
own.  They are left to `Issue.render`, which takes them as an argument.
-/

namespace AgenId.Validation

open AgenId.Ecma

/-! ## Issues -/

/-- One step of the path to a value. -/
inductive PathKey where
  | member (name : JsString)
  | index (position : Nat)
  deriving DecidableEq

/-- The kinds of issue. -/
inductive IssueCode where
  | invalidType (expected received : String)
  | invalidLiteral (expected : String)
  | invalidEnumValue (options : List String) (received : JsString)
  | invalidUnionDiscriminator (options : List String)
  | unrecognizedKeys (names : List JsString)
  | invalidString (validation : String)
  | tooSmall (kind : String) (minimum : Nat)
  | tooBig (kind : String) (maximum : Nat)
  | custom
  deriving DecidableEq

/-- An issue: where, what, and the author's text when there is one. -/
structure Issue where
  path : List PathKey
  code : IssueCode
  message : Option JsString
  deriving DecidableEq

/-- The text of an issue, from the library's texts by kind. -/
def Issue.render (libraryText : IssueCode → JsString) (issue : Issue) :
    JsString :=
  issue.message.getD (libraryText issue.code)

/-- An issue at the value itself, with the author's text. -/
def Issue.here (code : IssueCode) (message : String) : Issue :=
  ⟨[], code, some (units message)⟩

/-- The name of the type of a value, as it stands in an issue. -/
def parsedType : Option Json → String
  | none => "undefined"
  | some .null => "null"
  | some (.boolean _) => "boolean"
  | some (.number .nan) => "nan"
  | some (.number _) => "number"
  | some (.string _) => "string"
  | some (.array _) => "array"
  | some (.object _) => "object"

/-! ## Results of reading -/

/-- A value, unless its shape was wrong, and the issues found. -/
structure Parse (α : Type) where
  issues : List Issue
  value : Option α

/-- A schema reads a value or its absence, which is `undefined`. -/
abbrev Schema (α : Type) := Option Json → Parse α

namespace Parse

variable {α β : Type}

instance : Applicative Parse where
  pure value := ⟨[], some value⟩
  seq function argument :=
    ⟨function.issues ++ (argument ()).issues,
      function.value <*> (argument ()).value⟩

/-- A value of the wrong shape. -/
def wrong (code : IssueCode) : Parse α :=
  ⟨[⟨[], code, none⟩], none⟩

/-- A value of another type than the expected one. -/
def wrongType (expected : String) (input : Option Json) : Parse α :=
  wrong (.invalidType expected (parsedType input))

/-- The same result, one step further down. -/
def within (key : PathKey) (parse : Parse α) : Parse α :=
  ⟨parse.issues.map fun issue => { issue with path := key :: issue.path },
    parse.value⟩

/-- The value when there is no issue. -/
def accepted (parse : Parse α) : Option α :=
  if parse.issues = [] then parse.value else none

@[simp]
theorem accepted_pure (value : α) :
    (pure value : Parse α).accepted = some value := rfl

@[simp]
theorem accepted_wrong (code : IssueCode) :
    (wrong code : Parse α).accepted = none := rfl

@[simp]
theorem accepted_wrongType (expected : String) (input : Option Json) :
    (wrongType expected input : Parse α).accepted = none := rfl

@[simp]
theorem accepted_within (key : PathKey) (parse : Parse α) :
    (parse.within key).accepted = parse.accepted := by
  simp [accepted, within]

/-- Both parts of an application are accepted when the whole is. -/
@[simp]
theorem accepted_seq (function : Parse (α → β)) (argument : Parse α) :
    (function <*> argument).accepted =
      function.accepted.bind fun f => argument.accepted.map f := by
  obtain ⟨functionIssues, functionValue⟩ := function
  obtain ⟨argumentIssues, argumentValue⟩ := argument
  cases functionIssues with
  | nil =>
      cases argumentIssues <;> cases functionValue <;>
        cases argumentValue <;> rfl
  | cons issue rest =>
      rfl

@[simp]
theorem accepted_map (f : α → β) (parse : Parse α) :
    (f <$> parse).accepted = parse.accepted.map f := by
  have unfolded : f <$> parse = pure f <*> parse := rfl
  rw [unfolded, accepted_seq]
  rfl

/-- `first <* second` keeps the value of the first. -/
@[simp]
theorem accepted_seqLeft (first : Parse α) (second : Parse β) :
    (first <* second).accepted =
      first.accepted.bind fun value => second.accepted.map fun _ => value := by
  have unfolded : first <* second = Function.const β <$> first <*> second :=
    rfl
  rw [unfolded, accepted_seq, accepted_map]
  cases first.accepted <;> rfl

/-- `first *> second` keeps the value of the second. -/
@[simp]
theorem accepted_seqRight (first : Parse α) (second : Parse β) :
    (first *> second).accepted =
      first.accepted.bind fun _ => second.accepted := by
  have unfolded : first *> second = Function.const α id <$> first <*> second :=
    rfl
  rw [unfolded, accepted_seq, accepted_map]
  cases first.accepted <;> simp

theorem accepted_seq_eq_some_iff
    {function : Parse (α → β)} {argument : Parse α} {result : β} :
    (function <*> argument).accepted = some result ↔
      ∃ value, argument.accepted = some value ∧
        ∃ f, function.accepted = some f ∧ f value = result := by
  simp only [accepted_seq, Option.bind_eq_some_iff, Option.map_eq_some_iff]
  constructor
  · rintro ⟨f, isFunction, value, isValue, rfl⟩
    exact ⟨value, isValue, f, isFunction, rfl⟩
  · rintro ⟨value, isValue, f, isFunction, rfl⟩
    exact ⟨f, isFunction, value, isValue, rfl⟩

theorem accepted_seq_of
    {function : Parse (α → β)} {argument : Parse α} {f : α → β} {value : α}
    (isFunction : function.accepted = some f)
    (isValue : argument.accepted = some value) :
    (function <*> argument).accepted = some (f value) := by
  rw [accepted_seq, isFunction, isValue]
  rfl

theorem accepted_map_eq_some_iff
    {f : α → β} {parse : Parse α} {result : β} :
    (f <$> parse).accepted = some result ↔
      ∃ value, parse.accepted = some value ∧ f value = result := by
  simp

theorem accepted_map_of
    {f : α → β} {parse : Parse α} {value : α}
    (isValue : parse.accepted = some value) :
    (f <$> parse).accepted = some (f value) := by
  rw [accepted_map, isValue]
  rfl

theorem accepted_seqLeft_eq_some_iff
    {first : Parse α} {second : Parse β} {result : α} :
    (first <* second).accepted = some result ↔
      first.accepted = some result ∧ ∃ other, second.accepted = some other := by
  simp only [accepted_seqLeft, Option.bind_eq_some_iff,
    Option.map_eq_some_iff]
  constructor
  · rintro ⟨value, isFirst, other, isSecond, rfl⟩
    exact ⟨isFirst, other, isSecond⟩
  · rintro ⟨isFirst, other, isSecond⟩
    exact ⟨result, isFirst, other, isSecond, rfl⟩

theorem accepted_seqRight_eq_some_iff
    {first : Parse α} {second : Parse β} {result : β} :
    (first *> second).accepted = some result ↔
      (∃ other, first.accepted = some other) ∧
        second.accepted = some result := by
  simp [Option.bind_eq_some_iff]

end Parse

namespace Schema

variable {α β : Type}

/-- What a schema accepts a value as. -/
def accepts (schema : Schema α) (input : Option Json) : Option α :=
  (schema input).accepted

/-- `schema.safeParse(input)`. -/
def safeParse (schema : Schema α) (input : Option Json) :
    Except (List Issue) α :=
  match schema.accepts input with
  | some value => .ok value
  | none => .error (schema input).issues

theorem safeParse_eq_ok_iff
    {schema : Schema α} {input : Option Json} {value : α} :
    schema.safeParse input = .ok value ↔
      schema.accepts input = some value := by
  unfold safeParse
  cases schema.accepts input <;> simp

theorem safeParse_of_accepts
    {schema : Schema α} {input : Option Json} {value : α}
    (accepted : schema.accepts input = some value) :
    schema.safeParse input = .ok value :=
  safeParse_eq_ok_iff.mpr accepted

/-! ## Combinators -/

/-- `z.string()`. -/
def string : Schema JsString
  | some (.string text) => pure text
  | input => .wrongType "string" input

/-- `z.boolean()`. -/
def boolean : Schema Bool
  | some (.boolean value) => pure value
  | input => .wrongType "boolean" input

/-- `z.literal(expected)` for a string. -/
def literal (expected : String) : Schema Unit
  | some (.string text) =>
    if text = units expected then pure ()
    else .wrong (.invalidLiteral expected)
  | _ => .wrong (.invalidLiteral expected)

/-- The options of an enumeration as they stand in an issue. -/
def joinValues (options : List String) : String :=
  " | ".intercalate (options.map fun option => "'" ++ option ++ "'")

/-- `z.enum(options)`, with what each option stands for. -/
def enumeration (options : List (String × α)) : Schema α
  | some (.string text) =>
    match options.find? fun option => units option.1 = text with
    | some option => pure option.2
    | none => .wrong (.invalidEnumValue (options.map Prod.fst) text)
  | input => .wrongType (joinValues (options.map Prod.fst)) input

/-- `schema.superRefine(rules)`; it runs whenever there is a value. -/
def superRefine (schema : Schema α) (rules : α → List Issue) : Schema α :=
  fun input =>
    match (schema input).value with
    | some value =>
      ⟨(schema input).issues ++ rules value, some value⟩
    | none => schema input

/-- One check with one issue, as `regex`, `min`, `max` and `refine` are. -/
def check (schema : Schema α) (holds : α → Bool) (issue : Issue) : Schema α :=
  schema.superRefine fun value => if holds value then [] else [issue]

/-- `schema.regex(expression, message)`. -/
def regex (schema : Schema JsString) (expression : Regex) (message : String) :
    Schema JsString :=
  schema.check expression.test (.here (.invalidString "regex") message)

/-- `schema.regex(expression)`, with the library's own text. -/
def plainRegex (schema : Schema JsString) (expression : Regex) :
    Schema JsString :=
  schema.check expression.test ⟨[], .invalidString "regex", none⟩

/-- `schema.min(bound)` for strings. -/
def minLength (schema : Schema JsString) (bound : Nat) : Schema JsString :=
  schema.check (fun text => decide (bound ≤ text.length))
    ⟨[], .tooSmall "string" bound, none⟩

/-- `schema.max(bound)` for strings. -/
def maxLength (schema : Schema JsString) (bound : Nat) : Schema JsString :=
  schema.check (fun text => decide (text.length ≤ bound))
    ⟨[], .tooBig "string" bound, none⟩

/-- `schema.optional()`. -/
def optional (schema : Schema α) : Schema (Option α)
  | none => pure none
  | some value => some <$> schema (some value)

/-- `schema.nullable()`. -/
def nullable (schema : Schema α) : Schema (Option α)
  | some .null => pure none
  | input => some <$> schema input

/-- The items of an array, from a position on. -/
def items (schema : Schema α) : Nat → List Json → Parse (List α)
  | _, [] => pure []
  | position, item :: rest =>
    List.cons <$> (schema (some item)).within (.index position) <*>
      items schema (position + 1) rest

/-- The issues of an array's length. -/
def lengthIssues (least : Nat) (most : Option Nat) (length : Nat) :
    List Issue :=
  (if least ≤ length then [] else [⟨[], .tooSmall "array" least, none⟩]) ++
    match most with
    | none => []
    | some bound =>
      if length ≤ bound then [] else [⟨[], .tooBig "array" bound, none⟩]

/-- `z.array(schema).min(least).max(most)`. -/
def array (schema : Schema α) (least : Nat) (most : Option Nat) :
    Schema (List α)
  | some (.array values) =>
    let parsed := schema.items 0 values
    ⟨lengthIssues least most values.length ++ parsed.issues, parsed.value⟩
  | input => .wrongType "array" input

/-- One member of an object schema. -/
def field (name : String) (schema : Schema α) (members : Members) : Parse α :=
  (schema (members.lookup (units name))).within (.member (units name))

/-- The names that a strict schema does not know. -/
def unknownNames (names : List String) (members : Members) : List JsString :=
  (members.map Prod.fst).filter fun name => name ∉ names.map units

/-- `z.object(shape).strict()`; `body` reads the members named in `names`. -/
def strictObject (names : List String) (body : Members → Parse α) : Schema α
  | some (.object members) =>
    match unknownNames names members with
    | [] => body members
    | unknown =>
      ⟨(body members).issues ++ [⟨[], .unrecognizedKeys unknown, none⟩],
        (body members).value⟩
  | input => .wrongType "object" input

/-- Whether a value is a given text. -/
def isText (expected : String) : Option Json → Bool
  | some (.string text) => decide (text = units expected)
  | _ => false

/-- `z.discriminatedUnion(discriminator, options)`. -/
def discriminatedUnion
    (discriminator : String) (options : List (String × Schema α)) : Schema α
  | some (.object members) =>
    match options.find? fun option =>
        isText option.1 (members.lookup (units discriminator)) with
    | some option => option.2 (some (.object members))
    | none =>
      (Parse.wrong (.invalidUnionDiscriminator (options.map Prod.fst))).within
        (.member (units discriminator))
  | input => .wrongType "object" input

/-! ## What a combinator accepts -/

@[simp]
theorem accepts_string (text : JsString) :
    string.accepts (some (.string text)) = some text := rfl

theorem accepts_string_eq_some_iff
    {input : Option Json} {text : JsString} :
    string.accepts input = some text ↔ input = some (.string text) := by
  match input with
  | none => simp [accepts, string]
  | some (.string other) => simp
  | some .null | some (.boolean _) | some (.number _) | some (.array _)
  | some (.object _) => simp [accepts, string]

@[simp]
theorem accepts_boolean (value : Bool) :
    boolean.accepts (some (.boolean value)) = some value := rfl

/-- Rules only restrict what is accepted. -/
theorem accepts_superRefine
    (schema : Schema α) (rules : α → List Issue) (input : Option Json) :
    (schema.superRefine rules).accepts input =
      (schema.accepts input).filter fun value => (rules value).isEmpty := by
  unfold accepts superRefine Parse.accepted
  cases issues : (schema input).issues <;>
    cases found : (schema input).value with
  | none => simp [issues, found]
  | some value =>
      cases broken : rules value <;> simp [broken, Option.filter]

theorem accepts_check
    (schema : Schema α) (holds : α → Bool) (issue : Issue)
    (input : Option Json) :
    (schema.check holds issue).accepts input =
      (schema.accepts input).filter holds := by
  rw [check, accepts_superRefine]
  congr
  funext value
  cases holds value <;> rfl

theorem accepts_check_eq_some_iff
    {schema : Schema α} {holds : α → Bool} {issue : Issue}
    {input : Option Json} {value : α} :
    (schema.check holds issue).accepts input = some value ↔
      schema.accepts input = some value ∧ holds value = true := by
  rw [accepts_check, Option.filter_eq_some_iff]

theorem accepts_superRefine_eq_some_iff
    {schema : Schema α} {rules : α → List Issue}
    {input : Option Json} {value : α} :
    (schema.superRefine rules).accepts input = some value ↔
      schema.accepts input = some value ∧ rules value = [] := by
  rw [accepts_superRefine, Option.filter_eq_some_iff, List.isEmpty_iff]

@[simp]
theorem accepts_optional_none (schema : Schema α) :
    schema.optional.accepts none = some none := rfl

@[simp]
theorem accepts_optional_some (schema : Schema α) (value : Json) :
    schema.optional.accepts (some value) =
      (schema.accepts (some value)).map some := by
  simp [accepts, optional]

@[simp]
theorem accepts_nullable_null (schema : Schema α) :
    schema.nullable.accepts (some .null) = some none := rfl

theorem accepts_nullable_of_ne_null
    (schema : Schema α) {input : Option Json} (present : input ≠ some .null) :
    schema.nullable.accepts input = (schema.accepts input).map some := by
  unfold accepts nullable
  split
  · exact absurd rfl present
  · simp

theorem accepted_items
    (schema : Schema α) (position : Nat) (values : List Json) :
    (schema.items position values).accepted =
      values.mapM fun item => schema.accepts (some item) := by
  induction values generalizing position with
  | nil =>
      rfl
  | cons item rest inductionHypothesis =>
      simp only [items, Parse.accepted_seq, Parse.accepted_map,
        Parse.accepted_within, inductionHypothesis, List.mapM_cons, accepts]
      cases (schema (some item)).accepted <;>
        cases List.mapM (fun item => (schema (some item)).accepted) rest <;>
          rfl

theorem accepts_array
    (schema : Schema α) (least : Nat) (most : Option Nat)
    (values : List Json) :
    (schema.array least most).accepts (some (.array values)) =
      if lengthIssues least most values.length = [] then
        values.mapM fun item => schema.accepts (some item)
      else
        none := by
  rw [← accepted_items schema 0]
  unfold accepts array Parse.accepted
  by_cases sized : lengthIssues least most values.length = []
  · simp [sized]
  · simp [sized]

theorem accepts_array_eq_some
    {schema : Schema α} {least : Nat} {most : Option Nat}
    {input : Option Json} {values : List α}
    (accepted : (schema.array least most).accepts input = some values) :
    ∃ items, input = some (.array items) := by
  match input, accepted with
  | some (.array items), _ => exact ⟨items, rfl⟩
  | none, accepted => simp [accepts, array] at accepted
  | some .null, accepted | some (.boolean _), accepted
  | some (.number _), accepted | some (.string _), accepted
  | some (.object _), accepted => simp [accepts, array] at accepted

@[simp]
theorem accepted_field
    (name : String) (schema : Schema α) (members : Members) :
    (field name schema members).accepted =
      schema.accepts (members.lookup (units name)) := by
  simp [field, accepts]

/-- A strict object schema accepts objects with known names only, as what
the schemas of the members accept. -/
theorem accepts_strictObject
    {names : List String} {body : Members → Parse α} (members : Members) :
    (strictObject names body).accepts (some (.object members)) =
      if unknownNames names members = [] then
        (body members).accepted
      else
        none := by
  unfold accepts strictObject
  simp only
  cases unknownNames names members <;> simp [Parse.accepted]

theorem accepts_strictObject_eq_some_iff
    {names : List String} {body : Members → Parse α}
    {input : Option Json} {value : α} :
    (strictObject names body).accepts input = some value ↔
      ∃ members, input = some (.object members) ∧
        unknownNames names members = [] ∧
        (body members).accepted = some value := by
  match input with
  | some (.object members) =>
      rw [accepts_strictObject]
      simp
  | none => simp [accepts, strictObject]
  | some .null | some (.boolean _) | some (.number _) | some (.string _)
  | some (.array _) => simp [accepts, strictObject]

theorem exists_of_accepts_discriminatedUnion
    {discriminator : String} {options : List (String × Schema α)}
    {input : Option Json} {value : α}
    (accepted :
      (discriminatedUnion discriminator options).accepts input = some value) :
    ∃ option ∈ options, option.2.accepts input = some value := by
  match input with
  | some (.object members) =>
      unfold accepts discriminatedUnion at accepted
      dsimp only at accepted
      cases found : options.find? fun option =>
          isText option.1 (members.lookup (units discriminator)) with
      | none => simp [found] at accepted
      | some option =>
          rw [found] at accepted
          exact ⟨option, List.mem_of_find?_eq_some found, accepted⟩
  | none => simp [accepts, discriminatedUnion] at accepted
  | some .null | some (.boolean _) | some (.number _) | some (.string _)
  | some (.array _) => simp [accepts, discriminatedUnion] at accepted

/-- A union accepts what the alternative that the discriminator selects
accepts. -/
theorem accepts_discriminatedUnion_of_find
    {discriminator : String} {options : List (String × Schema α)}
    {members : Members} {option : String × Schema α} {value : α}
    (found : (options.find? fun option =>
      isText option.1 (members.lookup (units discriminator))) = some option)
    (accepted : option.2.accepts (some (.object members)) = some value) :
    (discriminatedUnion discriminator options).accepts
      (some (.object members)) = some value := by
  unfold accepts discriminatedUnion
  simp only [found]
  exact accepted

theorem unknownNames_eq_nil
    {names known : List String} {members : Members}
    (spelled : members.map Prod.fst = known.map units)
    (subset : known ⊆ names) :
    unknownNames names members = [] := by
  simp only [unknownNames, spelled, List.filter_eq_nil_iff,
    List.mem_map, decide_eq_true_eq, not_not]
  rintro _ ⟨name, isKnown, rfl⟩
  exact ⟨name, subset isKnown, rfl⟩

theorem accepts_literal (expected : String) :
    (literal expected).accepts (some (.literal expected)) = some () := by
  simp [accepts, literal, Json.literal]

/-- A member that is found is accepted as its schema accepts it. -/
theorem accepted_field_of_lookup
    {name : String} {schema : Schema α} {members : Members}
    {found : Option Json} {value : α}
    (isMember : members.lookup (units name) = found)
    (accepted : schema.accepts found = some value) :
    (field name schema members).accepted = some value := by
  rw [accepted_field, isMember, accepted]

/-! ## Reading back what was accepted -/

/-- Whatever the schema accepts as a value, it accepts the value's own
encoding as the same value. -/
def Rereads (schema : Schema α) (encode : α → Json) : Prop :=
  ∀ input value, schema.accepts input = some value →
    schema.accepts (some (encode value)) = some value

theorem rereads_string : Rereads string .string :=
  fun _ text _ => accepts_string text

theorem rereads_boolean : Rereads boolean .boolean :=
  fun _ value _ => accepts_boolean value

theorem Rereads.superRefine
    {schema : Schema α} {encode : α → Json}
    (rereads : Rereads schema encode) (rules : α → List Issue) :
    Rereads (schema.superRefine rules) encode := by
  intro input value accepted
  obtain ⟨inner, clean⟩ := accepts_superRefine_eq_some_iff.mp accepted
  exact accepts_superRefine_eq_some_iff.mpr
    ⟨rereads input value inner, clean⟩

theorem Rereads.check
    {schema : Schema α} {encode : α → Json}
    (rereads : Rereads schema encode) (holds : α → Bool) (issue : Issue) :
    Rereads (schema.check holds issue) encode :=
  rereads.superRefine _

theorem Rereads.field
    {schema : Schema α} {encode : α → Json} (rereads : Rereads schema encode)
    {name : String} {members written : Members} {value : α}
    (accepted : (field name schema members).accepted = some value)
    (isWritten : written.lookup (units name) = some (encode value)) :
    (Schema.field name schema written).accepted = some value := by
  rw [accepted_field] at accepted
  rw [accepted_field, isWritten]
  exact rereads _ _ accepted

/-- A literal member written back is accepted. -/
theorem accepted_literal_field
    {name expected : String} {written : Members}
    (isWritten : written.lookup (units name) = some (.literal expected)) :
    (Schema.field name (literal expected) written).accepted = some () :=
  accepted_field_of_lookup isWritten (accepts_literal expected)

/-- Options reread when each one's name finds it first. -/
theorem rereads_enumeration
    {options : List (String × α)} {name : α → String}
    (found : ∀ option ∈ options,
      (options.find? fun other => units other.1 = units (name option.2)).map
        Prod.snd = some option.2) :
    Rereads (enumeration options) fun value => .literal (name value) := by
  intro input value accepted
  have isOption : ∃ option ∈ options, option.2 = value := by
    match input, accepted with
    | some (.string text), accepted =>
        simp only [accepts, enumeration] at accepted
        split at accepted
        · rename_i option same
          exact ⟨option, List.mem_of_find?_eq_some same, by
            simpa using accepted⟩
        · simp at accepted
    | none, accepted => simp [accepts, enumeration] at accepted
    | some .null, accepted | some (.boolean _), accepted
    | some (.number _), accepted | some (.array _), accepted
    | some (.object _), accepted => simp [accepts, enumeration] at accepted
  obtain ⟨option, isMember, rfl⟩ := isOption
  have first := found option isMember
  simp only [accepts, enumeration, Json.literal]
  cases same : options.find? fun other =>
      units other.1 = units (name option.2) with
  | none => simp [same] at first
  | some other =>
      simp only [same, Option.map_some, Option.some.injEq] at first
      simp [first]

theorem Rereads.optional
    {schema : Schema α} {encode : α → Json}
    (rereads : Rereads schema encode)
    {input : Option Json} {value : Option α}
    (accepted : schema.optional.accepts input = some value) :
    schema.optional.accepts (value.map encode) = some value := by
  cases input with
  | none =>
      obtain rfl : none = value := by simpa using accepted
      rfl
  | some present =>
      rw [accepts_optional_some, Option.map_eq_some_iff] at accepted
      obtain ⟨inner, innerAccepted, rfl⟩ := accepted
      simp [rereads _ _ innerAccepted]

/-- An optional member written back is accepted as it was. -/
theorem Rereads.optionalField
    {schema : Schema α} {encode : α → Json} (rereads : Rereads schema encode)
    {name : String} {members written : Members} {value : Option α}
    (accepted :
      (Schema.field name schema.optional members).accepted = some value)
    (isWritten : written.lookup (units name) = value.map encode) :
    (Schema.field name schema.optional written).accepted = some value := by
  rw [accepted_field] at accepted
  rw [accepted_field, isWritten]
  exact rereads.optional accepted

theorem Rereads.nullable
    {schema : Schema α} {encode : α → Json}
    (rereads : Rereads schema encode)
    (notNull : ∀ value, encode value ≠ .null) :
    Rereads schema.nullable fun value => value.elim .null encode := by
  intro input value accepted
  by_cases isNull : input = some .null
  · subst isNull
    obtain rfl : none = value := by simpa using accepted
    rfl
  · rw [accepts_nullable_of_ne_null schema isNull,
      Option.map_eq_some_iff] at accepted
    obtain ⟨inner, innerAccepted, rfl⟩ := accepted
    change schema.nullable.accepts (some (encode inner)) = some (some inner)
    rw [accepts_nullable_of_ne_null schema (by simpa using notNull inner),
      rereads _ _ innerAccepted]
    rfl

theorem Rereads.items
    {schema : Schema α} {encode : α → Json}
    (rereads : Rereads schema encode)
    {items : List Json} {values : List α}
    (accepted : items.mapM (fun item => schema.accepts (some item)) =
      some values) :
    items.length = values.length ∧
      (values.map encode).mapM (fun item => schema.accepts (some item)) =
        some values := by
  induction items generalizing values with
  | nil =>
      obtain rfl : [] = values := by simpa using accepted
      exact ⟨rfl, rfl⟩
  | cons item rest inductionHypothesis =>
      simp only [List.mapM_cons, Option.bind_eq_bind,
        Option.bind_eq_some_iff, Option.pure_def,
        Option.some.injEq] at accepted
      obtain ⟨head, headAccepted, tail, tailAccepted, rfl⟩ := accepted
      obtain ⟨sameLength, reread⟩ := inductionHypothesis tailAccepted
      constructor
      · simp [sameLength]
      · simp [List.mapM_cons, rereads _ _ headAccepted, reread]

theorem Rereads.array
    {schema : Schema α} {encode : α → Json}
    (rereads : Rereads schema encode) (least : Nat) (most : Option Nat) :
    Rereads (schema.array least most)
      fun values => .array (values.map encode) := by
  intro input values accepted
  obtain ⟨items, rfl⟩ := accepts_array_eq_some accepted
  rw [accepts_array] at accepted
  split at accepted
  · rename_i sized
    obtain ⟨sameLength, reread⟩ := rereads.items accepted
    rw [accepts_array, List.length_map, ← sameLength, if_pos sized, reread]
  · simp at accepted

end Schema

end AgenId.Validation
