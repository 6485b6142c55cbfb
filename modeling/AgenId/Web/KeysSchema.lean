import AgenId.Core.Encoding
import AgenId.Core.Identified
import AgenId.Core.WindowSoundness
import AgenId.Validation.JsonSchema

/-!
# The published schema of key documents

`$defs.KeyDocument` of `keys.json` beside the schema that the validator runs.
Both ask the same of every single member and of the controller.  Of the dates
the published schema asks less: nothing keeps a retired key from a date of
revocation.
-/

namespace AgenId.Web

open AgenId.Ecma
open AgenId.Validation
open AgenId.Validation.Schema
open AgenId.Core

/-! ## keys.json -/

/-- `^agenid:key:[0-7][0-9A-HJKMNP-TV-Z]{25}$`. -/
def keyIdPattern : Regex :=
  .whole (literally "agenid:key:" ++
    [.one (within '0' '7'), .exactly isCrockford 25])

/-- `^[A-Za-z0-9_-]{43}$`. -/
def publicKeyPattern : Regex := .whole [.exactly isBase64Url 43]

/-- `^\d{4}-\d{2}-\d{2}T\d{2}:\d{2}:\d{2}(\.\d{1,9})?Z$`. -/
def timestampPattern : Regex where
  anchored := true
  alternatives :=
    [timestampPieces ++ literally "Z" ++ [.finish],
      timestampPieces ++ literally "." ++ [.run isDigit 1 (some 9)] ++
        literally "Z" ++ [.finish]]

/-- `^agenid:[0-7][0-9A-HJKMNP-TV-Z]{25}$`. -/
def agentIdPattern : Regex :=
  .whole (literally "agenid:" ++
    [.one (within '0' '7'), .exactly isCrockford 25])

/-- `^agenid:authority:[a-z0-9][a-z0-9-]{0,62}$`. -/
def authorityIdPattern : Regex :=
  .whole (literally "agenid:authority:" ++
    [.one isLowerAlphanumeric,
      .run (fun unit => isLowerAlphanumeric unit || isOneOf ['-'] unit)
        0 (some 62)])

/-- An entry of `allOf`: what a member must satisfy when another has a given
value. -/
def whenConst
    (name text : String) (consequence : List (String × JsonSchema)) :
    JsonSchema :=
  [.ifThen [.properties false [(name, [.const text])]]
    [.properties false consequence]]

/-- `allOf` of `$defs.KeyDocument`. -/
def keyConditions : List JsonSchema :=
  [whenConst "role" "operator" [("controller", [.pattern agentIdPattern])],
    whenConst "role" "authority"
      [("controller", [.pattern authorityIdPattern])],
    whenConst "status" "revoked" [("revoked_at", [.type [.string]])],
    whenConst "status" "retired" [("retired_at", [.type [.string]])],
    whenConst "status" "active"
      [("retired_at", [.type [.null]]), ("revoked_at", [.type [.null]])]]

/-- `properties` of `$defs.KeyDocument`. -/
def keyProperties : List (String × JsonSchema) :=
  [("key_id", [.type [.string], .pattern keyIdPattern]),
    ("key_type", [.const "Ed25519"]),
    ("public_key_b64u", [.type [.string], .pattern publicKeyPattern]),
    ("role", [.enum ["operator", "authority"]]),
    ("controller", [.type [.string], .minLength 1]),
    ("created_at", [.type [.string], .pattern timestampPattern]),
    ("status", [.enum ["active", "retired", "revoked"]]),
    ("retired_at", [.type [.string, .null], .pattern timestampPattern]),
    ("revoked_at", [.type [.string, .null], .pattern timestampPattern])]

/-- `$defs.KeyDocument`. -/
def keyDocumentDefinition : JsonSchema :=
  [.type [.object],
    .required ["key_id", "key_type", "public_key_b64u", "role", "controller",
      "created_at", "status", "retired_at", "revoked_at"],
    .properties true keyProperties,
    .allOf keyConditions]

/-! ## Members of their own form -/

/-- The members of an object spell a key document, each in its own form. -/
structure KeyMembers (members : Members) (key : KeyDocument) : Prop where
  known : unknownNames ["key_id", "key_type", "public_key_b64u", "role",
    "controller", "created_at", "status", "retired_at", "revoked_at"]
    members = []
  keyId : members.lookup (units "key_id") = some (.string key.keyId)
  keyType : members.lookup (units "key_type") = some (.literal "Ed25519")
  publicKey :
    members.lookup (units "public_key_b64u") = some (.string key.publicKeyB64u)
  role : members.lookup (units "role") = some (.literal key.role.text)
  controller :
    members.lookup (units "controller") = some (.string key.controller)
  createdAt :
    members.lookup (units "created_at") = some (.string key.createdAt)
  status : members.lookup (units "status") = some (.literal key.status.text)
  retiredAt :
    members.lookup (units "retired_at") = some (nullableText key.retiredAt)
  revokedAt :
    members.lookup (units "revoked_at") = some (nullableText key.revokedAt)
  keyIdForm : isValidKeyId key.keyId = true
  publicKeyForm : publicKeyPattern.test key.publicKeyB64u = true
  controllerForm : key.controller ≠ []
  createdForm : timestampRegex.test key.createdAt = true
  retiredForm : ∀ text ∈ key.retiredAt, timestampRegex.test text = true
  revokedForm : ∀ text ∈ key.revokedAt, timestampRegex.test text = true

/-! ## What the published schema accepts -/

theorem valid_text_iff {expression : Regex} {value : Json} :
    valid [.type [.string], .pattern expression] value = true ↔
      ∃ text, value = .string text ∧ expression.test text = true := by
  cases value <;> simp [JsonType.of]

theorem valid_nonempty_iff {value : Json} :
    valid [.type [.string], .minLength 1] value = true ↔
      ∃ text, value = .string text ∧ text ≠ [] := by
  cases value <;> simp [JsonType.of, holds_minLength_one]

theorem valid_nullableText_iff {expression : Regex} {value : Json} :
    valid [.type [.string, .null], .pattern expression] value = true ↔
      ∃ text : Option JsString, value = nullableText text ∧
        ∀ inner ∈ text, expression.test inner = true := by
  constructor
  · intro isValid
    cases value with
    | null => exact ⟨none, rfl, nofun⟩
    | string text =>
        have accepted : expression.test text = true := by
          simpa [JsonType.of] using isValid
        exact ⟨some text, rfl, fun inner isInner => by
          rwa [← Option.some.inj isInner]⟩
    | boolean | number | array | object => simp [JsonType.of] at isValid
  · rintro ⟨text, rfl, accepted⟩
    cases text with
    | none => simp [nullableText, JsonType.of]
    | some text => simpa [nullableText, JsonType.of] using accepted text rfl

theorem valid_role_iff {value : Json} :
    valid [.enum ["operator", "authority"]] value = true ↔
      ∃ role : KeyRole, role ≠ .principal ∧ value = .literal role.text := by
  simp only [valid_cons, holds_enum, List.mem_cons, List.not_mem_nil, or_false,
    exists_eq_or_imp, exists_eq_left, valid_nil, and_true]
  constructor
  · rintro (isOperator | isAuthority)
    · exact ⟨.operator, by decide, isOperator⟩
    · exact ⟨.authority, by decide, isAuthority⟩
  · rintro ⟨role, notPrincipal, isRole⟩
    cases role with
    | operator => exact Or.inl isRole
    | authority => exact Or.inr isRole
    | principal => exact absurd rfl notPrincipal

theorem valid_status_iff {value : Json} :
    valid [.enum ["active", "retired", "revoked"]] value = true ↔
      ∃ status : KeyStatus, value = .literal status.text := by
  simp only [valid_cons, holds_enum, List.mem_cons, List.not_mem_nil, or_false,
    exists_eq_or_imp, exists_eq_left, valid_nil, and_true]
  constructor
  · rintro (isActive | isRetired | isRevoked)
    · exact ⟨.active, isActive⟩
    · exact ⟨.retired, isRetired⟩
    · exact ⟨.revoked, isRevoked⟩
  · rintro ⟨status, isStatus⟩
    cases status with
    | active => exact Or.inl isStatus
    | retired => exact Or.inr (Or.inl isStatus)
    | revoked => exact Or.inr (Or.inr isStatus)

theorem literal_role_iff {role other : KeyRole} :
    Json.literal role.text = .literal other.text ↔ role = other := by
  rw [Json.literal, Json.literal, Json.string.injEq]
  cases role <;> cases other <;> decide

theorem literal_status_iff {status other : KeyStatus} :
    Json.literal status.text = .literal other.text ↔ status = other := by
  rw [Json.literal, Json.literal, Json.string.injEq]
  cases status <;> cases other <;> decide

/-- What the published schema asks of the dates. -/
def PublishedDates (key : KeyDocument) : Prop :=
  (key.status = .revoked → key.revokedAt ≠ none) ∧
    (key.status = .retired → key.retiredAt ≠ none) ∧
    (key.status = .active → key.retiredAt = none ∧ key.revokedAt = none)

theorem valid_whenConst_iff
    {name text : String} {consequence : List (String × JsonSchema)}
    {members : Members} {value : Json}
    (isMember : members.lookup (units name) = some value) :
    valid (whenConst name text consequence) (.object members) = true ↔
      (value = .literal text → membersValid consequence members = true) := by
  simp [whenConst, isMember]

/-- The conditions ask the controller of its role and the dates of the
status. -/
theorem keyConditions_iff
    {members : Members} {key : KeyDocument} (isKey : KeyMembers members key) :
    allValid keyConditions (.object members) = true ↔
      (key.role = .operator → agentIdPattern.test key.controller = true) ∧
        (key.role = .authority →
          authorityIdPattern.test key.controller = true) ∧
        PublishedDates key := by
  have isText : ∀ date : Option JsString,
      JsonType.of (nullableText date) = .string ↔ date ≠ none := by
    intro date
    cases date <;> simp [nullableText, JsonType.of]
  have isNull : ∀ date : Option JsString,
      JsonType.of (nullableText date) = .null ↔ date = none := by
    intro date
    cases date <;> simp [nullableText, JsonType.of]
  simp only [keyConditions, allValid_cons, allValid_nil, and_true,
    valid_whenConst_iff isKey.role, valid_whenConst_iff isKey.status,
    membersValid_cons, membersValid_nil, isKey.controller, isKey.retiredAt,
    isKey.revokedAt, Option.some.injEq, forall_eq', valid_cons, valid_nil,
    holds_pattern, holds_type, List.mem_singleton, Json.string.injEq, isText,
    isNull, PublishedDates]
  have isOperator :
      Json.literal key.role.text = .literal "operator" ↔
        key.role = .operator :=
    @literal_role_iff key.role .operator
  have isAuthority :
      Json.literal key.role.text = .literal "authority" ↔
        key.role = .authority :=
    @literal_role_iff key.role .authority
  have isRevoked :
      Json.literal key.status.text = .literal "revoked" ↔
        key.status = .revoked :=
    @literal_status_iff key.status .revoked
  have isRetired :
      Json.literal key.status.text = .literal "retired" ↔
        key.status = .retired :=
    @literal_status_iff key.status .retired
  have isActive :
      Json.literal key.status.text = .literal "active" ↔
        key.status = .active :=
    @literal_status_iff key.status .active
  rw [isOperator, isAuthority, isRevoked, isRetired, isActive]

/-- The controller is an identifier of the kind that the role asks for. -/
def ControllerFits (key : KeyDocument) : Prop :=
  key.role.controllerRegex.test key.controller = true

/-- The published schema accepts the members of a key document whose
controller fits and whose dates are those that it asks for. -/
theorem keyDocumentDefinition_valid_iff {members : Members} :
    valid keyDocumentDefinition (.object members) = true ↔
      ∃ key, KeyMembers members key ∧ key.role ≠ .principal ∧
        ControllerFits key ∧ PublishedDates key := by
  have parts : valid keyDocumentDefinition (.object members) = true ↔
      unknownNames (keyProperties.map Prod.fst) members = [] ∧
        (∀ entry ∈ keyProperties, ∃ value,
          members.lookup (units entry.1) = some value ∧
            valid entry.2 value = true) ∧
        allValid keyConditions (.object members) = true := by
    rw [← required_and_membersValid_iff]
    simp only [keyDocumentDefinition, valid_cons, valid_nil, and_true,
      holds_type, holds_properties, holds_allOf, JsonType.of,
      List.mem_singleton, true_and, forall_const]
    tauto
  simp only [parts, keyProperties, List.forall_mem_cons, List.map_cons,
    List.map_nil, valid_text_iff, valid_nullableText_iff, valid_nonempty_iff,
    valid_role_iff, valid_status_iff]
  constructor
  · rintro ⟨known, ⟨⟨_, isKeyId, keyId, rfl, keyIdForm⟩,
      ⟨_, isKeyType, keyType⟩, ⟨_, isPublicKey, publicKey, rfl, publicKeyForm⟩,
      ⟨_, isRole, role, notPrincipal, rfl⟩,
      ⟨_, isController, controller, rfl, controllerForm⟩,
      ⟨_, isCreatedAt, createdAt, rfl, createdForm⟩,
      ⟨_, isStatus, status, rfl⟩,
      ⟨_, isRetiredAt, retiredAt, rfl, retiredForm⟩,
      ⟨_, isRevokedAt, revokedAt, rfl, revokedForm⟩, -⟩, conditions⟩
    have isEd25519 := holds_const.mp (valid_cons.mp keyType).1
    rw [isEd25519] at isKeyType
    have isKey : KeyMembers members ⟨keyId, publicKey, role, controller,
        createdAt, status, retiredAt, revokedAt⟩ :=
      ⟨known, isKeyId, isKeyType, isPublicKey, isRole, isController,
        isCreatedAt, isStatus, isRetiredAt, isRevokedAt, keyIdForm,
        publicKeyForm, controllerForm, createdForm, retiredForm, revokedForm⟩
    obtain ⟨ofOperator, ofAuthority, dates⟩ :=
      (keyConditions_iff isKey).mp conditions
    refine ⟨_, isKey, notPrincipal, ?_, dates⟩
    cases role with
    | operator => exact ofOperator rfl
    | authority => exact ofAuthority rfl
    | principal => exact absurd rfl notPrincipal
  · rintro ⟨key, isKey, notPrincipal, fits, dates⟩
    have conditions : allValid keyConditions (.object members) = true := by
      refine (keyConditions_iff isKey).mpr ⟨?_, ?_, dates⟩
      · intro isOperator
        rw [ControllerFits, isOperator] at fits
        exact fits
      · intro isAuthority
        rw [ControllerFits, isAuthority] at fits
        exact fits
    exact ⟨isKey.known, ⟨⟨_, isKey.keyId, _, rfl, isKey.keyIdForm⟩,
      ⟨_, isKey.keyType, by simp⟩,
      ⟨_, isKey.publicKey, _, rfl, isKey.publicKeyForm⟩,
      ⟨_, isKey.role, _, notPrincipal, rfl⟩,
      ⟨_, isKey.controller, _, rfl, isKey.controllerForm⟩,
      ⟨_, isKey.createdAt, _, rfl, isKey.createdForm⟩,
      ⟨_, isKey.status, _, rfl⟩,
      ⟨_, isKey.retiredAt, _, rfl, isKey.retiredForm⟩,
      ⟨_, isKey.revokedAt, _, rfl, isKey.revokedForm⟩,
      List.forall_mem_nil _⟩, conditions⟩

/-! ## What the validator accepts -/

theorem accepts_KeyId_iff {input : Option Json} {text : JsString} :
    KeyId.accepts input = some text ↔
      input = some (.string text) ∧ isValidKeyId text = true := by
  rw [KeyId, accepts_check_eq_some_iff, accepts_check_eq_some_iff,
    accepts_string_eq_some_iff]
  constructor
  · rintro ⟨⟨isText, -⟩, isKeyId⟩
    exact ⟨isText, isKeyId⟩
  · rintro ⟨isText, isKeyId⟩
    refine ⟨⟨isText, ?_⟩, isKeyId⟩
    rw [includesUnit_of_isValidKeyId isKeyId]
    rfl

theorem accepts_PublicKey_iff {input : Option Json} {text : JsString} :
    Ed25519PublicKeyB64u.accepts input = some text ↔
      input = some (.string text) ∧ publicKeyPattern.test text = true := by
  rw [Ed25519PublicKeyB64u, Schema.regex, accepts_check_eq_some_iff,
    accepts_string_eq_some_iff]
  rfl

theorem accepts_nonempty_iff {input : Option Json} {text : JsString} :
    (string.minLength 1).accepts input = some text ↔
      input = some (.string text) ∧ text ≠ [] := by
  rw [Schema.minLength, accepts_check_eq_some_iff, accepts_string_eq_some_iff,
    decide_eq_true_eq, Nat.one_le_iff_ne_zero, ne_eq, List.length_eq_zero_iff]

theorem accepts_KeyRole_iff {input : Option Json} {role : KeyRole} :
    (enumerationOf [.operator, .authority, .principal]
        KeyRole.text).accepts input = some role ↔
      input = some (.literal role.text) := by
  refine ⟨accepts_enumerationOf_eq_some, ?_⟩
  rintro rfl
  cases role <;> rfl

theorem accepts_KeyStatus_iff {input : Option Json} {status : KeyStatus} :
    (enumerationOf [.active, .retired, .revoked]
        KeyStatus.text).accepts input = some status ↔
      input = some (.literal status.text) := by
  refine ⟨accepts_enumerationOf_eq_some, ?_⟩
  rintro rfl
  cases status <;> rfl

section Validator

variable [Platform]

/-- The dates of a key document denote instants. -/
structure RealDates (key : KeyDocument) : Prop where
  created : (dateParse key.createdAt).isSome = true
  retired : ∀ text ∈ key.retiredAt, (dateParse text).isSome = true
  revoked : ∀ text ∈ key.revokedAt, (dateParse text).isSome = true

theorem accepts_Rfc3339Utc_iff {input : Option Json} {text : JsString} :
    Rfc3339Utc.accepts input = some text ↔
      input = some (.string text) ∧ timestampRegex.test text = true ∧
        (dateParse text).isSome = true := by
  rw [Rfc3339Utc, accepts_check_eq_some_iff, Schema.regex,
    accepts_check_eq_some_iff, accepts_string_eq_some_iff, and_assoc]

theorem accepts_nullableTime_iff
    {input : Option Json} {date : Option JsString} :
    Rfc3339Utc.nullable.accepts input = some date ↔
      input = some (nullableText date) ∧
        (∀ text ∈ date, timestampRegex.test text = true) ∧
        ∀ text ∈ date, (dateParse text).isSome = true := by
  by_cases isNull : input = some .null
  · rw [isNull, accepts_nullable_null]
    cases date <;> simp [nullableText]
  · rw [accepts_nullable_of_ne_null _ isNull, Option.map_eq_some_iff]
    simp only [accepts_Rfc3339Utc_iff]
    cases date with
    | none => simpa [nullableText] using isNull
    | some text => simp [nullableText]

/-- The shape of the validator accepts the members of a key document whose
dates denote instants. -/
theorem shape_accepts_iff {members : Members} {key : KeyDocument} :
    KeyDocument.shape.accepts (some (.object members)) = some key ↔
      KeyMembers members key ∧ RealDates key := by
  rw [KeyDocument.shape, accepts_strictObject]
  constructor
  · intro accepted
    split at accepted
    · rename_i known
      simp only [Parse.accepted_seq_eq_some_iff,
        Parse.accepted_seqLeft_eq_some_iff, Parse.accepted_map_eq_some_iff,
        accepted_field, accepts_nullableTime_iff, accepts_Rfc3339Utc_iff,
        accepts_KeyId_iff, accepts_PublicKey_iff, accepts_nonempty_iff,
        accepts_KeyRole_iff, accepts_KeyStatus_iff] at accepted
      obtain ⟨revokedAt, ⟨isRevokedAt, revokedForm, revokedReal⟩, _,
        ⟨retiredAt, ⟨isRetiredAt, retiredForm, retiredReal⟩, _,
        ⟨status, isStatus, _,
        ⟨createdAt, ⟨isCreatedAt, createdForm, createdReal⟩, _,
        ⟨controller, ⟨isController, controllerForm⟩, _, ⟨role, isRole, _,
        ⟨publicKey, ⟨isPublicKey, publicKeyForm⟩, _,
        ⟨⟨keyId, ⟨isKeyId, keyIdForm⟩, rfl⟩, ⟨_, isKeyType⟩⟩,
        rfl⟩, rfl⟩, rfl⟩, rfl⟩, rfl⟩, rfl⟩, rfl⟩ := accepted
      exact ⟨⟨known, isKeyId, accepts_literal_eq_some isKeyType, isPublicKey,
        isRole, isController, isCreatedAt, isStatus, isRetiredAt, isRevokedAt,
        keyIdForm, publicKeyForm, controllerForm, createdForm, retiredForm,
        revokedForm⟩, ⟨createdReal, retiredReal, revokedReal⟩⟩
    · cases accepted
  · rintro ⟨isKey, real⟩
    rw [if_pos isKey.known]
    obtain ⟨keyId, publicKey, role, controller, createdAt, status, retiredAt,
      revokedAt⟩ := key
    refine Parse.accepted_seq_of ?_ (accepted_field_of_lookup isKey.revokedAt
      (accepts_nullableTime_iff.mpr ⟨rfl, isKey.revokedForm, real.revoked⟩))
    refine Parse.accepted_seq_of ?_ (accepted_field_of_lookup isKey.retiredAt
      (accepts_nullableTime_iff.mpr ⟨rfl, isKey.retiredForm, real.retired⟩))
    refine Parse.accepted_seq_of ?_ (accepted_field_of_lookup isKey.status
      (accepts_KeyStatus_iff.mpr rfl))
    refine Parse.accepted_seq_of ?_ (accepted_field_of_lookup isKey.createdAt
      (accepts_Rfc3339Utc_iff.mpr ⟨rfl, isKey.createdForm, real.created⟩))
    refine Parse.accepted_seq_of ?_ (accepted_field_of_lookup isKey.controller
      (accepts_nonempty_iff.mpr ⟨rfl, isKey.controllerForm⟩))
    refine Parse.accepted_seq_of ?_ (accepted_field_of_lookup isKey.role
      (accepts_KeyRole_iff.mpr rfl))
    refine Parse.accepted_seq_of ?_ (accepted_field_of_lookup isKey.publicKey
      (accepts_PublicKey_iff.mpr ⟨rfl, isKey.publicKeyForm⟩))
    refine Parse.accepted_seqLeft_eq_some_iff.mpr ⟨Parse.accepted_map_of
      (accepted_field_of_lookup isKey.keyId
        (accepts_KeyId_iff.mpr ⟨rfl, isKey.keyIdForm⟩)), (), ?_⟩
    exact accepted_field_of_lookup isKey.keyType (accepts_literal _)

/-- What the validator asks of the dates. -/
def ValidatedDates (key : KeyDocument) : Prop :=
  ((key.status = .retired ↔ key.retiredAt ≠ none) ∨ key.status = .revoked) ∧
    (key.status = .revoked ↔ key.revokedAt ≠ none)

theorem schema_accepts_iff {members : Members} :
    (∃ key, KeyDocument.schema.accepts (some (.object members)) = some key) ↔
      ∃ key, KeyMembers members key ∧ RealDates key ∧ ControllerFits key ∧
        ValidatedDates key := by
  simp only [KeyDocument.schema, accepts_check_eq_some_iff, shape_accepts_iff,
    decide_eq_true_eq, ControllerFits, ValidatedDates, and_assoc]

/-! ## Where the two differ -/

/-- A retired key with the date of its retirement and one of revocation. -/
def RetiredAndRevoked (key : KeyDocument) : Prop :=
  key.status = .retired ∧ key.retiredAt ≠ none ∧ key.revokedAt ≠ none

omit [Platform] in
/-- The dates that only the published schema accepts. -/
theorem publishedDates_iff {key : KeyDocument} :
    PublishedDates key ↔ ValidatedDates key ∨ RetiredAndRevoked key := by
  unfold PublishedDates ValidatedDates RetiredAndRevoked
  cases key.status with
  | active => simp
  | retired =>
      simp only [reduceCtorEq, false_implies, true_implies, true_and, and_true,
        or_false, false_iff, true_iff, not_not]
      tauto
  | revoked => simp

omit [Platform] in
theorem not_retiredAndRevoked
    {key : KeyDocument} (validated : ValidatedDates key) :
    ¬ RetiredAndRevoked key := by
  rintro ⟨isRetired, -, isRevoked⟩
  have revoked := validated.2.mpr isRevoked
  rw [isRetired] at revoked
  cases revoked

omit [Platform] in
theorem nullableText_inj {first second : Option JsString} :
    nullableText first = nullableText second ↔ first = second := by
  cases first <;> cases second <;> simp [nullableText]

omit [Platform] in
/-- An object spells one key document only. -/
theorem KeyMembers.unique
    {members : Members} {key other : KeyDocument}
    (isKey : KeyMembers members key) (isOther : KeyMembers members other) :
    key = other := by
  have textEq : ∀ {name : String} {first second : JsString},
      members.lookup (units name) = some (.string first) →
        members.lookup (units name) = some (.string second) →
          first = second := by
    intro name first second isFirst isSecond
    exact Json.string.inj (Option.some.inj (isFirst.symm.trans isSecond))
  have sameRole := literal_role_iff.mp
    (Option.some.inj (isKey.role.symm.trans isOther.role))
  have sameStatus := literal_status_iff.mp
    (Option.some.inj (isKey.status.symm.trans isOther.status))
  have sameRetired := nullableText_inj.mp
    (Option.some.inj (isKey.retiredAt.symm.trans isOther.retiredAt))
  have sameRevoked := nullableText_inj.mp
    (Option.some.inj (isKey.revokedAt.symm.trans isOther.revokedAt))
  have sameKeyId := textEq isKey.keyId isOther.keyId
  have samePublicKey := textEq isKey.publicKey isOther.publicKey
  have sameController := textEq isKey.controller isOther.controller
  have sameCreated := textEq isKey.createdAt isOther.createdAt
  cases key
  cases other
  simp only [KeyDocument.mk.injEq]
  exact ⟨sameKeyId, samePublicKey, sameRole, sameController, sameCreated,
    sameStatus, sameRetired, sameRevoked⟩

/-- The timestamps of an object denote instants. -/
def RealTimestamps (members : Members) : Prop :=
  ∀ name ∈ ["created_at", "retired_at", "revoked_at"], ∀ text,
    members.lookup (units name) = some (.string text) →
      timestampRegex.test text = true → (dateParse text).isSome = true

theorem RealTimestamps.realDates
    {members : Members} (real : RealTimestamps members) {key : KeyDocument}
    (isKey : KeyMembers members key) :
    RealDates key := by
  refine ⟨?_, ?_, ?_⟩
  · exact real "created_at" (by simp) _ isKey.createdAt isKey.createdForm
  · intro text isDate
    refine real "retired_at" (by simp) text ?_ (isKey.retiredForm text isDate)
    rw [isKey.retiredAt, Option.mem_def.mp isDate]
    rfl
  · intro text isDate
    refine real "revoked_at" (by simp) text ?_ (isKey.revokedForm text isDate)
    rw [isKey.revokedAt, Option.mem_def.mp isDate]
    rfl

/-- For the roles that the published schema knows, and timestamps that denote
instants, it and the validator differ on the retired keys that have a date of
revocation, and on no other object. -/
theorem key_schemas_agree_iff
    {members : Members}
    (published :
      members.lookup (units "role") = some (.literal "operator") ∨
        members.lookup (units "role") = some (.literal "authority"))
    (real : RealTimestamps members) :
    (valid keyDocumentDefinition (.object members) = true ↔
        ∃ key, KeyDocument.schema.accepts (some (.object members)) =
          some key) ↔
      ¬ ∃ key, KeyMembers members key ∧ ControllerFits key ∧
        RetiredAndRevoked key := by
  have notPrincipal : ∀ key, KeyMembers members key →
      key.role ≠ .principal := by
    intro key isKey isPrincipal
    have isRole := isKey.role
    rw [isPrincipal] at isRole
    rcases published with isOperator | isAuthority
    · rw [isOperator] at isRole
      cases (@literal_role_iff .operator .principal).mp
        (Option.some.inj isRole)
    · rw [isAuthority] at isRole
      cases (@literal_role_iff .authority .principal).mp
        (Option.some.inj isRole)
  rw [keyDocumentDefinition_valid_iff, schema_accepts_iff]
  constructor
  · rintro agree ⟨key, isKey, fits, both⟩
    obtain ⟨other, isOther, -, -, validated⟩ := agree.mp
      ⟨key, isKey, notPrincipal key isKey, fits,
        publishedDates_iff.mpr (Or.inr both)⟩
    rw [← isKey.unique isOther] at validated
    exact not_retiredAndRevoked validated both
  · intro noneBoth
    constructor
    · rintro ⟨key, isKey, -, fits, dates⟩
      refine ⟨key, isKey, real.realDates isKey, fits, ?_⟩
      rcases publishedDates_iff.mp dates with validated | both
      · exact validated
      · exact absurd ⟨key, isKey, fits, both⟩ noneBoth
    · rintro ⟨key, isKey, -, fits, validated⟩
      exact ⟨key, isKey, notPrincipal key isKey, fits,
        publishedDates_iff.mpr (Or.inl validated)⟩

end Validator

/-! ## Keys -/

/-- The members of a key document that is written. -/
def membersOf (key : KeyDocument) : Members :=
  [(units "key_id", .string key.keyId),
    (units "key_type", .literal "Ed25519"),
    (units "public_key_b64u", .string key.publicKeyB64u),
    (units "role", .literal key.role.text),
    (units "controller", .string key.controller),
    (units "created_at", .string key.createdAt),
    (units "status", .literal key.status.text),
    (units "retired_at", nullableText key.retiredAt),
    (units "revoked_at", nullableText key.revokedAt)]

theorem object_membersOf (key : KeyDocument) :
    .object (membersOf key) = key.toJson := rfl

theorem eq_some_of_nullableText
    {date : Option JsString} {text : JsString}
    (isText : nullableText date = .string text) : date = some text := by
  cases date with
  | none => cases isText
  | some other =>
      cases isText
      rfl

theorem realTimestamps_membersOf
    [Platform] {key : KeyDocument} (real : RealDates key) :
    RealTimestamps (membersOf key) := by
  intro name isName text isText _
  simp only [List.mem_cons, List.not_mem_nil, or_false] at isName
  rcases isName with rfl | rfl | rfl
  · cases isText
    exact real.created
  · exact real.retired text (eq_some_of_nullableText (Option.some.inj isText))
  · exact real.revoked text (eq_some_of_nullableText (Option.some.inj isText))

/-- An operator key that was retired and then revoked. -/
def retiredAndRevokedKey : KeyDocument :=
  { sampleOperatorKey with
    status := .retired
    retiredAt := some (units "2026-09-20T00:00:00Z")
    revokedAt := some (units "2026-09-25T00:00:00Z") }

theorem retiredAndRevokedKey_real :
    letI := samplePlatform
    RealDates retiredAndRevokedKey :=
  let := samplePlatform
  { created := rfl
    retired := by
      rintro _ ⟨⟩
      rfl
    revoked := by
      rintro _ ⟨⟩
      rfl }

/-- The published schema accepts the key, and the validator rejects it. -/
theorem key_schemas_differ :
    letI := samplePlatform
    (membersOf retiredAndRevokedKey).lookup (units "role") =
        some (.literal "operator") ∧
      RealTimestamps (membersOf retiredAndRevokedKey) ∧
      valid keyDocumentDefinition (.object (membersOf retiredAndRevokedKey)) =
        true ∧
      KeyDocument.schema.accepts
        (some (.object (membersOf retiredAndRevokedKey))) = none :=
  let := samplePlatform
  ⟨rfl, realTimestamps_membersOf retiredAndRevokedKey_real, by decide, rfl⟩

theorem sampleOperatorKey_real :
    letI := samplePlatform
    RealDates sampleOperatorKey :=
  let := samplePlatform
  { created := rfl
    retired := nofun
    revoked := nofun }

/-- The two agree on a key that is active. -/
theorem key_schemas_agree_sample :
    letI := samplePlatform
    valid keyDocumentDefinition (.object (membersOf sampleOperatorKey)) =
        true ↔
      ∃ key, KeyDocument.schema.accepts
        (some (.object (membersOf sampleOperatorKey))) = some key := by
  let := samplePlatform
  refine (key_schemas_agree_iff (Or.inl rfl)
    (realTimestamps_membersOf sampleOperatorKey_real)).mpr ?_
  rintro ⟨key, isKey, -, isRetired, -⟩
  have isStatus := isKey.status
  rw [isRetired] at isStatus
  cases (@literal_status_iff .active .retired).mp (Option.some.inj isStatus)

end AgenId.Web
