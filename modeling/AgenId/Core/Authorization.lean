import AgenId.Core.Schemas

/-!
# Grants and revocations

The draft objects of `authorization.ts`: an authorization grant, signed by
the key of a principal, and a revocation, signed by the key that controls
what it revokes.
-/

namespace AgenId.Core

open AgenId.Ecma
open AgenId.Validation
open AgenId.Validation.Schema

/-! ## Scopes and constraints -/

/-- `[a-z0-9_]`. -/
def isScopeUnit (unit : UInt16) : Bool :=
  within 'a' 'z' unit || within '0' '9' unit || isOneOf ['_'] unit

def SCOPE_REGEX : Regex :=
  .whole ([.one (within 'a' 'z'), .run isScopeUnit 0 (some 31)] ++
    literally ":" ++ [.one (within 'a' 'z'), .run isScopeUnit 0 (some 31)])

def Scope : Schema JsString :=
  (string.regex SCOPE_REGEX
    "scope must be resource:action, lowercase, no wildcards").check
    (fun text => !includesUnit 0x2A text)
    (.here .custom "wildcards are not permitted in v1.2-draft")

inductive Constraint where
  | counterpartyDomain (domains : List JsString)
  | maxValue (currency amountMinor : JsString)
  | maxUses (count : JsString)
  | requiresHumanConfirmation
  deriving DecidableEq

/-- `constraint.type`. -/
def Constraint.type : Constraint → String
  | .counterpartyDomain _ => "counterparty_domain"
  | .maxValue _ _ => "max_value"
  | .maxUses _ => "max_uses"
  | .requiresHumanConfirmation => "requires_human_confirmation"

/-- The schemas of the alternatives of `Constraint`. -/
def Constraint.options : List (String × Schema Constraint) :=
  [("counterparty_domain", strictObject ["type", "domains"] fun members =>
      field "type" (literal "counterparty_domain") members *>
        (Constraint.counterpartyDomain <$>
          field "domains" ((string.minLength 1).array 1 (some 32)) members)),
    ("max_value", strictObject ["type", "currency", "amount_minor"]
      fun members =>
        field "type" (literal "max_value") members *>
          (Constraint.maxValue <$>
            field "currency" (string.plainRegex
              (.whole [.exactly (within 'A' 'Z') 3])) members <*>
            field "amount_minor" (string.plainRegex
              (.whole [.run isDigit 1 (some 18)])) members)),
    ("max_uses", strictObject ["type", "count"] fun members =>
      field "type" (literal "max_uses") members *>
        (Constraint.maxUses <$> field "count" (string.plainRegex
          (.whole [.run isDigit 1 (some 9)])) members)),
    ("requires_human_confirmation", strictObject ["type"] fun members =>
      (fun _ => Constraint.requiresHumanConfirmation) <$>
        field "type" (literal "requires_human_confirmation") members)]

/-- The schema `Constraint`. -/
def Constraint.schema : Schema Constraint :=
  discriminatedUnion "type" Constraint.options

/-- A constraint as a JSON value. -/
def Constraint.toJson : Constraint → Json
  | .counterpartyDomain domains => .record
    [("type", some (.literal "counterparty_domain")),
      ("domains", some (.array (domains.map .string)))]
  | .maxValue currency amountMinor => .record
    [("type", some (.literal "max_value")),
      ("currency", some (.string currency)),
      ("amount_minor", some (.string amountMinor))]
  | .maxUses count => .record
    [("type", some (.literal "max_uses")), ("count", some (.string count))]
  | .requiresHumanConfirmation => .record
    [("type", some (.literal "requires_human_confirmation"))]

def UNDERSTOOD_CONSTRAINTS : List String :=
  ["counterparty_domain", "max_value", "max_uses",
    "requires_human_confirmation"]

/-! ## Grants -/

def GRANT_SCHEMA_ID : String :=
  "https://agenid.com/schemas/v1.2/authorization-grant.json"

structure AuthorizationGrant where
  grantId : JsString
  principal : JsString
  subject : JsString
  scopes : List JsString
  constraints : Option (List Constraint)
  notBefore : JsString
  expiresAt : JsString
  keyId : JsString
  signature : JsString
  deriving DecidableEq

section Schemas

variable [Platform]

def grantRules (grant : AuthorizationGrant) : List Issue :=
  ruleIssue
      (dateLess (dateParse grant.notBefore) (dateParse grant.expiresAt))
      "expires_at" "expires_at must be after not_before" ++
    ruleIssue (decide grant.scopes.Nodup)
      "scopes" "scopes must not contain duplicates"

/-- `AuthorizationGrantBase`. -/
def AuthorizationGrant.base : Schema AuthorizationGrant :=
  strictObject ["$schema", "grant_id", "principal", "subject", "scopes",
      "constraints", "not_before", "expires_at", "key_id", "signature"]
    fun members =>
      field "$schema" (literal GRANT_SCHEMA_ID) members *>
        (AuthorizationGrant.mk <$>
          field "grant_id"
            (string.regex GRANT_ID_REGEX "must match grant:<ULID>")
            members <*>
          field "principal" PrincipalId members <*>
          field "subject" AgentId members <*>
          field "scopes" (Scope.array 1 (some 64)) members <*>
          field "constraints" (Constraint.schema.array 0 (some 16)).optional
            members <*>
          field "not_before" Rfc3339Utc members <*>
          field "expires_at" Rfc3339Utc members <*>
          field "key_id" KeyId members <*>
          field "signature" Ed25519SignatureB64u members)

/-- The schema `AuthorizationGrant`. -/
def AuthorizationGrant.schema : Schema AuthorizationGrant :=
  AuthorizationGrant.base.superRefine grantRules

/-- A grant as a JSON value. -/
def AuthorizationGrant.toJson (grant : AuthorizationGrant) : Json :=
  .record
    [("$schema", some (.literal GRANT_SCHEMA_ID)),
      ("grant_id", some (.string grant.grantId)),
      ("principal", some (.string grant.principal)),
      ("subject", some (.string grant.subject)),
      ("scopes", some (.array (grant.scopes.map .string))),
      ("constraints", grant.constraints.map fun constraints =>
        .array (constraints.map Constraint.toJson)),
      ("not_before", some (.string grant.notBefore)),
      ("expires_at", some (.string grant.expiresAt)),
      ("key_id", some (.string grant.keyId)),
      ("signature", some (.string grant.signature))]

/-! ## Revocations -/

inductive RevokesType where
  | agent | grant | key | assertion
  deriving DecidableEq

/-- The spelling of a type of target. -/
def RevokesType.text : RevokesType → String
  | .agent => "agent"
  | .grant => "grant"
  | .key => "key"
  | .assertion => "assertion"

inductive RevocationReason where
  | keyCompromise
  | superseded
  | noLongerAuthorized
  | operatorRequest
  | agentRetired
  | issuedInError
  | unspecified
  deriving DecidableEq

/-- The spelling of a reason. -/
def RevocationReason.text : RevocationReason → String
  | .keyCompromise => "key_compromise"
  | .superseded => "superseded"
  | .noLongerAuthorized => "no_longer_authorized"
  | .operatorRequest => "operator_request"
  | .agentRetired => "agent_retired"
  | .issuedInError => "issued_in_error"
  | .unspecified => "unspecified"

/-- The reasons in the order of the enumeration. -/
def RevocationReason.all : List RevocationReason :=
  [.keyCompromise, .superseded, .noLongerAuthorized, .operatorRequest,
    .agentRetired, .issuedInError, .unspecified]

def REVOCATION_SCHEMA_ID : String :=
  "https://agenid.com/schemas/v1.2/revocation.json"

structure Revocation where
  revocationId : JsString
  revokes : JsString
  revokesType : RevokesType
  reason : RevocationReason
  revokedAt : JsString
  keyId : JsString
  signature : JsString
  deriving DecidableEq

def TARGET_PATTERN : RevokesType → Regex
  | .agent => AGENT_ID_REGEX
  | .grant => GRANT_ID_REGEX
  | .key => KEY_ID_REGEX
  | .assertion => ASSERTION_ID_REGEX

def revocationRules (revocation : Revocation) : List Issue :=
  ruleIssue ((TARGET_PATTERN revocation.revokesType).test revocation.revokes)
    "revokes" ("revokes does not match the identifier shape for " ++
      "revokes_type=" ++ revocation.revokesType.text)

/-- `RevocationBase`. -/
def Revocation.base : Schema Revocation :=
  strictObject ["$schema", "revocation_id", "revokes", "revokes_type",
      "reason", "revoked_at", "key_id", "signature"] fun members =>
    field "$schema" (literal REVOCATION_SCHEMA_ID) members *>
      (Revocation.mk <$>
        field "revocation_id"
          (string.regex REVOCATION_ID_REGEX "must match revocation:<ULID>")
          members <*>
        field "revokes" (string.minLength 1) members <*>
        field "revokes_type"
          (enumerationOf [.agent, .grant, .key, .assertion] RevokesType.text)
          members <*>
        field "reason"
          (enumerationOf RevocationReason.all RevocationReason.text)
          members <*>
        field "revoked_at" Rfc3339Utc members <*>
        field "key_id" KeyId members <*>
        field "signature" Ed25519SignatureB64u members)

/-- The schema `Revocation`. -/
def Revocation.schema : Schema Revocation :=
  Revocation.base.superRefine revocationRules

/-- A revocation as a JSON value. -/
def Revocation.toJson (revocation : Revocation) : Json :=
  .record
    [("$schema", some (.literal REVOCATION_SCHEMA_ID)),
      ("revocation_id", some (.string revocation.revocationId)),
      ("revokes", some (.string revocation.revokes)),
      ("revokes_type", some (.literal revocation.revokesType.text)),
      ("reason", some (.literal revocation.reason.text)),
      ("revoked_at", some (.string revocation.revokedAt)),
      ("key_id", some (.string revocation.keyId)),
      ("signature", some (.string revocation.signature))]

def REVOKER_ROLE : RevokesType → KeyRole
  | .grant => .principal
  | .agent => .operator
  | .key => .operator
  | .assertion => .authority

end Schemas

end AgenId.Core
