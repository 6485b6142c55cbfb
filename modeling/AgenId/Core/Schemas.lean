import AgenId.Core.Identifier
import AgenId.Core.Platform

/-!
# Object schemas

The normative objects of `schemas.ts`.  A structure holds what a schema
accepts; members that a schema fixes to a literal are not fields, and
`toJson` writes them back.  Every schema rereads its own encoding, so that a
document parsed once parses to itself from then on.
-/

namespace AgenId.Core

open AgenId.Ecma
open AgenId.Validation
open AgenId.Validation.Schema

variable [Platform]

/-! ## Shared primitives -/

/-- `\d{4}-\d{2}-\d{2}T\d{2}:\d{2}:\d{2}`. -/
def timestampPieces : List Piece :=
  .exactly isDigit 4 :: literally "-" ++ .exactly isDigit 2 ::
    literally "-" ++ .exactly isDigit 2 :: literally "T" ++
    .exactly isDigit 2 :: literally ":" ++ .exactly isDigit 2 ::
    literally ":" ++ [.exactly isDigit 2]

/-- The expression of `Rfc3339Utc`. -/
def timestampRegex : Regex where
  anchored := true
  alternatives :=
    [timestampPieces ++ literally "Z" ++ [.finish],
      timestampPieces ++ literally "." ++ [.run isDigit 1 (some 9)] ++
        literally "Z" ++ [.finish]]

def Rfc3339Utc : Schema JsString :=
  (string.regex timestampRegex "must be RFC 3339 UTC with 'Z'").check
    (fun text => (dateParse text).isSome)
    (.here .custom "must be a real timestamp")

/-- `[0-9a-f]`. -/
def isLowerHex (unit : UInt16) : Bool :=
  within '0' '9' unit || within 'a' 'f' unit

def Sha256Hex : Schema JsString :=
  string.regex (.whole [.exactly isLowerHex 64])
    "must be 64 lowercase hex chars"

def Ed25519SignatureB64u : Schema JsString :=
  string.regex (.whole [.exactly isBase64Url 86])
    "must be 86-char base64url (64 bytes)"

def Ed25519PublicKeyB64u : Schema JsString :=
  string.regex (.whole [.exactly isBase64Url 43])
    "must be 43-char base64url (32 bytes)"

def AgentId : Schema JsString :=
  string.regex AGENT_ID_REGEX "must match agenid:<ULID>"

def KeyId : Schema JsString :=
  (string.check (fun text => !includesUnit 0x23 text)
      (.here .custom "key_id must not contain a URI fragment (#)")).check
    KEY_ID_REGEX.test (.here .custom "must match agenid:key:<ULID>")

def AssertionId : Schema JsString :=
  string.regex ASSERTION_ID_REGEX "must match assertion:<ULID>"

def AuthorityId : Schema JsString :=
  string.regex AUTHORITY_ID_REGEX "must match agenid:authority:<name>"

def PrincipalId : Schema JsString :=
  string.regex PRINCIPAL_ID_REGEX "must match agenid:principal:<ULID>"

def DeploymentId : Schema JsString :=
  string.regex DEPLOYMENT_ID_REGEX "must match dep_<opaque>"

def Hostname : Schema JsString :=
  string.check isValidHostname (.here .custom "must be a valid hostname")

/-- `Digest`, of which only the value is not fixed. -/
def Digest : Schema JsString :=
  strictObject ["alg", "value"] fun members =>
    field "alg" (literal "sha-256") members *> field "value" Sha256Hex members

/-- A digest as a JSON value. -/
def digestJson (value : JsString) : Json :=
  .record
    [("alg", some (.literal "sha-256")),
      ("value", some (.string value))]

/-! ## Manifest -/

inductive Channel where
  | voice | sms | chat | email | api
  deriving DecidableEq

/-- The spelling of a channel. -/
def Channel.text : Channel → String
  | .voice => "voice"
  | .sms => "sms"
  | .chat => "chat"
  | .email => "email"
  | .api => "api"

/-- The channels in the order of the enumeration. -/
def Channel.all : List Channel := [.voice, .sms, .chat, .email, .api]

/-- An enumeration given by its members in order and their spellings. -/
def enumerationOf {α : Type} (members : List α) (text : α → String) :
    Schema α :=
  enumeration (members.map fun value => (text value, value))

/-- Letters of an expression with the flag `i`. -/
def anyCase (text : String) : List Piece :=
  text.toList.map fun letter => .one (isOneOf [letter.toLower, letter.toUpper])

/-- `\s`. -/
def isWhiteSpace (unit : UInt16) : Bool :=
  decide (0x09 ≤ unit ∧ unit ≤ 0x0D ∨ unit = 0x20 ∨ unit = 0xA0 ∨
    unit = 0x1680 ∨ 0x2000 ≤ unit ∧ unit ≤ 0x200A ∨ unit = 0x2028 ∨
    unit = 0x2029 ∨ unit = 0x202F ∨ unit = 0x205F ∨ unit = 0x3000 ∨
    unit = 0xFEFF)

/-- One alternative of the Stripe-style expression. -/
def stripeKey (mode : String) : List Piece :=
  .wordBoundary :: anyCase "sk" ++ .one (isOneOf ['-', '_']) ::
    anyCase mode ++ [.one (isOneOf ['-', '_']), .run isAlphanumeric 8 none]

def SECRET_PATTERNS : List Regex :=
  [⟨false, [stripeKey "live", stripeKey "test"]⟩,
    ⟨false, [.wordBoundary :: literally "AKIA" ++
      [.exactly (fun unit => within '0' '9' unit || within 'A' 'Z' unit) 16,
        .wordBoundary]]⟩,
    ⟨false, [literally "-----BEGIN " ++
      .run (fun unit => within 'A' 'Z' unit || isOneOf [' '] unit) 0 none ::
        literally "PRIVATE KEY-----"]⟩,
    ⟨false, [.wordBoundary :: literally "Bearer" ++
      [.run isWhiteSpace 1 none,
        .run (fun unit => isAlphanumeric unit || isOneOf ['.', '_', '-'] unit)
          20 none]]⟩]

def noSecrets (text : JsString) : Bool :=
  !SECRET_PATTERNS.any fun expression => expression.test text

def FreeText (max : Nat) : Schema JsString :=
  ((string.minLength 1).maxLength max).check noSecrets
    (.here .custom "field appears to contain a credential or secret")

/-- `manifest.identity`. -/
structure Identity where
  name : JsString
  description : Option JsString
  deriving DecidableEq

/-- `manifest.ownership`. -/
structure Ownership where
  operator : JsString
  operatorDomain : JsString
  contact : Option JsString
  deriving DecidableEq

/-- `manifest.purpose`. -/
structure Purpose where
  summary : JsString
  channels : List Channel
  deriving DecidableEq

/-- `manifest.disclosure`. -/
structure Disclosure where
  isAi : Bool
  disclosesToUser : Bool
  humanEscalation : Bool
  deriving DecidableEq

structure Manifest where
  agentId : JsString
  identity : Identity
  ownership : Ownership
  purpose : Purpose
  disclosure : Disclosure
  deriving DecidableEq

/-- The schema of `manifest.identity`. -/
def Identity.schema : Schema Identity :=
  strictObject ["name", "description"] fun members =>
    Identity.mk <$> field "name" (FreeText 200) members <*>
      field "description" (FreeText 1000).optional members

/-- The schema of `manifest.ownership`. -/
def Ownership.schema : Schema Ownership :=
  strictObject ["operator", "operator_domain", "contact"] fun members =>
    Ownership.mk <$> field "operator" (FreeText 300) members <*>
      field "operator_domain" Hostname members <*>
      field "contact" (string.check Platform.isEmail
        ⟨[], .invalidString "email", none⟩).optional members

/-- The schema of `manifest.purpose`. -/
def Purpose.schema : Schema Purpose :=
  strictObject ["summary", "channels"] fun members =>
    Purpose.mk <$> field "summary" (FreeText 500) members <*>
      field "channels" ((enumerationOf Channel.all Channel.text).array 1 none)
        members

/-- The schema of `manifest.disclosure`. -/
def Disclosure.schema : Schema Disclosure :=
  strictObject ["is_ai", "discloses_to_user", "human_escalation"]
    fun members =>
      Disclosure.mk <$> field "is_ai" boolean members <*>
        field "discloses_to_user" boolean members <*>
        field "human_escalation" boolean members

/-- The schema `Manifest`. -/
def Manifest.schema : Schema Manifest :=
  strictObject ["manifest_version", "agent_id", "identity", "ownership",
      "purpose", "disclosure"] fun members =>
    field "manifest_version" (literal "1.0") members *>
      (Manifest.mk <$> field "agent_id" AgentId members <*>
        field "identity" Identity.schema members <*>
        field "ownership" Ownership.schema members <*>
        field "purpose" Purpose.schema members <*>
        field "disclosure" Disclosure.schema members)

/-- `manifest.identity` as a JSON value. -/
def Identity.toJson (identity : Identity) : Json :=
  .record
    [("name", some (.string identity.name)),
      ("description", identity.description.map .string)]

/-- `manifest.ownership` as a JSON value. -/
def Ownership.toJson (ownership : Ownership) : Json :=
  .record
    [("operator", some (.string ownership.operator)),
      ("operator_domain", some (.string ownership.operatorDomain)),
      ("contact", ownership.contact.map .string)]

/-- `manifest.purpose` as a JSON value. -/
def Purpose.toJson (purpose : Purpose) : Json :=
  .record
    [("summary", some (.string purpose.summary)),
      ("channels", some (.array
        (purpose.channels.map fun channel => .literal channel.text)))]

/-- `manifest.disclosure` as a JSON value. -/
def Disclosure.toJson (disclosure : Disclosure) : Json :=
  .record
    [("is_ai", some (.boolean disclosure.isAi)),
      ("discloses_to_user", some (.boolean disclosure.disclosesToUser)),
      ("human_escalation", some (.boolean disclosure.humanEscalation))]

/-- A manifest as a JSON value. -/
def Manifest.toJson (manifest : Manifest) : Json :=
  .record
    [("manifest_version", some (.literal "1.0")),
      ("agent_id", some (.string manifest.agentId)),
      ("identity", some manifest.identity.toJson),
      ("ownership", some manifest.ownership.toJson),
      ("purpose", some manifest.purpose.toJson),
      ("disclosure", some manifest.disclosure.toJson)]

/-! ## Manifest proof -/

structure ManifestProof where
  agentId : JsString
  manifestDigest : JsString
  keyId : JsString
  createdAt : JsString
  expiresAt : JsString
  signature : JsString
  deriving DecidableEq

def MANIFEST_PROOF_SCHEMA_ID : String :=
  "https://agenid.com/schemas/v1.1.1/manifest-proof.json"

/-- The schema `ManifestProof`. -/
def ManifestProof.schema : Schema ManifestProof :=
  (strictObject ["$schema", "proof_type", "agent_id", "manifest_version",
      "manifest_digest", "key_id", "created_at", "expires_at", "signature"]
    fun members =>
      field "$schema" (literal MANIFEST_PROOF_SCHEMA_ID) members *>
      field "proof_type" (literal "manifest_self_declaration") members *>
      (ManifestProof.mk <$> field "agent_id" AgentId members <*
        field "manifest_version" (literal "1.0") members <*>
        field "manifest_digest" Digest members <*>
        field "key_id" KeyId members <*>
        field "created_at" Rfc3339Utc members <*>
        field "expires_at" Rfc3339Utc members <*>
        field "signature" Ed25519SignatureB64u members)).check
    (fun proof =>
      dateLess (dateParse proof.createdAt) (dateParse proof.expiresAt))
    ⟨[.member (units "expires_at")], .custom,
      some (units "expires_at must be after created_at")⟩

/-- A manifest proof as a JSON value. -/
def ManifestProof.toJson (proof : ManifestProof) : Json :=
  .record
    [("$schema", some (.literal MANIFEST_PROOF_SCHEMA_ID)),
      ("proof_type", some (.literal "manifest_self_declaration")),
      ("agent_id", some (.string proof.agentId)),
      ("manifest_version", some (.literal "1.0")),
      ("manifest_digest", some (digestJson proof.manifestDigest)),
      ("key_id", some (.string proof.keyId)),
      ("created_at", some (.string proof.createdAt)),
      ("expires_at", some (.string proof.expiresAt)),
      ("signature", some (.string proof.signature))]

/-! ## Verification assertion -/

/-- `VerificationLevel`, from the lowest to the highest. -/
inductive VerificationLevel where
  | L1_REGISTERED
  | L2_DOMAIN_VERIFIED
  | L3_ORGANIZATION_VERIFIED
  | L4_DEPLOYMENT_VERIFIED
  deriving DecidableEq

/-- The spelling of a level. -/
def VerificationLevel.text : VerificationLevel → String
  | .L1_REGISTERED => "L1_REGISTERED"
  | .L2_DOMAIN_VERIFIED => "L2_DOMAIN_VERIFIED"
  | .L3_ORGANIZATION_VERIFIED => "L3_ORGANIZATION_VERIFIED"
  | .L4_DEPLOYMENT_VERIFIED => "L4_DEPLOYMENT_VERIFIED"

/-- The levels in the order of the enumeration. -/
def VerificationLevel.all : List VerificationLevel :=
  [.L1_REGISTERED, .L2_DOMAIN_VERIFIED, .L3_ORGANIZATION_VERIFIED,
    .L4_DEPLOYMENT_VERIFIED]

inductive SubjectType where
  | agent | deployment
  deriving DecidableEq

/-- The spelling of a subject type. -/
def SubjectType.text : SubjectType → String
  | .agent => "agent"
  | .deployment => "deployment"

inductive Claim where
  | registration
  | domainControl (domain : JsString)
  | organizationIdentity
      (legalName : JsString) (jurisdiction : Option JsString)
  | deploymentConformance (deploymentId : JsString)
  deriving DecidableEq

/-- `claim.type`. -/
def Claim.type : Claim → String
  | .registration => "registration"
  | .domainControl _ => "domain_control"
  | .organizationIdentity _ _ => "organization_identity"
  | .deploymentConformance _ => "deployment_conformance"

/-- The schemas of the alternatives of `Claim`. -/
def Claim.options : List (String × Schema Claim) :=
  [("registration", strictObject ["type"] fun members =>
      (fun _ => Claim.registration) <$>
        field "type" (literal "registration") members),
    ("domain_control", strictObject ["type", "domain"] fun members =>
      field "type" (literal "domain_control") members *>
        (Claim.domainControl <$> field "domain" Hostname members)),
    ("organization_identity",
      strictObject ["type", "legal_name", "jurisdiction"] fun members =>
        field "type" (literal "organization_identity") members *>
          (Claim.organizationIdentity <$>
            field "legal_name" (FreeText 300) members <*>
            field "jurisdiction"
              ((string.minLength 2).maxLength 64).optional members)),
    ("deployment_conformance",
      strictObject ["type", "deployment_id"] fun members =>
        field "type" (literal "deployment_conformance") members *>
          (Claim.deploymentConformance <$>
            field "deployment_id" DeploymentId members))]

/-- The schema `Claim`. -/
def Claim.schema : Schema Claim :=
  discriminatedUnion "type" Claim.options

/-- A claim as a JSON value. -/
def Claim.toJson : Claim → Json
  | .registration => .record [("type", some (.literal "registration"))]
  | .domainControl domain => .record
    [("type", some (.literal "domain_control")),
      ("domain", some (.string domain))]
  | .organizationIdentity legalName jurisdiction => .record
    [("type", some (.literal "organization_identity")),
      ("legal_name", some (.string legalName)),
      ("jurisdiction", jurisdiction.map .string)]
  | .deploymentConformance deploymentId => .record
    [("type", some (.literal "deployment_conformance")),
      ("deployment_id", some (.string deploymentId))]

inductive EvidenceType where
  | schemaValidation
  | dnsTxtChallenge
  | httpWellknownChallenge
  | businessRegistryMatch
  | documentReview
  | deploymentSampleReview
  deriving DecidableEq

/-- The spelling of a type of evidence. -/
def EvidenceType.text : EvidenceType → String
  | .schemaValidation => "schema_validation"
  | .dnsTxtChallenge => "dns_txt_challenge"
  | .httpWellknownChallenge => "http_wellknown_challenge"
  | .businessRegistryMatch => "business_registry_match"
  | .documentReview => "document_review"
  | .deploymentSampleReview => "deployment_sample_review"

/-- The types of evidence in the order of the enumeration. -/
def EvidenceType.all : List EvidenceType :=
  [.schemaValidation, .dnsTxtChallenge, .httpWellknownChallenge,
    .businessRegistryMatch, .documentReview, .deploymentSampleReview]

structure Evidence where
  type : EvidenceType
  reference : JsString
  deriving DecidableEq

/-- The schema `Evidence`. -/
def Evidence.schema : Schema Evidence :=
  strictObject ["type", "reference"] fun members =>
    Evidence.mk <$>
      field "type" (enumerationOf EvidenceType.all EvidenceType.text)
        members <*>
      field "reference" ((string.minLength 1).maxLength 512) members

/-- Evidence as a JSON value. -/
def Evidence.toJson (evidence : Evidence) : Json :=
  .record
    [("type", some (.literal evidence.type.text)),
      ("reference", some (.string evidence.reference))]

structure VerificationAssertion where
  assertionId : JsString
  subject : JsString
  subjectType : SubjectType
  level : VerificationLevel
  claim : Claim
  authority : JsString
  evidence : Evidence
  verifiedAt : JsString
  expiresAt : JsString
  scope : JsString
  manifestDigest : JsString
  keyId : JsString
  signature : JsString
  deriving DecidableEq

def ASSERTION_SCHEMA_ID : String :=
  "https://agenid.com/schemas/v1.1.1/assertion.json"

def LEVEL_CLAIM : VerificationLevel → String
  | .L1_REGISTERED => "registration"
  | .L2_DOMAIN_VERIFIED => "domain_control"
  | .L3_ORGANIZATION_VERIFIED => "organization_identity"
  | .L4_DEPLOYMENT_VERIFIED => "deployment_conformance"

/-- An issue that a rule across fields raises at one of them. -/
def ruleIssue (holds : Bool) (path message : String) : List Issue :=
  if holds then []
  else [⟨[.member (units path)], .custom, some (units message)⟩]

omit [Platform] in
theorem ruleIssue_eq_nil_iff {holds : Bool} {path message : String} :
    ruleIssue holds path message = [] ↔ holds = true := by
  cases holds <;> simp [ruleIssue]

def assertionRules (assertion : VerificationAssertion) : List Issue :=
  ruleIssue
      (match assertion.subjectType with
        | .agent => AGENT_ID_REGEX.test assertion.subject
        | .deployment => DEPLOYMENT_ID_REGEX.test assertion.subject)
      "subject" ("subject must match subject_type " ++
        "(agenid:<ULID> for agent, dep_* for deployment)") ++
    ruleIssue
      (decide (assertion.subjectType = .deployment ↔
        assertion.level = .L4_DEPLOYMENT_VERIFIED))
      "level" ("L4_DEPLOYMENT_VERIFIED is the only level for " ++
        "subject_type=deployment, and vice versa") ++
    ruleIssue
      (dateLess (dateParse assertion.verifiedAt)
        (dateParse assertion.expiresAt))
      "expires_at" "expires_at must be after verified_at" ++
    ruleIssue
      (decide (LEVEL_CLAIM assertion.level = assertion.claim.type))
      "claim" "claim.type does not correspond to level (§11)"

/-- `VerificationAssertionBase`. -/
def VerificationAssertion.base : Schema VerificationAssertion :=
  strictObject ["$schema", "assertion_id", "subject", "subject_type",
      "level", "claim", "authority", "evidence", "verified_at", "expires_at",
      "scope", "manifest_digest", "key_id", "signature"] fun members =>
    field "$schema" (literal ASSERTION_SCHEMA_ID) members *>
      (VerificationAssertion.mk <$>
        field "assertion_id" AssertionId members <*>
        field "subject" (string.minLength 1) members <*>
        field "subject_type"
          (enumerationOf [.agent, .deployment] SubjectType.text) members <*>
        field "level"
          (enumerationOf VerificationLevel.all VerificationLevel.text)
          members <*>
        field "claim" Claim.schema members <*>
        field "authority" AuthorityId members <*>
        field "evidence" Evidence.schema members <*>
        field "verified_at" Rfc3339Utc members <*>
        field "expires_at" Rfc3339Utc members <*>
        field "scope" ((string.minLength 1).maxLength 128) members <*>
        field "manifest_digest" Digest members <*>
        field "key_id" KeyId members <*>
        field "signature" Ed25519SignatureB64u members)

/-- The schema `VerificationAssertion`. -/
def VerificationAssertion.schema : Schema VerificationAssertion :=
  VerificationAssertion.base.superRefine assertionRules

/-- A verification assertion as a JSON value. -/
def VerificationAssertion.toJson (assertion : VerificationAssertion) : Json :=
  .record
    [("$schema", some (.literal ASSERTION_SCHEMA_ID)),
      ("assertion_id", some (.string assertion.assertionId)),
      ("subject", some (.string assertion.subject)),
      ("subject_type", some (.literal assertion.subjectType.text)),
      ("level", some (.literal assertion.level.text)),
      ("claim", some assertion.claim.toJson),
      ("authority", some (.string assertion.authority)),
      ("evidence", some assertion.evidence.toJson),
      ("verified_at", some (.string assertion.verifiedAt)),
      ("expires_at", some (.string assertion.expiresAt)),
      ("scope", some (.string assertion.scope)),
      ("manifest_digest", some (digestJson assertion.manifestDigest)),
      ("key_id", some (.string assertion.keyId)),
      ("signature", some (.string assertion.signature))]

/-! ## Key document -/

inductive KeyRole where
  | operator | authority | principal
  deriving DecidableEq

/-- The spelling of a role. -/
def KeyRole.text : KeyRole → String
  | .operator => "operator"
  | .authority => "authority"
  | .principal => "principal"

inductive KeyStatus where
  | active | retired | revoked
  deriving DecidableEq

/-- The spelling of a status. -/
def KeyStatus.text : KeyStatus → String
  | .active => "active"
  | .retired => "retired"
  | .revoked => "revoked"

structure KeyDocument where
  keyId : JsString
  publicKeyB64u : JsString
  role : KeyRole
  controller : JsString
  createdAt : JsString
  status : KeyStatus
  retiredAt : Option JsString
  revokedAt : Option JsString
  deriving DecidableEq

/-- The identifier a controller has to be, by role. -/
def KeyRole.controllerRegex : KeyRole → Regex
  | .operator => AGENT_ID_REGEX
  | .authority => AUTHORITY_ID_REGEX
  | .principal => PRINCIPAL_ID_REGEX

/-- An issue at one member of a key document. -/
def keyIssue (path message : String) : Issue :=
  ⟨[.member (units path)], .custom, some (units message)⟩

/-- The members of a key document, before its rules across fields. -/
def KeyDocument.shape : Schema KeyDocument :=
  strictObject ["key_id", "key_type", "public_key_b64u", "role", "controller",
      "created_at", "status", "retired_at", "revoked_at"] fun members =>
    KeyDocument.mk <$> field "key_id" KeyId members <*
      field "key_type" (literal "Ed25519") members <*>
      field "public_key_b64u" Ed25519PublicKeyB64u members <*>
      field "role"
        (enumerationOf [.operator, .authority, .principal] KeyRole.text)
        members <*>
      field "controller" (string.minLength 1) members <*>
      field "created_at" Rfc3339Utc members <*>
      field "status"
        (enumerationOf [.active, .retired, .revoked] KeyStatus.text)
        members <*>
      field "retired_at" Rfc3339Utc.nullable members <*>
      field "revoked_at" Rfc3339Utc.nullable members

/-- The schema `KeyDocument`. -/
def KeyDocument.schema : Schema KeyDocument :=
  ((KeyDocument.shape.check
    (fun key => key.role.controllerRegex.test key.controller)
    (keyIssue "controller" ("controller must be agenid:<ULID> for " ++
      "role=operator, agenid:authority:<name> for role=authority, or " ++
      "agenid:principal:<ULID> for role=principal"))).check
    (fun key => decide ((key.status = .retired ↔ key.retiredAt ≠ none) ∨
      key.status = .revoked))
    (keyIssue "retired_at" "status=retired iff retired_at is set")).check
    (fun key => decide (key.status = .revoked ↔ key.revokedAt ≠ none))
    (keyIssue "revoked_at" "status=revoked iff revoked_at is set")

/-- `null` or a text. -/
def nullableText (text : Option JsString) : Json :=
  text.elim .null .string

/-- A key document as a JSON value. -/
def KeyDocument.toJson (key : KeyDocument) : Json :=
  .record
    [("key_id", some (.string key.keyId)),
      ("key_type", some (.literal "Ed25519")),
      ("public_key_b64u", some (.string key.publicKeyB64u)),
      ("role", some (.literal key.role.text)),
      ("controller", some (.string key.controller)),
      ("created_at", some (.string key.createdAt)),
      ("status", some (.literal key.status.text)),
      ("retired_at", some (nullableText key.retiredAt)),
      ("revoked_at", some (nullableText key.revokedAt))]

end AgenId.Core
