import AgenId.Core.AuthorizationVerify

/-!
# Signing

The signing half of `crypto.ts` and `authorization-verify.ts`.  A signer
checks its payload and its key, signs the canonical bytes of the payload, and
returns what the schema of the signed object reads from the payload with its
signature.
-/

namespace AgenId.Core

open AgenId.Ecma
open AgenId.Validation
open AgenId.Validation.Schema

/-! ## Bytes -/

/-- The digit of base64url of a value below 64. -/
def sextetUnit (value : Nat) : UInt16 :=
  if value < 26 then UInt16.ofNat (value + 0x41)
  else if value < 52 then UInt16.ofNat (value + 0x47)
  else if value < 62 then UInt16.ofNat (value - 0x04)
  else if value = 62 then 0x2D
  else 0x5F

/-- The sextets of a sequence of bytes, with zero bits after the last. -/
def sextetsOfBytes : List UInt8 → List Nat
  | first :: second :: third :: rest =>
    first.toNat / 4 :: (first.toNat % 4 * 16 + second.toNat / 16) ::
      (second.toNat % 16 * 4 + third.toNat / 64) :: third.toNat % 64 ::
      sextetsOfBytes rest
  | [first, second] =>
    [first.toNat / 4, first.toNat % 4 * 16 + second.toNat / 16,
      second.toNat % 16 * 4]
  | [first] => [first.toNat / 4, first.toNat % 4 * 16]
  | [] => []

def b64uEncode (bytes : List UInt8) : JsString :=
  (sextetsOfBytes bytes).map sextetUnit

/-- The runtime's signature scheme with its secret half. -/
class SigningPlatform extends Platform where
  /-- The raw public key of a seed of 32 bytes. -/
  ed25519PublicKey : (seed : List UInt8) → List UInt8
  /-- The PureEdDSA signature of a message under a seed of 32 bytes. -/
  ed25519Sign : (seed message : List UInt8) → List UInt8

/-- Key pairs of Ed25519 are of the lengths of the scheme, and what is signed
with a seed verifies under its public key. -/
structure Ed25519Correct [SigningPlatform] : Prop where
  publicKeyLength : ∀ seed : List UInt8, seed.length = 32 →
    (SigningPlatform.ed25519PublicKey seed).length = 32
  signatureLength : ∀ seed message : List UInt8, seed.length = 32 →
    (SigningPlatform.ed25519Sign seed message).length = 64
  verifies : ∀ seed message : List UInt8, seed.length = 32 →
    Platform.ed25519Verify (SigningPlatform.ed25519PublicKey seed) message
      (SigningPlatform.ed25519Sign seed message) = true

structure SigningKey where
  privateKey : List UInt8
  document : Option Json

/-! ## Payloads -/

section Payloads

variable [Platform]

structure ManifestProofPayload where
  agentId : JsString
  manifestDigest : JsString
  keyId : JsString
  createdAt : JsString
  expiresAt : JsString
  deriving DecidableEq

/-- A payload with a signature. -/
def ManifestProofPayload.signed (payload : ManifestProofPayload)
    (signature : JsString) : ManifestProof where
  agentId := payload.agentId
  manifestDigest := payload.manifestDigest
  keyId := payload.keyId
  createdAt := payload.createdAt
  expiresAt := payload.expiresAt
  signature := signature

/-- The schema `ManifestProofPayload`. -/
def ManifestProofPayload.schema : Schema ManifestProofPayload :=
  (strictObject ["$schema", "proof_type", "agent_id", "manifest_version",
      "manifest_digest", "key_id", "created_at", "expires_at"]
    fun members =>
      field "$schema" (literal MANIFEST_PROOF_SCHEMA_ID) members *>
      field "proof_type" (literal "manifest_self_declaration") members *>
      (ManifestProofPayload.mk <$> field "agent_id" AgentId members <*
        field "manifest_version" (literal "1.0") members <*>
        field "manifest_digest" Digest members <*>
        field "key_id" KeyId members <*>
        field "created_at" Rfc3339Utc members <*>
        field "expires_at" Rfc3339Utc members)).check
    (fun payload =>
      dateLess (dateParse payload.createdAt) (dateParse payload.expiresAt))
    ⟨[.member (units "expires_at")], .custom,
      some (units "expires_at must be after created_at")⟩

/-- The payload of a manifest proof as a JSON value. -/
def ManifestProofPayload.toJson (payload : ManifestProofPayload) : Json :=
  .record
    [("$schema", some (.literal MANIFEST_PROOF_SCHEMA_ID)),
      ("proof_type", some (.literal "manifest_self_declaration")),
      ("agent_id", some (.string payload.agentId)),
      ("manifest_version", some (.literal "1.0")),
      ("manifest_digest", some (digestJson payload.manifestDigest)),
      ("key_id", some (.string payload.keyId)),
      ("created_at", some (.string payload.createdAt)),
      ("expires_at", some (.string payload.expiresAt))]

structure VerificationAssertionPayload where
  assertionId : JsString
  subject : JsString
  subjectType : SubjectType
  level : VerificationLevel
  claim : Claim
  authority : JsString
  evidence : Evidence
  verifiedAt : JsString
  expiresAt : JsString
  scope : JsString
  manifestDigest : JsString
  keyId : JsString
  deriving DecidableEq

/-- A payload with a signature. -/
def VerificationAssertionPayload.signed
    (payload : VerificationAssertionPayload) (signature : JsString) :
    VerificationAssertion where
  assertionId := payload.assertionId
  subject := payload.subject
  subjectType := payload.subjectType
  level := payload.level
  claim := payload.claim
  authority := payload.authority
  evidence := payload.evidence
  verifiedAt := payload.verifiedAt
  expiresAt := payload.expiresAt
  scope := payload.scope
  manifestDigest := payload.manifestDigest
  keyId := payload.keyId
  signature := signature

/-- `VerificationAssertionPayloadBase`. -/
def VerificationAssertionPayload.base : Schema VerificationAssertionPayload :=
  strictObject ["$schema", "assertion_id", "subject", "subject_type",
      "level", "claim", "authority", "evidence", "verified_at", "expires_at",
      "scope", "manifest_digest", "key_id"] fun members =>
    field "$schema" (literal ASSERTION_SCHEMA_ID) members *>
      (VerificationAssertionPayload.mk <$>
        field "assertion_id" AssertionId members <*>
        field "subject" (string.minLength 1) members <*>
        field "subject_type"
          (enumerationOf [.agent, .deployment] SubjectType.text) members <*>
        field "level"
          (enumerationOf VerificationLevel.all VerificationLevel.text)
          members <*>
        field "claim" Claim.schema members <*>
        field "authority" AuthorityId members <*>
        field "evidence" Evidence.schema members <*>
        field "verified_at" Rfc3339Utc members <*>
        field "expires_at" Rfc3339Utc members <*>
        field "scope" ((string.minLength 1).maxLength 128) members <*>
        field "manifest_digest" Digest members <*>
        field "key_id" KeyId members)

/-- The schema `VerificationAssertionPayload`; its rules read no signature. -/
def VerificationAssertionPayload.schema :
    Schema VerificationAssertionPayload :=
  VerificationAssertionPayload.base.superRefine fun payload =>
    assertionRules (payload.signed [])

/-- The payload of an assertion as a JSON value. -/
def VerificationAssertionPayload.toJson
    (payload : VerificationAssertionPayload) : Json :=
  .record
    [("$schema", some (.literal ASSERTION_SCHEMA_ID)),
      ("assertion_id", some (.string payload.assertionId)),
      ("subject", some (.string payload.subject)),
      ("subject_type", some (.literal payload.subjectType.text)),
      ("level", some (.literal payload.level.text)),
      ("claim", some payload.claim.toJson),
      ("authority", some (.string payload.authority)),
      ("evidence", some payload.evidence.toJson),
      ("verified_at", some (.string payload.verifiedAt)),
      ("expires_at", some (.string payload.expiresAt)),
      ("scope", some (.string payload.scope)),
      ("manifest_digest", some (digestJson payload.manifestDigest)),
      ("key_id", some (.string payload.keyId))]

structure AuthorizationGrantPayload where
  grantId : JsString
  principal : JsString
  subject : JsString
  scopes : List JsString
  constraints : Option (List Constraint)
  notBefore : JsString
  expiresAt : JsString
  keyId : JsString
  deriving DecidableEq

/-- A payload with a signature. -/
def AuthorizationGrantPayload.signed (payload : AuthorizationGrantPayload)
    (signature : JsString) : AuthorizationGrant where
  grantId := payload.grantId
  principal := payload.principal
  subject := payload.subject
  scopes := payload.scopes
  constraints := payload.constraints
  notBefore := payload.notBefore
  expiresAt := payload.expiresAt
  keyId := payload.keyId
  signature := signature

/-- `AuthorizationGrantPayloadBase`. -/
def AuthorizationGrantPayload.base : Schema AuthorizationGrantPayload :=
  strictObject ["$schema", "grant_id", "principal", "subject", "scopes",
      "constraints", "not_before", "expires_at", "key_id"] fun members =>
    field "$schema" (literal GRANT_SCHEMA_ID) members *>
      (AuthorizationGrantPayload.mk <$>
        field "grant_id"
          (string.regex GRANT_ID_REGEX "must match grant:<ULID>") members <*>
        field "principal" PrincipalId members <*>
        field "subject" AgentId members <*>
        field "scopes" (Scope.array 1 (some 64)) members <*>
        field "constraints" (Constraint.schema.array 0 (some 16)).optional
          members <*>
        field "not_before" Rfc3339Utc members <*>
        field "expires_at" Rfc3339Utc members <*>
        field "key_id" KeyId members)

/-- The schema `AuthorizationGrantPayload`; its rules read no signature. -/
def AuthorizationGrantPayload.schema : Schema AuthorizationGrantPayload :=
  AuthorizationGrantPayload.base.superRefine fun payload =>
    grantRules (payload.signed [])

/-- The payload of a grant as a JSON value. -/
def AuthorizationGrantPayload.toJson (payload : AuthorizationGrantPayload) :
    Json :=
  .record
    [("$schema", some (.literal GRANT_SCHEMA_ID)),
      ("grant_id", some (.string payload.grantId)),
      ("principal", some (.string payload.principal)),
      ("subject", some (.string payload.subject)),
      ("scopes", some (.array (payload.scopes.map .string))),
      ("constraints", payload.constraints.map fun constraints =>
        .array (constraints.map Constraint.toJson)),
      ("not_before", some (.string payload.notBefore)),
      ("expires_at", some (.string payload.expiresAt)),
      ("key_id", some (.string payload.keyId))]

structure RevocationPayload where
  revocationId : JsString
  revokes : JsString
  revokesType : RevokesType
  reason : RevocationReason
  revokedAt : JsString
  keyId : JsString
  deriving DecidableEq

/-- A payload with a signature. -/
def RevocationPayload.signed (payload : RevocationPayload)
    (signature : JsString) : Revocation where
  revocationId := payload.revocationId
  revokes := payload.revokes
  revokesType := payload.revokesType
  reason := payload.reason
  revokedAt := payload.revokedAt
  keyId := payload.keyId
  signature := signature

/-- `RevocationPayloadBase`. -/
def RevocationPayload.base : Schema RevocationPayload :=
  strictObject ["$schema", "revocation_id", "revokes", "revokes_type",
      "reason", "revoked_at", "key_id"] fun members =>
    field "$schema" (literal REVOCATION_SCHEMA_ID) members *>
      (RevocationPayload.mk <$>
        field "revocation_id"
          (string.regex REVOCATION_ID_REGEX "must match revocation:<ULID>")
          members <*>
        field "revokes" (string.minLength 1) members <*>
        field "revokes_type"
          (enumerationOf [.agent, .grant, .key, .assertion] RevokesType.text)
          members <*>
        field "reason"
          (enumerationOf RevocationReason.all RevocationReason.text)
          members <*>
        field "revoked_at" Rfc3339Utc members <*>
        field "key_id" KeyId members)

/-- The schema `RevocationPayload`; its rules read no signature. -/
def RevocationPayload.schema : Schema RevocationPayload :=
  RevocationPayload.base.superRefine fun payload =>
    revocationRules (payload.signed [])

/-- The payload of a revocation as a JSON value. -/
def RevocationPayload.toJson (payload : RevocationPayload) : Json :=
  .record
    [("$schema", some (.literal REVOCATION_SCHEMA_ID)),
      ("revocation_id", some (.string payload.revocationId)),
      ("revokes", some (.string payload.revokes)),
      ("revokes_type", some (.literal payload.revokesType.text)),
      ("reason", some (.literal payload.reason.text)),
      ("revoked_at", some (.string payload.revokedAt)),
      ("key_id", some (.string payload.keyId))]

def parseOrThrow {α : Type} (schema : Schema α) (input : Option Json)
    (what : String) : Except AgenIdError α :=
  match schema.safeParse input with
  | .ok data => .ok data
  | .error issues => .error (.schemaValidationError
      (units what ++ units " failed schema validation") issues)

end Payloads

/-! ## Signers -/

section Signers

variable [SigningPlatform]

def signBytes (privateKey signingInput : List UInt8) :
    Except AgenIdError (List UInt8) :=
  if privateKey.length ≠ 32 then
    .error (.agenIdError "invalid_seed"
      (units "Ed25519 seed must be exactly 32 bytes"))
  else
    .ok (SigningPlatform.ed25519Sign privateKey signingInput)

/-- `{ ...payload, signature }` for a payload without a signature. -/
def withSignature (signature : JsString) : Json → Json
  | .object members =>
    .object (members ++ [(units "signature", .string signature)])
  | other => other

/-- A payload with the signature of its canonical bytes. -/
def signPayload (privateKey : List UInt8) (payload : Json) :
    Except AgenIdError Json := do
  let signingInput ← signingInputOf payload
  let sig ← signBytes privateKey signingInput
  return withSignature (b64uEncode sig) payload

def signManifestProof (manifestInput : Option Json) (operatorKey : SigningKey)
    (createdAt expiresAt : JsString) : Except AgenIdError ManifestProof := do
  let manifest ← parseOrThrow Manifest.schema manifestInput "Manifest"
  let doc ← parseOrThrow KeyDocument.schema operatorKey.document
    "operator KeyDocument"
  if doc.role ≠ .operator then
    throw (.keyRoleError (units
      "ManifestProof must be signed by an operator key (got role=" ++
        units doc.role.text ++ units ")"))
  if doc.controller ≠ manifest.agentId then
    throw (.keyRoleError (units "operator key controller " ++
      doc.controller ++ units " does not control " ++ manifest.agentId))
  let digest ← manifestDigestHex manifest
  let payload ← parseOrThrow ManifestProofPayload.schema
    (some (ManifestProofPayload.toJson {
      agentId := manifest.agentId
      manifestDigest := digest
      keyId := doc.keyId
      createdAt := createdAt
      expiresAt := expiresAt })) "ManifestProofPayload"
  let signed ← signPayload operatorKey.privateKey payload.toJson
  parseOrThrow ManifestProof.schema (some signed) "ManifestProof"

def signVerificationAssertion (payloadInput : Option Json)
    (authorityKey : SigningKey) :
    Except AgenIdError VerificationAssertion := do
  let payload ← parseOrThrow VerificationAssertionPayload.schema payloadInput
    "VerificationAssertionPayload"
  let doc ← parseOrThrow KeyDocument.schema authorityKey.document
    "authority KeyDocument"
  if doc.role ≠ .authority then
    throw (.keyRoleError (units
      "VerificationAssertion must be signed by an authority key (got role=" ++
        units doc.role.text ++ units ")"))
  if doc.controller ≠ payload.authority then
    throw (.keyRoleError (units "authority key controller " ++
      doc.controller ++ units " != assertion.authority " ++
      payload.authority))
  if doc.keyId ≠ payload.keyId then
    throw (.keyRoleError (units "assertion.key_id " ++ payload.keyId ++
      units " does not name the signing key " ++ doc.keyId))
  let signed ← signPayload authorityKey.privateKey payload.toJson
  parseOrThrow VerificationAssertion.schema (some signed)
    "VerificationAssertion"

def signAuthorizationGrant (payloadInput : Option Json)
    (principalKey : SigningKey) : Except AgenIdError AuthorizationGrant := do
  let payload ← parseOrThrow AuthorizationGrantPayload.schema payloadInput
    "AuthorizationGrantPayload"
  let doc ← parseOrThrow KeyDocument.schema principalKey.document
    "principal KeyDocument"
  if doc.role ≠ .principal then
    throw (.keyRoleError (units
      "AuthorizationGrant must be signed by a principal key (got role=" ++
        units doc.role.text ++ units ")"))
  if doc.controller ≠ payload.principal then
    throw (.keyRoleError (units "principal key controller " ++
      doc.controller ++ units " != grant.principal " ++ payload.principal))
  if doc.keyId ≠ payload.keyId then
    throw (.keyRoleError (units "grant.key_id " ++ payload.keyId ++
      units " does not name the signing key " ++ doc.keyId))
  let signed ← signPayload principalKey.privateKey payload.toJson
  parseOrThrow AuthorizationGrant.schema (some signed) "AuthorizationGrant"

def signRevocation (payloadInput : Option Json) (signingKey : SigningKey) :
    Except AgenIdError Revocation := do
  let payload ← parseOrThrow RevocationPayload.schema payloadInput
    "RevocationPayload"
  let doc ← parseOrThrow KeyDocument.schema signingKey.document
    "revoker KeyDocument"
  let required := REVOKER_ROLE payload.revokesType
  if doc.role ≠ required then
    throw (.keyRoleError (units "revoking a " ++
      units payload.revokesType.text ++ units " requires a " ++
      units required.text ++ units " key (got role=" ++
      units doc.role.text ++ units ")"))
  if doc.keyId ≠ payload.keyId then
    throw (.keyRoleError (units "revocation.key_id " ++ payload.keyId ++
      units " does not name the signing key " ++ doc.keyId))
  let signed ← signPayload signingKey.privateKey payload.toJson
  parseOrThrow Revocation.schema (some signed) "Revocation"

end Signers

end AgenId.Core
