import AgenId.Core.Accepted
import AgenId.Core.Jcs

/-!
# Signatures and verification

`crypto.ts`: the one signing construction of the protocol, and the procedures
that verify a manifest proof and a verification assertion.  A verification
may throw only through canonicalization, and does not: a document that its
schema accepts is always canonicalizable.
-/

namespace AgenId.Core

open AgenId.Ecma
open AgenId.Validation
open AgenId.Validation.Schema

/-! ## Bytes -/

/-- The value of a digit of base64 or base64url. -/
def sextet? (unit : UInt16) : Option Nat :=
  if within 'A' 'Z' unit then some (unit.toNat - 0x41)
  else if within 'a' 'z' unit then some (unit.toNat - 0x47)
  else if within '0' '9' unit then some (unit.toNat + 0x04)
  else if isOneOf ['+', '-'] unit then some 62
  else if isOneOf ['/', '_'] unit then some 63
  else none

/-- The bytes of a sequence of sextets; bits beyond the last byte are
dropped. -/
def bytesOfSextets : List Nat → List UInt8
  | first :: second :: third :: fourth :: rest =>
    UInt8.ofNat (first * 4 + second / 16) ::
      UInt8.ofNat (second % 16 * 16 + third / 4) ::
      UInt8.ofNat (third % 4 * 64 + fourth) :: bytesOfSextets rest
  | [first, second, third] =>
    [UInt8.ofNat (first * 4 + second / 16),
      UInt8.ofNat (second % 16 * 16 + third / 4)]
  | [first, second] => [UInt8.ofNat (first * 4 + second / 16)]
  | _ => []

def b64uDecode (text : JsString) : List UInt8 :=
  bytesOfSextets ((text.takeWhile (· != 0x3D)).filterMap sextet?)

def hex (bytes : List UInt8) : JsString :=
  bytes.flatMap fun byte =>
    [hexUnit (byte.toNat / 0x10), hexUnit (byte.toNat % 0x10)]

/-- An object without one of its members. -/
def omitMember (name : String) : Json → Json
  | .object members =>
    .object (members.filter fun entry => entry.1 ≠ units name)
  | other => other

def signingInputOf (signedOrPayload : Json) :
    Except AgenIdError (List UInt8) :=
  canonicalizeToBytes (.ofJson (omitMember "signature" signedOrPayload))

section Verification

variable [Platform]

def verifyBytes (publicKey signingInput signature : List UInt8) : Bool :=
  if signature.length ≠ 64 then false
  else if publicKey.length ≠ 32 then false
  else Platform.ed25519Verify publicKey signingInput signature

def manifestDigestHex (manifest : Manifest) : Except AgenIdError JsString := do
  let bytes ← canonicalizeToBytes (.ofJson manifest.toJson)
  return hex (Platform.sha256 bytes)

/-! ## Results -/

inductive VerifyFailureCode where
  | schemaInvalid
  | manifestDigestMismatch
  | assertionNotApplicableToCurrentManifest
  | keyIdMismatch
  | keyRoleMismatch
  | keyControllerMismatch
  | keyNotActiveAtSigningTime
  | notYetValid
  | expired
  | signatureInvalid
  deriving DecidableEq

/-- The spelling of a code. -/
def VerifyFailureCode.text : VerifyFailureCode → String
  | .schemaInvalid => "schema_invalid"
  | .manifestDigestMismatch => "manifest_digest_mismatch"
  | .assertionNotApplicableToCurrentManifest =>
    "assertion_not_applicable_to_current_manifest"
  | .keyIdMismatch => "key_id_mismatch"
  | .keyRoleMismatch => "key_role_mismatch"
  | .keyControllerMismatch => "key_controller_mismatch"
  | .keyNotActiveAtSigningTime => "key_not_active_at_signing_time"
  | .notYetValid => "not_yet_valid"
  | .expired => "expired"
  | .signatureInvalid => "signature_invalid"

/-- The state that a successful verification gives a claim. -/
inductive ClaimState where
  | declared | verified
  deriving DecidableEq

inductive VerifyResult where
  | ok (claimState : ClaimState) (details : Json)
  | fail (code : VerifyFailureCode) (message : JsString)

/-- `result.ok`. -/
def VerifyResult.isOk : VerifyResult → Bool
  | .ok _ _ => true
  | .fail _ _ => false

/-- `fail("schema_invalid", …)` for a document of a given name. -/
def schemaFailure (name : String) (issues : List Issue) : VerifyResult :=
  .fail .schemaInvalid (units name ++ units ": " ++ issueMessages issues)

def keyActiveAt (key : KeyDocument) (atIso : JsString) : Bool :=
  let instant := dateParse atIso
  if key.revokedAt.any fun text => dateAtLeast instant (dateParse text) then
    false
  else if key.retiredAt.any fun text =>
      dateAtLeast instant (dateParse text) then
    false
  else if key.status = .revoked ∧ key.revokedAt = none then
    false
  else
    true

/-- The signature check that closes every verification. -/
def signatureVerifies (key : KeyDocument) (signed : Json)
    (signature : JsString) : Except AgenIdError Bool := do
  let signingInput ← signingInputOf signed
  return verifyBytes (b64uDecode key.publicKeyB64u) signingInput
    (b64uDecode signature)

/-- The text of a failed signature check. -/
def signatureMessage : JsString :=
  units "Ed25519 signature does not verify over canonical payload"

/-! ## Manifest proofs -/

/-- `verifyManifestProof` on documents that their schemas accept. -/
def verifyParsedProof (proof : ManifestProof) (manifest : Manifest)
    (key : KeyDocument) (nowText : JsString) :
    Except AgenIdError VerifyResult := do
  -- Step 2; `manifest_version` is the literal 1.0 in both documents.
  let digest ← manifestDigestHex manifest
  if digest ≠ proof.manifestDigest ∨ manifest.agentId ≠ proof.agentId then
    return .fail .manifestDigestMismatch (units
      "manifest does not match the digest/agent/version bound by this proof")
  -- Step 3.
  if key.keyId ≠ proof.keyId then
    return .fail .keyIdMismatch (units "proof.key_id " ++ proof.keyId ++
      units " != supplied key " ++ key.keyId)
  if key.role ≠ .operator then
    return .fail .keyRoleMismatch (units
      "ManifestProof requires role=operator, key has role=" ++
        units key.role.text)
  if key.controller ≠ proof.agentId then
    return .fail .keyControllerMismatch (units "key controller " ++
      key.controller ++ units " != " ++ proof.agentId)
  -- Step 4.
  if !keyActiveAt key proof.createdAt then
    return .fail .keyNotActiveAtSigningTime
      (units "key was retired/revoked before proof.created_at")
  -- Step 5.
  let now := dateParse nowText
  if dateLess now (dateParse proof.createdAt) then
    return .fail .notYetValid (units "now < created_at")
  if dateLess (dateParse proof.expiresAt) now then
    return .fail .expired (units "now > expires_at")
  -- Step 6.
  let verifies ← signatureVerifies key proof.toJson proof.signature
  if !verifies then
    return .fail .signatureInvalid signatureMessage
  return .ok .declared (.record
    [("agent_id", some (.string proof.agentId)),
      ("manifest_digest", some (.string digest))])

def verifyManifestProof
    (proofInput manifestInput operatorKeyDoc : Option Json)
    (now : JsString) : Except AgenIdError VerifyResult :=
  match ManifestProof.schema.safeParse proofInput with
  | .error issues => .ok (schemaFailure "ManifestProof" issues)
  | .ok proof =>
    match Manifest.schema.safeParse manifestInput with
    | .error issues => .ok (schemaFailure "Manifest" issues)
    | .ok manifest =>
      match KeyDocument.schema.safeParse operatorKeyDoc with
      | .error issues => .ok (schemaFailure "KeyDocument" issues)
      | .ok key => verifyParsedProof proof manifest key now

/-! ## Verification assertions -/

/-- The last step of `verifyVerificationAssertion`: whether the assertion is
bound to the manifest under evaluation, when there is one. -/
def applicability (assertion : VerificationAssertion)
    (currentManifest : Option Json) : Except AgenIdError VerifyResult :=
  let applicable : VerifyResult := .ok .verified (.record
    [("subject", some (.string assertion.subject)),
      ("level", some (.literal assertion.level.text)),
      ("claim", some assertion.claim.toJson),
      ("scope", some (.string assertion.scope)),
      ("authority", some (.string assertion.authority))])
  match currentManifest with
  | none => .ok applicable
  | some _ =>
    match Manifest.schema.safeParse currentManifest with
    | .error issues => .ok (schemaFailure "currentManifest" issues)
    | .ok manifest => do
      let digest ← manifestDigestHex manifest
      if digest ≠ assertion.manifestDigest then
        return .fail .assertionNotApplicableToCurrentManifest
          (units "assertion is bound to a different manifest version")
      return applicable

/-- `verifyVerificationAssertion` on documents that their schemas accept. -/
def verifyParsedAssertion (assertion : VerificationAssertion)
    (key : KeyDocument) (nowText : JsString)
    (currentManifest : Option Json) : Except AgenIdError VerifyResult := do
  -- Step 3'.
  if key.keyId ≠ assertion.keyId then
    return .fail .keyIdMismatch (units "assertion.key_id " ++
      assertion.keyId ++ units " != supplied key " ++ key.keyId)
  if key.role ≠ .authority then
    return .fail .keyRoleMismatch (units
      "VerificationAssertion requires role=authority, key has role=" ++
        units key.role.text)
  if key.controller ≠ assertion.authority then
    return .fail .keyControllerMismatch (units "key controller " ++
      key.controller ++ units " != " ++ assertion.authority)
  -- Step 4.
  if !keyActiveAt key assertion.verifiedAt then
    return .fail .keyNotActiveAtSigningTime
      (units "key was retired/revoked before verified_at")
  -- Step 5'.
  let now := dateParse nowText
  if dateLess now (dateParse assertion.verifiedAt) then
    return .fail .notYetValid (units "now < verified_at")
  if dateLess (dateParse assertion.expiresAt) now then
    return .fail .expired (units "now > expires_at")
  -- Step 6.
  let verifies ← signatureVerifies key assertion.toJson assertion.signature
  if !verifies then
    return .fail .signatureInvalid signatureMessage
  -- Step 2'.
  applicability assertion currentManifest

def verifyVerificationAssertion
    (assertionInput authorityKeyDoc : Option Json) (now : JsString)
    (currentManifest : Option Json) : Except AgenIdError VerifyResult :=
  match VerificationAssertion.schema.safeParse assertionInput with
  | .error issues => .ok (schemaFailure "VerificationAssertion" issues)
  | .ok assertion =>
    match KeyDocument.schema.safeParse authorityKeyDoc with
    | .error issues => .ok (schemaFailure "KeyDocument" issues)
    | .ok key => verifyParsedAssertion assertion key now currentManifest

end Verification

end AgenId.Core
