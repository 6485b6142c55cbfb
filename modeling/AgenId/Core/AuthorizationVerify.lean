import AgenId.Core.Authorization
import AgenId.Core.Crypto

/-!
# The authorization decision

`authorization-verify.ts`: verification of revocations and of grants, and the
check that a relying party runs.
-/

namespace AgenId.Core

open AgenId.Ecma
open AgenId.Validation
open AgenId.Validation.Schema

/-! ## Results -/

inductive AuthorizationFailureCode where
  | schemaInvalid
  | keyIdMismatch
  | keyRoleMismatch
  | keyControllerMismatch
  | keyNotActiveAtSigningTime
  | signatureInvalid
  | notYetValid
  | expired
  | grantRevoked
  | subjectMismatch
  | scopeNotGranted
  | constraintNotUnderstood
  | agentNotBoundToSubject
  | agentRevoked
  deriving DecidableEq

/-- What a verified grant says. -/
structure Granted where
  principal : JsString
  subject : JsString
  scopes : List JsString
  constraints : List Constraint
  deriving DecidableEq

inductive GrantVerifyResult where
  | ok (granted : Granted)
  | fail (code : AuthorizationFailureCode) (message : JsString)
  deriving DecidableEq

inductive RevocationVerifyResult where
  | ok (revokes : JsString) (revokesType : RevokesType) (revokedAt : JsString)
  | fail (code : AuthorizationFailureCode) (message : JsString)
  deriving DecidableEq

inductive AuthorizationDecision where
  | permitted | notPermitted | unknown
  deriving DecidableEq

/-- `AuthorizationFailureCode | "registry_unavailable"`. -/
inductive ReasonCode where
  | failure (code : AuthorizationFailureCode)
  | registryUnavailable
  deriving DecidableEq

structure AuthorizationEvaluation where
  decision : AuthorizationDecision
  reasonCode : Option ReasonCode
  message : JsString
  revocationsChecked : Bool
  granted : Option Granted
  obligations : List Constraint
  deriving DecidableEq

/-- `EvaluateAuthorizationInput`.  A member that is not given is absent. -/
structure EvaluateAuthorizationInput where
  grant : Option Json
  principalKey : Option Json
  scope : JsString
  manifest : Option Json
  operatorKey : Option Json
  revocations : Option Json
  revocationKeys : Option Json
  now : JsString

section Verification

variable [Platform]

/-! ## Revocations -/

/-- The text of a failed schema check of a document of a given name. -/
def schemaMessage (name : String) (issues : List Issue) : JsString :=
  units name ++ units ": " ++ issueMessages issues

/-- `verifyRevocation` on documents that their schemas accept. -/
def verifyParsedRevocation (revocation : Revocation) (key : KeyDocument) :
    Except AgenIdError RevocationVerifyResult := do
  if key.keyId ≠ revocation.keyId then
    return .fail .keyIdMismatch (units "revocation.key_id " ++
      revocation.keyId ++ units " != supplied key " ++ key.keyId)
  let required := REVOKER_ROLE revocation.revokesType
  if key.role ≠ required then
    return .fail .keyRoleMismatch (units "revoking a " ++
      units revocation.revokesType.text ++ units " requires role=" ++
      units required.text ++ units ", key has role=" ++ units key.role.text)
  if !keyActiveAt key revocation.revokedAt then
    return .fail .keyNotActiveAtSigningTime
      (units "key was retired/revoked before revoked_at")
  let verifies ←
    signatureVerifies key revocation.toJson revocation.signature
  if !verifies then
    return .fail .signatureInvalid signatureMessage
  return .ok revocation.revokes revocation.revokesType revocation.revokedAt

/-- `verifyRevocation(revocationInput, revokerKeyDoc, opts)`, which does not
read the clock of its options. -/
def verifyRevocation (revocationInput revokerKeyDoc : Option Json) :
    Except AgenIdError RevocationVerifyResult :=
  match Revocation.schema.safeParse revocationInput with
  | .error issues =>
    .ok (.fail .schemaInvalid (schemaMessage "Revocation" issues))
  | .ok revocation =>
    match KeyDocument.schema.safeParse revokerKeyDoc with
    | .error issues =>
      .ok (.fail .schemaInvalid (schemaMessage "KeyDocument" issues))
    | .ok key => verifyParsedRevocation revocation key

/-! ## Grants -/

/-- `verifyAuthorizationGrant` on documents that their schemas accept. -/
def verifyParsedGrant (grant : AuthorizationGrant) (key : KeyDocument)
    (nowText : JsString) : Except AgenIdError GrantVerifyResult := do
  if key.keyId ≠ grant.keyId then
    return .fail .keyIdMismatch (units "grant.key_id " ++ grant.keyId ++
      units " != supplied key " ++ key.keyId)
  if key.role ≠ .principal then
    return .fail .keyRoleMismatch (units
      "AuthorizationGrant requires role=principal, key has role=" ++
        units key.role.text)
  if key.controller ≠ grant.principal then
    return .fail .keyControllerMismatch (units "key controller " ++
      key.controller ++ units " != grant.principal " ++ grant.principal)
  if !keyActiveAt key grant.notBefore then
    return .fail .keyNotActiveAtSigningTime
      (units "principal key was retired/revoked before not_before")
  let verifies ← signatureVerifies key grant.toJson grant.signature
  if !verifies then
    return .fail .signatureInvalid signatureMessage
  let now := dateParse nowText
  if dateLess now (dateParse grant.notBefore) then
    return .fail .notYetValid (units "now < not_before")
  if dateLess (dateParse grant.expiresAt) now then
    return .fail .expired (units "now > expires_at")
  return .ok {
    principal := grant.principal
    subject := grant.subject
    scopes := grant.scopes
    constraints := grant.constraints.getD [] }

def verifyAuthorizationGrant (grantInput principalKeyDoc : Option Json)
    (now : JsString) : Except AgenIdError GrantVerifyResult :=
  match AuthorizationGrant.schema.safeParse grantInput with
  | .error issues =>
    .ok (.fail .schemaInvalid (schemaMessage "AuthorizationGrant" issues))
  | .ok grant =>
    match KeyDocument.schema.safeParse principalKeyDoc with
    | .error issues =>
      .ok (.fail .schemaInvalid (schemaMessage "KeyDocument" issues))
    | .ok key => verifyParsedGrant grant key now

/-! ## The decision -/

/-- `Array.isArray(input.revocations)`. -/
def EvaluateAuthorizationInput.revocationsChecked
    (input : EvaluateAuthorizationInput) : Bool :=
  (input.revocations.bind Json.items?).isSome

/-- An evaluation that grants nothing. -/
def EvaluateAuthorizationInput.refuse (input : EvaluateAuthorizationInput)
    (decision : AuthorizationDecision) (reasonCode : ReasonCode)
    (message : JsString) : AuthorizationEvaluation where
  decision := decision
  reasonCode := some reasonCode
  message := message
  revocationsChecked := input.revocationsChecked
  granted := none
  obligations := []

/-- The binding of the actor to the grant's subject: the refusal it ends in,
if it does. -/
def bindActor (input : EvaluateAuthorizationInput) (verified : Granted) :
    Option AuthorizationEvaluation :=
  if input.manifest = none ∧ input.operatorKey = none then
    none
  else
    match Manifest.schema.safeParse input.manifest,
        KeyDocument.schema.safeParse input.operatorKey with
    | .ok manifest, .ok operatorKey =>
      if manifest.agentId ≠ verified.subject then
        some (input.refuse .notPermitted (.failure .subjectMismatch)
          (units "grant authorizes " ++ verified.subject ++
            units ", but the presented agent is " ++ manifest.agentId))
      else if operatorKey.role ≠ .operator ∨
          operatorKey.controller ≠ manifest.agentId then
        some (input.refuse .notPermitted (.failure .agentNotBoundToSubject)
          (units "operator key does not control the presented agent"))
      else
        none
    | _, _ =>
      some (input.refuse .unknown (.failure .schemaInvalid)
        (units "manifest and operator key must both be supplied and " ++
          units "valid to bind the actor to the grant"))

/-- The text of a decision against a revoked grant or agent. -/
def revokedMessage (what : String) (revocation : Revocation) : JsString :=
  units what ++ units " was revoked at " ++ revocation.revokedAt ++
    units " (" ++ units revocation.reason.text ++ units ")"

/-- `input.revocationKeys?.[keyId]`. -/
def EvaluateAuthorizationInput.revocationKey
    (input : EvaluateAuthorizationInput) (keyId : JsString) : Option Json :=
  input.revocationKeys.bind (Json.get? keyId)

/-- The part of the loop body that follows a verified revocation: the refusal
it ends in, if it does. -/
def standing (input : EvaluateAuthorizationInput) (verified : Granted)
    (revocation : Revocation) (key : KeyDocument) :
    Option AuthorizationEvaluation :=
  let grantId := match AuthorizationGrant.schema.safeParse input.grant with
    | .ok grant => some grant.grantId
    | .error _ => none
  let effective :=
    dateAtLeast (dateParse input.now) (dateParse revocation.revokedAt)
  if revocation.revokesType = .grant ∧ grantId = some revocation.revokes then
    if key.controller ≠ verified.principal then none
    else if effective then
      some (input.refuse .notPermitted (.failure .grantRevoked)
        (revokedMessage "grant" revocation))
    else none
  else if revocation.revokesType = .agent ∧
      revocation.revokes = verified.subject then
    if key.controller ≠ verified.subject then none
    else if effective then
      some (input.refuse .notPermitted (.failure .agentRevoked)
        (revokedMessage "agent" revocation))
    else none
  else
    none

/-- One turn of the loop over the revocations: the refusal it ends in, if it
does, and nothing when the loop goes on. -/
def considerRevocation (input : EvaluateAuthorizationInput)
    (verified : Granted) (rInput : Json) :
    Except AgenIdError (Option AuthorizationEvaluation) :=
  match Revocation.schema.safeParse (some rInput) with
  | .error _ => .ok none
  | .ok revocation =>
    match input.revocationKey revocation.keyId with
    | none =>
      .ok (some (input.refuse .unknown .registryUnavailable
        (units "a revocation names key " ++ revocation.keyId ++
          units ", whose key document was not supplied; cannot " ++
          units "determine revocation status")))
    | some keyDoc => do
      let rv ← verifyRevocation (some revocation.toJson) (some keyDoc)
      match rv with
      | .fail _ _ => return none
      | .ok _ _ _ =>
        match KeyDocument.schema.safeParse (some keyDoc) with
        | .error _ => return none
        | .ok key => return standing input verified revocation key

/-- The loop over the revocations. -/
def considerRevocations (input : EvaluateAuthorizationInput)
    (verified : Granted) :
    List Json → Except AgenIdError (Option AuthorizationEvaluation)
  | [] => .ok none
  | rInput :: rest => do
    match ← considerRevocation input verified rInput with
    | some evaluation => return some evaluation
    | none => considerRevocations input verified rest

/-- What follows the revocations: constraints and scope. -/
def decideScope (input : EvaluateAuthorizationInput) (verified : Granted) :
    AuthorizationEvaluation :=
  match verified.constraints.find? fun constraint =>
      constraint.type ∉ UNDERSTOOD_CONSTRAINTS with
  | some constraint =>
    input.refuse .notPermitted (.failure .constraintNotUnderstood)
      (units "grant carries a constraint this verifier does not " ++
        units "understand: " ++ units constraint.type)
  | none =>
    if input.scope ∉ verified.scopes then
      { input.refuse .notPermitted (.failure .scopeNotGranted)
          (units "grant does not include scope " ++ quote input.scope) with
        granted := some verified }
    else
      { decision := .permitted
        reasonCode := none
        message := units "scope " ++ input.scope ++ units " is granted to " ++
          verified.subject ++ units " by " ++ verified.principal
        revocationsChecked := input.revocationsChecked
        granted := some verified
        obligations := verified.constraints }

def evaluateAuthorization (input : EvaluateAuthorizationInput) :
    Except AgenIdError AuthorizationEvaluation := do
  match ← verifyAuthorizationGrant input.grant input.principalKey
      input.now with
  | .fail code message =>
    return input.refuse .notPermitted (.failure code) message
  | .ok verified =>
    match bindActor input verified with
    | some evaluation => return evaluation
    | none =>
      match input.revocations.bind Json.items? with
      | none => return decideScope input verified
      | some revocations =>
        match ← considerRevocations input verified revocations with
        | some evaluation => return evaluation
        | none => return decideScope input verified

end Verification

end AgenId.Core
