import AgenId.Core.WindowSoundness

/-!
# The four kinds of signed object

What the four verifiers have in common: an object is verified under a key
document at a clock, it is dated by one of its members, and all but
revocations have a window.
-/

namespace AgenId.Core

open AgenId.Ecma
open AgenId.Validation
open AgenId.Validation.Schema

/-- An object to be verified, with what its verification reads besides a key
document and the clock. -/
inductive SignedObject where
  | proof (proofInput manifestInput : Option Json)
  | assertion (assertionInput currentManifest : Option Json)
  | grant (grantInput : Option Json)
  | revocation (revocationInput : Option Json)

/-- The result of one of the four verifiers. -/
inductive Verification where
  | declaration (result : VerifyResult)
  | grant (result : GrantVerifyResult)
  | revocation (result : RevocationVerifyResult)

/-- `result.ok`. -/
def Verification.isOk : Verification → Bool
  | .declaration result => result.isOk
  | .grant (.ok _) => true
  | .grant (.fail _ _) => false
  | .revocation (.ok _ _ _) => true
  | .revocation (.fail _ _) => false

/-- Whether the result is the failure of the activity check. -/
def Verification.isInactive : Verification → Bool
  | .declaration (.fail code _) => decide (code = .keyNotActiveAtSigningTime)
  | .grant (.fail code _) => decide (code = .keyNotActiveAtSigningTime)
  | .revocation (.fail code _) => decide (code = .keyNotActiveAtSigningTime)
  | _ => false

section Verification

variable [Platform]

/-- The verification of an object under a key document at a clock. -/
def SignedObject.verify (object : SignedObject) (keyInput : Option Json)
    (now : JsString) : Except AgenIdError Verification :=
  match object with
  | .proof proofInput manifestInput =>
    (verifyManifestProof proofInput manifestInput keyInput now).map
      .declaration
  | .assertion assertionInput currentManifest =>
    (verifyVerificationAssertion assertionInput keyInput now
      currentManifest).map .declaration
  | .grant grantInput =>
    (verifyAuthorizationGrant grantInput keyInput now).map .grant
  | .revocation revocationInput =>
    (verifyRevocation revocationInput keyInput).map .revocation

/-- An object verifies under a key document at a clock. -/
def SignedObject.Verifies (object : SignedObject) (keyInput : Option Json)
    (now : JsString) : Prop :=
  ∃ verification, object.verify keyInput now = .ok verification ∧
    verification.isOk = true

/-- The text of the dating instant of an object that is accepted. -/
def SignedObject.datedAt : SignedObject → Option JsString
  | .proof proofInput _ =>
    (ManifestProof.schema.accepts proofInput).map ManifestProof.createdAt
  | .assertion assertionInput _ =>
    (VerificationAssertion.schema.accepts assertionInput).map
      VerificationAssertion.verifiedAt
  | .grant grantInput =>
    (AuthorizationGrant.schema.accepts grantInput).map
      AuthorizationGrant.notBefore
  | .revocation revocationInput =>
    (Revocation.schema.accepts revocationInput).map Revocation.revokedAt

/-- The window of an object that is accepted; a revocation has none. -/
def SignedObject.window : SignedObject → Option (JsString × JsString)
  | .proof proofInput _ => proofWindow proofInput
  | .assertion assertionInput _ => assertionWindow assertionInput
  | .grant grantInput => grantWindow grantInput
  | .revocation _ => none

omit [Platform] in
theorem exists_map_ok_iff
    {α : Type} (wrap : α → Verification) (outcome : Except AgenIdError α) :
    (∃ verification, outcome.map wrap = .ok verification ∧
        verification.isOk = true) ↔
      ∃ result, outcome = .ok result ∧ (wrap result).isOk = true := by
  cases outcome with
  | error thrown => simp [Except.map]
  | ok result => simp [Except.map]

omit [Platform] in
theorem exists_declaration_iff (outcome : Except AgenIdError VerifyResult) :
    (∃ result, outcome = .ok result ∧
        (Verification.declaration result).isOk = true) ↔
      Succeeds outcome := by
  constructor
  · rintro ⟨result, isResult, isOk⟩
    cases result with
    | ok state details => exact ⟨state, details, isResult⟩
    | fail code message => cases isOk
  · rintro ⟨state, details, isResult⟩
    exact ⟨_, isResult, rfl⟩

theorem verifies_proof_iff
    {proofInput manifestInput keyInput : Option Json} {now : JsString} :
    (SignedObject.proof proofInput manifestInput).Verifies keyInput now ↔
      Succeeds (verifyManifestProof proofInput manifestInput keyInput
        now) :=
  (exists_map_ok_iff _ _).trans (exists_declaration_iff _)

theorem verifies_assertion_iff
    {assertionInput currentManifest keyInput : Option Json}
    {now : JsString} :
    (SignedObject.assertion assertionInput currentManifest).Verifies keyInput
        now ↔
      Succeeds (verifyVerificationAssertion assertionInput keyInput now
        currentManifest) :=
  (exists_map_ok_iff _ _).trans (exists_declaration_iff _)

theorem verifies_grant_iff
    {grantInput keyInput : Option Json} {now : JsString} :
    (SignedObject.grant grantInput).Verifies keyInput now ↔
      GrantSucceeds (verifyAuthorizationGrant grantInput keyInput now) := by
  refine (exists_map_ok_iff _ _).trans ?_
  constructor
  · rintro ⟨result, isResult, isOk⟩
    cases result with
    | ok granted => exact ⟨granted, isResult⟩
    | fail code message => cases isOk
  · rintro ⟨granted, isResult⟩
    exact ⟨_, isResult, rfl⟩

theorem verifies_revocation_iff
    {revocationInput keyInput : Option Json} {now : JsString} :
    (SignedObject.revocation revocationInput).Verifies keyInput now ↔
      ∃ revokes revokesType revokedAt,
        verifyRevocation revocationInput keyInput =
          .ok (.ok revokes revokesType revokedAt) := by
  refine (exists_map_ok_iff _ _).trans ?_
  constructor
  · rintro ⟨result, isResult, isOk⟩
    cases result with
    | ok revokes revokesType revokedAt => exact ⟨_, _, _, isResult⟩
    | fail code message => cases isOk
  · rintro ⟨_, _, _, isResult⟩
    exact ⟨_, isResult, rfl⟩

end Verification

end AgenId.Core
