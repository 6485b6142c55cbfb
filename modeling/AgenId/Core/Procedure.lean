import AgenId.Core.Encoding
import AgenId.Core.Lifecycle
import AgenId.Library.Checklist

/-!
# The verification procedures, step by step

Each of the two verifiers follows a checklist: it returns, and it fails with
the code of the first step that fails.  Exactly when every step holds it
succeeds, and no key document passes the steps of two verifiers, which ask
for different roles.
-/

namespace AgenId.Core

open AgenId.Ecma
open AgenId.Library
open AgenId.Validation
open AgenId.Validation.Schema

/-- The code of a failed verification. -/
def VerifyResult.failure : VerifyResult → Option VerifyFailureCode
  | .ok _ _ => none
  | .fail code _ => some code

/-- A member of a value that may be absent. -/
def memberOf (name : String) (input : Option Json) : Option Json :=
  input.bind (Json.get? (units name))

section Procedures

variable [Platform]

/-- An instant is not before another. -/
def NotBefore (text earlier : JsString) : Prop :=
  ∃ instant first, dateParse text = some instant ∧
    dateParse earlier = some first ∧ first ≤ instant

/-! ## The steps -/

/-- The steps of the verification of a manifest proof on documents that are
accepted. -/
def proofBindingSteps (proofInput manifestInput : Option Json)
    (proof : ManifestProof) (manifest : Manifest) (key : KeyDocument)
    (now : JsString) : List (Prop × VerifyFailureCode) :=
  [(manifestDigest manifest = proof.manifestDigest ∧
      manifest.agentId = proof.agentId ∧
      memberOf "manifest_version" manifestInput =
        memberOf "manifest_version" proofInput,
      .manifestDigestMismatch),
    (key.keyId = proof.keyId, .keyIdMismatch),
    (key.role = .operator, .keyRoleMismatch),
    (key.controller = proof.agentId, .keyControllerMismatch),
    (keyActiveAt key proof.createdAt = true, .keyNotActiveAtSigningTime),
    (NotBefore now proof.createdAt, .notYetValid),
    (NotBefore proof.expiresAt now, .expired),
    (Signed key proof.toJson proof.signature, .signatureInvalid)]

/-- The steps of the verification of a manifest proof. -/
def proofSteps (proofInput manifestInput keyInput : Option Json)
    (now : JsString) : List (Prop × VerifyFailureCode) :=
  let isProof := ManifestProof.schema.accepts proofInput
  let isManifest := Manifest.schema.accepts manifestInput
  let isKey := KeyDocument.schema.accepts keyInput
  (isProof.isSome = true, .schemaInvalid) ::
    (isManifest.isSome = true, .schemaInvalid) ::
    (isKey.isSome = true, .schemaInvalid) ::
  match isProof, isManifest, isKey with
  | some proof, some manifest, some key =>
    proofBindingSteps proofInput manifestInput proof manifest key now
  | _, _, _ => []

/-- The steps of the check against the manifest under evaluation. -/
def applicabilitySteps (assertion : VerificationAssertion)
    (currentManifest : Option Json) : List (Prop × VerifyFailureCode) :=
  match currentManifest with
  | none => []
  | some _ =>
    let isManifest := Manifest.schema.accepts currentManifest
    [(isManifest.isSome = true, .schemaInvalid),
      (isManifest.map manifestDigest = some assertion.manifestDigest,
        .assertionNotApplicableToCurrentManifest)]

/-- The steps of the verification of an assertion on documents that are
accepted. -/
def assertionBindingSteps (assertion : VerificationAssertion)
    (key : KeyDocument) (now : JsString) (currentManifest : Option Json) :
    List (Prop × VerifyFailureCode) :=
  [(key.keyId = assertion.keyId, .keyIdMismatch),
    (key.role = .authority, .keyRoleMismatch),
    (key.controller = assertion.authority, .keyControllerMismatch),
    (keyActiveAt key assertion.verifiedAt = true,
      .keyNotActiveAtSigningTime),
    (NotBefore now assertion.verifiedAt, .notYetValid),
    (NotBefore assertion.expiresAt now, .expired),
    (Signed key assertion.toJson assertion.signature, .signatureInvalid)] ++
  applicabilitySteps assertion currentManifest

/-- The steps of the verification of an assertion. -/
def assertionSteps (assertionInput keyInput : Option Json) (now : JsString)
    (currentManifest : Option Json) : List (Prop × VerifyFailureCode) :=
  let isAssertion := VerificationAssertion.schema.accepts assertionInput
  let isKey := KeyDocument.schema.accepts keyInput
  (isAssertion.isSome = true, .schemaInvalid) ::
    (isKey.isSome = true, .schemaInvalid) ::
  match isAssertion, isKey with
  | some assertion, some key =>
    assertionBindingSteps assertion key now currentManifest
  | _, _ => []

/-! ## The verifiers follow their steps -/

theorem dateLess_iff_not_notBefore
    {text earlier : JsString} (isInstant : (dateParse text).isSome)
    (isEarlier : (dateParse earlier).isSome) :
    dateLess (dateParse text) (dateParse earlier) = true ↔
      ¬ NotBefore text earlier := by
  obtain ⟨instant, parsed⟩ := Option.isSome_iff_exists.mp isInstant
  obtain ⟨first, parsedEarlier⟩ := Option.isSome_iff_exists.mp isEarlier
  simp [NotBefore, parsed, parsedEarlier]

omit [Platform] in
theorem memberOf_of_accepted_literal
    {name expected : String} {members : Members} {value : Unit}
    (accepted :
      (field name (literal expected) members).accepted = some value) :
    memberOf name (some (.object members)) = some (.literal expected) := by
  rw [accepted_field] at accepted
  exact accepts_literal_eq_some accepted

/-- Accepted proofs and manifests are of the same version. -/
theorem memberOf_manifest_version
    {proofInput manifestInput : Option Json} {proof : ManifestProof}
    {manifest : Manifest}
    (isProof : ManifestProof.schema.accepts proofInput = some proof)
    (isManifest : Manifest.schema.accepts manifestInput = some manifest) :
    memberOf "manifest_version" manifestInput =
      memberOf "manifest_version" proofInput := by
  have ofManifest : memberOf "manifest_version" manifestInput =
      some (.literal "1.0") := by
    obtain ⟨members, rfl, -, fields⟩ :=
      accepts_strictObject_eq_some_iff.mp isManifest
    obtain ⟨⟨_, isVersion⟩, -⟩ :=
      Parse.accepted_seqRight_eq_some_iff.mp fields
    exact memberOf_of_accepted_literal isVersion
  have ofProof : memberOf "manifest_version" proofInput =
      some (.literal "1.0") := by
    obtain ⟨isProof, -⟩ := accepts_check_eq_some_iff.mp isProof
    obtain ⟨members, rfl, -, fields⟩ :=
      accepts_strictObject_eq_some_iff.mp isProof
    simp only [Parse.accepted_seq_eq_some_iff,
      Parse.accepted_seqLeft_eq_some_iff,
      Parse.accepted_seqRight_eq_some_iff] at fields
    obtain ⟨-, _, -, _, ⟨_, -, _, ⟨_, -, _, ⟨_, -, _, ⟨_, -, _,
      ⟨-, _, isVersion⟩, -⟩, -⟩, -⟩, -⟩, -⟩ := fields
    exact memberOf_of_accepted_literal isVersion
  rw [ofManifest, ofProof]

theorem verifyParsedProof_follows
    (proofInput manifestInput : Option Json) (proof : ManifestProof)
    (manifest : Manifest) (key : KeyDocument) (now : JsString)
    (sameVersion : memberOf "manifest_version" manifestInput =
      memberOf "manifest_version" proofInput)
    (nowParses : (dateParse now).isSome)
    (ordered : dateLess (dateParse proof.createdAt)
      (dateParse proof.expiresAt) = true) :
    Follows VerifyResult.failure
      (proofBindingSteps proofInput manifestInput proof manifest key now)
      (verifyParsedProof proof manifest key now) := by
  obtain ⟨first, last, isFirst, isLast, -⟩ := dateLess_eq_true_iff.mp ordered
  have createdParses : (dateParse proof.createdAt).isSome := by
    simp [isFirst]
  have expiresParses : (dateParse proof.expiresAt).isSome := by
    simp [isLast]
  unfold verifyParsedProof proofBindingSteps
  rw [manifestDigestHex_eq, signatureVerifies_eq (inDomain_ManifestProof proof)]
  simp only [except_ok_bind]
  refine Follows.guard ?_ rfl ?_
  · rw [not_and_or, not_and_or]
    simp [sameVersion]
  refine Follows.guard Iff.rfl rfl ?_
  refine Follows.guard Iff.rfl rfl ?_
  refine Follows.guard Iff.rfl rfl ?_
  refine Follows.guard (by simp) rfl ?_
  refine Follows.guard
    (dateLess_iff_not_notBefore nowParses createdParses) rfl ?_
  refine Follows.guard
    (dateLess_iff_not_notBefore expiresParses nowParses) rfl ?_
  refine Follows.guard (by simp [Signed]) rfl ?_
  exact follows_nil rfl

theorem verifyManifestProof_follows
    (proofInput manifestInput keyInput : Option Json) {now : JsString}
    (nowParses : (dateParse now).isSome) :
    Follows VerifyResult.failure
      (proofSteps proofInput manifestInput keyInput now)
      (verifyManifestProof proofInput manifestInput keyInput now) := by
  unfold verifyManifestProof proofSteps safeParse
  dsimp only
  cases isProof : ManifestProof.schema.accepts proofInput with
  | none => exact follows_of_fails (by simp) rfl
  | some proof =>
      refine Follows.known rfl ?_
      cases isManifest : Manifest.schema.accepts manifestInput with
      | none => exact follows_of_fails (by simp) rfl
      | some manifest =>
          refine Follows.known rfl ?_
          cases isKey : KeyDocument.schema.accepts keyInput with
          | none => exact follows_of_fails (by simp) rfl
          | some key =>
              refine Follows.known rfl ?_
              exact verifyParsedProof_follows proofInput manifestInput proof
                manifest key now
                (memberOf_manifest_version isProof isManifest) nowParses
                (ManifestProof.ordered isProof)

theorem applicability_follows
    (assertion : VerificationAssertion) (currentManifest : Option Json) :
    Follows VerifyResult.failure
      (applicabilitySteps assertion currentManifest)
      (applicability assertion currentManifest) := by
  unfold applicability applicabilitySteps safeParse
  cases currentManifest with
  | none => exact follows_nil rfl
  | some value =>
      dsimp only
      cases isManifest : Manifest.schema.accepts (some value) with
      | none => exact follows_of_fails (by simp) rfl
      | some manifest =>
          refine Follows.known rfl ?_
          dsimp only
          rw [manifestDigestHex_eq, except_ok_bind]
          exact Follows.guard (by simp) rfl (follows_nil rfl)

theorem verifyParsedAssertion_follows
    (assertion : VerificationAssertion) (key : KeyDocument) (now : JsString)
    (currentManifest : Option Json) (nowParses : (dateParse now).isSome)
    (ordered : dateLess (dateParse assertion.verifiedAt)
      (dateParse assertion.expiresAt) = true) :
    Follows VerifyResult.failure
      (assertionBindingSteps assertion key now currentManifest)
      (verifyParsedAssertion assertion key now currentManifest) := by
  obtain ⟨first, last, isFirst, isLast, -⟩ := dateLess_eq_true_iff.mp ordered
  have verifiedParses : (dateParse assertion.verifiedAt).isSome := by
    simp [isFirst]
  have expiresParses : (dateParse assertion.expiresAt).isSome := by
    simp [isLast]
  unfold verifyParsedAssertion assertionBindingSteps
  rw [signatureVerifies_eq (inDomain_VerificationAssertion assertion)]
  simp only [except_ok_bind, List.cons_append, List.nil_append]
  refine Follows.guard Iff.rfl rfl ?_
  refine Follows.guard Iff.rfl rfl ?_
  refine Follows.guard Iff.rfl rfl ?_
  refine Follows.guard (by simp) rfl ?_
  refine Follows.guard
    (dateLess_iff_not_notBefore nowParses verifiedParses) rfl ?_
  refine Follows.guard
    (dateLess_iff_not_notBefore expiresParses nowParses) rfl ?_
  refine Follows.guard (by simp [Signed]) rfl ?_
  exact applicability_follows assertion currentManifest

theorem verifyVerificationAssertion_follows
    (assertionInput keyInput : Option Json) {now : JsString}
    (currentManifest : Option Json) (nowParses : (dateParse now).isSome) :
    Follows VerifyResult.failure
      (assertionSteps assertionInput keyInput now currentManifest)
      (verifyVerificationAssertion assertionInput keyInput now
        currentManifest) := by
  unfold verifyVerificationAssertion assertionSteps safeParse
  dsimp only
  cases isAssertion :
      VerificationAssertion.schema.accepts assertionInput with
  | none => exact follows_of_fails (by simp) rfl
  | some assertion =>
      refine Follows.known rfl ?_
      cases isKey : KeyDocument.schema.accepts keyInput with
      | none => exact follows_of_fails (by simp) rfl
      | some key =>
          refine Follows.known rfl ?_
          exact verifyParsedAssertion_follows assertion key now
            currentManifest nowParses
            (VerificationAssertion.ordered isAssertion)

/-! ## The states that verifications give -/

/-- A verification gives its claim one state when it succeeds. -/
def Gives (state : ClaimState)
    (outcome : Except AgenIdError VerifyResult) : Prop :=
  ∀ given details, outcome = .ok (.ok given details) → given = state

omit [Platform] in
theorem Gives.guard
    {state : ClaimState} {broken : Prop} [Decidable broken]
    {code : VerifyFailureCode} {message : JsString}
    {rest : Except AgenIdError VerifyResult} (gives : Gives state rest) :
    Gives state (if broken then .ok (.fail code message) else rest) := by
  intro given details isOk
  by_cases isBroken : broken
  · rw [if_pos isBroken] at isOk
    cases isOk
  · rw [if_neg isBroken] at isOk
    exact gives given details isOk

omit [Platform] in
theorem gives_fail
    {state : ClaimState} {code : VerifyFailureCode} {message : JsString} :
    Gives state (.ok (.fail code message)) := by
  intro given details isOk
  cases isOk

omit [Platform] in
theorem gives_ok {state : ClaimState} {details : Json} :
    Gives state (.ok (.ok state details)) := by
  intro given others isOk
  cases isOk
  rfl

/-- The verification of a manifest proof declares and never verifies. -/
theorem verifyManifestProof_gives
    (proofInput manifestInput keyInput : Option Json) (now : JsString) :
    Gives .declared
      (verifyManifestProof proofInput manifestInput keyInput now) := by
  unfold verifyManifestProof safeParse
  cases ManifestProof.schema.accepts proofInput with
  | none => exact gives_fail
  | some proof =>
      cases Manifest.schema.accepts manifestInput with
      | none => exact gives_fail
      | some manifest =>
          cases KeyDocument.schema.accepts keyInput with
          | none => exact gives_fail
          | some key =>
              dsimp only
              unfold verifyParsedProof
              rw [manifestDigestHex_eq,
                signatureVerifies_eq (inDomain_ManifestProof proof)]
              simp only [except_ok_bind]
              repeat apply Gives.guard
              exact gives_ok

theorem applicability_gives
    (assertion : VerificationAssertion) (currentManifest : Option Json) :
    Gives .verified (applicability assertion currentManifest) := by
  unfold applicability safeParse
  cases currentManifest with
  | none => exact gives_ok
  | some value =>
      dsimp only
      cases Manifest.schema.accepts (some value) with
      | none => exact gives_fail
      | some manifest =>
          dsimp only
          rw [manifestDigestHex_eq, except_ok_bind]
          exact Gives.guard gives_ok

theorem verifyVerificationAssertion_gives
    (assertionInput keyInput : Option Json) (now : JsString)
    (currentManifest : Option Json) :
    Gives .verified (verifyVerificationAssertion assertionInput keyInput now
      currentManifest) := by
  unfold verifyVerificationAssertion safeParse
  cases VerificationAssertion.schema.accepts assertionInput with
  | none => exact gives_fail
  | some assertion =>
      cases KeyDocument.schema.accepts keyInput with
      | none => exact gives_fail
      | some key =>
          dsimp only
          unfold verifyParsedAssertion
          rw [signatureVerifies_eq (inDomain_VerificationAssertion assertion)]
          simp only [except_ok_bind]
          repeat apply Gives.guard
          exact applicability_gives assertion currentManifest

/-! ## Exact acceptance -/

/-- A proof, a manifest and an operator key that belong together at a
clock. -/
def ProofStands (proofInput manifestInput keyInput : Option Json)
    (now : JsString) : Prop :=
  ∃ proof manifest key,
    ManifestProof.schema.accepts proofInput = some proof ∧
    Manifest.schema.accepts manifestInput = some manifest ∧
    KeyDocument.schema.accepts keyInput = some key ∧
    manifestDigest manifest = proof.manifestDigest ∧
    manifest.agentId = proof.agentId ∧
    memberOf "manifest_version" manifestInput =
      memberOf "manifest_version" proofInput ∧
    key.keyId = proof.keyId ∧
    key.role = .operator ∧
    key.controller = proof.agentId ∧
    keyActiveAt key proof.createdAt = true ∧
    InWindow now proof.createdAt proof.expiresAt ∧
    Signed key proof.toJson proof.signature

/-- An assertion and an authority key that belong together at a clock, for
the manifest under evaluation if there is one. -/
def AssertionStands (assertionInput keyInput : Option Json) (now : JsString)
    (currentManifest : Option Json) : Prop :=
  ∃ assertion key,
    VerificationAssertion.schema.accepts assertionInput = some assertion ∧
    KeyDocument.schema.accepts keyInput = some key ∧
    key.keyId = assertion.keyId ∧
    key.role = .authority ∧
    key.controller = assertion.authority ∧
    keyActiveAt key assertion.verifiedAt = true ∧
    InWindow now assertion.verifiedAt assertion.expiresAt ∧
    Signed key assertion.toJson assertion.signature ∧
    Applicable assertion currentManifest

omit [Platform] in
theorem Gives.succeeds_iff
    {state : ClaimState} {outcome : Except AgenIdError VerifyResult}
    (gives : Gives state outcome) :
    (∃ details, outcome = .ok (.ok state details)) ↔ Succeeds outcome := by
  constructor
  · intro ⟨details, isOk⟩
    exact ⟨state, details, isOk⟩
  · intro ⟨given, details, isOk⟩
    obtain rfl := gives given details isOk
    exact ⟨details, isOk⟩

theorem verifyManifestProof_declares_iff
    (proofInput manifestInput keyInput : Option Json) {now : JsString}
    (nowParses : (dateParse now).isSome) :
    (∃ details, verifyManifestProof proofInput manifestInput keyInput now =
        .ok (.ok .declared details)) ↔
      ProofStands proofInput manifestInput keyInput now := by
  rw [(verifyManifestProof_gives proofInput manifestInput keyInput
    now).succeeds_iff, verifyManifestProof_succeeds_iff]
  constructor
  · intro ⟨proof, manifest, key, isProof, isManifest, isKey, bound, admits⟩
    have inWindow := (windowAdmits_iff nowParses
      (ManifestProof.ordered isProof)).mp admits
    exact ⟨proof, manifest, key, isProof, isManifest, isKey, bound.digest,
      bound.agentId, memberOf_manifest_version isProof isManifest,
      bound.keyId, bound.role, bound.controller, bound.active, inWindow,
      bound.signed⟩
  · intro ⟨proof, manifest, key, isProof, isManifest, isKey, digest, agentId,
      _, keyId, role, controller, active, inWindow, signed⟩
    have admits := (windowAdmits_iff nowParses
      (ManifestProof.ordered isProof)).mpr inWindow
    exact ⟨proof, manifest, key, isProof, isManifest, isKey,
      ⟨digest, agentId, keyId, role, controller, active, signed⟩, admits⟩

theorem verifyVerificationAssertion_verifies_iff
    (assertionInput keyInput : Option Json) {now : JsString}
    (currentManifest : Option Json) (nowParses : (dateParse now).isSome) :
    (∃ details, verifyVerificationAssertion assertionInput keyInput now
        currentManifest = .ok (.ok .verified details)) ↔
      AssertionStands assertionInput keyInput now currentManifest := by
  rw [(verifyVerificationAssertion_gives assertionInput keyInput now
    currentManifest).succeeds_iff, verifyVerificationAssertion_succeeds_iff]
  constructor
  · intro ⟨assertion, key, isAssertion, isKey, bound, admits, applicable⟩
    have inWindow := (windowAdmits_iff nowParses
      (VerificationAssertion.ordered isAssertion)).mp admits
    exact ⟨assertion, key, isAssertion, isKey, bound.keyId, bound.role,
      bound.controller, bound.active, inWindow, bound.signed, applicable⟩
  · intro ⟨assertion, key, isAssertion, isKey, keyId, role, controller,
      active, inWindow, signed, applicable⟩
    have admits := (windowAdmits_iff nowParses
      (VerificationAssertion.ordered isAssertion)).mpr inWindow
    exact ⟨assertion, key, isAssertion, isKey,
      ⟨keyId, role, controller, active, signed⟩, admits, applicable⟩

/-! ## One role for each verifier -/

/-- A document is accepted as a key of a role by the verifier that asks for
it, for some object at some clock. -/
def AcceptedAs (keyInput : Option Json) : KeyRole → Prop
  | .operator => ∃ proofInput manifestInput now,
      Succeeds (verifyManifestProof proofInput manifestInput keyInput now)
  | .authority => ∃ assertionInput now currentManifest,
      Succeeds (verifyVerificationAssertion assertionInput keyInput now
        currentManifest)
  | .principal => ∃ grantInput now,
      GrantSucceeds (verifyAuthorizationGrant grantInput keyInput now)

theorem role_of_acceptedAs
    {keyInput : Option Json} {role : KeyRole}
    (accepted : AcceptedAs keyInput role) :
    ∃ key, KeyDocument.schema.accepts keyInput = some key ∧
      key.role = role := by
  cases role with
  | operator =>
      obtain ⟨_, _, _, succeeds⟩ := accepted
      obtain ⟨_, _, key, _, _, isKey, bound, _⟩ :=
        (verifyManifestProof_succeeds_iff _ _ _ _).mp succeeds
      exact ⟨key, isKey, bound.role⟩
  | authority =>
      obtain ⟨_, _, _, succeeds⟩ := accepted
      obtain ⟨_, key, _, isKey, bound, _⟩ :=
        (verifyVerificationAssertion_succeeds_iff _ _ _ _).mp succeeds
      exact ⟨key, isKey, bound.role⟩
  | principal =>
      obtain ⟨_, _, _, isOk⟩ := accepted
      obtain ⟨_, key, _, isKey, bound, _⟩ :=
        verifyAuthorizationGrant_eq_ok_iff.mp isOk
      exact ⟨key, isKey, bound.role⟩

theorem acceptedAs_unique
    {keyInput : Option Json} {role other : KeyRole}
    (accepted : AcceptedAs keyInput role)
    (also : AcceptedAs keyInput other) : role = other := by
  obtain ⟨key, isKey, isRole⟩ := role_of_acceptedAs accepted
  obtain ⟨same, isSame, isOther⟩ := role_of_acceptedAs also
  obtain rfl := Option.some.inj (isKey.symm.trans isSame)
  exact isRole.symm.trans isOther

/-- Each verifier succeeds exactly when its documents stand together,
otherwise fails with the code of the first step that fails, and takes no key
document that another verifier takes. -/
theorem verifiers_accept_exactly
    {now : JsString} (nowParses : (dateParse now).isSome) :
    (∀ proofInput manifestInput keyInput,
      ((∃ details, verifyManifestProof proofInput manifestInput keyInput now =
          .ok (.ok .declared details)) ↔
        ProofStands proofInput manifestInput keyInput now) ∧
      Follows VerifyResult.failure
        (proofSteps proofInput manifestInput keyInput now)
        (verifyManifestProof proofInput manifestInput keyInput now)) ∧
    (∀ assertionInput keyInput currentManifest,
      ((∃ details, verifyVerificationAssertion assertionInput keyInput now
          currentManifest = .ok (.ok .verified details)) ↔
        AssertionStands assertionInput keyInput now currentManifest) ∧
      Follows VerifyResult.failure
        (assertionSteps assertionInput keyInput now currentManifest)
        (verifyVerificationAssertion assertionInput keyInput now
          currentManifest)) ∧
    ∀ keyInput role other, AcceptedAs keyInput role →
      AcceptedAs keyInput other → role = other := by
  refine ⟨?_, ?_, ?_⟩
  · intro proofInput manifestInput keyInput
    exact ⟨verifyManifestProof_declares_iff _ _ _ nowParses,
      verifyManifestProof_follows _ _ _ nowParses⟩
  · intro assertionInput keyInput currentManifest
    exact ⟨verifyVerificationAssertion_verifies_iff _ _ _ nowParses,
      verifyVerificationAssertion_follows _ _ _ nowParses⟩
  · intro keyInput role other
    exact acceptedAs_unique

end Procedures

/-- The sample proof is declared at a clock in its window. -/
theorem verifiers_accept_exactly_sample :
    letI := samplePlatform
    ∃ details, verifyManifestProof (some sampleProof.toJson)
      (some sampleManifest.toJson) (some sampleOperatorKey.toJson)
      (units "2026-10-01T00:00:00Z") = .ok (.ok .declared details) := by
  let := samplePlatform
  have exactly := verifiers_accept_exactly
    (by decide : (dateParse (units "2026-10-01T00:00:00Z")).isSome)
  refine (exactly.1 _ _ _).1.mpr ⟨sampleProof, sampleManifest,
    sampleOperatorKey, sampleProof_accepted, sampleManifest_accepted,
    sampleOperatorKey_accepted, sampleProof_bound.digest, rfl,
    memberOf_manifest_version sampleProof_accepted sampleManifest_accepted,
    rfl, rfl, rfl, sampleProof_bound.active, ?_, sampleProof_bound.signed⟩
  exact ⟨_, _, _, rfl, rfl, rfl, by decide, by decide⟩

end AgenId.Core
