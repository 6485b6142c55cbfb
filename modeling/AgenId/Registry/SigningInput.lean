import AgenId.Registry.Consent

/-!
# Signing inputs of the signed objects

Five kinds of object are signed, each over the canonical bytes of the object
without its signature.  The member `$schema`, which a consent does not have,
keeps the inputs of different kinds apart; within a kind the input determines
every member but the signature.
-/

namespace AgenId.Registry

open AgenId.Core
open AgenId.Ecma
open AgenId.Validation
open AgenId.Validation.Schema

/-! ## Kinds of signed object -/

/-- The kinds of object that are signed. -/
inductive SignedKind where
  | manifestProof
  | verificationAssertion
  | authorizationGrant
  | revocation
  | directoryConsent
  deriving DecidableEq

/-- What the member `$schema` of a kind is, where there is one. -/
def SignedKind.schemaId : SignedKind → Option String
  | .manifestProof => some MANIFEST_PROOF_SCHEMA_ID
  | .verificationAssertion => some ASSERTION_SCHEMA_ID
  | .authorizationGrant => some GRANT_SCHEMA_ID
  | .revocation => some REVOCATION_SCHEMA_ID
  | .directoryConsent => none

theorem SignedKind.eq_of_schemaId
    {first second : SignedKind}
    (same : first.schemaId.map Json.literal =
      second.schemaId.map Json.literal) :
    first = second := by
  have injective : Function.Injective (Option.map Json.string) :=
    Option.map_injective fun _ _ => Json.string.inj
  have sameText : first.schemaId.map units = second.schemaId.map units := by
    apply injective
    rw [Option.map_map, Option.map_map]
    exact same
  clear same
  cases first <;> cases second <;> revert sameText <;> decide

/-- Objects agree on every member but one. -/
def AgreeExcept (name : String) (left right : Json) : Prop :=
  ∀ other, other ≠ units name →
    Option.Rel SameValue (left.get? other) (right.get? other)

section Objects

variable [Platform]

/-- A value is accepted as a signed object of a kind. -/
def SignedKind.Accepts : SignedKind → Json → Prop
  | .manifestProof, value =>
    ∃ proof, ManifestProof.schema.accepts (some value) = some proof
  | .verificationAssertion, value =>
    ∃ assertion,
      VerificationAssertion.schema.accepts (some value) = some assertion
  | .authorizationGrant, value =>
    ∃ grant, AuthorizationGrant.schema.accepts (some value) = some grant
  | .revocation, value =>
    ∃ revocation, Revocation.schema.accepts (some value) = some revocation
  | .directoryConsent, value =>
    ∃ consent, parseConsent (some value) = .ok consent

theorem SignedKind.Accepts.encoded
    {kind : SignedKind} {value : Json} (wellFormed : WellFormed value)
    (accepted : kind.Accepts value) :
    ∃ members, SameValue value (.object members) ∧
      InDomain (.object members) ∧
      members.lookup (units "$schema") = kind.schemaId.map .literal := by
  cases kind with
  | manifestProof =>
      obtain ⟨proof, accepted⟩ := accepted
      exact ⟨_, faithful_ManifestProof.encoded wellFormed accepted,
        inDomain_ManifestProof proof, rfl⟩
  | verificationAssertion =>
      obtain ⟨assertion, accepted⟩ := accepted
      exact ⟨_, faithful_VerificationAssertion.encoded wellFormed accepted,
        inDomain_VerificationAssertion assertion, rfl⟩
  | authorizationGrant =>
      obtain ⟨grant, accepted⟩ := accepted
      exact ⟨_, faithful_AuthorizationGrant.encoded wellFormed accepted,
        inDomain_AuthorizationGrant grant, rfl⟩
  | revocation =>
      obtain ⟨revocation, accepted⟩ := accepted
      exact ⟨_, faithful_Revocation.encoded wellFormed accepted,
        inDomain_Revocation revocation, rfl⟩
  | directoryConsent =>
      obtain ⟨consent, parsed⟩ := accepted
      obtain ⟨isBody, isConsent⟩ := isConsent_of_parseConsent parsed
      obtain rfl := Option.some.inj isBody
      exact ⟨_, isConsent.sameValue, inDomain_DirectoryConsent consent, rfl⟩

/-- A value of a kind is an object in the domain that names its kind. -/
theorem SignedKind.Accepts.object
    {kind : SignedKind} {value : Json} (wellFormed : WellFormed value)
    (accepted : kind.Accepts value) :
    InDomain value ∧ ∃ members, value = .object members ∧
      members.lookup (units "$schema") = kind.schemaId.map .literal := by
  obtain ⟨encoded, same, domain, isSchema⟩ := accepted.encoded wellFormed
  refine ⟨same.inDomain wellFormed domain, ?_⟩
  cases value with
  | object members =>
      have related := sameValue_object_iff.mp same (units "$schema")
      rw [isSchema] at related
      exact ⟨members, rfl, eq_of_rel_literal related⟩
  | null | boolean | number | string | array => cases same

/-- Inputs of one kind are equal exactly when the objects agree on every
member but the signature. -/
theorem signingBytes_eq_iff_agree
    {firstKind secondKind : SignedKind} {first second : Json}
    (firstWellFormed : WellFormed first)
    (firstAccepted : firstKind.Accepts first)
    (secondWellFormed : WellFormed second)
    (secondAccepted : secondKind.Accepts second) :
    signingBytes first = signingBytes second ↔
      AgreeExcept "signature" first second := by
  obtain ⟨firstDomain, firstMembers, rfl, -⟩ :=
    firstAccepted.object firstWellFormed
  obtain ⟨secondDomain, secondMembers, rfl, -⟩ :=
    secondAccepted.object secondWellFormed
  rw [signingBytes_eq_iff firstWellFormed firstDomain secondWellFormed
    secondDomain]
  exact sameValue_omitMember_iff

/-- Objects that agree on every member but the signature are of one kind. -/
theorem kind_eq_of_agree
    {firstKind secondKind : SignedKind} {first second : Json}
    (firstWellFormed : WellFormed first)
    (firstAccepted : firstKind.Accepts first)
    (secondWellFormed : WellFormed second)
    (secondAccepted : secondKind.Accepts second)
    (agree : AgreeExcept "signature" first second) :
    firstKind = secondKind := by
  obtain ⟨-, firstMembers, rfl, isFirst⟩ :=
    firstAccepted.object firstWellFormed
  obtain ⟨-, secondMembers, rfl, isSecond⟩ :=
    secondAccepted.object secondWellFormed
  have related := agree (units "$schema") (by decide)
  simp only [Json.get?] at related
  rw [isSecond] at related
  have sameId := eq_of_rel_literal related
  rw [isFirst] at sameId
  exact SignedKind.eq_of_schemaId sameId

/-- Of two accepted objects both have a signing input; of different kinds the
inputs differ, and of one kind they are equal exactly when the objects agree
on every member but the signature. -/
theorem signing_inputs_separate
    {firstKind secondKind : SignedKind} {first second : Json}
    (firstWellFormed : WellFormed first)
    (firstAccepted : firstKind.Accepts first)
    (secondWellFormed : WellFormed second)
    (secondAccepted : secondKind.Accepts second) :
    ∃ firstInput secondInput,
      signingInputOf first = .ok firstInput ∧
      signingInputOf second = .ok secondInput ∧
      (firstKind ≠ secondKind → firstInput ≠ secondInput) ∧
      (firstKind = secondKind →
        (firstInput = secondInput ↔
          AgreeExcept "signature" first second)) := by
  have firstDomain := (firstAccepted.object firstWellFormed).1
  have secondDomain := (secondAccepted.object secondWellFormed).1
  have sameInput := signingBytes_eq_iff_agree firstWellFormed firstAccepted
    secondWellFormed secondAccepted
  refine ⟨_, _, signingInputOf_eq firstDomain, signingInputOf_eq secondDomain,
    ?_, fun _ => sameInput⟩
  intro different same
  exact different (kind_eq_of_agree firstWellFormed firstAccepted
    secondWellFormed secondAccepted (sameInput.mp same))

end Objects

/-! ## A key of small order -/

/-- The point of order one, published as an operator key. -/
def smallOrderKey : KeyDocument :=
  { sampleOperatorKey with
    publicKeyB64u := units "AQ" ++ List.replicate 41 0x41 }

/-- A signature that verifies over every message under that key. -/
def smallOrderSignature : JsString :=
  units "AQ" ++ List.replicate 84 0x41

/-- The sample proof with that signature. -/
def smallOrderProof : ManifestProof :=
  { sampleProof with signature := smallOrderSignature }

/-- The sample consent with that signature. -/
def smallOrderConsent : DirectoryConsent :=
  let object :=
    [(units "type", .literal DIRECTORY_CONSENT_TYPE),
      (units "agent_id", .string sampleConsent.agentId),
      (units "key_id", .string sampleConsent.keyId),
      (units "listed", .boolean true),
      (units "created_at", .string sampleConsent.createdAt),
      (units "signature", .string smallOrderSignature)]
  { sampleConsent with object := object, signature := smallOrderSignature }

/-- The runtime on the key of small order: both sides of the equation of a
signature are the point of order one, whatever the message is. -/
@[reducible]
def smallOrderPlatform : Platform :=
  { samplePlatform with
    ed25519Verify := fun publicKey _ signature =>
      decide (publicKey = 1 :: List.replicate 31 0 ∧
        signature = 1 :: List.replicate 63 0) }

theorem smallOrderConsent_wellFormed :
    WellFormed (.object smallOrderConsent.object) := by
  refine wellFormed_object.mpr ⟨?_, ?_⟩
  · exact List.nodup_iff_pairwise_ne.mpr (by decide)
  · simp [smallOrderConsent]

/-- One signature verifies over two objects of different kinds. -/
theorem signature_serves_two_kinds :
    letI := smallOrderPlatform
    KeyDocument.schema.accepts (some smallOrderKey.toJson) =
        some smallOrderKey ∧
      ¬ ∀ (firstKind secondKind : SignedKind) (first second : Json),
        WellFormed first → firstKind.Accepts first →
        WellFormed second → secondKind.Accepts second →
        firstKind ≠ secondKind → ∀ signature,
          first.get? (units "signature") = some (.string signature) →
          second.get? (units "signature") = some (.string signature) →
          ∀ firstInput secondInput,
            signingInputOf first = .ok firstInput →
            signingInputOf second = .ok secondInput →
            verifyBytes (b64uDecode smallOrderKey.publicKeyB64u) firstInput
              (b64uDecode signature) = true →
            verifyBytes (b64uDecode smallOrderKey.publicKeyB64u) secondInput
              (b64uDecode signature) = false := by
  let := smallOrderPlatform
  refine ⟨rfl, ?_⟩
  intro separate
  have verifies : ∀ message,
      verifyBytes (b64uDecode smallOrderKey.publicKeyB64u) message
        (b64uDecode smallOrderSignature) = true := by
    intro message
    have keyLength :
        (b64uDecode smallOrderKey.publicKeyB64u).length = 32 := by
      decide
    have signatureLength :
        (b64uDecode smallOrderSignature).length = 64 := by
      decide
    rw [verifyBytes, if_neg (not_not.mpr signatureLength),
      if_neg (not_not.mpr keyLength)]
    exact decide_eq_true ⟨by decide, by decide⟩
  have proofAccepted :
      SignedKind.manifestProof.Accepts smallOrderProof.toJson :=
    ⟨smallOrderProof, rfl⟩
  have consentAccepted :
      SignedKind.directoryConsent.Accepts (.object smallOrderConsent.object) :=
    ⟨smallOrderConsent, rfl⟩
  have consentDomain :=
    (consentAccepted.object smallOrderConsent_wellFormed).1
  have refused := separate _ _ _ _
    (wellFormed_ManifestProof smallOrderProof) proofAccepted
    smallOrderConsent_wellFormed consentAccepted (by decide)
    smallOrderSignature rfl rfl _ _
    (signingInputOf_eq (inDomain_ManifestProof smallOrderProof))
    (signingInputOf_eq consentDomain) (verifies _)
  rw [verifies] at refused
  cases refused

theorem sampleConsent_wellFormed :
    WellFormed (.object sampleConsent.object) := by
  refine wellFormed_object.mpr ⟨?_, ?_⟩
  · exact List.nodup_iff_pairwise_ne.mpr (by decide)
  · simp [sampleConsent]

/-- The sample proof and the sample consent have different inputs, and a
proof has the input of the same proof with another signature. -/
theorem signing_inputs_separate_sample :
    letI := samplePlatform
    ∃ proofInput consentInput,
      signingInputOf sampleProof.toJson = .ok proofInput ∧
      signingInputOf (.object sampleConsent.object) = .ok consentInput ∧
      signingInputOf smallOrderProof.toJson = .ok proofInput ∧
      proofInput ≠ consentInput := by
  let := samplePlatform
  have proofAccepted : SignedKind.manifestProof.Accepts sampleProof.toJson :=
    ⟨sampleProof, rfl⟩
  have consentAccepted :
      SignedKind.directoryConsent.Accepts (.object sampleConsent.object) :=
    ⟨sampleConsent, rfl⟩
  have otherAccepted :
      SignedKind.manifestProof.Accepts smallOrderProof.toJson :=
    ⟨smallOrderProof, rfl⟩
  obtain ⟨proofInput, consentInput, isProof, isConsent, apart, -⟩ :=
    signing_inputs_separate (wellFormed_ManifestProof sampleProof)
      proofAccepted sampleConsent_wellFormed consentAccepted
  obtain ⟨sameInput, otherInput, isSame, isOther, -, alike⟩ :=
    signing_inputs_separate (wellFormed_ManifestProof sampleProof)
      proofAccepted (wellFormed_ManifestProof smallOrderProof) otherAccepted
  obtain rfl := Except.ok.inj (isProof.symm.trans isSame)
  have agree : AgreeExcept "signature" sampleProof.toJson
      smallOrderProof.toJson :=
    sameValue_omitMember_iff.mp ((signingBytes_eq_iff
      (wellFormed_ManifestProof sampleProof)
      (inDomain_ManifestProof sampleProof)
      (wellFormed_ManifestProof smallOrderProof)
      (inDomain_ManifestProof smallOrderProof)).mp rfl)
  obtain rfl := (alike rfl).mpr agree
  exact ⟨_, _, isProof, isConsent, isOther, apart (by decide)⟩

end AgenId.Registry
