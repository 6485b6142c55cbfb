import AgenId.Core.AssertionSubject
import AgenId.Core.Encoding
import AgenId.Core.RevocationOrder
import AgenId.Core.SignedObject
import AgenId.Core.Signing

/-!
# What the signers produce verifies

A signed object is the same value as its payload with a signature, so that
its verifier reads back what its signer checked, and both canonicalize to the
same bytes.
-/

namespace AgenId.Core

open AgenId.Ecma
open AgenId.Validation
open AgenId.Validation.Schema

/-! ## base64url -/

theorem sextet_bounds (value : Nat) (small : value < 64) :
    sextet? (sextetUnit value) = some value ∧
      sextetUnit value ≠ 0x3D := by
  have checked : ∀ sextet : Fin 64,
      sextet? (sextetUnit sextet) = some sextet.val ∧
        sextetUnit sextet ≠ 0x3D := by
    decide
  exact checked ⟨value, small⟩

theorem sextetsOfBytes_lt (bytes : List UInt8) :
    ∀ sextet ∈ sextetsOfBytes bytes, sextet < 64 := by
  fun_induction sextetsOfBytes bytes with
  | case1 first second third rest inductionHypothesis =>
      have firstBound := first.toNat_lt
      have secondBound := second.toNat_lt
      have thirdBound := third.toNat_lt
      simp only [List.forall_mem_cons]
      exact ⟨by omega, by omega, by omega, by omega, inductionHypothesis⟩
  | case2 first second =>
      have firstBound := first.toNat_lt
      have secondBound := second.toNat_lt
      simp only [List.forall_mem_cons, List.not_mem_nil, false_implies,
        implies_true, and_true]
      exact ⟨by omega, by omega, by omega⟩
  | case3 first =>
      have firstBound := first.toNat_lt
      simp only [List.forall_mem_cons, List.not_mem_nil, false_implies,
        implies_true, and_true]
      exact ⟨by omega, by omega⟩
  | case4 => simp

theorem bytesOfSextets_sextetsOfBytes (bytes : List UInt8) :
    bytesOfSextets (sextetsOfBytes bytes) = bytes := by
  have byte_eq : ∀ (byte : UInt8) (value : Nat), value = byte.toNat →
      UInt8.ofNat value = byte := by
    intro byte value same
    rw [same, UInt8.ofNat_toNat]
  fun_induction sextetsOfBytes bytes with
  | case1 first second third rest inductionHypothesis =>
      have firstBound := first.toNat_lt
      have secondBound := second.toNat_lt
      have thirdBound := third.toNat_lt
      rw [bytesOfSextets, inductionHypothesis, byte_eq first _ (by omega),
        byte_eq second _ (by omega), byte_eq third _ (by omega)]
  | case2 first second =>
      have firstBound := first.toNat_lt
      have secondBound := second.toNat_lt
      rw [bytesOfSextets, byte_eq first _ (by omega),
        byte_eq second _ (by omega)]
  | case3 first =>
      have firstBound := first.toNat_lt
      rw [bytesOfSextets, byte_eq first _ (by omega)]
  | case4 => rfl

theorem filterMap_sextetUnit
    {sextets : List Nat} (bounded : ∀ sextet ∈ sextets, sextet < 64) :
    (sextets.map sextetUnit).filterMap sextet? = sextets := by
  rw [List.filterMap_map]
  calc
    sextets.filterMap (sextet? ∘ sextetUnit) = sextets.filterMap some := by
      apply List.filterMap_congr
      intro sextet isSextet
      exact (sextet_bounds sextet (bounded sextet isSextet)).1
    _ = sextets := List.filterMap_some

/-- A text written from sextets is decoded from them. -/
theorem b64uDecode_map
    {sextets : List Nat} (bounded : ∀ sextet ∈ sextets, sextet < 64) :
    b64uDecode (sextets.map sextetUnit) = bytesOfSextets sextets := by
  have whole : (sextets.map sextetUnit).takeWhile (· != 0x3D) =
      sextets.map sextetUnit := by
    rw [List.takeWhile_eq_self_iff]
    intro unit isUnit
    obtain ⟨sextet, isSextet, rfl⟩ := List.mem_map.mp isUnit
    exact bne_iff_ne.mpr (sextet_bounds sextet (bounded sextet isSextet)).2
  rw [b64uDecode, whole, filterMap_sextetUnit bounded]

theorem b64uDecode_b64uEncode (bytes : List UInt8) :
    b64uDecode (b64uEncode bytes) = bytes := by
  rw [b64uEncode, b64uDecode_map (sextetsOfBytes_lt bytes),
    bytesOfSextets_sextetsOfBytes]

/-! ## What a signer has checked -/

/-- A guard that throws passes on what follows it. -/
theorem throw_guard_eq_ok_iff
    {ε α β : Type} {condition : Prop} [Decidable condition]
    {thrown : ε} {after : α → Except ε β} {rest : Except ε β} {result : β} :
    (if condition then (throw thrown >>= after) else rest) = .ok result ↔
      ¬ condition ∧ rest = .ok result := by
  by_cases holds : condition
  · simp [holds, throw, throwThe, MonadExceptOf.throw, bind, Except.bind]
  · simp [holds]

theorem parseOrThrow_eq_ok_iff
    [Platform] {α : Type} {schema : Schema α} {input : Option Json}
    {what : String} {data : α} :
    parseOrThrow schema input what = .ok data ↔
      schema.accepts input = some data := by
  unfold parseOrThrow safeParse
  cases schema.accepts input <;> simp

/-! ## Signatures of payloads -/

theorem omitMember_withSignature (signature : JsString) (payload : Json) :
    omitMember "signature" (withSignature signature payload) =
      omitMember "signature" payload := by
  cases payload with
  | object members => simp [withSignature, omitMember]
  | null | boolean | number | string | array => rfl

theorem SameValue.signingBytes_eq
    {left right : Json} (same : SameValue left right)
    (leftWellFormed : WellFormed left) (rightWellFormed : WellFormed right)
    (domain : InDomain right) :
    signingBytes left = signingBytes right := by
  refine (signingBytes_eq_iff leftWellFormed
    (same.inDomain leftWellFormed domain) rightWellFormed domain).mpr ?_
  cases same with
  | object names values =>
      apply sameValue_omitMember_iff.mpr
      intro other _
      exact sameValue_object_iff.mp (.object names values) other
  | null => exact .null
  | boolean value => exact .boolean value
  | number same => exact .number same
  | string text => exact .string text
  | array length items => exact .array length items

section Signers

variable [SigningPlatform]

theorem signPayload_eq_ok_iff
    {seed : List UInt8} {payload signed : Json} (domain : InDomain payload) :
    signPayload seed payload = .ok signed ↔
      seed.length = 32 ∧ signed = withSignature
        (b64uEncode (SigningPlatform.ed25519Sign seed
          (signingBytes payload))) payload := by
  rw [signPayload, signingInputOf_eq domain, except_ok_bind, signBytes]
  by_cases seedLength : seed.length = 32
  · rw [if_neg (not_not.mpr seedLength), except_ok_bind, pure_eq_ok_iff]
    exact ⟨fun same => ⟨seedLength, same.symm⟩, fun same => same.2.symm⟩
  · rw [if_pos seedLength]
    constructor
    · intro impossible
      cases impossible
    · intro signs
      exact absurd signs.1 seedLength

/-- What a signed payload is, and that the signature verifies over every
document that is the same value. -/
theorem signPayload_signed
    (correct : Ed25519Correct) {seed : List UInt8} {payload signed : Json}
    (domain : InDomain payload)
    (signs : signPayload seed payload = .ok signed) :
    ∃ signature, signed = withSignature signature payload ∧
      ∀ (key : KeyDocument) (document : Json),
        b64uDecode key.publicKeyB64u =
          SigningPlatform.ed25519PublicKey seed →
        WellFormed signed → WellFormed document → InDomain document →
        SameValue signed document → Signed key document signature := by
  obtain ⟨seedIs32, rfl⟩ := (signPayload_eq_ok_iff domain).mp signs
  refine ⟨_, rfl, ?_⟩
  intro key document publishes signedWellFormed wellFormed inDomain same
  have sameBytes : signingBytes document = signingBytes payload := by
    rw [← same.signingBytes_eq signedWellFormed wellFormed inDomain,
      signingBytes, omitMember_withSignature]
    rfl
  rw [Signed, b64uDecode_b64uEncode, publishes, sameBytes, verifyBytes,
    if_neg (not_not.mpr (correct.signatureLength _ _ seedIs32)),
    if_neg (not_not.mpr (correct.publicKeyLength _ seedIs32))]
  exact correct.verifies _ _ seedIs32

/-- The document of a signing key publishes the public key of its seed. -/
def SigningKey.Publishes (key : SigningKey) : Prop :=
  ∃ doc, KeyDocument.schema.accepts key.document = some doc ∧
    b64uDecode doc.publicKeyB64u =
      SigningPlatform.ed25519PublicKey key.privateKey

/-- The document of a signing key is active at an instant. -/
def SigningKey.ActiveAt (key : SigningKey) (text : JsString) : Prop :=
  ∃ doc, KeyDocument.schema.accepts key.document = some doc ∧
    keyActiveAt doc text = true

/-! ## Revocations -/

omit [SigningPlatform] in
theorem withSignature_revocation
    (payload : RevocationPayload) (signature : JsString) :
    withSignature signature payload.toJson =
      (payload.signed signature).toJson := rfl

omit [SigningPlatform] in
theorem inDomain_RevocationPayload (payload : RevocationPayload) :
    InDomain payload.toJson := by
  simp [RevocationPayload.toJson]

omit [SigningPlatform] in
theorem RevokesType.eq_of_text
    {first second : RevokesType}
    (same : units first.text = units second.text) : first = second := by
  cases first <;> cases second <;> revert same <;> decide

theorem revocationBound_of_signRevocation
    (correct : Ed25519Correct) {payloadInput : Option Json}
    {key : SigningKey} {revocation : Revocation}
    (signs : signRevocation payloadInput key = .ok revocation)
    (publishes : key.Publishes) :
    ∃ doc, KeyDocument.schema.accepts key.document = some doc ∧
      Revocation.schema.accepts (some revocation.toJson) = some revocation ∧
      (keyActiveAt doc revocation.revokedAt = true →
        RevocationBound revocation doc) := by
  simp only [signRevocation, except_bind_eq_ok_iff, parseOrThrow_eq_ok_iff,
    throw_guard_eq_ok_iff, ne_eq, not_not] at signs
  obtain ⟨payload, -, doc, isDoc, role, keyId, signed, isSigned,
    accepted⟩ := signs
  obtain ⟨other, isOther, isPublished⟩ := publishes
  obtain rfl := Option.some.inj (isDoc.symm.trans isOther)
  obtain ⟨signature, rfl, verifies⟩ := signPayload_signed correct
    (inDomain_RevocationPayload payload) isSigned
  rw [withSignature_revocation] at accepted verifies
  have wellFormed := wellFormed_Revocation (payload.signed signature)
  have same := faithful_Revocation.encoded wellFormed accepted
  have sameSignature : signature = revocation.signature :=
    same.text "signature" rfl rfl
  have sameKeyId : payload.keyId = revocation.keyId :=
    same.text "key_id" rfl rfl
  have sameType : payload.revokesType = revocation.revokesType :=
    RevokesType.eq_of_text
      (same.text "revokes_type" rfl rfl)
  refine ⟨doc, isDoc, rereads_Revocation _ _ accepted, ?_⟩
  intro isActive
  exact {
    keyId := keyId.trans sameKeyId
    role := sameType ▸ role
    active := isActive
    signed := sameSignature ▸ verifies doc _ isPublished wellFormed
      (wellFormed_Revocation revocation) (inDomain_Revocation revocation)
      same }

/-! ## Grants -/

omit [SigningPlatform] in
theorem withSignature_grant
    (payload : AuthorizationGrantPayload) (signature : JsString) :
    withSignature signature payload.toJson =
      (payload.signed signature).toJson := by
  cases isGiven : payload.constraints <;>
    simp [withSignature, AuthorizationGrantPayload.toJson,
      AuthorizationGrantPayload.signed, AuthorizationGrant.toJson,
      Json.record, isGiven]

omit [SigningPlatform] in
theorem inDomain_AuthorizationGrantPayload
    (payload : AuthorizationGrantPayload) : InDomain payload.toJson := by
  simp [AuthorizationGrantPayload.toJson, inDomain_Constraint]

omit [SigningPlatform] in
theorem AuthorizationGrant.get?_signature (grant : AuthorizationGrant) :
    grant.toJson.get? (units "signature") =
      some (.string grant.signature) := by
  cases isGiven : grant.constraints <;>
  · simp only [AuthorizationGrant.toJson, isGiven]
    rfl

omit [SigningPlatform] in
theorem AuthorizationGrant.get?_keyId (grant : AuthorizationGrant) :
    grant.toJson.get? (units "key_id") = some (.string grant.keyId) := by
  cases isGiven : grant.constraints <;>
  · simp only [AuthorizationGrant.toJson, isGiven]
    rfl

theorem grantBound_of_signAuthorizationGrant
    (correct : Ed25519Correct) {payloadInput : Option Json}
    {key : SigningKey} {grant : AuthorizationGrant}
    (signs : signAuthorizationGrant payloadInput key = .ok grant)
    (publishes : key.Publishes) :
    ∃ doc, KeyDocument.schema.accepts key.document = some doc ∧
      AuthorizationGrant.schema.accepts (some grant.toJson) = some grant ∧
      (keyActiveAt doc grant.notBefore = true → GrantBound grant doc) := by
  simp only [signAuthorizationGrant, except_bind_eq_ok_iff,
    parseOrThrow_eq_ok_iff, throw_guard_eq_ok_iff, ne_eq, not_not] at signs
  obtain ⟨payload, -, doc, isDoc, role, controller, keyId, signed, isSigned,
    accepted⟩ := signs
  obtain ⟨other, isOther, isPublished⟩ := publishes
  obtain rfl := Option.some.inj (isDoc.symm.trans isOther)
  obtain ⟨signature, rfl, verifies⟩ := signPayload_signed correct
    (inDomain_AuthorizationGrantPayload payload) isSigned
  rw [withSignature_grant] at accepted verifies
  have wellFormed := wellFormed_AuthorizationGrant (payload.signed signature)
  have same := faithful_AuthorizationGrant.encoded wellFormed accepted
  have sameSignature : signature = grant.signature :=
    same.text "signature"
      (AuthorizationGrant.get?_signature _)
      (AuthorizationGrant.get?_signature _)
  have sameKeyId : payload.keyId = grant.keyId :=
    same.text "key_id" (AuthorizationGrant.get?_keyId _)
      (AuthorizationGrant.get?_keyId _)
  have samePrincipal : payload.principal = grant.principal :=
    same.text "principal" rfl rfl
  refine ⟨doc, isDoc, rereads_AuthorizationGrant _ _ accepted, ?_⟩
  intro isActive
  exact {
    keyId := keyId.trans sameKeyId
    role := role
    controller := controller.trans samePrincipal
    active := isActive
    signed := sameSignature ▸ verifies doc _ isPublished wellFormed
      (wellFormed_AuthorizationGrant grant)
      (inDomain_AuthorizationGrant grant) same }

/-! ## Assertions -/

omit [SigningPlatform] in
theorem withSignature_assertion
    (payload : VerificationAssertionPayload) (signature : JsString) :
    withSignature signature payload.toJson =
      (payload.signed signature).toJson := rfl

omit [SigningPlatform] in
theorem inDomain_VerificationAssertionPayload
    (payload : VerificationAssertionPayload) : InDomain payload.toJson := by
  simp [VerificationAssertionPayload.toJson, digestJson, Evidence.toJson,
    inDomain_Claim]

theorem assertionBound_of_signVerificationAssertion
    (correct : Ed25519Correct) {payloadInput : Option Json}
    {key : SigningKey} {assertion : VerificationAssertion}
    (signs : signVerificationAssertion payloadInput key = .ok assertion)
    (publishes : key.Publishes) :
    ∃ doc, KeyDocument.schema.accepts key.document = some doc ∧
      VerificationAssertion.schema.accepts (some assertion.toJson) =
        some assertion ∧
      (keyActiveAt doc assertion.verifiedAt = true →
        AssertionBound assertion doc) := by
  simp only [signVerificationAssertion, except_bind_eq_ok_iff,
    parseOrThrow_eq_ok_iff, throw_guard_eq_ok_iff, ne_eq, not_not] at signs
  obtain ⟨payload, -, doc, isDoc, role, controller, keyId, signed, isSigned,
    accepted⟩ := signs
  obtain ⟨other, isOther, isPublished⟩ := publishes
  obtain rfl := Option.some.inj (isDoc.symm.trans isOther)
  obtain ⟨signature, rfl, verifies⟩ := signPayload_signed correct
    (inDomain_VerificationAssertionPayload payload) isSigned
  rw [withSignature_assertion] at accepted verifies
  have wellFormed :=
    wellFormed_VerificationAssertion (payload.signed signature)
  have same := faithful_VerificationAssertion.encoded wellFormed accepted
  have sameSignature : signature = assertion.signature :=
    same.text "signature" rfl rfl
  have sameKeyId : payload.keyId = assertion.keyId :=
    same.text "key_id" rfl rfl
  have sameAuthority : payload.authority = assertion.authority :=
    same.text "authority" rfl rfl
  refine ⟨doc, isDoc, rereads_VerificationAssertion _ _ accepted, ?_⟩
  intro isActive
  exact {
    keyId := keyId.trans sameKeyId
    role := role
    controller := controller.trans sameAuthority
    active := isActive
    signed := sameSignature ▸ verifies doc _ isPublished wellFormed
      (wellFormed_VerificationAssertion assertion)
      (inDomain_VerificationAssertion assertion) same }

/-! ## Proofs -/

omit [SigningPlatform] in
theorem faithful_ManifestProofPayload [Platform] :
    Faithful ManifestProofPayload.schema
      fun payload => some payload.toJson := by
  apply Faithful.check
  apply faithful_strictObject (by decide)
  intro members value wellFormed fields
  simp only [Parse.accepted_seq_eq_some_iff,
    Parse.accepted_seqLeft_eq_some_iff, Parse.accepted_seqRight_eq_some_iff,
    Parse.accepted_map_eq_some_iff] at fields
  obtain ⟨⟨_, ⟨_, isSchema⟩, isType⟩, expiresAt, isExpiresAt, _,
    ⟨createdAt, isCreatedAt, _, ⟨keyId, isKeyId, _, ⟨digest, isDigest, _,
    ⟨⟨agentId, isAgentId, rfl⟩, _, isVersion⟩,
    rfl⟩, rfl⟩, rfl⟩, rfl⟩ := fields
  refine ⟨_, rfl, rfl, ?_⟩
  simp only [List.forall_mem_cons, List.not_mem_nil, false_implies,
    implies_true, and_true]
  exact ⟨(faithful_literal _).field wellFormed isSchema,
    (faithful_literal _).field wellFormed isType,
    (faithful_string.check _ _).field wellFormed isAgentId,
    (faithful_literal _).field wellFormed isVersion,
    faithful_Digest.field wellFormed isDigest,
    faithful_KeyId.field wellFormed isKeyId,
    faithful_Rfc3339Utc.field wellFormed isCreatedAt,
    faithful_Rfc3339Utc.field wellFormed isExpiresAt⟩

omit [SigningPlatform] in
theorem withSignature_proof
    (payload : ManifestProofPayload) (signature : JsString) :
    withSignature signature payload.toJson =
      (payload.signed signature).toJson := rfl

omit [SigningPlatform] in
theorem inDomain_ManifestProofPayload (payload : ManifestProofPayload) :
    InDomain payload.toJson := by
  simp [ManifestProofPayload.toJson, digestJson]

omit [SigningPlatform] in
theorem wellFormed_ManifestProofPayload (payload : ManifestProofPayload) :
    WellFormed payload.toJson := by
  apply wellFormed_record (of_decide_eq_true rfl)
  simp [wellFormed_digestJson]

theorem proofBound_of_signManifestProof
    (correct : Ed25519Correct) {manifestInput : Option Json}
    {key : SigningKey} {createdAt expiresAt : JsString}
    {proof : ManifestProof}
    (signs :
      signManifestProof manifestInput key createdAt expiresAt = .ok proof)
    (publishes : key.Publishes) :
    ∃ manifest doc,
      Manifest.schema.accepts manifestInput = some manifest ∧
      KeyDocument.schema.accepts key.document = some doc ∧
      ManifestProof.schema.accepts (some proof.toJson) = some proof ∧
      (keyActiveAt doc proof.createdAt = true →
        ProofBound proof manifest doc) := by
  simp only [signManifestProof, manifestDigestHex_eq, except_ok_bind,
    except_bind_eq_ok_iff, parseOrThrow_eq_ok_iff, throw_guard_eq_ok_iff,
    ne_eq, not_not] at signs
  obtain ⟨manifest, isManifest, doc, isDoc, role, controller,
    payload, isPayload, signed, isSigned, accepted⟩ := signs
  obtain ⟨other, isOther, isPublished⟩ := publishes
  obtain rfl := Option.some.inj (isDoc.symm.trans isOther)
  obtain ⟨signature, rfl, verifies⟩ := signPayload_signed correct
    (inDomain_ManifestProofPayload payload) isSigned
  rw [withSignature_proof] at accepted verifies
  have read := faithful_ManifestProofPayload.encoded
    (wellFormed_ManifestProofPayload _) isPayload
  have wellFormed := wellFormed_ManifestProof (payload.signed signature)
  have same := faithful_ManifestProof.encoded wellFormed accepted
  have sameSignature : signature = proof.signature :=
    same.text "signature" rfl rfl
  have sameKeyId : doc.keyId = proof.keyId :=
    (read.text "key_id" rfl rfl).trans (same.text "key_id" rfl rfl)
  have sameAgentId : manifest.agentId = proof.agentId :=
    (read.text "agent_id" rfl rfl).trans (same.text "agent_id" rfl rfl)
  have sameDigest : manifestDigest manifest = proof.manifestDigest :=
    ((read.member "manifest_digest" rfl rfl).text "value" rfl rfl).trans
      ((same.member "manifest_digest" rfl rfl).text "value" rfl rfl)
  refine ⟨manifest, doc, isManifest, isDoc,
    rereads_ManifestProof _ _ accepted, ?_⟩
  intro isActive
  exact {
    digest := sameDigest
    agentId := sameAgentId
    keyId := sameKeyId
    role := role
    controller := controller.trans sameAgentId
    active := isActive
    signed := sameSignature ▸ verifies doc _ isPublished wellFormed
      (wellFormed_ManifestProof proof) (inDomain_ManifestProof proof) same }

/-! ## Every signed object verifies -/

/-- What a signer returned, as it is given to its verifier: a proof with the
manifest it was signed for. -/
inductive SignedWith (key : SigningKey) : SignedObject → Prop
  | proof {manifestInput : Option Json} {createdAt expiresAt : JsString}
      {proof : ManifestProof}
      (signs :
        signManifestProof manifestInput key createdAt expiresAt = .ok proof) :
      SignedWith key (.proof (some proof.toJson) manifestInput)
  | assertion {payloadInput : Option Json} {assertion : VerificationAssertion}
      (signs : signVerificationAssertion payloadInput key = .ok assertion) :
      SignedWith key (.assertion (some assertion.toJson) none)
  | grant {payloadInput : Option Json} {grant : AuthorizationGrant}
      (signs : signAuthorizationGrant payloadInput key = .ok grant) :
      SignedWith key (.grant (some grant.toJson))
  | revocation {payloadInput : Option Json} {revocation : Revocation}
      (signs : signRevocation payloadInput key = .ok revocation) :
      SignedWith key (.revocation (some revocation.toJson))

theorem SigningKey.ActiveAt.keyActiveAt
    {key : SigningKey} {text : JsString} (active : key.ActiveAt text)
    {doc : KeyDocument}
    (isDoc : KeyDocument.schema.accepts key.document = some doc) :
    keyActiveAt doc text = true := by
  obtain ⟨other, isOther, isActive⟩ := active
  obtain rfl := Option.some.inj (isDoc.symm.trans isOther)
  exact isActive

/-- What a signer returns verifies under the key document of the signer at
every clock in the window of the object, provided the key is active at the
instant that dates it. -/
theorem signedWith_verifies
    (correct : Ed25519Correct) {key : SigningKey} {object : SignedObject}
    {now : JsString} (publishes : key.Publishes)
    (signed : SignedWith key object)
    (active : ∀ text, object.datedAt = some text → key.ActiveAt text)
    (inWindow : ∀ start finish, object.window = some (start, finish) →
      InWindow now start finish) :
    object.Verifies key.document now := by
  cases signed with
  | proof signs =>
      rename_i proof
      obtain ⟨manifest, doc, isManifest, isDoc, isProof, bound⟩ :=
        proofBound_of_signManifestProof correct signs publishes
      have isActive : key.ActiveAt proof.createdAt := by
        apply active
        simp [SignedObject.datedAt, isProof]
      have admits : windowAdmits now proof.createdAt proof.expiresAt := by
        apply InWindow.admits
        apply inWindow
        simp [SignedObject.window, proofWindow, isProof]
      exact verifies_proof_iff.mpr
        ((verifyManifestProof_succeeds_iff _ _ _ _).mpr
          ⟨proof, manifest, doc, isProof, isManifest, isDoc,
            bound (isActive.keyActiveAt isDoc), admits⟩)
  | assertion signs =>
      rename_i assertion
      obtain ⟨doc, isDoc, isAssertion, bound⟩ :=
        assertionBound_of_signVerificationAssertion correct signs publishes
      have isActive : key.ActiveAt assertion.verifiedAt := by
        apply active
        simp [SignedObject.datedAt, isAssertion]
      have admits :
          windowAdmits now assertion.verifiedAt assertion.expiresAt := by
        apply InWindow.admits
        apply inWindow
        simp [SignedObject.window, assertionWindow, isAssertion]
      exact verifies_assertion_iff.mpr
        ((verifyVerificationAssertion_succeeds_iff _ _ _ _).mpr
          ⟨assertion, doc, isAssertion, isDoc,
            bound (isActive.keyActiveAt isDoc), admits, Or.inl rfl⟩)
  | grant signs =>
      rename_i grant
      obtain ⟨doc, isDoc, isGrant, bound⟩ :=
        grantBound_of_signAuthorizationGrant correct signs publishes
      have isActive : key.ActiveAt grant.notBefore := by
        apply active
        simp [SignedObject.datedAt, isGrant]
      have admits : windowAdmits now grant.notBefore grant.expiresAt := by
        apply InWindow.admits
        apply inWindow
        simp [SignedObject.window, grantWindow, isGrant]
      exact verifies_grant_iff.mpr
        ⟨grant.granted, verifyAuthorizationGrant_eq_ok_iff.mpr
          ⟨grant, doc, isGrant, isDoc, bound (isActive.keyActiveAt isDoc),
            admits, rfl⟩⟩
  | revocation signs =>
      rename_i revocation
      obtain ⟨doc, isDoc, isRevocation, bound⟩ :=
        revocationBound_of_signRevocation correct signs publishes
      have isActive : key.ActiveAt revocation.revokedAt := by
        apply active
        simp [SignedObject.datedAt, isRevocation]
      exact verifies_revocation_iff.mpr ⟨revocation.revokes,
        revocation.revokesType, revocation.revokedAt,
        verifyRevocation_eq_ok_iff.mpr ⟨revocation, doc, isRevocation, isDoc,
          bound (isActive.keyActiveAt isDoc), rfl, rfl, rfl⟩⟩

end Signers

/-! ## A runtime on recorded documents -/

/-- What a runtime returned for the canonical bytes of a document. -/
structure Recorded (size : Nat) where
  document : Json
  result : List UInt8
  isSized : result.length = size

/-- The result recorded for a message, and zeros for any other message. -/
def recordedResult {size : Nat} :
    List (Recorded size) → List UInt8 → List UInt8
  | [], _ => List.replicate size 0
  | record :: rest, message =>
    if message = canonicalBytes record.document then
      record.result
    else
      recordedResult rest message

theorem length_recordedResult {size : Nat} (records : List (Recorded size))
    (message : List UInt8) : (recordedResult records message).length = size := by
  induction records with
  | nil => exact List.length_replicate
  | cons record rest inductionHypothesis =>
      unfold recordedResult
      split
      · exact record.isSized
      · exact inductionHypothesis

/-- The runtime that knows the digests of some documents, and of others the
signatures under the operator key of the sample. -/
@[reducible]
def recordedPlatform (digests : List (Recorded 32))
    (signatures : List (Recorded 64)) : SigningPlatform :=
  { samplePlatform with
    sha256 := recordedResult digests
    ed25519Verify := fun publicKey message signature =>
      publicKey = b64uDecode sampleOperatorKey.publicKeyB64u ∧
        signature = recordedResult signatures message
    ed25519PublicKey := fun _ => b64uDecode sampleOperatorKey.publicKeyB64u
    ed25519Sign := fun _ message => recordedResult signatures message }

theorem length_samplePublicKey :
    (b64uDecode sampleOperatorKey.publicKeyB64u).length = 32 := by
  decide

theorem recorded_correct (digests : List (Recorded 32))
    (signatures : List (Recorded 64)) :
    letI := recordedPlatform digests signatures
    Ed25519Correct :=
  let := recordedPlatform digests signatures
  { publicKeyLength := fun _ _ => length_samplePublicKey
    signatureLength := fun _ message _ =>
      length_recordedResult signatures message
    verifies := fun _ _ _ => decide_eq_true ⟨rfl, rfl⟩ }

/-- The runtime on the sample proof and the seed of the operator key. -/
@[reducible]
def sampleSigningPlatform : SigningPlatform :=
  { samplePlatform with
    ed25519PublicKey := fun _ => b64uDecode sampleOperatorKey.publicKeyB64u
    ed25519Sign := fun _ _ => b64uDecode sampleProof.signature }

/-- The operator key with its seed. -/
def sampleSigningKey : SigningKey where
  privateKey :=
    [0xeb, 0x77, 0x5b, 0xd1, 0x20, 0xe9, 0xb1, 0x3a,
      0xcc, 0xc7, 0x3c, 0xe6, 0xc8, 0x69, 0xf8, 0x8c,
      0x2e, 0x03, 0xbe, 0xb3, 0x27, 0xbe, 0x2c, 0x25,
      0x82, 0xbe, 0x03, 0x1a, 0x27, 0x29, 0x7c, 0x0d]
  document := some sampleOperatorKey.toJson

/-- The sample proof is what its signer returns. -/
theorem sampleProof_signed :
    letI := sampleSigningPlatform
    signManifestProof (some sampleManifest.toJson) sampleSigningKey
      sampleProof.createdAt sampleProof.expiresAt = .ok sampleProof := by
  let := sampleSigningPlatform
  have isSignature : ∀ seed message : List UInt8,
      b64uEncode (SigningPlatform.ed25519Sign seed message) =
        sampleProof.signature := fun _ _ =>
    (by decide : b64uEncode (b64uDecode sampleProof.signature) =
      sampleProof.signature)
  let payload : ManifestProofPayload := {
    agentId := sampleProof.agentId
    manifestDigest := sampleProof.manifestDigest
    keyId := sampleProof.keyId
    createdAt := sampleProof.createdAt
    expiresAt := sampleProof.expiresAt }
  have signsPayload : signPayload sampleSigningKey.privateKey payload.toJson =
      .ok sampleProof.toJson := by
    refine (signPayload_eq_ok_iff
      (inDomain_ManifestProofPayload payload)).mpr ⟨rfl, ?_⟩
    rw [withSignature_proof, isSignature]
    rfl
  simp only [signManifestProof, manifestDigestHex_eq, except_ok_bind,
    except_bind_eq_ok_iff, parseOrThrow_eq_ok_iff, throw_guard_eq_ok_iff]
  refine ⟨sampleManifest, sampleManifest_accepted, sampleOperatorKey,
    sampleOperatorKey_accepted, not_not.mpr rfl, not_not.mpr rfl, payload, ?_,
    _, signsPayload, sampleProof_accepted⟩
  have isDigest : manifestDigest sampleManifest =
      sampleProof.manifestDigest := by
    decide
  rw [isDigest]
  rfl

/-! ## The other signers on samples -/

/-- The runtime on one key and one signed object. -/
@[reducible]
def signerPlatform (key : KeyDocument) (signature : JsString) :
    SigningPlatform :=
  { samplePlatform with
    ed25519PublicKey := fun _ => b64uDecode key.publicKeyB64u
    ed25519Sign := fun _ _ => b64uDecode signature }

theorem signerPlatform_correct
    {key : KeyDocument} {signature : JsString}
    (isKey : (b64uDecode key.publicKeyB64u).length = 32)
    (isSignature : (b64uDecode signature).length = 64) :
    letI := signerPlatform key signature
    Ed25519Correct :=
  let := signerPlatform key signature
  { publicKeyLength := fun _ _ => isKey
    signatureLength := fun _ _ _ => isSignature
    verifies := fun _ _ _ => rfl }

theorem signPayload_signerPlatform
    {key : KeyDocument} {signature : JsString} {seed : List UInt8}
    {payload : Json} (seedIs32 : seed.length = 32)
    (domain : InDomain payload)
    (isText : b64uEncode (b64uDecode signature) = signature) :
    letI := signerPlatform key signature
    signPayload seed payload = .ok (withSignature signature payload) := by
  let := signerPlatform key signature
  refine (signPayload_eq_ok_iff domain).mpr ⟨seedIs32, ?_⟩
  exact congrArg (fun text => withSignature text payload) isText.symm

/-- The authority key of the sample documents with its seed. -/
def sampleIssuer : SigningKey where
  privateKey :=
    [0x68, 0xab, 0x55, 0x20, 0xf6, 0xde, 0x62, 0xc0,
      0x73, 0x76, 0x01, 0x32, 0x43, 0x7f, 0x8b, 0x6f,
      0x3e, 0x84, 0x1a, 0xd6, 0x9b, 0xc7, 0x42, 0xf1,
      0x87, 0x95, 0xd2, 0x35, 0xc0, 0x22, 0xb2, 0x1b]
  document := some sampleIssuerKey.toJson

def ownAssertionPayload : VerificationAssertionPayload where
  assertionId := ownAssertion.assertionId
  subject := ownAssertion.subject
  subjectType := ownAssertion.subjectType
  level := ownAssertion.level
  claim := ownAssertion.claim
  authority := ownAssertion.authority
  evidence := ownAssertion.evidence
  verifiedAt := ownAssertion.verifiedAt
  expiresAt := ownAssertion.expiresAt
  scope := ownAssertion.scope
  manifestDigest := ownAssertion.manifestDigest
  keyId := ownAssertion.keyId

theorem ownAssertionPayload_accepted :
    letI := samplePlatform
    VerificationAssertionPayload.schema.accepts
        (some ownAssertionPayload.toJson) = some ownAssertionPayload := by
  rfl

theorem ownAssertion_signed :
    letI := signerPlatform sampleIssuerKey ownAssertion.signature
    ∃ payloadInput, signVerificationAssertion payloadInput sampleIssuer =
      .ok ownAssertion := by
  let := signerPlatform sampleIssuerKey ownAssertion.signature
  have signsPayload : signPayload sampleIssuer.privateKey
      ownAssertionPayload.toJson = .ok ownAssertion.toJson :=
    signPayload_signerPlatform rfl
      (inDomain_VerificationAssertionPayload ownAssertionPayload) (by decide)
  refine ⟨some ownAssertionPayload.toJson, ?_⟩
  simp only [signVerificationAssertion, except_bind_eq_ok_iff,
    parseOrThrow_eq_ok_iff, throw_guard_eq_ok_iff]
  exact ⟨ownAssertionPayload, ownAssertionPayload_accepted, sampleIssuerKey,
    sampleIssuerKey_accepted, not_not.mpr rfl, not_not.mpr rfl,
    not_not.mpr rfl, _, signsPayload, ownAssertion_accepted⟩

/-- A principal key with the seed of the operator key. -/
def signingPrincipalKey : KeyDocument :=
  { samplePrincipalKey with publicKeyB64u := sampleOperatorKey.publicKeyB64u }

def signingPrincipal : SigningKey where
  privateKey := sampleSigningKey.privateKey
  document := some signingPrincipalKey.toJson

theorem signingPrincipalKey_accepted :
    letI := samplePlatform
    KeyDocument.schema.accepts (some signingPrincipalKey.toJson) =
      some signingPrincipalKey := by
  rfl

/-- The sample grant, signed by this principal. -/
def signedGrant : AuthorizationGrant :=
  { sampleGrant with
    signature := units <| "2aD5x4Hj4XLkeljDP6AuhF6m3dCqCHGmgMGV0l5REJfe44dx" ++
      "6d0fS3EWneqVCGPGb-n8e-6RzYXYzxF6CVtfCg" }

theorem signedGrant_accepted :
    letI := samplePlatform
    AuthorizationGrant.schema.accepts (some signedGrant.toJson) =
      some signedGrant := by
  rfl

def signedGrantPayload : AuthorizationGrantPayload where
  grantId := signedGrant.grantId
  principal := signedGrant.principal
  subject := signedGrant.subject
  scopes := signedGrant.scopes
  constraints := signedGrant.constraints
  notBefore := signedGrant.notBefore
  expiresAt := signedGrant.expiresAt
  keyId := signedGrant.keyId

theorem signedGrantPayload_accepted :
    letI := samplePlatform
    AuthorizationGrantPayload.schema.accepts
        (some signedGrantPayload.toJson) = some signedGrantPayload := by
  rfl

theorem signedGrant_signed :
    letI := signerPlatform signingPrincipalKey signedGrant.signature
    ∃ payloadInput, signAuthorizationGrant payloadInput signingPrincipal =
      .ok signedGrant := by
  let := signerPlatform signingPrincipalKey signedGrant.signature
  have signsPayload : signPayload signingPrincipal.privateKey
      signedGrantPayload.toJson = .ok signedGrant.toJson :=
    signPayload_signerPlatform rfl
      (inDomain_AuthorizationGrantPayload signedGrantPayload) (by decide)
  refine ⟨some signedGrantPayload.toJson, ?_⟩
  simp only [signAuthorizationGrant, except_bind_eq_ok_iff,
    parseOrThrow_eq_ok_iff, throw_guard_eq_ok_iff]
  exact ⟨signedGrantPayload, signedGrantPayload_accepted,
    signingPrincipalKey, signingPrincipalKey_accepted, not_not.mpr rfl,
    not_not.mpr rfl, not_not.mpr rfl, _, signsPayload, signedGrant_accepted⟩

/-- The sample revocation, signed by this principal. -/
def signedRevocation : Revocation :=
  { sampleRevocation with
    signature := units <| "2JnhHZWUGzXXyu6vf2_jti-fJBSaDhNYON0qOjtFaeFAd4Lo" ++
      "srqw_OpILjku-od9mZo__n5Roe59_tIfkxu8DA" }

theorem signedRevocation_accepted :
    letI := samplePlatform
    Revocation.schema.accepts (some signedRevocation.toJson) =
      some signedRevocation := by
  rfl

def signedRevocationPayload : RevocationPayload where
  revocationId := signedRevocation.revocationId
  revokes := signedRevocation.revokes
  revokesType := signedRevocation.revokesType
  reason := signedRevocation.reason
  revokedAt := signedRevocation.revokedAt
  keyId := signedRevocation.keyId

theorem signedRevocationPayload_accepted :
    letI := samplePlatform
    RevocationPayload.schema.accepts (some signedRevocationPayload.toJson) =
      some signedRevocationPayload := by
  rfl

theorem signedRevocation_signed :
    letI := signerPlatform signingPrincipalKey signedRevocation.signature
    ∃ payloadInput, signRevocation payloadInput signingPrincipal =
      .ok signedRevocation := by
  let := signerPlatform signingPrincipalKey signedRevocation.signature
  have signsPayload : signPayload signingPrincipal.privateKey
      signedRevocationPayload.toJson = .ok signedRevocation.toJson :=
    signPayload_signerPlatform rfl
      (inDomain_RevocationPayload signedRevocationPayload) (by decide)
  refine ⟨some signedRevocationPayload.toJson, ?_⟩
  simp only [signRevocation, except_bind_eq_ok_iff, parseOrThrow_eq_ok_iff,
    throw_guard_eq_ok_iff]
  exact ⟨signedRevocationPayload, signedRevocationPayload_accepted,
    signingPrincipalKey, signingPrincipalKey_accepted, not_not.mpr rfl,
    not_not.mpr rfl, _, signsPayload, signedRevocation_accepted⟩

/-- A proof, an assertion, a grant and a revocation are what their signers
return, and they verify. -/
theorem signedWith_verifies_sample :
    @SignedObject.Verifies sampleSigningPlatform.toPlatform
        (.proof (some sampleProof.toJson) (some sampleManifest.toJson))
        (some sampleOperatorKey.toJson) (units "2026-10-01T00:00:00Z") ∧
      @SignedObject.Verifies
        (signerPlatform sampleIssuerKey ownAssertion.signature).toPlatform
        (.assertion (some ownAssertion.toJson) none)
        (some sampleIssuerKey.toJson) (units "2026-10-01T00:00:00Z") ∧
      @SignedObject.Verifies
        (signerPlatform signingPrincipalKey signedGrant.signature).toPlatform
        (.grant (some signedGrant.toJson))
        (some signingPrincipalKey.toJson) (units "2026-10-01T00:00:00Z") ∧
      @SignedObject.Verifies
        (signerPlatform signingPrincipalKey
          signedRevocation.signature).toPlatform
        (.revocation (some signedRevocation.toJson))
        (some signingPrincipalKey.toJson) (units "2026-10-01T00:00:00Z") := by
  have correct : letI := sampleSigningPlatform; Ed25519Correct :=
    let := sampleSigningPlatform
    { publicKeyLength := fun _ _ =>
        (by decide : (b64uDecode sampleOperatorKey.publicKeyB64u).length = 32)
      signatureLength := fun _ _ _ =>
        (by decide : (b64uDecode sampleProof.signature).length = 64)
      verifies := fun _ _ _ => rfl }
  refine ⟨?_, ?_, ?_, ?_⟩
  · let := sampleSigningPlatform
    have isProof : ManifestProof.schema.accepts (some sampleProof.toJson) =
        some sampleProof := sampleProof_accepted
    refine @signedWith_verifies _ correct sampleSigningKey _ _
      ⟨sampleOperatorKey, sampleOperatorKey_accepted, rfl⟩
      (.proof sampleProof_signed) ?_ ?_
    · intro text isText
      simp only [SignedObject.datedAt, isProof, Option.map_some,
        Option.some.injEq] at isText
      exact ⟨sampleOperatorKey, sampleOperatorKey_accepted, isText ▸ rfl⟩
    · intro start finish isWindow
      simp only [SignedObject.window, proofWindow, isProof, Option.map_some,
        Option.some.injEq, Prod.mk.injEq] at isWindow
      obtain ⟨rfl, rfl⟩ := isWindow
      exact ⟨_, _, _, rfl, rfl, rfl, by decide, by decide⟩
  · let := signerPlatform sampleIssuerKey ownAssertion.signature
    obtain ⟨payloadInput, signs⟩ := ownAssertion_signed
    have isAssertion : VerificationAssertion.schema.accepts
        (some ownAssertion.toJson) = some ownAssertion :=
      ownAssertion_accepted
    refine @signedWith_verifies _
      (signerPlatform_correct (by decide) (by decide)) sampleIssuer _ _
      ⟨sampleIssuerKey, sampleIssuerKey_accepted, rfl⟩ (.assertion signs) ?_ ?_
    · intro text isText
      simp only [SignedObject.datedAt, isAssertion, Option.map_some,
        Option.some.injEq] at isText
      exact ⟨sampleIssuerKey, sampleIssuerKey_accepted, isText ▸ rfl⟩
    · intro start finish isWindow
      simp only [SignedObject.window, assertionWindow, isAssertion,
        Option.map_some, Option.some.injEq, Prod.mk.injEq] at isWindow
      obtain ⟨rfl, rfl⟩ := isWindow
      exact ⟨_, _, _, rfl, rfl, rfl, by decide, by decide⟩
  · let := signerPlatform signingPrincipalKey signedGrant.signature
    obtain ⟨payloadInput, signs⟩ := signedGrant_signed
    have isGrant : AuthorizationGrant.schema.accepts
        (some signedGrant.toJson) = some signedGrant := signedGrant_accepted
    refine @signedWith_verifies _
      (signerPlatform_correct (by decide) (by decide)) signingPrincipal _ _
      ⟨signingPrincipalKey, signingPrincipalKey_accepted, rfl⟩ (.grant signs)
      ?_ ?_
    · intro text isText
      simp only [SignedObject.datedAt, isGrant, Option.map_some,
        Option.some.injEq] at isText
      exact ⟨signingPrincipalKey, signingPrincipalKey_accepted, isText ▸ rfl⟩
    · intro start finish isWindow
      simp only [SignedObject.window, grantWindow, isGrant, Option.map_some,
        Option.some.injEq, Prod.mk.injEq] at isWindow
      obtain ⟨rfl, rfl⟩ := isWindow
      exact ⟨_, _, _, rfl, rfl, rfl, by decide, by decide⟩
  · let := signerPlatform signingPrincipalKey signedRevocation.signature
    obtain ⟨payloadInput, signs⟩ := signedRevocation_signed
    have isRevocation : Revocation.schema.accepts
        (some signedRevocation.toJson) = some signedRevocation :=
      signedRevocation_accepted
    refine @signedWith_verifies _
      (signerPlatform_correct (by decide) (by decide)) signingPrincipal _ _
      ⟨signingPrincipalKey, signingPrincipalKey_accepted, rfl⟩
      (.revocation signs) ?_ ?_
    · intro text isText
      simp only [SignedObject.datedAt, isRevocation, Option.map_some,
        Option.some.injEq] at isText
      exact ⟨signingPrincipalKey, signingPrincipalKey_accepted, isText ▸ rfl⟩
    · intro start finish isWindow
      cases isWindow

end AgenId.Core
