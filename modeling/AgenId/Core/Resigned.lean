import AgenId.Core.Spelling

/-!
# Objects with another signature

A signed object whose signature is replaced by another text is read as the
same document with the other signature, when the schema of signatures accepts
the text, and verifies when the other signature does.  Where a message has one
signature under a key, that is when both texts decode to the same bytes.
-/

namespace AgenId.Core

open AgenId.Ecma
open AgenId.Library
open AgenId.Validation
open AgenId.Validation.Schema

/-! ## Replacing a signature -/

/-- `{ ...object, signature: text }`. -/
def resign (text : JsString) : Json → Json
  | .object members =>
    .object (assign (units "signature") (.string text) members)
  | other => other

/-- A schema reads an accepted signature from its documents, and the same
document with another signature when it accepts that one. -/
structure Resigns {α : Type} (schema : Schema α) (signature : α → JsString)
    (signed : α → JsString → α) : Prop where
  accepted : ∀ input value, schema.accepts input = some value →
    Ed25519SignatureB64u.accepts (some (.string (signature value))) =
      some (signature value)
  resigned : ∀ input value, schema.accepts input = some value →
    ∀ text, schema.accepts (input.map (resign text)) =
      (Ed25519SignatureB64u.accepts (some (.string text))).map (signed value)

theorem Resigns.superRefine
    {α : Type} {schema : Schema α} {signature : α → JsString}
    {signed : α → JsString → α}
    (resigns : Resigns schema signature signed) {rules : α → List Issue}
    (unread : ∀ value text, rules (signed value text) = rules value) :
    Resigns (schema.superRefine rules) signature signed where
  accepted := by
    intro input value accepted
    exact resigns.accepted input value
      (accepts_superRefine_eq_some_iff.mp accepted).1
  resigned := by
    intro input value accepted text
    obtain ⟨inner, clean⟩ := accepts_superRefine_eq_some_iff.mp accepted
    rw [accepts_superRefine, resigns.resigned input value inner text]
    cases Ed25519SignatureB64u.accepts (some (.string text)) with
    | none => rfl
    | some signature =>
        rw [Option.map_some, Option.filter_some, unread, clean]
        rfl

theorem Resigns.accepts_iff
    {α : Type} {schema : Schema α} {signature : α → JsString}
    {signed : α → JsString → α}
    (resigns : Resigns schema signature signed) {input : Option Json}
    {value other : α} (isValue : schema.accepts input = some value)
    {text : JsString} :
    schema.accepts (input.map (resign text)) = some other ↔
      Ed25519SignatureB64u.accepts (some (.string text)) = some text ∧
        signed value text = other := by
  rw [resigns.resigned input value isValue text, Option.map_eq_some_iff]
  constructor
  · intro isOther
    obtain ⟨read, isRead, rfl⟩ := isOther
    obtain rfl := (accepts_exactly_iff.mp isRead).2
    exact ⟨isRead, rfl⟩
  · intro isOther
    exact ⟨text, isOther⟩

theorem rereads_Ed25519SignatureB64u :
    Rereads Ed25519SignatureB64u .string :=
  rereads_string.check _ _

theorem resigns_strictObject
    {α : Type} {names : List String} {body : Members → Parse α}
    {signature : α → JsString} {signed : α → JsString → α}
    (named : "signature" ∈ names)
    (reads : ∀ members value, (body members).accepted = some value →
      Ed25519SignatureB64u.accepts (members.lookup (units "signature")) =
        some (signature value) ∧
      ∀ text, (body (assign (units "signature") (.string text)
          members)).accepted =
        (Ed25519SignatureB64u.accepts (some (.string text))).map
          (signed value)) :
    Resigns (strictObject names body) signature signed where
  accepted := by
    intro input value accepted
    obtain ⟨members, -, -, isRead⟩ :=
      accepts_strictObject_eq_some_iff.mp accepted
    exact rereads_Ed25519SignatureB64u _ _ (reads members value isRead).1
  resigned := by
    intro input value accepted text
    obtain ⟨members, rfl, known, isRead⟩ :=
      accepts_strictObject_eq_some_iff.mp accepted
    have stillKnown : unknownNames names
        (assign (units "signature") (.string text) members) = [] := by
      rw [unknownNames, List.filter_eq_nil_iff] at known ⊢
      intro name isName
      rcases mem_assign_keys.mp isName with rfl | isKnown
      · simpa using List.mem_map_of_mem named
      · exact known name isKnown
    rw [Option.map_some, resign, accepts_strictObject, stillKnown, if_pos rfl]
    exact (reads members value isRead).2 text

section Resigning

variable [Platform]

theorem resigns_ManifestProof :
    Resigns ManifestProof.schema ManifestProof.signature
      fun proof text => { proof with signature := text } := by
  refine Resigns.superRefine (resigns_strictObject (by decide) ?_)
    fun _ _ => rfl
  intro members proof isRead
  simp only [Parse.accepted_seq_eq_some_iff,
    Parse.accepted_seqLeft_eq_some_iff, Parse.accepted_seqRight_eq_some_iff,
    Parse.accepted_map_eq_some_iff, accepted_field] at isRead
  obtain ⟨⟨_, ⟨_, isSchema⟩, isType⟩, signature, isSignature, _, ⟨expiresAt,
    isEnd, _, ⟨createdAt, isCreated, _, ⟨keyId, isKeyId, _, ⟨digest, isDigest,
      _, ⟨⟨agentId, isAgent, rfl⟩, _, isVersion⟩, rfl⟩, rfl⟩, rfl⟩, rfl⟩,
    rfl⟩ := isRead
  refine ⟨isSignature, fun text => ?_⟩
  simp (disch := decide) only [Parse.accepted_seq, Parse.accepted_seqLeft,
    Parse.accepted_seqRight, Parse.accepted_map, accepted_field,
    lookup_assign_of_ne, lookup_assign_self, isSchema, isType, isEnd,
    isCreated, isKeyId, isDigest, isAgent, isVersion, Option.bind_some,
    Option.map_some]

theorem resigns_VerificationAssertion :
    Resigns VerificationAssertion.schema VerificationAssertion.signature
      fun assertion text => { assertion with signature := text } := by
  refine Resigns.superRefine (resigns_strictObject (by decide) ?_)
    fun _ _ => rfl
  intro members assertion isRead
  simp only [Parse.accepted_seq_eq_some_iff,
    Parse.accepted_seqRight_eq_some_iff, Parse.accepted_map_eq_some_iff,
    accepted_field] at isRead
  obtain ⟨⟨_, isSchema⟩, signature, isSignature, _, ⟨keyId, isKeyId, _,
    ⟨digest, isDigest, _, ⟨scope, isScope, _, ⟨expiresAt, isEnd, _, ⟨verifiedAt,
      isVerified, _, ⟨evidence, isEvidence, _, ⟨authority, isAuthority, _,
        ⟨claim, isClaim, _, ⟨level, isLevel, _, ⟨subjectType, isType, _,
          ⟨subject, isSubject, _, ⟨assertionId, isAssertion, rfl⟩, rfl⟩, rfl⟩,
        rfl⟩, rfl⟩, rfl⟩, rfl⟩, rfl⟩, rfl⟩, rfl⟩, rfl⟩, rfl⟩, rfl⟩ := isRead
  refine ⟨isSignature, fun text => ?_⟩
  simp (disch := decide) only [Parse.accepted_seq, Parse.accepted_seqRight,
    Parse.accepted_map, accepted_field, lookup_assign_of_ne,
    lookup_assign_self, isSchema, isKeyId, isDigest, isScope, isEnd,
    isVerified, isEvidence, isAuthority, isClaim, isLevel, isType, isSubject,
    isAssertion, Option.bind_some, Option.map_some]

theorem resigns_AuthorizationGrant :
    Resigns AuthorizationGrant.schema AuthorizationGrant.signature
      fun grant text => { grant with signature := text } := by
  refine Resigns.superRefine (resigns_strictObject (by decide) ?_)
    fun _ _ => rfl
  intro members grant isRead
  simp only [Parse.accepted_seq_eq_some_iff,
    Parse.accepted_seqRight_eq_some_iff, Parse.accepted_map_eq_some_iff,
    accepted_field] at isRead
  obtain ⟨⟨_, isSchema⟩, signature, isSignature, _, ⟨keyId, isKeyId, _,
    ⟨expiresAt, isEnd, _, ⟨notBefore, isStart, _, ⟨constraints,
      areConstraints, _, ⟨scopes, areScopes, _, ⟨subject, isSubject, _,
        ⟨principal, isPrincipal, _, ⟨grantId, isGrant, rfl⟩, rfl⟩, rfl⟩, rfl⟩,
      rfl⟩, rfl⟩, rfl⟩, rfl⟩, rfl⟩ := isRead
  refine ⟨isSignature, fun text => ?_⟩
  simp (disch := decide) only [Parse.accepted_seq, Parse.accepted_seqRight,
    Parse.accepted_map, accepted_field, lookup_assign_of_ne,
    lookup_assign_self, isSchema, isKeyId, isEnd, isStart, areConstraints,
    areScopes, isSubject, isPrincipal, isGrant, Option.bind_some,
    Option.map_some]

theorem resigns_Revocation :
    Resigns Revocation.schema Revocation.signature
      fun revocation text => { revocation with signature := text } := by
  refine Resigns.superRefine (resigns_strictObject (by decide) ?_)
    fun _ _ => rfl
  intro members revocation isRead
  simp only [Parse.accepted_seq_eq_some_iff,
    Parse.accepted_seqRight_eq_some_iff, Parse.accepted_map_eq_some_iff,
    accepted_field] at isRead
  obtain ⟨⟨_, isSchema⟩, signature, isSignature, _, ⟨keyId, isKeyId, _,
    ⟨revokedAt, isRevoked, _, ⟨reason, isReason, _, ⟨revokesType, isType, _,
      ⟨revokes, isTarget, _, ⟨revocationId, isRevocation, rfl⟩, rfl⟩, rfl⟩,
      rfl⟩, rfl⟩, rfl⟩, rfl⟩ := isRead
  refine ⟨isSignature, fun text => ?_⟩
  simp (disch := decide) only [Parse.accepted_seq, Parse.accepted_seqRight,
    Parse.accepted_map, accepted_field, lookup_assign_of_ne,
    lookup_assign_self, isSchema, isKeyId, isRevoked, isReason, isType,
    isTarget, isRevocation, Option.bind_some, Option.map_some]

/-! ## The signatures of objects -/

/-- A message has at most one signature under a public key. -/
def SingleSignature : Prop :=
  ∀ publicKey message first second : List UInt8,
    Platform.ed25519Verify publicKey message first = true →
    Platform.ed25519Verify publicKey message second = true → first = second

/-- Of what signs a document, everything that signs the same bytes has the
same bytes. -/
theorem signed_iff
    (single : SingleSignature) {key : KeyDocument} {document other : Json}
    {signature : JsString} (signed : Signed key document signature)
    (same : signingBytes other = signingBytes document) (text : JsString) :
    Signed key other text ↔ b64uDecode text = b64uDecode signature := by
  have guarded : ∀ bytes : List UInt8,
      verifyBytes (b64uDecode key.publicKeyB64u) (signingBytes document)
        bytes = true →
      Platform.ed25519Verify (b64uDecode key.publicKeyB64u)
        (signingBytes document) bytes = true := by
    intro bytes verifies
    rw [verifyBytes] at verifies
    split at verifies
    · cases verifies
    · split at verifies
      · cases verifies
      · exact verifies
  rw [Signed, same]
  constructor
  · intro alsoSigned
    exact single _ _ _ _ (guarded _ alsoSigned) (guarded _ signed)
  · intro sameBytes
    rw [sameBytes]
    exact signed

/-- The signature of an object that is accepted. -/
def SignedObject.signature : SignedObject → Option JsString
  | .proof proofInput _ =>
    (ManifestProof.schema.accepts proofInput).map ManifestProof.signature
  | .assertion assertionInput _ =>
    (VerificationAssertion.schema.accepts assertionInput).map
      VerificationAssertion.signature
  | .grant grantInput =>
    (AuthorizationGrant.schema.accepts grantInput).map
      AuthorizationGrant.signature
  | .revocation revocationInput =>
    (Revocation.schema.accepts revocationInput).map Revocation.signature

/-- The object with another text as its signature. -/
def SignedObject.resign (text : JsString) : SignedObject → SignedObject
  | .proof proofInput manifestInput =>
    .proof (proofInput.map (Core.resign text)) manifestInput
  | .assertion assertionInput currentManifest =>
    .assertion (assertionInput.map (Core.resign text)) currentManifest
  | .grant grantInput => .grant (grantInput.map (Core.resign text))
  | .revocation revocationInput =>
    .revocation (revocationInput.map (Core.resign text))

/-- An object verifies with exactly the texts that decode to the bytes of its
signature. -/
def VerifiesWithSameBytes (object : SignedObject) (keyInput : Option Json)
    (now : JsString) : Prop :=
  ∃ signature, object.signature = some signature ∧
    ∀ text, (object.resign text).Verifies keyInput now ↔
      Ed25519SignatureB64u.accepts (some (.string text)) = some text ∧
        b64uDecode text = b64uDecode signature

theorem proof_verifiesWithSameBytes
    (single : SingleSignature) {proofInput manifestInput keyInput : Option Json}
    {now : JsString}
    (verifies : (SignedObject.proof proofInput manifestInput).Verifies keyInput
      now) :
    VerifiesWithSameBytes (.proof proofInput manifestInput) keyInput now := by
  obtain ⟨proof, manifest, key, isProof, isManifest, isKey, bound, window⟩ :=
    (verifyManifestProof_succeeds_iff _ _ _ _).mp
      (verifies_proof_iff.mp verifies)
  have isSigned : ∀ text, Signed key
      ({ proof with signature := text } : ManifestProof).toJson text ↔
        b64uDecode text = b64uDecode proof.signature := by
    intro text
    refine signed_iff single bound.signed ?_ text
    rfl
  refine ⟨proof.signature, by simp [SignedObject.signature, isProof], ?_⟩
  intro text
  rw [SignedObject.resign, verifies_proof_iff,
    verifyManifestProof_succeeds_iff, ← isSigned]
  simp only [resigns_ManifestProof.accepts_iff isProof, isManifest, isKey,
    Option.some.injEq]
  constructor
  · intro succeeds
    obtain ⟨_, _, _, ⟨isText, rfl⟩, rfl, rfl, otherBound, -⟩ := succeeds
    exact ⟨isText, otherBound.signed⟩
  · intro isOther
    obtain ⟨isText, signed⟩ := isOther
    exact ⟨_, manifest, key, ⟨isText, rfl⟩, rfl, rfl,
      { bound with signed := signed }, window⟩

theorem assertion_verifiesWithSameBytes
    (single : SingleSignature)
    {assertionInput currentManifest keyInput : Option Json} {now : JsString}
    (verifies : (SignedObject.assertion assertionInput
      currentManifest).Verifies keyInput now) :
    VerifiesWithSameBytes (.assertion assertionInput currentManifest) keyInput
      now := by
  obtain ⟨assertion, key, isAssertion, isKey, bound, window, applicable⟩ :=
    (verifyVerificationAssertion_succeeds_iff _ _ _ _).mp
      (verifies_assertion_iff.mp verifies)
  have isSigned : ∀ text, Signed key
      ({ assertion with signature := text } : VerificationAssertion).toJson
        text ↔ b64uDecode text = b64uDecode assertion.signature := by
    intro text
    refine signed_iff single bound.signed ?_ text
    rfl
  refine ⟨assertion.signature,
    by simp [SignedObject.signature, isAssertion], ?_⟩
  intro text
  rw [SignedObject.resign, verifies_assertion_iff,
    verifyVerificationAssertion_succeeds_iff, ← isSigned]
  simp only [resigns_VerificationAssertion.accepts_iff isAssertion, isKey,
    Option.some.injEq]
  constructor
  · intro succeeds
    obtain ⟨_, _, ⟨isText, rfl⟩, rfl, otherBound, -⟩ := succeeds
    exact ⟨isText, otherBound.signed⟩
  · intro isOther
    obtain ⟨isText, signed⟩ := isOther
    exact ⟨_, key, ⟨isText, rfl⟩, rfl, { bound with signed := signed },
      window, applicable⟩

theorem grant_verifiesWithSameBytes
    (single : SingleSignature) {grantInput keyInput : Option Json}
    {now : JsString}
    (verifies : (SignedObject.grant grantInput).Verifies keyInput now) :
    VerifiesWithSameBytes (.grant grantInput) keyInput now := by
  obtain ⟨granted, isGranted⟩ := verifies_grant_iff.mp verifies
  obtain ⟨grant, key, isGrant, isKey, bound, window, -⟩ :=
    verifyAuthorizationGrant_eq_ok_iff.mp isGranted
  have isSigned : ∀ text, Signed key
      ({ grant with signature := text } : AuthorizationGrant).toJson text ↔
        b64uDecode text = b64uDecode grant.signature := by
    intro text
    refine signed_iff single bound.signed ?_ text
    rcases grant with ⟨_, _, _, _, _ | _, _, _, _, _⟩
    · rfl
    · rfl
  refine ⟨grant.signature, by simp [SignedObject.signature, isGrant], ?_⟩
  intro text
  rw [SignedObject.resign, verifies_grant_iff, ← isSigned]
  simp only [GrantSucceeds, verifyAuthorizationGrant_eq_ok_iff,
    resigns_AuthorizationGrant.accepts_iff isGrant, isKey, Option.some.injEq]
  constructor
  · intro succeeds
    obtain ⟨_, _, _, ⟨isText, rfl⟩, rfl, otherBound, -⟩ := succeeds
    exact ⟨isText, otherBound.signed⟩
  · intro isOther
    obtain ⟨isText, signed⟩ := isOther
    exact ⟨_, _, key, ⟨isText, rfl⟩, rfl, { bound with signed := signed },
      window, rfl⟩

theorem revocation_verifiesWithSameBytes
    (single : SingleSignature) {revocationInput keyInput : Option Json}
    {now : JsString}
    (verifies : (SignedObject.revocation revocationInput).Verifies keyInput
      now) :
    VerifiesWithSameBytes (.revocation revocationInput) keyInput now := by
  obtain ⟨_, _, _, isOk⟩ := verifies_revocation_iff.mp verifies
  obtain ⟨revocation, key, isRevocation, isKey, bound, -⟩ :=
    verifyRevocation_eq_ok_iff.mp isOk
  have isSigned : ∀ text, Signed key
      ({ revocation with signature := text } : Revocation).toJson text ↔
        b64uDecode text = b64uDecode revocation.signature := by
    intro text
    refine signed_iff single bound.signed ?_ text
    rfl
  refine ⟨revocation.signature,
    by simp [SignedObject.signature, isRevocation], ?_⟩
  intro text
  rw [SignedObject.resign, verifies_revocation_iff, ← isSigned]
  simp only [verifyRevocation_eq_ok_iff,
    resigns_Revocation.accepts_iff isRevocation, isKey, Option.some.injEq]
  constructor
  · intro succeeds
    obtain ⟨_, _, _, _, _, ⟨isText, rfl⟩, rfl, otherBound, -⟩ := succeeds
    exact ⟨isText, otherBound.signed⟩
  · intro isOther
    obtain ⟨isText, signed⟩ := isOther
    exact ⟨_, _, _, _, key, ⟨isText, rfl⟩, rfl, { bound with signed := signed },
      rfl, rfl, rfl⟩

/-- Every object that verifies does so with exactly the texts of its
signature's bytes. -/
theorem SignedObject.Verifies.withSameBytes
    (single : SingleSignature) {object : SignedObject}
    {keyInput : Option Json} {now : JsString}
    (verifies : object.Verifies keyInput now) :
    VerifiesWithSameBytes object keyInput now := by
  cases object with
  | proof _ _ => exact proof_verifiesWithSameBytes single verifies
  | assertion _ _ => exact assertion_verifiesWithSameBytes single verifies
  | grant _ => exact grant_verifiesWithSameBytes single verifies
  | revocation _ => exact revocation_verifiesWithSameBytes single verifies

/-! ## One spelling -/

/-- A schema-valid object carries a text as its key or as its signature. -/
inductive Carries : Schema JsString → JsString → Prop where
  | key {keyInput : Option Json} {key : KeyDocument}
    (isKey : KeyDocument.schema.accepts keyInput = some key) :
    Carries Ed25519PublicKeyB64u key.publicKeyB64u
  | signature {object : SignedObject} {signature : JsString}
    (isSigned : object.signature = some signature) :
    Carries Ed25519SignatureB64u signature

theorem publicKeyB64u_accepted
    {keyInput : Option Json} {key : KeyDocument}
    (isKey : KeyDocument.schema.accepts keyInput = some key) :
    Ed25519PublicKeyB64u.accepts (some (.string key.publicKeyB64u)) =
      some key.publicKeyB64u := by
  have isShape : KeyDocument.shape.accepts keyInput = some key :=
    (accepts_check_eq_some_iff.mp (accepts_check_eq_some_iff.mp
      (accepts_check_eq_some_iff.mp isKey).1).1).1
  obtain ⟨members, -, -, fields⟩ :=
    accepts_strictObject_eq_some_iff.mp isShape
  simp only [Parse.accepted_seq_eq_some_iff,
    Parse.accepted_seqLeft_eq_some_iff,
    Parse.accepted_map_eq_some_iff] at fields
  obtain ⟨_, -, _, ⟨_, -, _, ⟨_, -, _, ⟨_, -, _, ⟨_, -, _, ⟨_, -, _,
    ⟨publicKey, isPublicKey, _, ⟨⟨_, -, rfl⟩, -⟩, rfl⟩, rfl⟩, rfl⟩, rfl⟩,
      rfl⟩, rfl⟩, rfl⟩ := fields
  rw [accepted_field] at isPublicKey
  exact (rereads_string.check _ _) _ _ isPublicKey

theorem SignedObject.signature_accepted
    {object : SignedObject} {signature : JsString}
    (isSigned : object.signature = some signature) :
    Ed25519SignatureB64u.accepts (some (.string signature)) =
      some signature := by
  cases object with
  | proof proofInput _ =>
      obtain ⟨proof, isProof, rfl⟩ := Option.map_eq_some_iff.mp isSigned
      exact resigns_ManifestProof.accepted _ _ isProof
  | assertion assertionInput _ =>
      obtain ⟨assertion, isAssertion, rfl⟩ :=
        Option.map_eq_some_iff.mp isSigned
      exact resigns_VerificationAssertion.accepted _ _ isAssertion
  | grant grantInput =>
      obtain ⟨grant, isGrant, rfl⟩ := Option.map_eq_some_iff.mp isSigned
      exact resigns_AuthorizationGrant.accepted _ _ isGrant
  | revocation revocationInput =>
      obtain ⟨revocation, isRevocation, rfl⟩ :=
        Option.map_eq_some_iff.mp isSigned
      exact resigns_Revocation.accepted _ _ isRevocation

theorem Carries.acceptedText
    {schema : Schema JsString} {text : JsString}
    (carries : Carries schema text) : AcceptedText schema text := by
  cases carries with
  | key isKey => exact ⟨Or.inl rfl, publicKeyB64u_accepted isKey⟩
  | signature isSigned =>
      exact ⟨Or.inr rfl, SignedObject.signature_accepted isSigned⟩

/-- An accepted key or signature is the encoding of its bytes when the bits
that no byte takes are zero; two that objects carry are told apart by their
bytes, and another signature fails, unless only those bits differ. -/
theorem oneSpelling_iff (single : SingleSignature) :
    (∀ schema text, AcceptedText schema text →
      (b64uEncode (b64uDecode text) = text ↔ unusedBits text = 0)) ∧
    (∀ schema text other, Carries schema text → Carries schema other →
      ((b64uDecode text = b64uDecode other → text = other) ↔
        ¬ DiffersUnused text other)) ∧
    ∀ (object : SignedObject) (keyInput : Option Json) (now : JsString),
      object.Verifies keyInput now →
      ∃ signature, object.signature = some signature ∧
        ∀ text, text ≠ signature →
          (¬ (object.resign text).Verifies keyInput now ↔
            ¬ (AcceptedText Ed25519SignatureB64u text ∧
              DiffersUnused text signature)) := by
  refine ⟨?_, ?_, ?_⟩
  · intro schema text isText
    exact b64uEncode_b64uDecode_iff isText.isSpelling
  · intro schema text other carriesText carriesOther
    rw [carriesText.acceptedText.b64uDecode_eq_iff carriesOther.acceptedText,
      DiffersUnused, not_and', ne_eq, not_not]
  · intro object keyInput now verifies
    obtain ⟨signature, isSigned, verifiesIff⟩ := verifies.withSameBytes single
    have isSignature : AcceptedText Ed25519SignatureB64u signature :=
      ⟨Or.inr rfl, SignedObject.signature_accepted isSigned⟩
    refine ⟨signature, isSigned, ?_⟩
    intro text differs
    rw [verifiesIff, not_iff_not]
    constructor
    · intro isOther
      have isText : AcceptedText Ed25519SignatureB64u text :=
        ⟨Or.inr rfl, isOther.1⟩
      exact ⟨isText, differs,
        (isText.b64uDecode_eq_iff isSignature).mp isOther.2⟩
    · intro isOther
      obtain ⟨isText, -, same⟩ := isOther
      exact ⟨isText.accepted, (isText.b64uDecode_eq_iff isSignature).mpr same⟩

end Resigning

/-- The sample runtime, where the sample signature is the only one. -/
@[reducible]
def sampleSinglePlatform : Platform :=
  { samplePlatform with
    ed25519Verify := fun _ _ signature =>
      decide (signature = b64uDecode sampleProof.signature) }

theorem sampleSinglePlatform_single :
    letI := sampleSinglePlatform
    SingleSignature := by
  let := sampleSinglePlatform
  intro _ _ first second isFirst isSecond
  exact (of_decide_eq_true isFirst).trans (of_decide_eq_true isSecond).symm

/-- The sample proof with its manifest. -/
def sampleProofObject : SignedObject :=
  .proof (some sampleProof.toJson) (some sampleManifest.toJson)

theorem sampleProofObject_verifies :
    letI := sampleSinglePlatform
    sampleProofObject.Verifies (some sampleOperatorKey.toJson)
      (units "2026-10-01T00:00:00Z") := by
  let := sampleSinglePlatform
  rw [sampleProofObject, verifies_proof_iff, verifyManifestProof_succeeds_iff]
  have bound : ProofBound sampleProof sampleManifest sampleOperatorKey := {
    digest := by decide
    agentId := rfl
    keyId := rfl
    role := rfl
    controller := rfl
    active := rfl
    signed := by decide }
  exact ⟨sampleProof, sampleManifest, sampleOperatorKey,
    sampleProof_accepted, sampleManifest_accepted, sampleOperatorKey_accepted,
    bound, by decide, by decide⟩

theorem sampleProofObject_signature :
    letI := sampleSinglePlatform
    sampleProofObject.signature = some sampleProof.signature := by
  rfl

/-- The sample signature with `h` for its first `g`. -/
def sampleForgery : JsString :=
  units <| "htXt3CI35xZiHv16YsKWWJuuZ8TXTeXTzWonQ7braZ7P3aC4" ++
    "RJJxJY0iGIax86SLybRp3nxlP4Fj0WmkSXukBQ"

/-- The sample signature is the encoding of its bytes, and the proof fails
with another first digit. -/
theorem oneSpelling_iff_sample :
    letI := sampleSinglePlatform
    b64uEncode (b64uDecode sampleProof.signature) = sampleProof.signature ∧
      ¬ (sampleProofObject.resign sampleForgery).Verifies
        (some sampleOperatorKey.toJson) (units "2026-10-01T00:00:00Z") := by
  let := sampleSinglePlatform
  obtain ⟨encodes, -, fails⟩ := oneSpelling_iff sampleSinglePlatform_single
  obtain ⟨signature, isSigned, failsIff⟩ :=
    fails _ _ _ sampleProofObject_verifies
  obtain rfl :=
    Option.some.inj (sampleProofObject_signature.symm.trans isSigned)
  have isText : AcceptedText Ed25519SignatureB64u sampleProof.signature :=
    ⟨Or.inr rfl, rfl⟩
  have different : ¬ SameUsedBits sampleForgery sampleProof.signature := by
    decide
  exact ⟨(encodes _ _ isText).mpr (by decide),
    (failsIff sampleForgery (by decide)).mpr fun isOther =>
      different isOther.2.2⟩

/-- The sample signature with `R` for its last `Q`. -/
def sampleSpelling : JsString :=
  units <| "gtXt3CI35xZiHv16YsKWWJuuZ8TXTeXTzWonQ7braZ7P3aC4" ++
    "RJJxJY0iGIax86SLybRp3nxlP4Fj0WmkSXukBR"

/-- The sample key with `h` for its last `g`. -/
def sampleKeySpelling : JsString :=
  units "C2XCaQ41IZoFum-4PbNJ1aUCevSZwClSzjyZ-x85T3h"

/-- A key and a signature have a second spelling, with which a proof still
verifies. -/
theorem key_and_signature_have_second_spellings :
    letI := sampleSinglePlatform
    SingleSignature ∧
      (AcceptedText Ed25519PublicKeyB64u sampleKeySpelling ∧
        b64uEncode (b64uDecode sampleKeySpelling) ≠ sampleKeySpelling ∧
        Carries Ed25519PublicKeyB64u sampleKeySpelling ∧
        Carries Ed25519PublicKeyB64u sampleOperatorKey.publicKeyB64u ∧
        b64uDecode sampleKeySpelling =
          b64uDecode sampleOperatorKey.publicKeyB64u ∧
        sampleKeySpelling ≠ sampleOperatorKey.publicKeyB64u) ∧
      AcceptedText Ed25519SignatureB64u sampleSpelling ∧
      b64uEncode (b64uDecode sampleSpelling) ≠ sampleSpelling ∧
      sampleProofObject.signature = some sampleProof.signature ∧
      sampleSpelling ≠ sampleProof.signature ∧
      sampleProofObject.Verifies (some sampleOperatorKey.toJson)
        (units "2026-10-01T00:00:00Z") ∧
      (sampleProofObject.resign sampleSpelling).Verifies
        (some sampleOperatorKey.toJson) (units "2026-10-01T00:00:00Z") := by
  let := sampleSinglePlatform
  have isKey : KeyDocument.schema.accepts
      (some { sampleOperatorKey with
        publicKeyB64u := sampleKeySpelling }.toJson) =
      some { sampleOperatorKey with publicKeyB64u := sampleKeySpelling } := by
    rfl
  have isSpelling : AcceptedText Ed25519SignatureB64u sampleSpelling :=
    ⟨Or.inr rfl, rfl⟩
  have sameBytes : b64uDecode sampleSpelling =
      b64uDecode sampleProof.signature := by decide
  obtain ⟨signature, isSigned, verifiesIff⟩ :=
    sampleProofObject_verifies.withSameBytes sampleSinglePlatform_single
  obtain rfl :=
    Option.some.inj (sampleProofObject_signature.symm.trans isSigned)
  exact ⟨sampleSinglePlatform_single,
    ⟨⟨Or.inl rfl, rfl⟩, by decide, .key isKey, .key sampleOperatorKey_accepted,
      by decide, by decide⟩,
    isSpelling, by decide, isSigned, by decide, sampleProofObject_verifies,
    (verifiesIff sampleSpelling).mpr ⟨isSpelling.accepted, sameBytes⟩⟩

end AgenId.Core
