import AgenId.Core.Crypto

/-!
# What a verification establishes

A manifest proof verifies exactly when its documents are accepted, the proof
is bound to the manifest and to the key, and the clock is in its window; a
verification assertion likewise.  No verification throws.
-/

namespace AgenId.Core

open AgenId.Ecma
open AgenId.Validation
open AgenId.Validation.Schema

/-! ## Documents are canonicalizable -/

theorem inDomain_Manifest (manifest : Manifest) :
    InDomain manifest.toJson := by
  simp [Manifest.toJson, Identity.toJson, Ownership.toJson, Purpose.toJson,
    Disclosure.toJson]

theorem inDomain_ManifestProof (proof : ManifestProof) :
    InDomain proof.toJson := by
  simp [ManifestProof.toJson, digestJson]

theorem inDomain_Claim (claim : Claim) : InDomain claim.toJson := by
  cases claim <;> simp [Claim.toJson]

theorem inDomain_VerificationAssertion (assertion : VerificationAssertion) :
    InDomain assertion.toJson := by
  simp [VerificationAssertion.toJson, digestJson, Evidence.toJson,
    inDomain_Claim]

theorem inDomain_omitMember
    {value : Json} (domain : InDomain value) (name : String) :
    InDomain (omitMember name value) := by
  cases value with
  | object members =>
      rw [inDomain_object] at domain
      simp only [omitMember, inDomain_object]
      intro entry isEntry
      exact domain entry (List.mem_filter.mp isEntry).1
  | null | boolean _ | number _ | string _ | array _ => exact domain

/-- The canonical bytes that are signed. -/
def signingBytes (signed : Json) : List UInt8 :=
  canonicalBytes (omitMember "signature" signed)

theorem signingInputOf_eq {signed : Json} (domain : InDomain signed) :
    signingInputOf signed = .ok (signingBytes signed) :=
  canonicalizeToBytes_ofJson (inDomain_omitMember domain "signature")

/-! ## Outcomes -/

theorem except_bind_eq_ok_iff
    {ε α β : Type} {outcome : Except ε α} {next : α → Except ε β}
    {result : β} :
    (outcome >>= next) = .ok result ↔
      ∃ value, outcome = .ok value ∧ next value = .ok result := by
  cases outcome with
  | error thrown => simp [bind, Except.bind]
  | ok value => simp [bind, Except.bind]

/-- An outcome that is a successful verification. -/
def Succeeds (outcome : Except AgenIdError VerifyResult) : Prop :=
  ∃ state details, outcome = .ok (.ok state details)

theorem succeeds_ok (state : ClaimState) (details : Json) :
    Succeeds (pure (.ok state details)) :=
  ⟨state, details, rfl⟩

/-- A guard with a failure passes on what follows it. -/
theorem succeeds_guard
    {condition : Prop} [Decidable condition]
    {code : VerifyFailureCode} {message : JsString}
    {rest : Except AgenIdError VerifyResult} :
    Succeeds (if condition then pure (.fail code message) else rest) ↔
      ¬ condition ∧ Succeeds rest := by
  by_cases holds : condition
  · simp only [holds, not_true_eq_false, false_and, iff_false]
    rintro ⟨state, details, impossible⟩
    injection impossible with same
    cases same
  · simp [holds]

theorem except_ok_bind {ε α β : Type} (value : α) (next : α → Except ε β) :
    (Except.ok value >>= next) = next value := rfl

theorem pure_eq_ok_iff {ε α : Type} {result wanted : α} :
    (pure result : Except ε α) = .ok wanted ↔ result = wanted :=
  ⟨Except.ok.inj, congrArg Except.ok⟩

/-- A guard does not produce the value that what follows it may produce. -/
theorem guard_eq_ok_iff
    {ε α : Type} {condition : Prop} [Decidable condition]
    {failure wanted : α} {rest : Except ε α} (differs : failure ≠ wanted) :
    (if condition then pure failure else rest) = .ok wanted ↔
      ¬ condition ∧ rest = .ok wanted := by
  by_cases holds : condition
  · simp [holds, pure_eq_ok_iff, differs]
  · simp [holds]

/-- An outcome that is a value. -/
def Returns {α : Type} (outcome : Except AgenIdError α) : Prop :=
  ∃ result, outcome = .ok result

theorem returns_pure {α : Type} (result : α) :
    Returns (pure result : Except AgenIdError α) :=
  ⟨result, rfl⟩

theorem returns_guard
    {α : Type} {condition : Prop} [Decidable condition] {result : α}
    {rest : Except AgenIdError α} (returns : Returns rest) :
    Returns (if condition then pure result else rest) := by
  split
  · exact returns_pure result
  · exact returns

section Verification

variable [Platform]

/-- The digest of a manifest, as a text. -/
def manifestDigest (manifest : Manifest) : JsString :=
  hex (Platform.sha256 (canonicalBytes manifest.toJson))

theorem manifestDigestHex_eq (manifest : Manifest) :
    manifestDigestHex manifest = .ok (manifestDigest manifest) := by
  rw [manifestDigestHex, canonicalizeToBytes_ofJson (inDomain_Manifest manifest)]
  rfl

/-- Whether a signature is one of the key over the signing bytes. -/
def Signed (key : KeyDocument) (signed : Json) (signature : JsString) : Prop :=
  verifyBytes (b64uDecode key.publicKeyB64u) (signingBytes signed)
    (b64uDecode signature) = true

instance (key : KeyDocument) (signed : Json) (signature : JsString) :
    Decidable (Signed key signed signature) :=
  inferInstanceAs (Decidable (_ = true))

theorem signatureVerifies_eq
    {signed : Json} (domain : InDomain signed)
    (key : KeyDocument) (signature : JsString) :
    signatureVerifies key signed signature =
      .ok (verifyBytes (b64uDecode key.publicKeyB64u) (signingBytes signed)
        (b64uDecode signature)) := by
  rw [signatureVerifies, signingInputOf_eq domain]
  rfl

/-- The comparisons of a verification admit a clock: it is not before the
start and the end is not before it. -/
def windowAdmits (now start finish : JsString) : Prop :=
  dateLess (dateParse now) (dateParse start) = false ∧
    dateLess (dateParse finish) (dateParse now) = false

/-- A proof is bound to a manifest and to an operator key. -/
structure ProofBound
    (proof : ManifestProof) (manifest : Manifest) (key : KeyDocument) :
    Prop where
  digest : manifestDigest manifest = proof.manifestDigest
  agentId : manifest.agentId = proof.agentId
  keyId : key.keyId = proof.keyId
  role : key.role = .operator
  controller : key.controller = proof.agentId
  active : keyActiveAt key proof.createdAt = true
  signed : Signed key proof.toJson proof.signature

theorem verifyParsedProof_succeeds_iff
    (proof : ManifestProof) (manifest : Manifest) (key : KeyDocument)
    (now : JsString) :
    Succeeds (verifyParsedProof proof manifest key now) ↔
      ProofBound proof manifest key ∧
        windowAdmits now proof.createdAt proof.expiresAt := by
  unfold verifyParsedProof
  rw [manifestDigestHex_eq, signatureVerifies_eq (inDomain_ManifestProof proof)]
  simp only [except_ok_bind, succeeds_guard, succeeds_ok, and_true, not_or,
    ne_eq, not_not, Bool.not_eq_true, Bool.not_eq_true', Bool.not_eq_false]
  constructor
  · rintro ⟨⟨digest, agentId⟩, keyId, role, controller, active, started,
      unfinished, signed⟩
    exact ⟨⟨digest, agentId, keyId, role, controller, active, signed⟩,
      started, unfinished⟩
  · rintro ⟨⟨digest, agentId, keyId, role, controller, active, signed⟩,
      started, unfinished⟩
    exact ⟨⟨digest, agentId⟩, keyId, role, controller, active, started,
      unfinished, signed⟩

theorem verifyManifestProof_succeeds_iff
    (proofInput manifestInput keyInput : Option Json) (now : JsString) :
    Succeeds (verifyManifestProof proofInput manifestInput keyInput now) ↔
      ∃ proof manifest key,
        ManifestProof.schema.accepts proofInput = some proof ∧
        Manifest.schema.accepts manifestInput = some manifest ∧
        KeyDocument.schema.accepts keyInput = some key ∧
        ProofBound proof manifest key ∧
        windowAdmits now proof.createdAt proof.expiresAt := by
  unfold verifyManifestProof safeParse
  cases ManifestProof.schema.accepts proofInput with
  | none => simp [Succeeds, schemaFailure]
  | some proof =>
      cases Manifest.schema.accepts manifestInput with
      | none => simp [Succeeds, schemaFailure]
      | some manifest =>
          cases KeyDocument.schema.accepts keyInput with
          | none => simp [Succeeds, schemaFailure]
          | some key =>
              simpa using
                verifyParsedProof_succeeds_iff proof manifest key now

/-- An assertion is bound to an authority key. -/
structure AssertionBound
    (assertion : VerificationAssertion) (key : KeyDocument) : Prop where
  keyId : key.keyId = assertion.keyId
  role : key.role = .authority
  controller : key.controller = assertion.authority
  active : keyActiveAt key assertion.verifiedAt = true
  signed : Signed key assertion.toJson assertion.signature

/-- An assertion applies to the manifest under evaluation, if there is one. -/
def Applicable (assertion : VerificationAssertion)
    (currentManifest : Option Json) : Prop :=
  currentManifest = none ∨ ∃ manifest,
    Manifest.schema.accepts currentManifest = some manifest ∧
      manifestDigest manifest = assertion.manifestDigest

theorem applicability_succeeds_iff
    (assertion : VerificationAssertion) (currentManifest : Option Json) :
    Succeeds (applicability assertion currentManifest) ↔
      Applicable assertion currentManifest := by
  unfold applicability Applicable
  cases currentManifest with
  | none => simp [Succeeds]
  | some value =>
      simp only [safeParse, reduceCtorEq, false_or]
      cases Manifest.schema.accepts (some value) with
      | none => simp [Succeeds, schemaFailure]
      | some manifest =>
          simp only [manifestDigestHex_eq, except_ok_bind, succeeds_guard,
            succeeds_ok, and_true, ne_eq, not_not, Option.some.injEq,
            exists_eq_left']

theorem verifyParsedAssertion_succeeds_iff
    (assertion : VerificationAssertion) (key : KeyDocument) (now : JsString)
    (currentManifest : Option Json) :
    Succeeds (verifyParsedAssertion assertion key now currentManifest) ↔
      AssertionBound assertion key ∧
        windowAdmits now assertion.verifiedAt assertion.expiresAt ∧
        Applicable assertion currentManifest := by
  unfold verifyParsedAssertion
  rw [signatureVerifies_eq (inDomain_VerificationAssertion assertion)]
  simp only [except_ok_bind, succeeds_guard, applicability_succeeds_iff,
    ne_eq, not_not, Bool.not_eq_true, Bool.not_eq_true', Bool.not_eq_false]
  constructor
  · rintro ⟨keyId, role, controller, active, started, unfinished, signed,
      applicable⟩
    exact ⟨⟨keyId, role, controller, active, signed⟩,
      ⟨started, unfinished⟩, applicable⟩
  · rintro ⟨⟨keyId, role, controller, active, signed⟩,
      ⟨started, unfinished⟩, applicable⟩
    exact ⟨keyId, role, controller, active, started, unfinished, signed,
      applicable⟩

theorem verifyVerificationAssertion_succeeds_iff
    (assertionInput keyInput : Option Json) (now : JsString)
    (currentManifest : Option Json) :
    Succeeds (verifyVerificationAssertion assertionInput keyInput now
        currentManifest) ↔
      ∃ assertion key,
        VerificationAssertion.schema.accepts assertionInput =
          some assertion ∧
        KeyDocument.schema.accepts keyInput = some key ∧
        AssertionBound assertion key ∧
        windowAdmits now assertion.verifiedAt assertion.expiresAt ∧
        Applicable assertion currentManifest := by
  unfold verifyVerificationAssertion safeParse
  cases VerificationAssertion.schema.accepts assertionInput with
  | none => simp [Succeeds, schemaFailure]
  | some assertion =>
      cases KeyDocument.schema.accepts keyInput with
      | none => simp [Succeeds, schemaFailure]
      | some key =>
          simpa using verifyParsedAssertion_succeeds_iff assertion key now
            currentManifest

/-! ## No verification throws -/

theorem verifyManifestProof_returns
    (proofInput manifestInput keyInput : Option Json) (now : JsString) :
    Returns (verifyManifestProof proofInput manifestInput keyInput now) := by
  unfold verifyManifestProof
  split
  · exact returns_pure _
  · split
    · exact returns_pure _
    · split
      · exact returns_pure _
      · rename_i proof _ _ manifest _ _ key _
        unfold verifyParsedProof
        rw [manifestDigestHex_eq,
          signatureVerifies_eq (inDomain_ManifestProof proof)]
        simp only [except_ok_bind]
        repeat' apply returns_guard
        exact returns_pure _

theorem verifyVerificationAssertion_returns
    (assertionInput keyInput : Option Json) (now : JsString)
    (currentManifest : Option Json) :
    Returns (verifyVerificationAssertion assertionInput keyInput now
      currentManifest) := by
  unfold verifyVerificationAssertion
  split
  · exact returns_pure _
  · split
    · exact returns_pure _
    · rename_i assertion _ _ key _
      unfold verifyParsedAssertion
      rw [signatureVerifies_eq (inDomain_VerificationAssertion assertion)]
      simp only [except_ok_bind]
      repeat' apply returns_guard
      unfold applicability
      cases currentManifest with
      | none => exact returns_pure _
      | some value =>
          dsimp only
          split
          · exact returns_pure _
          · rw [manifestDigestHex_eq, except_ok_bind]
            exact returns_guard (returns_pure _)

end Verification

end AgenId.Core
