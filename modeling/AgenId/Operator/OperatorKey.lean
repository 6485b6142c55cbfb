import AgenId.Core.KeyMaterial
import AgenId.Web.FleetIssuance

/-!
# Signing with a new key

The tools of an operator draw a seed and make a key document for it.  With
these two, every accepted manifest of the agent that controls the key is
signed, and what is signed is registered by any registry that has neither the
agent nor the key.
-/

namespace AgenId.Operator

open AgenId.Core
open AgenId.Core.KeyMaterial
open AgenId.Ecma
open AgenId.Library
open AgenId.Registry
open AgenId.Validation
open AgenId.Validation.Schema
open AgenId.Web (FourDigitYear issuedKey accepts_issuedKey accepts_hex
  accepts_keyId accepts_signature getAgent_registered getKey_registered
  registrationTime_admits)

section Keys

variable [SigningPlatform]

/-- A key document that was made for a seed and for the agent that controls
it. -/
structure OperatorKey (seed : List UInt8) (agentId : JsString)
    (doc : KeyDocument) : Prop where
  seedLength : seed.length = 32
  accepted : KeyDocument.schema.accepts (some doc.toJson) = some doc
  keyId : isValidKeyId doc.keyId = true
  publishes :
    b64uDecode doc.publicKeyB64u = SigningPlatform.ed25519PublicKey seed
  role : doc.role = .operator
  controller : doc.controller = agentId
  active : doc.status = .active
  neverRetired : doc.retiredAt = none
  neverRevoked : doc.revokedAt = none

/-- The signing key of a seed and its document. -/
def signingKey (seed : List UInt8) (doc : KeyDocument) : SigningKey :=
  ⟨seed, some doc.toJson⟩

variable {seed : List UInt8} {agentId keyId : JsString} {doc : KeyDocument}

theorem makeKeyDocument_made
    (correct : Ed25519Correct) (seedLength : seed.length = 32)
    (isAgentId : isValidAgentId agentId = true)
    (isKeyId : isValidKeyId keyId = true) {time : ℤ}
    (year : FourDigitYear time) :
    makeKeyDocument keyId (SigningPlatform.ed25519PublicKey seed) .operator
        agentId (isoString time) = .ok (issuedKey seed agentId keyId time) ∧
      OperatorKey seed agentId (issuedKey seed agentId keyId time) := by
  obtain ⟨ulid, rfl, isUlid⟩ := isValidKeyId_iff.mp isKeyId
  have accepted := accepts_issuedKey correct seedLength isAgentId isUlid year
  refine ⟨parseOrThrow_eq_ok_iff.mpr accepted, ?_⟩
  exact
    { seedLength := seedLength
      accepted := accepted
      keyId := isKeyId
      publishes := b64uDecode_b64uEncode _
      role := rfl
      controller := rfl
      active := rfl
      neverRetired := rfl
      neverRevoked := rfl }

theorem OperatorKey.activeAt
    (key : OperatorKey seed agentId doc) (text : JsString) :
    keyActiveAt doc text = true := by
  rw [keyActiveAt, key.active, key.neverRetired, key.neverRevoked]
  rfl

/-! ## Signing -/

variable {value : Json} {manifest : Manifest} {createdAt expiresAt : JsString}

/-- The dates of a proof are timestamps in their order. -/
structure ProofDates (createdAt expiresAt : JsString) : Prop where
  created : Rfc3339Utc.accepts (some (.string createdAt)) = some createdAt
  expires : Rfc3339Utc.accepts (some (.string expiresAt)) = some expiresAt
  ordered : dateLess (dateParse createdAt) (dateParse expiresAt) = true

/-- The payload of a proof is accepted, and so is its proof with a signature
of the length of the scheme. -/
theorem accepts_signedPayload
    {payload : ManifestProofPayload} {digest signature : List UInt8}
    (isAgentId : isValidAgentId payload.agentId = true)
    (isKeyId : KeyId.accepts (some (.string payload.keyId)) =
      some payload.keyId)
    (isDigest : payload.manifestDigest = hex digest)
    (digestLength : digest.length = 32)
    (signatureLength : signature.length = 64)
    (dates : ProofDates payload.createdAt payload.expiresAt) :
    ManifestProofPayload.schema.accepts (some payload.toJson) =
        some payload ∧
      ManifestProof.schema.accepts
          (some (payload.signed (b64uEncode signature)).toJson) =
        some (payload.signed (b64uEncode signature)) := by
  obtain ⟨agentId, digestText, keyId, createdAt, expiresAt⟩ := payload
  dsimp only at isAgentId isKeyId isDigest dates
  subst isDigest
  have isAgent : AgentId.accepts (some (.string agentId)) = some agentId :=
    accepts_check_eq_some_iff.mpr ⟨accepts_string _, isAgentId⟩
  have isDigest : Digest.accepts (some (digestJson (hex digest))) =
      some (hex digest) := by
    refine accepts_strictObject_eq_some_iff.mpr
      ⟨_, rfl, unknownNames_eq_nil rfl (List.Subset.refl _), ?_⟩
    exact Parse.accepted_seqRight_eq_some_iff.mpr
      ⟨⟨_, accepted_literal_field rfl⟩,
        accepted_field_of_lookup rfl (accepts_hex digestLength)⟩
  have created := dates.created
  have expires := dates.expires
  constructor
  · refine accepts_check_eq_some_iff.mpr ⟨?_, dates.ordered⟩
    refine accepts_strictObject_eq_some_iff.mpr
      ⟨_, rfl, unknownNames_eq_nil rfl (List.Subset.refl _), ?_⟩
    simp only [Parse.accepted_seqRight_eq_some_iff]
    refine ⟨⟨_, ⟨_, accepted_literal_field rfl⟩,
      accepted_literal_field rfl⟩, ?_⟩
    refine Parse.accepted_seq_of ?_ (accepted_field_of_lookup rfl expires)
    refine Parse.accepted_seq_of ?_ (accepted_field_of_lookup rfl created)
    refine Parse.accepted_seq_of ?_ (accepted_field_of_lookup rfl isKeyId)
    refine Parse.accepted_seq_of ?_ (accepted_field_of_lookup rfl isDigest)
    exact Parse.accepted_seqLeft_eq_some_iff.mpr
      ⟨Parse.accepted_map_of (accepted_field_of_lookup rfl isAgent),
        _, accepted_literal_field rfl⟩
  · unfold ManifestProofPayload.signed
    refine accepts_check_eq_some_iff.mpr ⟨?_, dates.ordered⟩
    refine accepts_strictObject_eq_some_iff.mpr
      ⟨_, rfl, unknownNames_eq_nil rfl (List.Subset.refl _), ?_⟩
    simp only [Parse.accepted_seqRight_eq_some_iff]
    refine ⟨⟨_, ⟨_, accepted_literal_field rfl⟩,
      accepted_literal_field rfl⟩, ?_⟩
    refine Parse.accepted_seq_of ?_ (accepted_field_of_lookup rfl
      (accepts_signature signatureLength))
    refine Parse.accepted_seq_of ?_ (accepted_field_of_lookup rfl expires)
    refine Parse.accepted_seq_of ?_ (accepted_field_of_lookup rfl created)
    refine Parse.accepted_seq_of ?_ (accepted_field_of_lookup rfl isKeyId)
    refine Parse.accepted_seq_of ?_ (accepted_field_of_lookup rfl isDigest)
    exact Parse.accepted_seqLeft_eq_some_iff.mpr
      ⟨Parse.accepted_map_of (accepted_field_of_lookup rfl isAgent),
        _, accepted_literal_field rfl⟩

theorem OperatorKey.readsKeyId (key : OperatorKey seed agentId doc) :
    KeyId.accepts (some (.string doc.keyId)) = some doc.keyId := by
  obtain ⟨ulid, isKeyId, isUlid⟩ := isValidKeyId_iff.mp key.keyId
  rw [isKeyId]
  exact accepts_keyId isUlid

variable (correct : Ed25519Correct)
  (hashLength : ∀ bytes, (Platform.sha256 bytes).length = 32)

include correct hashLength

/-- A manifest of the agent that controls the key is signed, and what is
signed may be registered. -/
theorem OperatorKey.signs
    (key : OperatorKey seed agentId doc)
    (isManifest : Manifest.schema.accepts (some value) = some manifest)
    (owns : manifest.agentId = agentId)
    (dates : ProofDates createdAt expiresAt) :
    ∃ proof, signManifestProof (some value) (signingKey seed doc) createdAt
        expiresAt = .ok proof ∧
      proof.createdAt = createdAt ∧ proof.expiresAt = expiresAt ∧
      Registrable ⟨manifest, proof, doc⟩ := by
  let payload : ManifestProofPayload := {
    agentId := manifest.agentId
    manifestDigest := manifestDigest manifest
    keyId := doc.keyId
    createdAt := createdAt
    expiresAt := expiresAt }
  let signature := SigningPlatform.ed25519Sign seed
    (signingBytes payload.toJson)
  obtain ⟨isPayload, isProof⟩ := @accepts_signedPayload _ payload
    (Platform.sha256 (canonicalBytes manifest.toJson)) signature
    (Manifest.agentId_valid isManifest) key.readsKeyId rfl (hashLength _)
    (correct.signatureLength seed _ key.seedLength) dates
  have signs : signManifestProof (some value) (signingKey seed doc) createdAt
      expiresAt = .ok (payload.signed (b64uEncode signature)) := by
    simp only [signManifestProof, manifestDigestHex_eq, except_ok_bind,
      except_bind_eq_ok_iff, parseOrThrow_eq_ok_iff, throw_guard_eq_ok_iff,
      ne_eq, not_not]
    refine ⟨manifest, isManifest, doc, key.accepted, key.role,
      key.controller.trans owns.symm, payload, isPayload, _, ?_, isProof⟩
    rw [← withSignature_proof]
    exact (signPayload_eq_ok_iff (inDomain_ManifestProofPayload payload)).mpr
      ⟨key.seedLength, rfl⟩
  obtain ⟨other, published, isOther, isPublished, reread, bound⟩ :=
    proofBound_of_signManifestProof correct signs
      ⟨doc, key.accepted, key.publishes⟩
  obtain rfl := Option.some.inj (isManifest.symm.trans isOther)
  obtain rfl := Option.some.inj (key.accepted.symm.trans isPublished)
  refine ⟨_, signs, rfl, rfl, ?_⟩
  exact
    { manifest := rereads_Manifest _ _ isManifest
      proof := reread
      keyDocument := key.accepted
      bound := bound (key.activeAt _) }

/-- With dates in their order, exactly the accepted manifests of the agent
that controls the key are signed. -/
theorem OperatorKey.signs_iff
    (key : OperatorKey seed agentId doc)
    (dates : ProofDates createdAt expiresAt) {input : Option Json} :
    (∃ proof, signManifestProof input (signingKey seed doc) createdAt
        expiresAt = .ok proof) ↔
      ∃ manifest, Manifest.schema.accepts input = some manifest ∧
        manifest.agentId = agentId := by
  constructor
  · intro isSigned
    obtain ⟨proof, signs⟩ := isSigned
    simp only [signManifestProof, manifestDigestHex_eq, except_ok_bind,
      except_bind_eq_ok_iff, parseOrThrow_eq_ok_iff, throw_guard_eq_ok_iff,
      ne_eq, not_not] at signs
    obtain ⟨manifest, isManifest, other, isOther, -, controller, -⟩ := signs
    obtain rfl := Option.some.inj (key.accepted.symm.trans isOther)
    exact ⟨manifest, isManifest, controller.symm.trans key.controller⟩
  · intro owned
    obtain ⟨manifest, isManifest, owns⟩ := owned
    cases input with
    | none => cases isManifest
    | some value =>
        obtain ⟨proof, signs, -⟩ :=
          key.signs correct hashLength isManifest owns dates
        exact ⟨proof, signs⟩

end Keys

/-! ## Registering -/

section Registering

variable [Platform]

/-- What may be registered is registered at a clock that its dates admit, by
a store that has neither its agent nor its key, and its proof then checks
within its dates. -/
theorem registers_of_registrable
    {registration : RegisterBody} (registrable : Registrable registration)
    {created expires : ℤ}
    (isCreated : dateParse registration.proof.createdAt = some created)
    (isExpires : dateParse registration.proof.expiresAt = some expires)
    {clock : Clock}
    (notAhead : created - clock.time ≤ MAX_FORWARD_SKEW_MS)
    (notOver : clock.time ≤ expires) {store : MemoryStore}
    (freeAgent : store.getAgent registration.manifest.agentId = none)
    (freeKey : store.getKey registration.keyDocument.keyId = none)
    (keyUlid agentUlid : JsString) :
    ∃ final, (registerAgent (some registration.toJson) clock keyUlid
        agentUlid).run MemoryStore.handle store =
          (.ok (recordOf registration (nowIso clock))
            registration.keyDocument registration.manifest, final) ∧
      ∀ now instant, dateParse now = some instant → created ≤ instant →
        instant ≤ expires →
          ProofChecks final registration.manifest.agentId now := by
  have ordered := ManifestProof.ordered registrable.proof
  rw [isCreated, isExpires, dateLess_some, decide_eq_true_eq] at ordered
  obtain ⟨now, isTime, admits⟩ := registrationTime_admits isCreated isExpires
    ordered.le notAhead notOver
  have isAdmitted := admitAgent_of_registrable
    (readBody_toJson registrable.toAccepted) registrable isTime admits
  have usable : differs (store.getKey registration.keyDocument.keyId)
      registration.keyDocument = false := by
    rw [freeKey]
    rfl
  refine ⟨_, registerAgent_published isAdmitted usable freeAgent, ?_⟩
  intro now instant isNow notBefore notAfter
  have found := (getAgent_registered registration (nowIso clock) keyUlid
    agentUlid store registration.manifest.agentId).trans (if_pos rfl)
  have isKey := (getKey_registered registration (nowIso clock) keyUlid
    agentUlid store registration.proof.keyId).trans
      (if_pos registrable.bound.keyId.symm)
  rw [proofChecks_iff registrable found, isKey,
    checkProof_recordOf_iff registrable]
  unfold windowAdmits
  rw [isNow, isCreated, isExpires]
  simp only [dateLess_some, decide_eq_false_iff_not]
  omega

end Registering

end AgenId.Operator
