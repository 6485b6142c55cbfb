import AgenId.Core.Procedure
import AgenId.Web.ClientEncoding

/-!
# Agents issued in the browser

What `signAgent` produces is accepted by the protocol's own schemas, and the
proof verifies with its manifest and its key for the ninety days from the
date at which it was made.
-/

namespace AgenId.Web

open AgenId.Core
open AgenId.Ecma
open AgenId.Validation
open AgenId.Validation.Schema
open ClientCrypto (ManifestInput SignedAgent UlidDraw ClientValue
  jcsSerialize_ofJson finite_of_inDomain hexEncode ifNonempty manifestOf
  generateUlid generateKeyPair signAgent)

/-! ## The manifest -/

theorem inDomain_ifNonempty
    {text : Option JsString} {value : Json}
    (isValue : ifNonempty text = some value) : InDomain value := by
  obtain ⟨found, -, rfl⟩ := Option.map_eq_some_iff.mp isValue
  exact trivial

theorem wellFormed_ifNonempty
    {text : Option JsString} {value : Json}
    (isValue : ifNonempty text = some value) : WellFormed value := by
  obtain ⟨found, -, rfl⟩ := Option.map_eq_some_iff.mp isValue
  exact trivial

theorem inDomain_manifestOf
    (agentId agentName : JsString) (input : ManifestInput) :
    InDomain (manifestOf agentId agentName input) := by
  simp only [manifestOf, inDomain_record, inDomain_literal, inDomain_string,
    inDomain_boolean, inDomain_array, List.forall_mem_cons, List.not_mem_nil,
    List.mem_map, forall_exists_index, and_imp, forall_apply_eq_imp_iff₂,
    Option.mem_def, Option.some.injEq, forall_eq', false_implies,
    implies_true, and_true, true_and]
  exact ⟨fun _ => inDomain_ifNonempty, fun _ => inDomain_ifNonempty⟩

theorem wellFormed_manifestOf
    (agentId agentName : JsString) (input : ManifestInput) :
    WellFormed (manifestOf agentId agentName input) := by
  apply wellFormed_record (of_decide_eq_true rfl)
  simp only [List.forall_mem_cons, Option.mem_def, Option.some.injEq,
    forall_eq', List.not_mem_nil, false_implies, implies_true, and_true,
    wellFormed_literal, wellFormed_string, true_and]
  refine ⟨?_, ?_, ?_, ?_⟩
  · apply wellFormed_record (of_decide_eq_true rfl)
    simp only [List.forall_mem_cons, Option.mem_def, Option.some.injEq,
      forall_eq', wellFormed_string, true_and]
    exact ⟨fun _ => wellFormed_ifNonempty, fun _ isEntry => absurd isEntry List.not_mem_nil⟩
  · apply wellFormed_record (of_decide_eq_true rfl)
    simp only [List.forall_mem_cons, Option.mem_def, Option.some.injEq,
      forall_eq', wellFormed_string, true_and]
    exact ⟨fun _ => wellFormed_ifNonempty, fun _ isEntry => absurd isEntry List.not_mem_nil⟩
  · apply wellFormed_record (of_decide_eq_true rfl)
    simp [wellFormed_array]
  · apply wellFormed_record (of_decide_eq_true rfl)
    simp

theorem canonicalizeToBytes_client {value : Json} (inside : InDomain value) :
    ClientCrypto.canonicalizeToBytes (.ofJson value) =
      .ok (canonicalBytes value) := by
  rw [ClientCrypto.canonicalizeToBytes,
    jcsSerialize_ofJson value (finite_of_inDomain inside)]
  rfl

/-! ## Digests of manifests -/

section Digests

variable [Platform]

/-- A manifest of another digest than the one a proof is bound to. -/
theorem verifyManifestProof_mismatch
    {proofInput manifestInput keyInput : Option Json}
    {proof : ManifestProof} {manifest : Manifest} {key : KeyDocument}
    (isProof : ManifestProof.schema.accepts proofInput = some proof)
    (isManifest : Manifest.schema.accepts manifestInput = some manifest)
    (isKey : KeyDocument.schema.accepts keyInput = some key)
    (differs : manifestDigest manifest ≠ proof.manifestDigest)
    (now : JsString) :
    ∃ message, verifyManifestProof proofInput manifestInput keyInput now =
      .ok (.fail .manifestDigestMismatch message) := by
  unfold verifyManifestProof
  rw [safeParse_of_accepts isProof, safeParse_of_accepts isManifest,
    safeParse_of_accepts isKey]
  dsimp only
  unfold verifyParsedProof
  rw [manifestDigestHex_eq, except_ok_bind, if_pos (Or.inl differs)]
  exact ⟨_, rfl⟩

/-- Two byte sequences are a collision of the hash. -/
def Collide (first second : List UInt8) : Prop :=
  first ≠ second ∧ Platform.sha256 first = Platform.sha256 second

/-- A manifest has the canonical bytes of the value it was read from. -/
theorem canonicalBytes_of_accepts
    {value : Json} {manifest : Manifest}
    (wellFormed : WellFormed value)
    (isManifest : Manifest.schema.accepts (some value) = some manifest) :
    InDomain value ∧
      canonicalBytes value = canonicalBytes manifest.toJson := by
  have same := faithful_Manifest.encoded wellFormed isManifest
  have domain := inDomain_Manifest manifest
  have inside := same.inDomain wellFormed domain
  exact ⟨inside, (canonicalBytes_eq_iff wellFormed inside
    (wellFormed_Manifest manifest) domain).mpr same⟩

/-- Manifests that are not the same value have different digests, up to a
collision of the hash. -/
theorem digest_differs
    {value other : Json} {otherManifest : Manifest}
    (wellFormed : WellFormed value) (inside : InDomain value)
    (otherWellFormed : WellFormed other)
    (isOther : Manifest.schema.accepts (some other) = some otherManifest)
    (differs : ¬ SameValue other value)
    (noCollision : ¬ Collide (canonicalBytes other) (canonicalBytes value)) :
    manifestDigest otherManifest ≠
      hex (Platform.sha256 (canonicalBytes value)) := by
  obtain ⟨otherInside, otherBytes⟩ :=
    canonicalBytes_of_accepts otherWellFormed isOther
  intro sameDigest
  have sameHash := hex_injective sameDigest
  rw [← otherBytes] at sameHash
  apply noCollision
  refine ⟨?_, sameHash⟩
  intro sameBytes
  exact differs ((canonicalBytes_eq_iff otherWellFormed otherInside
    wellFormed inside).mp sameBytes)

end Digests

section Issuance

variable [SigningPlatform]

/-! ## What is issued -/

/-- The milliseconds of ninety days. -/
def NINETY_DAYS : Int := 7776000000

/-- The payload of an issued proof. -/
def issuedPayload (agentId keyId digest : JsString) (time : Int) :
    ManifestProofPayload where
  agentId := agentId
  manifestDigest := digest
  keyId := keyId
  createdAt := isoString time
  expiresAt := isoString (time + NINETY_DAYS)

/-- An issued proof. -/
def issuedProof (seed : List UInt8) (agentId keyId digest : JsString)
    (time : Int) : ManifestProof :=
  let payload := issuedPayload agentId keyId digest time
  payload.signed (b64uEncode
    (SigningPlatform.ed25519Sign seed (canonicalBytes payload.toJson)))

/-- An issued key document. -/
def issuedKey (seed : List UInt8) (agentId keyId : JsString) (time : Int) :
    KeyDocument where
  keyId := keyId
  publicKeyB64u := b64uEncode (SigningPlatform.ed25519PublicKey seed)
  role := .operator
  controller := agentId
  createdAt := isoString time
  status := .active
  retiredAt := none
  revokedAt := none

variable {seed : List UInt8} {agentName : JsString} {input : ManifestInput}
  {time : Int} {agentDraw keyDraw : UlidDraw}

theorem signAgent_eq
    (seedLength : seed.length = 32)
    (later : FourDigitYear (time + NINETY_DAYS)) :
    let agentId := units "agenid:" ++ generateUlid agentDraw
    let keyId := units "agenid:key:" ++ generateUlid keyDraw
    let manifest := manifestOf agentId agentName input
    let digest := hex (Platform.sha256 (canonicalBytes manifest))
    signAgent (generateKeyPair seed) agentName input (some time) agentDraw
        keyDraw =
      .ok {
        agentId := agentId
        keyId := keyId
        manifest := manifest
        proof := (issuedProof seed agentId keyId digest time).toJson
        keyDocument := (issuedKey seed agentId keyId time).toJson
        manifestDigest := digest } := by
  intro agentId keyId manifest digest
  have bounds := later.bounds
  have clipped : timeClip (time + 90 * 24 * 60 * 60 * 1000) =
      some (time + NINETY_DAYS) := by
    unfold timeClip
    rw [if_pos]
    · rfl
    · simp only [maxTime, NINETY_DAYS] at bounds ⊢
      omega
  have manifestBytes :=
    canonicalizeToBytes_client (inDomain_manifestOf agentId agentName input)
  have payloadBytes := canonicalizeToBytes_client
    (inDomain_ManifestProofPayload
      (issuedPayload agentId keyId digest time))
  unfold signAgent
  refine except_bind_eq_ok_iff.mpr ⟨isoString time, rfl, ?_⟩
  refine except_bind_eq_ok_iff.mpr
    ⟨isoString (time + NINETY_DAYS), ?_, ?_⟩
  · rw [Option.bind_some, clipped]
    rfl
  refine except_bind_eq_ok_iff.mpr
    ⟨canonicalBytes manifest, manifestBytes, ?_⟩
  dsimp only
  rw [hexEncode_eq]
  refine except_bind_eq_ok_iff.mpr ⟨_, payloadBytes, ?_⟩
  refine except_bind_eq_ok_iff.mpr
    ⟨_, if_neg (not_not.mpr seedLength), ?_⟩
  rw [b64uEncode_eq]
  simp only [generateKeyPair, b64uEncode_eq]
  rfl

/-! ## What is issued is accepted -/

theorem accepts_issuedKey
    (correct : Ed25519Correct) (seedLength : seed.length = 32)
    {agentId keyUlid : JsString} (isAgentId : isValidAgentId agentId = true)
    (isUlid : isValidUlid keyUlid = true) (year : FourDigitYear time) :
    KeyDocument.schema.accepts (some
        (issuedKey seed agentId (units "agenid:key:" ++ keyUlid)
          time).toJson) =
      some (issuedKey seed agentId (units "agenid:key:" ++ keyUlid)
        time) := by
  have nonempty : 1 ≤ agentId.length := by
    obtain ⟨head, tail, rfl, -⟩ :=
      (Regex.test_prefixed_iff _ _ _ _ _).mp isAgentId
    simp
    omega
  have isController : (string.minLength 1).accepts
      (some (.string agentId)) = some agentId :=
    accepts_check_eq_some_iff.mpr
      ⟨accepts_string _, decide_eq_true nonempty⟩
  refine accepts_check_eq_some_iff.mpr ⟨accepts_check_eq_some_iff.mpr
    ⟨accepts_check_eq_some_iff.mpr ⟨?_, isAgentId⟩, rfl⟩, rfl⟩
  refine accepts_strictObject_eq_some_iff.mpr
    ⟨_, rfl, unknownNames_eq_nil rfl (List.Subset.refl _), ?_⟩
  refine Parse.accepted_seq_of ?_ (accepted_field_of_lookup rfl rfl)
  refine Parse.accepted_seq_of ?_ (accepted_field_of_lookup rfl rfl)
  refine Parse.accepted_seq_of ?_ (accepted_field_of_lookup rfl rfl)
  refine Parse.accepted_seq_of ?_
    (accepted_field_of_lookup rfl (accepts_isoString year))
  refine Parse.accepted_seq_of ?_ (accepted_field_of_lookup rfl isController)
  refine Parse.accepted_seq_of ?_ (accepted_field_of_lookup rfl rfl)
  refine Parse.accepted_seq_of ?_ (accepted_field_of_lookup rfl
    (accepts_publicKey (correct.publicKeyLength seed seedLength)))
  exact Parse.accepted_seqLeft_eq_some_iff.mpr
    ⟨Parse.accepted_map_of
      (accepted_field_of_lookup rfl (accepts_keyId isUlid)),
      _, accepted_literal_field rfl⟩

theorem accepts_issuedProof
    (correct : Ed25519Correct) (seedLength : seed.length = 32)
    {agentId keyUlid : JsString} {hashed : List UInt8}
    (hashLength : hashed.length = 32)
    (isAgentId : isValidAgentId agentId = true)
    (isUlid : isValidUlid keyUlid = true) (year : FourDigitYear time)
    (later : FourDigitYear (time + NINETY_DAYS)) :
    ManifestProof.schema.accepts (some
        (issuedProof seed agentId (units "agenid:key:" ++ keyUlid)
          (hex hashed) time).toJson) =
      some (issuedProof seed agentId (units "agenid:key:" ++ keyUlid)
        (hex hashed) time) := by
  have isDigest : Digest.accepts (some (digestJson (hex hashed))) =
      some (hex hashed) := by
    refine accepts_strictObject_eq_some_iff.mpr
      ⟨_, rfl, unknownNames_eq_nil rfl (List.Subset.refl _), ?_⟩
    exact Parse.accepted_seqRight_eq_some_iff.mpr
      ⟨⟨_, accepted_literal_field rfl⟩,
        accepted_field_of_lookup rfl (accepts_hex hashLength)⟩
  have isAgent : AgentId.accepts (some (.string agentId)) = some agentId :=
    accepts_check_eq_some_iff.mpr ⟨accepts_string _, isAgentId⟩
  have ordered : dateLess (dateParse (isoString time))
      (dateParse (isoString (time + NINETY_DAYS))) = true := by
    rw [dateParse_isoString year, dateParse_isoString later, dateLess_some,
      decide_eq_true_eq]
    unfold NINETY_DAYS
    omega
  refine accepts_check_eq_some_iff.mpr ⟨?_, ordered⟩
  refine accepts_strictObject_eq_some_iff.mpr
    ⟨_, rfl, unknownNames_eq_nil rfl (List.Subset.refl _), ?_⟩
  simp only [Parse.accepted_seqRight_eq_some_iff]
  refine ⟨⟨_, ⟨_, accepted_literal_field rfl⟩,
    accepted_literal_field rfl⟩, ?_⟩
  refine Parse.accepted_seq_of ?_ (accepted_field_of_lookup rfl
    (accepts_signature (correct.signatureLength seed _ seedLength)))
  refine Parse.accepted_seq_of ?_
    (accepted_field_of_lookup rfl (accepts_isoString later))
  refine Parse.accepted_seq_of ?_
    (accepted_field_of_lookup rfl (accepts_isoString year))
  refine Parse.accepted_seq_of ?_
    (accepted_field_of_lookup rfl (accepts_keyId isUlid))
  refine Parse.accepted_seq_of ?_ (accepted_field_of_lookup rfl isDigest)
  exact Parse.accepted_seqLeft_eq_some_iff.mpr
    ⟨Parse.accepted_map_of (accepted_field_of_lookup rfl isAgent),
      _, accepted_literal_field rfl⟩

/-! ## What is issued verifies -/

/-- An issued proof carries the signature of its issued key. -/
theorem issued_signed
    (correct : Ed25519Correct) (seedLength : seed.length = 32)
    (agentId keyId digest : JsString) (time : Int) :
    Signed (issuedKey seed agentId keyId time)
      (issuedProof seed agentId keyId digest time).toJson
      (issuedProof seed agentId keyId digest time).signature := by
  let payload := issuedPayload agentId keyId digest time
  have isSigned : signingBytes
      (issuedProof seed agentId keyId digest time).toJson =
        canonicalBytes payload.toJson := by
    unfold issuedProof signingBytes
    dsimp only
    rw [← withSignature_proof, omitMember_withSignature]
    rfl
  have isPublicKey : b64uDecode (issuedKey seed agentId keyId
      time).publicKeyB64u = SigningPlatform.ed25519PublicKey seed :=
    b64uDecode_b64uEncode _
  have isSignature : b64uDecode (issuedProof seed agentId keyId digest
      time).signature = SigningPlatform.ed25519Sign seed
        (canonicalBytes payload.toJson) :=
    b64uDecode_b64uEncode _
  unfold Signed verifyBytes
  rw [isSigned, isPublicKey, isSignature,
    if_neg (not_not.mpr (correct.signatureLength seed _ seedLength)),
    if_neg (not_not.mpr (correct.publicKeyLength seed seedLength))]
  exact correct.verifies seed _ seedLength

/-- An agent is issued for every key pair, name, input and date, when the
manifest is accepted and the years have four digits.  Its proof and its key
document are accepted, the proof verifies from its date to ninety days later,
the digest is the protocol's, and no other manifest verifies with the
proof. -/
theorem issued_agent_verifies
    (correct : Ed25519Correct)
    (hashLength : ∀ bytes, (Platform.sha256 bytes).length = 32)
    (seedLength : seed.length = 32) {manifest : Manifest}
    (isManifest : Manifest.schema.accepts (some (manifestOf
      (units "agenid:" ++ generateUlid agentDraw) agentName input)) =
        some manifest)
    (year : FourDigitYear time)
    (later : FourDigitYear (time + NINETY_DAYS))
    (keyYear : FourDigitYear keyDraw.time) :
    ∃ signed proof key,
      signAgent (generateKeyPair seed) agentName input (some time) agentDraw
          keyDraw = .ok signed ∧
        signed.manifest = manifestOf
          (units "agenid:" ++ generateUlid agentDraw) agentName input ∧
        ManifestProof.schema.accepts (some signed.proof) = some proof ∧
        KeyDocument.schema.accepts (some signed.keyDocument) = some key ∧
        dateParse proof.createdAt = some time ∧
        (∀ now instant, dateParse now = some instant → time ≤ instant →
          instant ≤ time + NINETY_DAYS →
            ∃ details, verifyManifestProof (some signed.proof)
              (some signed.manifest) (some signed.keyDocument) now =
                .ok (.ok .declared details)) ∧
        manifestDigestHex manifest = .ok signed.manifestDigest ∧
        ∀ other otherManifest now, WellFormed other →
          Manifest.schema.accepts (some other) = some otherManifest →
          ¬ SameValue other signed.manifest →
          ¬ Collide (canonicalBytes other)
            (canonicalBytes signed.manifest) →
            ∃ message, verifyManifestProof (some signed.proof) (some other)
              (some signed.keyDocument) now =
                .ok (.fail .manifestDigestMismatch message) := by
  let agentId := units "agenid:" ++ generateUlid agentDraw
  let value := manifestOf agentId agentName input
  let hashed := Platform.sha256 (canonicalBytes value)
  have inside : InDomain value := inDomain_manifestOf agentId agentName input
  have wellFormed : WellFormed value :=
    wellFormed_manifestOf agentId agentName input
  have same := faithful_Manifest.encoded wellFormed isManifest
  have sameAgentId : agentId = manifest.agentId :=
    same.text "agent_id" rfl rfl
  have isAgentId : isValidAgentId agentId = true := by
    rw [sameAgentId]
    exact Manifest.agentId_valid isManifest
  have isUlid : isValidUlid (generateUlid keyDraw) = true := by
    have bounds := keyYear.bounds
    exact isValidUlid_encodeUlid (by omega) keyDraw.isDrawn
  have isProof := accepts_issuedProof correct seedLength (hashLength
    (canonicalBytes value)) isAgentId isUlid year later
  have isKey := accepts_issuedKey correct seedLength isAgentId isUlid year
  have isDigest : manifestDigest manifest = hex hashed := by
    unfold manifestDigest
    rw [← (canonicalBytes_of_accepts wellFormed isManifest).2]
  have isCreated := dateParse_isoString year
  refine ⟨_, _, _, signAgent_eq seedLength later, rfl, isProof, isKey,
    isCreated, ?_, ?_, ?_⟩
  · intro now instant isNow notBefore notAfter
    refine (verifyManifestProof_declares_iff _ _ _
      (Option.isSome_of_eq_some isNow)).mpr ?_
    exact ⟨_, manifest, _, isProof, isManifest, isKey, isDigest,
      sameAgentId.symm, memberOf_manifest_version isProof isManifest, rfl,
      rfl, rfl, rfl,
      ⟨instant, time, time + NINETY_DAYS, isNow, isCreated,
        dateParse_isoString later, notBefore, notAfter⟩,
      issued_signed correct seedLength _ _ _ _⟩
  · rw [manifestDigestHex_eq, isDigest]
  · intro other otherManifest now otherWellFormed isOther differs noCollision
    exact verifyManifestProof_mismatch isProof isOther isKey
      (digest_differs wellFormed inside otherWellFormed isOther differs
        noCollision) now

end Issuance

/-! ## The sample agent -/

/-- The signature of the sample proof when its date is written with
milliseconds. -/
def issuedSignature : List UInt8 :=
  b64uDecode (units <|
    "GHyix1c1gAw9j4n9lcl6_JdbfAChS5N92NPKfRlXg3ce2xtUwnFyqKi_4688zXn4" ++
      "eOS_prvdQjwH3-BRMchVAw")

theorem length_issuedSignature : issuedSignature.length = 64 := by
  decide

/-- The runtime on the sample agent, issued at the date of the sample
proof. -/
@[reducible]
def issuingPlatform : SigningPlatform :=
  { sampleSigningPlatform with
    ed25519Sign := fun _ _ => issuedSignature }

theorem issuing_correct :
    letI := issuingPlatform
    Ed25519Correct :=
  let := issuingPlatform
  { publicKeyLength := fun _ _ =>
      (by decide : (b64uDecode sampleOperatorKey.publicKeyB64u).length = 32)
    signatureLength := fun _ _ _ => length_issuedSignature
    verifies := fun _ _ _ => rfl }

/-- What the ULID of the sample agent is made of. -/
def sampleAgentDraw : UlidDraw where
  time := 1727620812258
  random := [191, 211, 211, 108, 248, 38, 145, 81, 112, 190]
  isDrawn := rfl

/-- What the ULID of the sample key is made of. -/
def sampleKeyDraw : UlidDraw where
  time := 1727620851428
  random := [236, 197, 99, 237, 117, 54, 155, 132, 71, 142]
  isDrawn := rfl

/-- The input of the sample manifest. -/
def sampleInput : ManifestInput where
  operator := units "Acme Medical LLC"
  operatorDomain := units "acmemedical.com"
  disclosesToUser := true
  humanEscalation := true
  purposeSummary := units
    "Schedules and reschedules patient appointments by phone and SMS"
  contact := some (units "trust@acmemedical.com")
  description := some (units "Inbound appointment scheduling assistant")
  channels := some [.voice, .sms]

theorem generateUlid_sampleAgentDraw :
    units "agenid:" ++ generateUlid sampleAgentDraw =
      sampleManifest.agentId := by
  decide

/-- The sample agent is issued, and its proof still verifies ninety days
later. -/
theorem issued_agent_verifies_sample :
    letI := issuingPlatform
    ∃ signed details,
      signAgent (generateKeyPair sampleSigningKey.privateKey) (units "Sarah")
          sampleInput (some 1789257600000) sampleAgentDraw sampleKeyDraw =
        .ok signed ∧
      verifyManifestProof (some signed.proof) (some signed.manifest)
          (some signed.keyDocument) (units "2026-12-12T00:00:00.000Z") =
        .ok (.ok .declared details) := by
  let := issuingPlatform
  have isManifest : Manifest.schema.accepts (some (manifestOf
      (units "agenid:" ++ generateUlid sampleAgentDraw) (units "Sarah")
        sampleInput)) = some sampleManifest := by
    rw [generateUlid_sampleAgentDraw]
    exact sampleManifest_accepted
  have year : FourDigitYear 1789257600000 := by
    unfold FourDigitYear
    decide
  have later : FourDigitYear (1789257600000 + NINETY_DAYS) := by
    unfold FourDigitYear
    decide
  have keyYear : FourDigitYear sampleKeyDraw.time := by
    unfold FourDigitYear
    decide
  have isNow : dateParse (units "2026-12-12T00:00:00.000Z") =
      some 1797033600000 := by
    decide
  have seedLength : sampleSigningKey.privateKey.length = 32 := rfl
  obtain ⟨signed, proof, key, isSigned, -, -, -, -, verifies, -⟩ :=
    issued_agent_verifies issuing_correct (fun _ => rfl) seedLength isManifest year
      later keyYear
  obtain ⟨details, isDeclared⟩ := verifies _ _ isNow (by decide) (by decide)
  exact ⟨signed, details, isSigned, isDeclared⟩

end AgenId.Web
