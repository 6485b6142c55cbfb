import AgenId.Core.Fitting
import AgenId.Operator.OperatorKey
import AgenId.Web.HeaderText
import AgenId.Web.RetellDeclare

/-!
# The manifest of a Retell agent

`retell-manifest.ts`: of an agent's record only the name is used; everything
else that a manifest asserts is what the operator attests.  What is built may
be signed with any key of the agent, and its proof verifies within its dates.
-/

namespace AgenId.Operator.Retell

open AgenId.Core
open AgenId.Ecma
open AgenId.Validation
open AgenId.Validation.Schema
open AgenId.Registry
open AgenId.Web (FourDigitYear accepts_isoString dateParse_isoString
  declaredOf evaluationTime postDeclare postDeclare_eq_declared_iff
  readDeclaration readDeclaration_eq_ok_iff trim)

/-- What cannot be read off a record and must be stated. -/
structure OperatorAttestations where
  operator : JsString
  operatorDomain : JsString
  disclosesToUser : Bool
  humanEscalation : Bool
  purposeSummary : JsString
  contact : Option JsString
  description : Option JsString

/-- `str(v, fallback)`. -/
def str (v : Option Json) (fallback : JsString) : JsString :=
  match v with
  | some (.string text) => if trim text = [] then fallback else trim text
  | _ => fallback

/-- A text that is spread into an object unless it is empty. -/
def unlessEmpty (text : Option JsString) : Option JsString :=
  text.filter fun text => !text.isEmpty

/-- The name under which a record is declared. -/
def retellName (record : Json) : JsString :=
  str (record.get? (units "agent_name")) (units "Unnamed Retell Agent")

/-- `candidate`. -/
def candidate (record : Json) (att : OperatorAttestations)
    (agentId : JsString) : Json :=
  .record
    [("manifest_version", some (.literal "1.0")),
      ("agent_id", some (.string agentId)),
      ("identity", some (.record
        [("name", some (.string (retellName record))),
          ("description", (unlessEmpty att.description).map .string)])),
      ("ownership", some (.record
        [("operator", some (.string att.operator)),
          ("operator_domain", some (.string att.operatorDomain)),
          ("contact", (unlessEmpty att.contact).map .string)])),
      ("purpose", some (.record
        [("summary", some (.string att.purposeSummary)),
          ("channels", some (.array [.literal "voice"]))])),
      ("disclosure", some (.record
        [("is_ai", some (.boolean true)),
          ("discloses_to_user", some (.boolean att.disclosesToUser)),
          ("human_escalation", some (.boolean att.humanEscalation))]))]

section Build

variable [Platform]

/-- `buildRetellManifest(record, att, agentId)`, with the issues that it
throws. -/
def buildRetellManifest (record : Json) (att : OperatorAttestations)
    (agentId : JsString) : Except (List Issue) Manifest :=
  Manifest.schema.safeParse (some (candidate record att agentId))

end Build

/-! ## What is built -/

/-- The manifest that an operator attests of a record. -/
def attested (record : Json) (att : OperatorAttestations)
    (agentId : JsString) : Manifest where
  agentId := agentId
  identity := ⟨retellName record, unlessEmpty att.description⟩
  ownership := ⟨att.operator, att.operatorDomain, unlessEmpty att.contact⟩
  purpose := ⟨att.purposeSummary, [.voice]⟩
  disclosure := ⟨true, att.disclosesToUser, att.humanEscalation⟩

/-- The attestations are accepted; a text that is empty may be left out. -/
structure OperatorAttestations.Accepted [Platform]
    (att : OperatorAttestations) : Prop where
  isOperator : IsFreeText 300 att.operator
  isHostname : isValidHostname att.operatorDomain = true
  isPurpose : IsFreeText 500 att.purposeSummary
  isContact : ∀ contact ∈ att.contact, contact ≠ [] →
    Platform.isEmail contact = true
  isDescription : ∀ description ∈ att.description, description ≠ [] →
    IsFreeText 1000 description

/-- A record names its agent shortly and without a secret, or not at all. -/
def Nameable (record : Json) : Prop :=
  ∀ text, record.get? (units "agent_name") = some (.string text) →
    (trim text).length ≤ 200 ∧ noSecrets (trim text) = true

theorem candidate_eq (record : Json) (att : OperatorAttestations)
    (agentId : JsString) :
    candidate record att agentId = (attested record att agentId).toJson :=
  rfl

theorem isFreeText_fallback :
    IsFreeText 200 (units "Unnamed Retell Agent") :=
  ⟨by decide, by decide, by decide⟩

theorem noSecrets_nil : noSecrets [] = true := by
  decide

/-- The name of a record is accepted exactly when the record may be named. -/
theorem isFreeText_retellName_iff {record : Json} :
    IsFreeText 200 (retellName record) ↔ Nameable record := by
  unfold retellName Nameable str
  split
  · rename_i text isText
    rw [isText]
    split
    · rename_i isBlank
      refine iff_of_true isFreeText_fallback ?_
      intro other same
      cases same
      rw [isBlank]
      exact ⟨by decide, noSecrets_nil⟩
    · rename_i notBlank
      constructor
      · intro accepted other same
        cases same
        exact ⟨accepted.bounded, accepted.clean⟩
      · intro short
        obtain ⟨bounded, clean⟩ := short text rfl
        exact ⟨List.length_pos_iff.mpr notBlank, bounded, clean⟩
  · rename_i notText
    refine iff_of_true isFreeText_fallback ?_
    intro text isText
    exact absurd isText (notText text)

section Built

variable [Platform] {record : Json} {att : OperatorAttestations}
  {agentId : JsString} {manifest : Manifest}

theorem fits_attested_iff (isAgentId : isValidAgentId agentId = true) :
    (attested record att agentId).Fits ↔
      att.Accepted ∧ Nameable record := by
  rw [← isFreeText_retellName_iff]
  constructor
  · intro fits
    refine ⟨⟨fits.operator, fits.operatorDomain, fits.summary, ?_, ?_⟩,
      fits.name⟩
    · intro contact isContact nonempty
      exact fits.contact contact (mem_filter_nonempty_iff.mpr
        ⟨isContact, nonempty⟩)
    · intro description isDescription nonempty
      exact fits.description description (mem_filter_nonempty_iff.mpr
        ⟨isDescription, nonempty⟩)
  · rintro ⟨accepted, named⟩
    refine
      { agentId := isAgentId
        name := named
        description := ?_
        operator := accepted.isOperator
        operatorDomain := accepted.isHostname
        contact := ?_
        summary := accepted.isPurpose
        channels := List.cons_ne_nil _ _ }
    · intro description isShown
      obtain ⟨isDescription, nonempty⟩ := mem_filter_nonempty_iff.mp isShown
      exact accepted.isDescription description isDescription nonempty
    · intro contact isShown
      obtain ⟨isContact, nonempty⟩ := mem_filter_nonempty_iff.mp isShown
      exact accepted.isContact contact isContact nonempty

theorem buildRetellManifest_eq_ok_iff
    (isAgentId : isValidAgentId agentId = true) :
    buildRetellManifest record att agentId = .ok manifest ↔
      (att.Accepted ∧ Nameable record) ∧
        attested record att agentId = manifest := by
  rw [buildRetellManifest, safeParse_eq_ok_iff, candidate_eq,
    fitting_Manifest.accepts_iff, fits_attested_iff isAgentId]

end Built

/-! ## What is declared -/

/-- What an operator sends to `api/retell/declare`. -/
def declareBody (registration : RegisterBody) (now : JsString) : Json :=
  .record
    [("manifest", some registration.manifest.toJson),
      ("proof", some registration.proof.toJson),
      ("key_document", some registration.keyDocument.toJson),
      ("now", some (.string now))]

section Declared

variable [SigningPlatform]

/-- Documents that may be registered are declared exactly within the dates of
their proof. -/
theorem declares_iff_windowAdmits
    {registration : RegisterBody} (registrable : Registrable registration)
    (now : JsString) (clock : Clock) :
    postDeclare (some (declareBody registration now)) clock =
        .ok (.declared (declaredOf registration now
          (manifestDigest registration.manifest))) ↔
      windowAdmits now registration.proof.createdAt
        registration.proof.expiresAt := by
  have isRead : readDeclaration (declareBody registration now) =
      .ok registration :=
    readDeclaration_eq_ok_iff.mpr
      ⟨registrable.manifest, registrable.proof, registrable.keyDocument⟩
  have isTime : evaluationTime (declareBody registration now) clock = now :=
    rfl
  rw [postDeclare_eq_declared_iff, isRead, isTime]
  constructor
  · rintro ⟨other, same, -, admits, -⟩
    cases same
    exact admits
  · intro admits
    exact ⟨registration, rfl, registrable.bound, admits, rfl⟩

/-- A manifest is built exactly of accepted attestations and a record that can
be named, and it asserts what is attested.  With any key of the agent and
dates in their order it is signed, and what is signed is declared exactly
within these dates. -/
theorem retell_manifest_declared
    (correct : Ed25519Correct)
    (hashLength : ∀ bytes, (Platform.sha256 bytes).length = 32)
    (record : Json) (att : OperatorAttestations) {agentId : JsString}
    (isAgentId : isValidAgentId agentId = true) :
    (∀ manifest, buildRetellManifest record att agentId = .ok manifest ↔
      (att.Accepted ∧ Nameable record) ∧
        attested record att agentId = manifest) ∧
    ∀ manifest, buildRetellManifest record att agentId = .ok manifest →
      ∀ seed doc createdAt expiresAt, OperatorKey seed agentId doc →
        ProofDates createdAt expiresAt →
          ∃ proof, signManifestProof (some manifest.toJson)
              (signingKey seed doc) createdAt expiresAt = .ok proof ∧
            ∀ now clock,
              postDeclare (some (declareBody ⟨manifest, proof, doc⟩ now))
                  clock = .ok (.declared (declaredOf ⟨manifest, proof, doc⟩
                    now (manifestDigest manifest))) ↔
                windowAdmits now createdAt expiresAt := by
  constructor
  · intro manifest
    exact buildRetellManifest_eq_ok_iff isAgentId
  · intro manifest isBuilt seed doc createdAt expiresAt key dates
    obtain ⟨-, rfl⟩ := (buildRetellManifest_eq_ok_iff isAgentId).mp isBuilt
    have isManifest := safeParse_eq_ok_iff.mp isBuilt
    have reread := rereads_Manifest _ _ isManifest
    obtain ⟨proof, signs, isCreated, isExpires, registrable⟩ :=
      key.signs correct hashLength reread rfl dates
    refine ⟨proof, signs, ?_⟩
    intro now clock
    rw [← isCreated, ← isExpires]
    exact declares_iff_windowAdmits registrable now clock

end Declared

/-! ## A sample record -/

def sampleRecord : Json :=
  .record
    [("agent_id", some (.literal "agent_1")),
      ("agent_name", some (.literal " Sunny "))]

def sampleAttestations : OperatorAttestations where
  operator := units "AI Venture Holdings LLC"
  operatorDomain := units "aiventureholdings.com"
  disclosesToUser := false
  humanEscalation := false
  purposeSummary := units "Inbound scheduling for a dental practice."
  contact := none
  description := some []

/-- The manifest of the sample record. -/
def sunnyManifest : Manifest :=
  attested sampleRecord sampleAttestations sampleManifest.agentId

/-- The digest of this manifest, and the signature of its proof. -/
def sunnyDigest : List UInt8 :=
  [0x6b, 0x64, 0x1f, 0x91, 0x68, 0x90, 0x56, 0x63,
    0x20, 0x0e, 0x56, 0x3d, 0x51, 0x08, 0xa3, 0xa2,
    0xe0, 0xe7, 0x5d, 0x3d, 0x89, 0x2b, 0xc6, 0x48,
    0xf5, 0x15, 0x1c, 0xee, 0x4f, 0x2e, 0x54, 0x3e]

def sunnySignature : List UInt8 :=
  b64uDecode (units <|
    "wtlup_3gf8OtqAmJyzNOAmbAbXXkm_W8gZeorQQbqIUODZExOkJJjAgNIUmd-M1Q" ++
      "HftZwrlnYp3AbXNhROVPAw")

theorem length_sunnyDigest : sunnyDigest.length = 32 :=
  rfl

theorem length_sunnySignature : sunnySignature.length = 64 := by
  decide

/-- The payload of the proof of the sample record. -/
def sunnyPayload : ManifestProofPayload where
  agentId := sampleManifest.agentId
  manifestDigest := hex sunnyDigest
  keyId := sampleOperatorKey.keyId
  createdAt := isoString 1789257600000
  expiresAt := isoString 1797033600000

/-- The runtime on the sample record. -/
@[reducible]
def sunnyPlatform : SigningPlatform :=
  recordedPlatform
    [⟨sunnyManifest.toJson, sunnyDigest, length_sunnyDigest⟩]
    [⟨sunnyPayload.toJson, sunnySignature, length_sunnySignature⟩]

/-- The sample record is built, signed and declared at the first instant of
its proof, under the trimmed name. -/
theorem retell_manifest_declared_sample :
    letI := sunnyPlatform
    ∃ manifest proof doc,
      buildRetellManifest sampleRecord sampleAttestations
        sampleManifest.agentId = .ok manifest ∧
      manifest.identity.name = units "Sunny" ∧
      postDeclare (some (declareBody ⟨manifest, proof, doc⟩
          (isoString 1789257600000))) sampleClock =
        .ok (.declared (declaredOf ⟨manifest, proof, doc⟩
          (isoString 1789257600000) (manifestDigest manifest))) := by
  let := sunnyPlatform
  have isAgentId : isValidAgentId sampleManifest.agentId = true := by decide
  have isKeyId : isValidKeyId sampleOperatorKey.keyId = true := by decide
  have year : FourDigitYear 1789257600000 := by
    unfold FourDigitYear
    decide
  have later : FourDigitYear 1797033600000 := by
    unfold FourDigitYear
    decide
  have isCreated := dateParse_isoString year
  have isExpires := dateParse_isoString later
  have dates : ProofDates (isoString 1789257600000)
      (isoString 1797033600000) :=
    { created := accepts_isoString year
      expires := accepts_isoString later
      ordered := by
        rw [isCreated, isExpires]
        decide }
  have seedLength : sampleSigningKey.privateKey.length = 32 := rfl
  have key := (makeKeyDocument_made (recorded_correct _ _) seedLength isAgentId
    isKeyId year).2
  have accepted : sampleAttestations.Accepted :=
    { isOperator := ⟨by decide, by decide, by decide⟩
      isHostname := by decide
      isPurpose := ⟨by decide, by decide, by decide⟩
      isContact := by
        intro contact isContact
        cases isContact
      isDescription := by
        intro description isDescription nonempty
        exact absurd (Option.mem_some_iff.mp isDescription).symm nonempty }
  have named : Nameable sampleRecord := by
    intro text isText
    cases isText
    exact ⟨by decide, by decide⟩
  have result := @retell_manifest_declared _ (recorded_correct _ _)
    (length_recordedResult _) sampleRecord sampleAttestations _ isAgentId
  have isBuilt := (result.1 _).mpr ⟨⟨accepted, named⟩, rfl⟩
  obtain ⟨proof, -, declares⟩ := result.2 _ isBuilt _ _ _ _ key dates
  refine ⟨_, proof, _, isBuilt, by decide, (declares _ sampleClock).mpr ?_⟩
  unfold windowAdmits
  rw [isCreated, isExpires]
  decide

end AgenId.Operator.Retell
