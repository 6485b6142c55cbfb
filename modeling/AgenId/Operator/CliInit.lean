import AgenId.Core.Fitting
import AgenId.Operator.Cli
import AgenId.Operator.OperatorKey
import AgenId.Web.HeaderText

/-!
# What `agenid init` leaves behind

A run succeeds exactly when the texts of the operator are complete and
accepted.  Its files then hold what a registry registers, and the seed with
which the operator signs again.
-/

namespace AgenId.Operator.Cli

open AgenId.Core
open AgenId.Core.KeyMaterial
open AgenId.Ecma
open AgenId.Library
open AgenId.Registry
open AgenId.Validation
open AgenId.Validation.Schema
open AgenId.Web (FourDigitYear accepts_isoString dateParse_isoString
  isBase64Url_of_mem_b64uEncode isGraphic_of_base64Url issuedKey
  sampleAgentDraw sampleKeyDraw)

/-! ## Files -/

theorem printable_option {α : Type} {encode : α → Json}
    (printable : ∀ value, (encode value).Printable) (value : Option α) :
    ∀ found ∈ value.map encode, found.Printable := by
  intro found isFound
  obtain ⟨_, -, rfl⟩ := Option.map_eq_some_iff.mp isFound
  exact printable _

theorem printable_some {value : Json} (printable : value.Printable) :
    ∀ found ∈ some value, found.Printable := by
  intro found isFound
  rw [← Option.mem_some_iff.mp isFound]
  exact printable

theorem printable_string (text : JsString) : (Json.string text).Printable :=
  trivial

theorem printable_Manifest (manifest : Manifest) :
    manifest.toJson.Printable := by
  have identity : manifest.identity.toJson.Printable := by
    apply printable_record (of_decide_eq_true rfl)
    simp only [List.forall_mem_cons, List.not_mem_nil, false_implies,
      implies_true, and_true]
    exact ⟨printable_some trivial, printable_option printable_string _⟩
  have ownership : manifest.ownership.toJson.Printable := by
    apply printable_record (of_decide_eq_true rfl)
    simp only [List.forall_mem_cons, List.not_mem_nil, false_implies,
      implies_true, and_true]
    exact ⟨printable_some trivial, printable_some trivial,
      printable_option printable_string _⟩
  have purpose : manifest.purpose.toJson.Printable := by
    apply printable_record (of_decide_eq_true rfl)
    simp only [List.forall_mem_cons, List.not_mem_nil, false_implies,
      implies_true, and_true]
    refine ⟨printable_some trivial, printable_some ?_⟩
    refine printableItems_iff.mpr ?_
    intro item isItem
    obtain ⟨channel, -, rfl⟩ := List.mem_map.mp isItem
    trivial
  have disclosure : manifest.disclosure.toJson.Printable := by
    apply printable_record (of_decide_eq_true rfl)
    simp only [List.forall_mem_cons, List.not_mem_nil, false_implies,
      implies_true, and_true]
    exact ⟨printable_some trivial, printable_some trivial,
      printable_some trivial⟩
  apply printable_record (of_decide_eq_true rfl)
  simp only [List.forall_mem_cons, List.not_mem_nil, false_implies,
    implies_true, and_true]
  exact ⟨printable_some trivial, printable_some trivial,
    printable_some identity, printable_some ownership,
    printable_some purpose, printable_some disclosure⟩

theorem printable_ManifestProof (proof : ManifestProof) :
    proof.toJson.Printable := by
  have digest : (digestJson proof.manifestDigest).Printable := by
    apply printable_record (of_decide_eq_true rfl)
    simp only [List.forall_mem_cons, List.not_mem_nil, false_implies,
      implies_true, and_true]
    exact ⟨printable_some trivial, printable_some trivial⟩
  apply printable_record (of_decide_eq_true rfl)
  simp only [List.forall_mem_cons, List.not_mem_nil, false_implies,
    implies_true, and_true]
  exact ⟨printable_some trivial, printable_some trivial,
    printable_some trivial, printable_some trivial, printable_some digest,
    printable_some trivial, printable_some trivial, printable_some trivial,
    printable_some trivial⟩

/-- A line end is no part of what base64url encodes. -/
theorem b64uDecode_lineEnd (text : JsString) :
    b64uDecode (text ++ [0x0A]) = b64uDecode text := by
  have noSextet : ([0x0A] : JsString).filterMap sextet? = [] := rfl
  have isTaken : ([0x0A] : JsString).takeWhile (· != 0x3D) = [0x0A] := rfl
  unfold b64uDecode
  rw [List.takeWhile_append, isTaken]
  split
  · rename_i isWhole
    rw [List.filterMap_append, noSextet, List.append_nil,
      (List.takeWhile_prefix _).eq_of_length isWhole]
  · rfl

theorem b64uDecode_file (bytes : List UInt8) :
    b64uDecode (decodeUtf8 (encodeUtf8 (b64uEncode bytes ++ [0x0A]))) =
      bytes := by
  have small : ∀ unit ∈ b64uEncode bytes ++ [0x0A], unit.toNat < 0x80 := by
    intro unit isMember
    rcases List.mem_append.mp isMember with isUnit | isEnd
    · have graphic := isGraphic_of_base64Url
        (isBase64Url_of_mem_b64uEncode unit isUnit)
      exact graphic.2.trans_lt (by decide)
    · rw [List.mem_singleton.mp isEnd]
      decide
  have paired : isPaired (b64uEncode bytes ++ [0x0A]) = true :=
    isPaired_of_lt fun unit isMember =>
      (small unit isMember).trans (by decide)
  have noMark : (b64uEncode bytes ++ [0x0A]).head? ≠ some 0xFEFF := by
    intro isMark
    have isSmall := small 0xFEFF (List.mem_of_mem_head? isMark)
    exact absurd isSmall (by decide)
  rw [decodeUtf8_encodeUtf8 paired noMark, b64uDecode_lineEnd,
    b64uDecode_b64uEncode]

/-! ## What the operator attests -/

/-- The required texts of a command line. -/
structure Values.Gives (values : Values)
    (domain operator agentName purpose : JsString) : Prop where
  givesDomain : values.domain = some domain
  givesOperator : values.operator = some operator
  givesName : values.name = some agentName
  givesPurpose : values.purpose = some purpose

/-- The manifest that a command line attests. -/
def attestedManifest (values : Values)
    (agentId domain operator agentName purpose : JsString) : Manifest where
  agentId := agentId
  identity := ⟨agentName, none⟩
  ownership := ⟨operator, domain,
    values.contact.filter fun contact => !contact.isEmpty⟩
  purpose := ⟨purpose, [.voice]⟩
  disclosure := ⟨true, values.discloses, values.escalates⟩

/-- Every required text is given and accepted, and so is a contact that is
not empty. -/
structure Values.Accepted [Platform] (values : Values)
    (domain operator agentName purpose : JsString) : Prop extends
    Values.Gives values domain operator agentName purpose where
  isHostname : isValidHostname domain = true
  isOperator : IsFreeText 300 operator
  isName : IsFreeText 200 agentName
  isPurpose : IsFreeText 500 purpose
  isContact : ∀ contact ∈ values.contact, contact ≠ [] →
    Platform.isEmail contact = true

section Attested

variable [Platform] {values : Values}
  {agentId domain operator agentName purpose : JsString}

omit [Platform] in
theorem manifestInput_eq :
    manifestInput values agentId domain operator agentName purpose =
      (attestedManifest values agentId domain operator agentName
        purpose).toJson :=
  rfl

theorem accepts_manifestInput_iff
    (isAgentId : isValidAgentId agentId = true)
    (gives : values.Gives domain operator agentName purpose)
    {manifest : Manifest} :
    Manifest.schema.accepts (some (manifestInput values agentId domain
        operator agentName purpose)) = some manifest ↔
      values.Accepted domain operator agentName purpose ∧
        attestedManifest values agentId domain operator agentName purpose =
          manifest := by
  rw [manifestInput_eq, fitting_Manifest.accepts_iff]
  refine and_congr_left fun _ => ?_
  constructor
  · intro fits
    refine ⟨gives, fits.operatorDomain, fits.operator, fits.name,
      fits.summary, ?_⟩
    intro contact isContact nonempty
    exact fits.contact contact (mem_filter_nonempty_iff.mpr
      ⟨isContact, nonempty⟩)
  · intro accepted
    refine
      { agentId := isAgentId
        name := accepted.isName
        description := ?_
        operator := accepted.isOperator
        operatorDomain := accepted.isHostname
        contact := ?_
        summary := accepted.isPurpose
        channels := List.cons_ne_nil _ _ }
    · intro description isDescription
      cases isDescription
    · intro contact isContact
      obtain ⟨isGiven, nonempty⟩ := mem_filter_nonempty_iff.mp isContact
      exact accepted.isContact contact isGiven nonempty

end Attested

/-! ## A run -/

section Run

variable [SigningPlatform]

/-- A machine whose clock has a year of four digits, now and when the proof
ends, does not go back by ninety days, and is in the range of ULIDs. -/
structure Draws.InRange (draws : Draws) : Prop where
  agentNow : ∃ n < 2 ^ 48, Ulid.Denotes draws.agentNow n
  keyNow : ∃ n < 2 ^ 48, Ulid.Denotes draws.keyNow n
  year : FourDigitYear draws.started.time
  later :
    FourDigitYear (draws.expiryBase.time + PROOF_TTL_DAYS * 86400000)
  ordered : draws.started.time <
    draws.expiryBase.time + PROOF_TTL_DAYS * 86400000

/-- The instant at which the proof of a run ends. -/
def Draws.expires (draws : Draws) : ℤ :=
  draws.expiryBase.time + PROOF_TTL_DAYS * 86400000

omit [SigningPlatform] in
theorem mapError_eq_ok_iff
    {ε δ α : Type} {f : ε → δ} {result : Except ε α} {value : α} :
    result.mapError f = .ok value ↔ result = .ok value := by
  cases result with
  | error thrown => simp [Except.mapError]
  | ok found => simp [Except.mapError]

omit [SigningPlatform] in
theorem orDie_eq_ok_iff
    {value : Option JsString} {msg : String} {text : JsString} :
    orDie value msg = .ok text ↔ value = some text := by
  cases value with
  | none => simp [orDie]
  | some found => simp [orDie]

theorem parseManifest_eq_ok_iff {input : Json} {manifest : Manifest} :
    parseManifest input = .ok manifest ↔
      Manifest.schema.accepts (some input) = some manifest := by
  rw [parseManifest, mapError_eq_ok_iff, safeParse_eq_ok_iff]

/-- The key that a run makes, and its dates. -/
structure Made (draws : Draws) (agentId : JsString) (doc : KeyDocument) :
    Prop where
  drawsAgentId :
    generateAgentId draws.agentNow draws.agentRandom = .ok agentId
  isAgentId : isValidAgentId agentId = true
  drawsKeyId : generateKeyId draws.keyNow draws.keyRandom = .ok doc.keyId
  document : makeKeyDocument doc.keyId
    (SigningPlatform.ed25519PublicKey draws.seed.val) .operator agentId
      (nowIso draws.started) = .ok doc
  key : OperatorKey draws.seed.val agentId doc

theorem Draws.InRange.made
    (correct : Ed25519Correct) {draws : Draws} (inRange : draws.InRange) :
    ∃ agentId doc, Made draws agentId doc := by
  obtain ⟨agentMs, agentSmall, agentDenotes⟩ := inRange.agentNow
  obtain ⟨keyMs, keySmall, keyDenotes⟩ := inRange.keyNow
  obtain ⟨agentId, isAgent, isAgentId⟩ :=
    generateAgentId_valid agentDenotes agentSmall draws.agentRandom
  obtain ⟨keyId, isKey, isKeyId⟩ :=
    generateKeyId_valid keyDenotes keySmall draws.keyRandom
  obtain ⟨isDocument, key⟩ := makeKeyDocument_made correct
    draws.seed.property isAgentId isKeyId inRange.year
  exact ⟨agentId, issuedKey draws.seed.val agentId keyId draws.started.time,
    ⟨isAgent, isAgentId, isKey, isDocument, key⟩⟩

omit [SigningPlatform] in
theorem Draws.InRange.expiresIso_eq {draws : Draws}
    (inRange : draws.InRange) :
    expiresIso draws.expiryBase = .ok (isoString draws.expires) := by
  have bounds := inRange.later.bounds
  have clipped : timeClip draws.expires = some draws.expires := by
    unfold timeClip Draws.expires
    rw [if_pos]
    simp only [maxTime]
    omega
  rw [expiresIso]
  change (timeClip draws.expires).elim _ _ = _
  rw [clipped]
  rfl

theorem Draws.InRange.dates {draws : Draws} (inRange : draws.InRange) :
    ProofDates (nowIso draws.started) (isoString draws.expires) where
  created := accepts_isoString inRange.year
  expires := accepts_isoString inRange.later
  ordered := by
    rw [dateParse_nowIso, Draws.expires, dateParse_isoString inRange.later,
      dateLess_some, decide_eq_true_eq]
    exact inRange.ordered

/-- What a successful run has done. -/
theorem init_eq_ok_iff {values : Values} {draws : Draws}
    {agentId : JsString} {doc : KeyDocument} (made : Made draws agentId doc)
    (inRange : draws.InRange) {written : Written} :
    init values draws = .ok written ↔
      ∃ domain operator agentName purpose manifest proof,
        values.Gives domain operator agentName purpose ∧
        isValidHostname domain = true ∧
        Manifest.schema.accepts (some (manifestInput values agentId domain
          operator agentName purpose)) = some manifest ∧
        signManifestProof (some manifest.toJson)
          (signingKey draws.seed.val doc) (nowIso draws.started)
            (isoString draws.expires) = .ok proof ∧
        Succeeds (verifyManifestProof (some proof.toJson)
          (some manifest.toJson) (some doc.toJson) (nowIso draws.started)) ∧
        written = {
          manifest := jsonFile manifest.toJson
          manifestProof := jsonFile proof.toJson
          keyDocument := jsonFile doc.toJson
          operatorPrivateKey :=
            encodeUtf8 (b64uEncode draws.seed.val ++ [0x0A])
          agentId := agentId
          keyId := doc.keyId
          manifestSha256 := manifestDigest manifest } := by
  unfold init
  simp only [except_bind_eq_ok_iff, throw_guard_eq_ok_iff,
    mapError_eq_ok_iff, orDie_eq_ok_iff, parseManifest_eq_ok_iff,
    inRange.expiresIso_eq, generateKeyPair_eq, made.drawsAgentId,
    made.drawsKeyId, Except.ok.injEq, exists_eq_left', made.document]
  constructor
  · rintro ⟨domain, isDomain, operator, isOperator, agentName, isName,
      purpose, isPurpose, isHostname, manifest, isManifest, proof, signs,
      check, verifies, ends⟩
    refine ⟨domain, operator, agentName, purpose, manifest, proof,
      ⟨isDomain, isOperator, isName, isPurpose⟩,
      Bool.eq_true_of_not_eq_false isHostname, isManifest, signs, ?_⟩
    cases check with
    | fail code message => cases ends
    | ok state details =>
        simp only [except_bind_eq_ok_iff, mapError_eq_ok_iff,
          manifestDigestHex_eq, Except.ok.injEq, exists_eq_left',
          pure_eq_ok_iff] at ends
        exact ⟨⟨state, details, verifies⟩, ends.symm⟩
  · rintro ⟨domain, operator, agentName, purpose, manifest, proof, gives,
      isHostname, isManifest, signs, ⟨state, details, verifies⟩, rfl⟩
    refine ⟨domain, gives.givesDomain, operator, gives.givesOperator,
      agentName, gives.givesName, purpose, gives.givesPurpose,
      (Bool.not_eq_false _).mpr isHostname, manifest, isManifest, proof,
      signs, .ok state details, verifies, ?_⟩
    simp only [except_bind_eq_ok_iff, mapError_eq_ok_iff,
      manifestDigestHex_eq, Except.ok.injEq, exists_eq_left', pure_eq_ok_iff]

/-! ## What is left behind -/

/-- The body of a registration, as the files of a run are parsed. -/
def Written.submission (written : Written) : Json :=
  .record
    [("manifest", parseJsonFile written.manifest),
      ("proof", parseJsonFile written.manifestProof),
      ("key_document", parseJsonFile written.keyDocument)]

/-- The signing key that the files of a run keep. -/
def Written.signingKey (written : Written) : SigningKey where
  privateKey := b64uDecode (decodeUtf8 written.operatorPrivateKey)
  document := parseJsonFile written.keyDocument

section Files

variable {manifest : Manifest} {proof : ManifestProof} {doc : KeyDocument}
  {seed : List UInt8} {agentId keyId manifestSha256 : JsString}

omit [SigningPlatform] in
theorem submission_written :
    (Written.mk (jsonFile manifest.toJson) (jsonFile proof.toJson)
        (jsonFile doc.toJson) (encodeUtf8 (b64uEncode seed ++ [0x0A])) agentId
        keyId manifestSha256).submission =
      (RegisterBody.mk manifest proof doc).toJson := by
  have isManifest : parseJsonFile (jsonFile manifest.toJson) =
      some manifest.toJson :=
    parseJsonFile_jsonFile (printable_Manifest manifest)
  have isProof : parseJsonFile (jsonFile proof.toJson) =
      some proof.toJson :=
    parseJsonFile_jsonFile (printable_ManifestProof proof)
  have isKey : parseJsonFile (jsonFile doc.toJson) = some doc.toJson :=
    parseJsonFile_jsonFile (printable_KeyDocument doc)
  unfold Written.submission
  rw [isManifest, isProof, isKey]
  rfl

omit [SigningPlatform] in
theorem signingKey_written :
    (Written.mk (jsonFile manifest.toJson) (jsonFile proof.toJson)
        (jsonFile doc.toJson) (encodeUtf8 (b64uEncode seed ++ [0x0A])) agentId
        keyId manifestSha256).signingKey =
      Operator.signingKey seed doc := by
  have isKey : parseJsonFile (jsonFile doc.toJson) = some doc.toJson :=
    parseJsonFile_jsonFile (printable_KeyDocument doc)
  unfold Written.signingKey Operator.signingKey
  rw [isKey, b64uDecode_file]

end Files

section Left

variable (correct : Ed25519Correct)
  (hashLength : ∀ bytes, (Platform.sha256 bytes).length = 32)

include correct hashLength

/-- What is accepted is signed, and the proof verifies at once. -/
theorem Made.signs
    {draws : Draws} {agentId : JsString} {doc : KeyDocument}
    (made : Made draws agentId doc) (inRange : draws.InRange)
    {input : Json} {manifest : Manifest}
    (isManifest : Manifest.schema.accepts (some input) = some manifest)
    (owns : manifest.agentId = agentId) :
    ∃ proof, signManifestProof (some manifest.toJson)
        (Operator.signingKey draws.seed.val doc) (nowIso draws.started)
          (isoString draws.expires) = .ok proof ∧
      proof.createdAt = nowIso draws.started ∧
      proof.expiresAt = isoString draws.expires ∧
      Registrable ⟨manifest, proof, doc⟩ ∧
      Succeeds (verifyManifestProof (some proof.toJson)
        (some manifest.toJson) (some doc.toJson) (nowIso draws.started)) := by
  have reread := rereads_Manifest _ _ isManifest
  obtain ⟨proof, signs, isCreated, isExpires, registrable⟩ :=
    made.key.signs correct hashLength reread owns inRange.dates
  refine ⟨proof, signs, isCreated, isExpires, registrable, ?_⟩
  refine (verifyManifestProof_succeeds_iff _ _ _ _).mpr
    ⟨proof, manifest, doc, registrable.proof, reread, made.key.accepted,
      registrable.bound, ?_⟩
  have ordered := inRange.ordered
  unfold windowAdmits
  rw [isCreated, isExpires, dateParse_nowIso, Draws.expires,
    dateParse_isoString inRange.later]
  simp only [dateLess_some, decide_eq_false_iff_not]
  omega

/-- On a machine in range, a run succeeds exactly when the texts of the
operator are complete and accepted.  What its files are parsed as is then
registered, as attested, by every registry that has neither the agent nor the
key, at any clock that the dates of the proof admit, and the proof checks
within them.  With the key that its files keep, exactly the accepted manifests
of this agent are signed again. -/
theorem init_registers
    {values : Values} {draws : Draws} (inRange : draws.InRange) :
    ((∃ written, init values draws = .ok written) ↔
      ∃ domain operator agentName purpose,
        values.Accepted domain operator agentName purpose) ∧
    ∀ written, init values draws = .ok written →
      ∃ domain operator agentName purpose key,
        values.Gives domain operator agentName purpose ∧
        (∀ (clock : Clock) (store : MemoryStore)
            (keyUlid agentUlid : JsString),
          draws.started.time - clock.time ≤ MAX_FORWARD_SKEW_MS →
          clock.time ≤ draws.expires →
          store.getAgent written.agentId = none →
          store.getKey written.keyId = none →
            ∃ record final,
              (registerAgent (some written.submission) clock keyUlid
                  agentUlid).run MemoryStore.handle store =
                (.ok record key (attestedManifest values written.agentId
                  domain operator agentName purpose), final) ∧
              ∀ now instant, dateParse now = some instant →
                draws.started.time ≤ instant → instant ≤ draws.expires →
                  ProofChecks final written.agentId now) ∧
        ∀ input createdAt expiresAt, ProofDates createdAt expiresAt →
          ((∃ proof, signManifestProof input written.signingKey createdAt
              expiresAt = .ok proof) ↔
            ∃ manifest, Manifest.schema.accepts input = some manifest ∧
              manifest.agentId = written.agentId) := by
  obtain ⟨agentId, doc, made⟩ := inRange.made correct
  constructor
  · constructor
    · intro succeeds
      obtain ⟨written, isInit⟩ := succeeds
      obtain ⟨domain, operator, agentName, purpose, manifest, proof, gives,
        -, isManifest, -⟩ := (init_eq_ok_iff made inRange).mp isInit
      exact ⟨domain, operator, agentName, purpose,
        ((accepts_manifestInput_iff made.isAgentId gives).mp isManifest).1⟩
    · intro isAccepted
      obtain ⟨domain, operator, agentName, purpose, accepted⟩ := isAccepted
      have isManifest := (accepts_manifestInput_iff made.isAgentId
        accepted.toGives).mpr ⟨accepted, rfl⟩
      obtain ⟨proof, signs, -, -, -, verifies⟩ :=
        made.signs correct hashLength inRange isManifest rfl
      exact ⟨_, (init_eq_ok_iff made inRange).mpr ⟨domain, operator,
        agentName, purpose, _, proof, accepted.toGives, accepted.isHostname,
        isManifest, signs, verifies, rfl⟩⟩
  · intro written isInit
    obtain ⟨domain, operator, agentName, purpose, manifest, proof, gives, -,
      isManifest, signs, -, rfl⟩ := (init_eq_ok_iff made inRange).mp isInit
    obtain ⟨-, rfl⟩ :=
      (accepts_manifestInput_iff made.isAgentId gives).mp isManifest
    obtain ⟨again, signsAgain, isCreated, isExpires, registrable, -⟩ :=
      made.signs correct hashLength inRange isManifest rfl
    obtain rfl := Except.ok.inj (signsAgain.symm.trans signs)
    refine ⟨domain, operator, agentName, purpose, doc, gives, ?_, ?_⟩
    · intro clock store keyUlid agentUlid notAhead notOver freeAgent freeKey
      have created : dateParse again.createdAt =
          some draws.started.time := by
        rw [isCreated, dateParse_nowIso]
      have expires : dateParse again.expiresAt = some draws.expires := by
        rw [isExpires]
        exact dateParse_isoString inRange.later
      obtain ⟨final, isRun, checks⟩ := registers_of_registrable registrable
        created expires notAhead notOver freeAgent freeKey keyUlid agentUlid
      refine ⟨recordOf ⟨attestedManifest values agentId domain operator
        agentName purpose, again, doc⟩ (nowIso clock), final, ?_, checks⟩
      rw [submission_written]
      exact isRun
    · intro input createdAt expiresAt dates
      rw [signingKey_written]
      exact made.key.signs_iff correct hashLength dates

end Left

end Run

/-! ## A sample run -/

/-- `agenid init --domain acmemedical.com`, with a contact. -/
def sampleValues : Values where
  domain := some (units "acmemedical.com")
  operator := some (units "Acme Medical LLC")
  name := some (units "Sarah")
  purpose := some (units "Schedules patient appointments")
  contact := some (units "trust@acmemedical.com")
  discloses := true
  escalates := false

theorem sampleNow_safe : 1789344000000 < 2 ^ 53 := by
  decide

theorem length_sampleSeed : sampleSigningKey.privateKey.length = 32 :=
  rfl

def sampleMachine : Draws where
  started := sampleClock
  expiryBase := sampleClock
  seed := ⟨sampleSigningKey.privateKey, length_sampleSeed⟩
  agentNow := .finite (.ofNat false 1789344000000 sampleNow_safe)
  agentRandom := ⟨sampleAgentDraw.random, sampleAgentDraw.isDrawn⟩
  keyNow := .finite (.ofNat false 1789344000000 sampleNow_safe)
  keyRandom := ⟨sampleKeyDraw.random, sampleKeyDraw.isDrawn⟩

theorem sampleMachine_inRange : sampleMachine.InRange where
  agentNow := ⟨_, by decide, Ulid.denotes_ofNat sampleNow_safe⟩
  keyNow := ⟨_, by decide, Ulid.denotes_ofNat sampleNow_safe⟩
  year := by
    unfold FourDigitYear
    decide
  later := by
    unfold FourDigitYear
    decide
  ordered := by decide

def sampleRunAgentId : JsString := units "agenid:01M2EKDA00QZ9X6V7R4T8N2W5Y"

def sampleRunKeyId : JsString :=
  units "agenid:key:01M2EKDA00XK2P7VBN6TDR8HWE"

/-- The manifest that the sample run attests. -/
def sampleAttested : Manifest :=
  attestedManifest sampleValues sampleRunAgentId (units "acmemedical.com")
    (units "Acme Medical LLC") (units "Sarah")
    (units "Schedules patient appointments")

/-- The digest of this manifest, and the signature of its proof. -/
def sampleRunDigest : List UInt8 :=
  [0xe6, 0x18, 0x90, 0xc8, 0xa3, 0x91, 0x95, 0x8b,
    0x77, 0xb7, 0x65, 0x0f, 0x42, 0x3d, 0x56, 0xbc,
    0xc0, 0x91, 0xa8, 0x0a, 0x68, 0x47, 0xc9, 0x89,
    0x9c, 0xf3, 0x42, 0x64, 0xf1, 0x33, 0x18, 0xc7]

def sampleRunSignature : List UInt8 :=
  b64uDecode (units <|
    "xB1OGB32-sDCJFn-89Caj_G179VvkM7ruG2zKZ88kv-ECViq8uLVCr_-C8P2KHkB" ++
      "ZvPqm87Lah5p5tVPar6cAQ")

theorem length_sampleRunDigest : sampleRunDigest.length = 32 :=
  rfl

theorem length_sampleRunSignature : sampleRunSignature.length = 64 := by
  decide

/-- The payload of the proof of the sample run. -/
def sampleRunPayload : ManifestProofPayload where
  agentId := sampleRunAgentId
  manifestDigest := hex sampleRunDigest
  keyId := sampleRunKeyId
  createdAt := isoString 1789344000000
  expiresAt := isoString 1797120000000

/-- The runtime on the sample run. -/
@[reducible]
def cliPlatform : SigningPlatform :=
  recordedPlatform
    [⟨sampleAttested.toJson, sampleRunDigest, length_sampleRunDigest⟩]
    [⟨sampleRunPayload.toJson, sampleRunSignature,
      length_sampleRunSignature⟩]

/-- The sample run succeeds, and the empty registry registers its files. -/
theorem init_registers_sample :
    letI := cliPlatform
    ∃ written record doc manifest final,
      init sampleValues sampleMachine = .ok written ∧
      (registerAgent (some written.submission) sampleClock
          (units "01JCQ1Q9RWE60Y0GBV3C2RB9NF")
          (units "01JCQ1Q9RWE60Y0GBV3C2RB9NG")).run MemoryStore.handle
            .empty = (.ok record doc manifest, final) ∧
      ProofChecks final written.agentId
        (units "2026-12-12T00:00:00.000Z") := by
  let := cliPlatform
  have accepted : sampleValues.Accepted (units "acmemedical.com")
      (units "Acme Medical LLC") (units "Sarah")
      (units "Schedules patient appointments") :=
    { givesDomain := rfl
      givesOperator := rfl
      givesName := rfl
      givesPurpose := rfl
      isHostname := by decide
      isOperator := ⟨by decide, by decide, by decide⟩
      isName := ⟨by decide, by decide, by decide⟩
      isPurpose := ⟨by decide, by decide, by decide⟩
      isContact := fun _ _ _ => rfl }
  have isNow : dateParse (units "2026-12-12T00:00:00.000Z") =
      some 1797033600000 := by
    decide
  have left := @init_registers _ (recorded_correct _ _)
    (length_recordedResult _) sampleValues sampleMachine sampleMachine_inRange
  obtain ⟨written, isInit⟩ := left.1.mpr ⟨_, _, _, _, accepted⟩
  obtain ⟨_, _, _, _, doc, -, registers, -⟩ := left.2 written isInit
  obtain ⟨record, final, isRun, checks⟩ := registers sampleClock .empty
    (units "01JCQ1Q9RWE60Y0GBV3C2RB9NF")
    (units "01JCQ1Q9RWE60Y0GBV3C2RB9NG") (by decide) (by decide) rfl rfl
  exact ⟨written, record, doc, _, final, isInit, isRun,
    checks _ _ isNow (by decide) (by decide)⟩

end AgenId.Operator.Cli
