import AgenId.Core.AssertionSubject
import AgenId.Core.Signed
import AgenId.Registry.Levels
import AgenId.Registry.Recovery
import AgenId.Registry.WriteOnce

/-!
# From an assertion to the level

An authority signs an assertion about an agent, and the registry takes it in,
counts it in the envelope of the agent, and serves it by its identifier.  The
page of an assertion does not look at the manifest of the agent; that it says
what the envelope says is a fact about what the registry stores.
-/

namespace AgenId.Registry

open AgenId.Core
open AgenId.Ecma
open AgenId.Library
open AgenId.Validation
open AgenId.Validation.Schema

section Issuing

variable [Platform]

/-! ## The page of an assertion -/

/-- `GET /v1/assertions/:assertion_ulid`: the assertion with its check, or an
error.  The check is made without a manifest. -/
def ShownForm.getAssertionByUlid
    {Record Key Assertion ShownManifest ShownProof ShownAssertion : Type}
    (form : ShownForm Record Key Assertion ShownManifest ShownProof
      ShownAssertion) (assertionUlid now : JsString) :
    Program (StoreCall.ReplyIn Record Key Assertion)
      (Except Response (ViewOf ShownAssertion)) :=
  if !isValidUlid assertionUlid then
    return .error (err 400 "invalid_assertion_id"
      (units "expected a bare assertion ULID in the path"))
  else do
    let found : Option Assertion ←
      call (.getAssertion (units "assertion:" ++ assertionUlid))
    match found with
    | none => return .error (err 404 "assertion_not_found"
        (units "no such assertion"))
    | some assertion => do
      let auKey : Option Key ←
        call (.getKey (form.assertion assertion).keyId)
      match form.checkAssertion none now assertion auKey with
      | .error _ => return .error internalError
      | .ok check => return .ok ⟨form.shown assertion, check⟩

/-- `GET /v1/assertions/:assertion_ulid` on a store of documents. -/
def getAssertionByUlid (assertionUlid now : JsString) :
    StoreProgram (Except Response AssertionView) :=
  ShownForm.documents.getAssertionByUlid assertionUlid now

/-- The check on the page of an assertion, against its stored key. -/
def pageCheck (assertion : VerificationAssertion)
    (auKey : Option KeyDocument) (now : JsString) :
    Except AgenIdError Check :=
  StoredForm.documents.checkAssertion none now assertion auKey

/-- The path parameter of an assertion's page, as the registry links it. -/
def assertionUlidOf (assertion : VerificationAssertion) : JsString :=
  assertion.assertionId.drop (units "assertion:").length

/-- The page of a stored assertion shows it. -/
theorem getAssertionByUlid_run
    {store : MemoryStore} {assertion : VerificationAssertion} {check : Check}
    {now : JsString}
    (named : ASSERTION_ID_REGEX.test assertion.assertionId = true)
    (found : store.getAssertion assertion.assertionId = some assertion)
    (isCheck : pageCheck assertion (store.getKey assertion.keyId) now =
      .ok check) :
    (getAssertionByUlid (assertionUlidOf assertion) now).run
        MemoryStore.handle store = (.ok ⟨assertion, check⟩, store) := by
  obtain ⟨ulid, isId, isUlid⟩ := ulidRegex_test_iff.mp named
  have isParameter : assertionUlidOf assertion = ulid := by
    rw [assertionUlidOf, isId, List.drop_left]
  unfold getAssertionByUlid ShownForm.getAssertionByUlid
  unfold pageCheck at isCheck
  rw [isParameter, isUlid, Bool.not_true, if_neg Bool.false_ne_true]
  simp only [call_eq, Program.call_bind, Program.done_bind, Program.run_call,
    MemoryStore.handle]
  rw [← isId, found]
  simp only [Program.run_call, MemoryStore.handle]
  rw [isCheck]
  rfl

/-! ## The checks of an envelope -/

/-- Each view of the loop carries the check of its assertion. -/
theorem tallyAssertions_checks
    {answers : (request : StoreCall) → request.Reply} {record : AgentRecord}
    {now : JsString} {assertions : List VerificationAssertion}
    {tally final : Tally}
    (isTally : (tallyAssertions record now assertions tally).answered
      answers = .ok final) :
    ∀ view ∈ final.views, view ∈ tally.views ∨
      checkAssertion record now view.assertion
        (keysOf answers view.assertion.keyId) = .ok view.check := by
  induction assertions generalizing tally with
  | nil =>
      obtain rfl := Except.ok.inj isTally
      intro view isView
      exact Or.inl isView
  | cons assertion rest inductionHypothesis =>
      obtain ⟨check, isCheck⟩ := checkAssertion_returns record now assertion
        (keysOf answers assertion.keyId)
      rw [tallyAssertions_cons record now assertion rest tally isCheck rfl]
        at isTally
      intro view isView
      rcases inductionHypothesis isTally view isView with before | checked
      · rcases List.mem_append.mp before with earlier | isLast
        · exact Or.inl earlier
        · obtain rfl := List.mem_singleton.mp isLast
          exact Or.inr isCheck
      · exact Or.inr checked

theorem buildEnvelope_checks
    {answers : (request : StoreCall) → request.Reply} {record : AgentRecord}
    {now : JsString} {envelope : ResolutionEnvelope}
    (isEnvelope :
      (buildEnvelope record now).answered answers = .ok envelope) :
    ∀ view ∈ envelope.assertions,
      checkAssertion record now view.assertion
        (keysOf answers view.assertion.keyId) = .ok view.check := by
  obtain ⟨proofCheck, isProofCheck⟩ :=
    checkProof_returns record (keysOf answers record.proof.keyId) now
  obtain ⟨views, isTally, -⟩ := tallyAssertions_answered answers record now
    (answers (.listAssertionsForSubject record.agentId))
    ⟨[], .L1_REGISTERED, 0⟩
  have checks := tallyAssertions_checks isTally
  have isBuilt :=
    ShownForm.documents.buildEnvelope_answered isProofCheck isTally
  have areViews := isBuilt.symm.trans isEnvelope
  simp only [except_bind_eq_ok_iff] at areViews
  obtain ⟨path, -, url, -, areViews⟩ := areViews
  obtain rfl := Except.ok.inj areViews
  intro view isView
  rcases checks view isView with before | checked
  · cases before
  · exact checked

/-! ## The page says what the envelope says -/

/-- An assertion that is bound to the digest of a manifest is verified beside
it as without it. -/
theorem verify_beside_manifest
    {assertion : VerificationAssertion} {manifest : Manifest}
    (accepted : VerificationAssertion.schema.accepts
      (some assertion.toJson) = some assertion)
    (isManifest : Manifest.schema.accepts (some manifest.toJson) =
      some manifest)
    (isDigest : manifestDigest manifest = assertion.manifestDigest)
    (key : Option Json) (now : JsString) :
    verifyVerificationAssertion (some assertion.toJson) key now
        (some manifest.toJson) =
      verifyVerificationAssertion (some assertion.toJson) key now none := by
  have applies : applicability assertion (some manifest.toJson) =
      applicability assertion none := by
    unfold applicability
    dsimp only
    rw [safeParse_of_accepts isManifest]
    simp only [manifestDigestHex_eq, except_ok_bind, ne_eq, isDigest,
      not_true, if_false]
    rfl
  unfold verifyVerificationAssertion
  rw [safeParse_of_accepts accepted]
  dsimp only
  cases KeyDocument.schema.safeParse key with
  | error issues => rfl
  | ok doc =>
      unfold verifyParsedAssertion
      rw [applies]

theorem Sound.check_eq_pageCheck
    {store : MemoryStore} (sound : Sound store) {agentId : JsString}
    {record : AgentRecord} (found : store.getAgent agentId = some record)
    {assertion : VerificationAssertion} {assertionId : JsString}
    (isStored : store.getAssertion assertionId = some assertion)
    (about : assertion.subject = agentId) (auKey : Option KeyDocument)
    (now : JsString) :
    checkAssertion record now assertion auKey =
      pageCheck assertion auKey now := by
  have soundAssertion := sound.assertions assertionId assertion isStored
  obtain ⟨other, isOther, isDigest⟩ := soundAssertion.subject
  obtain rfl : other = record := by
    rw [about] at isOther
    exact Option.some.inj (isOther.symm.trans found)
  cases auKey with
  | none => rfl
  | some key =>
      unfold checkAssertion pageCheck StoredForm.checkAssertion
      dsimp only
      rw [verify_beside_manifest soundAssertion.accepted
        (sound.agents agentId other found).manifest isDigest]

theorem VerificationAssertion.assertionId_valid
    {assertion : VerificationAssertion} {input : Option Json}
    (accepted : VerificationAssertion.schema.accepts input =
      some assertion) :
    ASSERTION_ID_REGEX.test assertion.assertionId = true := by
  obtain ⟨isObject, -⟩ := accepts_superRefine_eq_some_iff.mp accepted
  obtain ⟨members, rfl, -, fields⟩ :=
    accepts_strictObject_eq_some_iff.mp isObject
  simp only [Parse.accepted_seq_eq_some_iff,
    Parse.accepted_seqRight_eq_some_iff,
    Parse.accepted_map_eq_some_iff] at fields
  obtain ⟨-, _, -, _, ⟨_, -, _, ⟨_, -, _, ⟨_, -, _, ⟨_, -, _, ⟨_, -, _,
    ⟨_, -, _, ⟨_, -, _, ⟨_, -, _, ⟨_, -, _, ⟨_, -, _, ⟨_, -, _,
    ⟨assertionId, isAssertionId, rfl⟩, rfl⟩, rfl⟩, rfl⟩, rfl⟩, rfl⟩, rfl⟩,
    rfl⟩, rfl⟩, rfl⟩, rfl⟩, rfl⟩, rfl⟩ := fields
  rw [accepted_field] at isAssertionId
  exact (accepts_check_eq_some_iff.mp isAssertionId).2

/-- In a sound store, the envelope of an agent shows the stored assertions
about it, each as its own page does. -/
theorem Sound.page_agrees
    {store : MemoryStore} (sound : Sound store) {agentId : JsString}
    {record : AgentRecord} (found : store.getAgent agentId = some record)
    (now : JsString) :
    ∃ envelope, (buildEnvelope record now).run MemoryStore.handle store =
        (.ok envelope, store) ∧
      (buildEnvelope record now).answered store.answers = .ok envelope ∧
      (∀ view ∈ envelope.assertions,
        (getAssertionByUlid (assertionUlidOf view.assertion) now).run
          MemoryStore.handle store = (.ok view, store)) ∧
      ∀ assertionId assertion,
        store.getAssertion assertionId = some assertion →
          assertion.subject = agentId →
            ∃ check, ⟨assertion, check⟩ ∈ envelope.assertions := by
  have soundAgent := sound.agents agentId record found
  obtain ⟨envelope, isRun, isEnvelope⟩ := buildEnvelope_of_sound soundAgent now
  obtain ⟨-, -, -, areViews⟩ := buildEnvelope_reports isEnvelope
  have listed (assertion : VerificationAssertion) :
      assertion ∈ envelope.assertions.map ViewOf.assertion ↔
        assertion.subject = agentId ∧ ∃ assertionId,
          store.getAssertion assertionId = some assertion := by
    rw [areViews, ← soundAgent.named]
    exact mem_listAssertionsForSubject_iff
  refine ⟨envelope, isRun, isEnvelope, ?_, ?_⟩
  · intro view isView
    obtain ⟨about, assertionId, isStored⟩ :=
      (listed view.assertion).mp (List.mem_map_of_mem isView)
    have soundAssertion := sound.assertions assertionId _ isStored
    have isCheck := buildEnvelope_checks isEnvelope view isView
    rw [sound.check_eq_pageCheck found isStored about] at isCheck
    rw [← soundAssertion.named] at isStored
    exact getAssertionByUlid_run
      (VerificationAssertion.assertionId_valid soundAssertion.accepted)
      isStored isCheck
  · intro assertionId assertion isStored about
    obtain ⟨view, isView, rfl⟩ := List.mem_map.mp
      ((listed assertion).mpr ⟨about, assertionId, isStored⟩)
    exact ⟨view.check, isView⟩

/-! ## The request that issues it -/

/-- The body of a request that issues an assertion. -/
def issueBody (assertion : VerificationAssertion) : Json :=
  .record [("assertion", some assertion.toJson)]

theorem issueBody_parsed
    {assertion : VerificationAssertion}
    (accepted : VerificationAssertion.schema.accepts
      (some assertion.toJson) = some assertion) :
    IssueAssertionBody.safeParse (some (issueBody assertion)) =
      .ok assertion := by
  have isAccepted : IssueAssertionBody.accepts
      (some (issueBody assertion)) = some assertion := by
    apply accepts_strictObject_eq_some_iff.mpr
    refine ⟨[(units "assertion", assertion.toJson)], rfl, rfl, ?_⟩
    exact accepted_field_of_lookup rfl accepted
  exact safeParse_of_accepts isAccepted

theorem postAssertions_issued
    {authorityToken authorization : Option JsString}
    {store : MemoryStore} {agentId clock : JsString} {record : AgentRecord}
    {assertion : VerificationAssertion} {key : KeyDocument}
    (isAuthorized : requireAuthority authorityToken authorization = none)
    (isAgentId : isValidAgentId agentId = true)
    (found : store.getAgent agentId = some record)
    (accepted : VerificationAssertion.schema.accepts
      (some assertion.toJson) = some assertion)
    (about : assertion.subject = record.agentId)
    (isKey : store.getKey assertion.keyId = some key)
    (verifies : Succeeds (verifyVerificationAssertion
      (some assertion.toJson) (some key.toJson) clock
      (some record.manifest.toJson)))
    (fresh : store.getAssertion assertion.assertionId = none)
    (occurredAt ulid : JsString) :
    (postAssertions authorityToken authorization agentId
        (some (issueBody assertion)) clock occurredAt ulid).run
        MemoryStore.handle store =
      (issuedResponse assertion,
        (store.putAssertion assertion).appendEvent
          (issuedEvent record assertion ulid occurredAt)) := by
  obtain ⟨state, details, isVerified⟩ := verifies
  unfold postAssertions StoredForm.postAssertions StoredForm.issueAssertion
  rw [isAuthorized, issueBody_parsed accepted]
  dsimp only
  rw [if_pos isAgentId]
  simp only [call_eq, Program.call_bind, Program.done_bind,
    Program.run_call, MemoryStore.handle]
  rw [found]
  dsimp only
  rw [if_neg (not_not.mpr about)]
  simp only [Program.run_call, MemoryStore.handle]
  rw [isKey]
  dsimp only
  rw [isVerified]
  simp only [Program.run_call, MemoryStore.handle, fresh]
  rfl

/-- An assertion that is bound to its key and to a manifest verifies against
both exactly in its window. -/
theorem boundAssertion_verifies_iff
    {assertion : VerificationAssertion} {key : KeyDocument}
    {manifest : Manifest} (bound : AssertionBound assertion key)
    (accepted : VerificationAssertion.schema.accepts
      (some assertion.toJson) = some assertion)
    (keyAccepted : KeyDocument.schema.accepts (some key.toJson) = some key)
    (isManifest :
      Manifest.schema.accepts (some manifest.toJson) = some manifest)
    (isDigest : assertion.manifestDigest = manifestDigest manifest)
    (instant : JsString) :
    Succeeds (verifyVerificationAssertion (some assertion.toJson)
        (some key.toJson) instant (some manifest.toJson)) ↔
      windowAdmits instant assertion.verifiedAt assertion.expiresAt := by
  rw [verifyVerificationAssertion_succeeds_iff]
  constructor
  · rintro ⟨read, _, isRead, -, -, admitted, -⟩
    obtain rfl := Option.some.inj (accepted.symm.trans isRead)
    exact admitted
  · intro admitted
    exact ⟨assertion, key, accepted, keyAccepted, bound, admitted,
      Or.inr ⟨manifest, isManifest, isDigest.symm⟩⟩

/-- A stored assertion that verifies exactly in its window is shown with one
check of it, which passes there and then raises the level. -/
theorem Sound.assertion_counts
    {store : MemoryStore} (sound : Sound store) {agentId : JsString}
    {record : AgentRecord} (found : store.getAgent agentId = some record)
    {assertion : VerificationAssertion} {key : KeyDocument}
    (accepted : VerificationAssertion.schema.accepts
      (some assertion.toJson) = some assertion)
    (isStored : store.getAssertion assertion.assertionId = some assertion)
    (about : assertion.subject = agentId)
    (isKey : store.getKey assertion.keyId = some key) {now : JsString}
    (nowParses : (dateParse now).isSome)
    (verifies_iff : Succeeds (verifyVerificationAssertion
        (some assertion.toJson) (some key.toJson) now
        (some record.manifest.toJson)) ↔
      windowAdmits now assertion.verifiedAt assertion.expiresAt) :
    ∃ envelope check,
      (buildEnvelope record now).run MemoryStore.handle store =
          (.ok envelope, store) ∧
        ⟨assertion, check⟩ ∈ envelope.assertions ∧
        (getAssertionByUlid (assertionUlidOf assertion) now).run
            MemoryStore.handle store = (.ok ⟨assertion, check⟩, store) ∧
        (check = .ok ↔
          InWindow now assertion.verifiedAt assertion.expiresAt) ∧
        (check = .ok → assertion.level ≤ envelope.level) := by
  obtain ⟨envelope, isEnvelopeRun, isEnvelope, pages, listed⟩ :=
    sound.page_agrees found now
  obtain ⟨check, isView⟩ := listed _ _ isStored about
  have isCheck := buildEnvelope_checks isEnvelope _ isView
  have passes : Passes (keysOf store.answers) record now assertion ↔
      check = .ok := by
    rw [passes_iff, isCheck, Except.ok.injEq]
  refine ⟨envelope, check, isEnvelopeRun, isView, pages _ isView, ?_, ?_⟩
  · rw [← passes, Passes]
    change (∃ stored, store.getKey assertion.keyId = some stored ∧ _) ↔ _
    rw [← windowAdmits_iff nowParses (VerificationAssertion.ordered accepted),
      ← verifies_iff]
    constructor
    · rintro ⟨stored, isStoredKey, succeeds⟩
      obtain rfl := Option.some.inj (isKey.symm.trans isStoredKey)
      exact succeeds
    · intro succeeds
      exact ⟨key, isKey, succeeds⟩
  · intro isPassed
    have isPassing : assertion ∈ passingAssertions store.answers record now :=
      List.mem_filter.mpr
        ⟨mem_listAssertionsForSubject_iff.mpr
          ⟨about.trans (sound.agents agentId record found).named.symm, _,
            isStored⟩,
          decide_eq_true (passes.mpr isPassed)⟩
    exact (level_isGreatest isEnvelope).1 assertion isPassing

end Issuing

/-! ## From the signature to the level -/

section Issued

variable [SigningPlatform]

/-- A published authority signs an assertion about a registered agent, bound
to the manifest that the registry holds.  The request that carries it is
answered with its identifier, and after any further requests the envelope of
the agent and the page of the assertion show one check of it, which passes
exactly in its window and then raises the level to that of the assertion. -/
theorem issued_assertion_counts
    (correct : Ed25519Correct)
    {authorityToken authorization : Option JsString}
    (isAuthorized : requireAuthority authorityToken authorization = none)
    (earlier : List Request) {agentId : JsString} {record : AgentRecord}
    (found : (serveAll authorityToken earlier .empty).getAgent agentId =
      some record)
    {key : SigningKey} (publishes : key.Publishes) {doc : KeyDocument}
    (isDocument : KeyDocument.schema.accepts key.document = some doc)
    (isPublished : (serveAll authorityToken earlier .empty).getKey
      doc.keyId = some doc)
    {payloadInput : Option Json} {assertion : VerificationAssertion}
    (signs : signVerificationAssertion payloadInput key = .ok assertion)
    (isActive : key.ActiveAt assertion.verifiedAt)
    (about : assertion.subject = agentId)
    (isDigest : assertion.manifestDigest = record.manifestDigest)
    (fresh : (serveAll authorityToken earlier .empty).getAssertion
      assertion.assertionId = none)
    {clock : JsString}
    (inWindow : InWindow clock assertion.verifiedAt assertion.expiresAt)
    (occurredAt ulid : JsString) (later : List Request) {now : JsString}
    (nowParses : (dateParse now).isSome) :
    let request := Request.assertions authorization agentId
      (some (issueBody assertion)) clock occurredAt ulid
    let before := serveAll authorityToken earlier .empty
    let after := serveAll authorityToken (earlier ++ request :: later) .empty
    ((request.program authorityToken).run MemoryStore.handle before).1 =
        .response (issuedResponse assertion) ∧
      ∃ envelope check,
        (buildEnvelope record now).run MemoryStore.handle after =
            (.ok envelope, after) ∧
          ⟨assertion, check⟩ ∈ envelope.assertions ∧
          (getAssertionByUlid (assertionUlidOf assertion) now).run
              MemoryStore.handle after = (.ok ⟨assertion, check⟩, after) ∧
          (check = .ok ↔
            InWindow now assertion.verifiedAt assertion.expiresAt) ∧
          (check = .ok → assertion.level ≤ envelope.level) := by
  intro request before after
  obtain ⟨other, isOther, accepted, boundIfActive⟩ :=
    assertionBound_of_signVerificationAssertion correct signs publishes
  obtain rfl := Option.some.inj (isOther.symm.trans isDocument)
  obtain ⟨active, isActiveDocument, activeAt⟩ := isActive
  obtain rfl := Option.some.inj (isOther.symm.trans isActiveDocument)
  have bound := boundIfActive activeAt
  have sound : Sound before := sound_serveAll _ earlier
  have soundAgent := sound.agents agentId record found
  have isKey : before.getKey assertion.keyId = some other := by
    rw [← bound.keyId]
    exact isPublished
  have isAgentId : isValidAgentId agentId = true := by
    rw [← soundAgent.manifestNamed]
    exact Manifest.agentId_valid soundAgent.manifest
  have verifies_iff := boundAssertion_verifies_iff bound accepted
    (sound.keys _ _ isPublished).accepted soundAgent.manifest
    (isDigest.trans soundAgent.digest)
  have isRun := postAssertions_issued isAuthorized isAgentId found accepted
    (about.trans soundAgent.named.symm) isKey
    ((verifies_iff clock).mpr inWindow.admits) fresh occurredAt ulid
  have served : (request.program authorityToken).run MemoryStore.handle
      before = (.response (issuedResponse assertion),
        (before.putAssertion assertion).appendEvent
          (issuedEvent record assertion ulid occurredAt)) := by
    change ((postAssertions authorityToken authorization agentId
      (some (issueBody assertion)) clock occurredAt ulid) >>= _).run
        MemoryStore.handle before = _
    rw [Program.run_bind, isRun]
    rfl
  have isAfter : after = serveAll authorityToken later
      ((before.putAssertion assertion).appendEvent
        (issuedEvent record assertion ulid occurredAt)) := by
    have isServed : serve authorityToken before request =
        (before.putAssertion assertion).appendEvent
          (issuedEvent record assertion ulid occurredAt) := by
      rw [serve, served]
    change serveAll authorityToken (earlier ++ request :: later) .empty = _
    rw [serveAll_append]
    exact congrArg (serveAll authorityToken later) isServed
  have grows : Extends before after := by
    change Extends _ (serveAll authorityToken (earlier ++ request :: later)
      .empty)
    rw [serveAll_append]
    exact extends_serveAll _ _ _
  have isStored : after.getAssertion assertion.assertionId =
      some assertion := by
    rw [isAfter]
    apply (extends_serveAll _ later _).assertions
    exact (MemoryStore.getAssertion_putAssertion _ _).trans (if_pos rfl)
  have soundAfter : Sound after := sound_serveAll _ _
  exact ⟨congrArg Prod.fst served, soundAfter.assertion_counts
    (grows.agents agentId record found) accepted isStored about
    (grows.keys _ _ isKey) nowParses (verifies_iff now)⟩

end Issued

/-! ## The sample assertion is issued -/

/-- A platform that signs as the authority of the sample documents does. -/
@[reducible]
def issuingPlatform : SigningPlatform :=
  { samplePlatform with
    ed25519PublicKey := fun _ => b64uDecode sampleIssuerKey.publicKeyB64u
    ed25519Sign := fun _ _ => b64uDecode ownAssertion.signature }

/-- The authority key with its seed. -/
def issuingKey : SigningKey where
  privateKey :=
    [0x68, 0xab, 0x55, 0x20, 0xf6, 0xde, 0x62, 0xc0,
      0x73, 0x76, 0x01, 0x32, 0x43, 0x7f, 0x8b, 0x6f,
      0x3e, 0x84, 0x1a, 0xd6, 0x9b, 0xc7, 0x42, 0xf1,
      0x87, 0x95, 0xd2, 0x35, 0xc0, 0x22, 0xb2, 0x1b]
  document := some sampleIssuerKey.toJson

/-- What the authority signs. -/
def issuingPayload : VerificationAssertionPayload where
  assertionId := ownAssertion.assertionId
  subject := ownAssertion.subject
  subjectType := ownAssertion.subjectType
  level := ownAssertion.level
  claim := ownAssertion.claim
  authority := ownAssertion.authority
  evidence := ownAssertion.evidence
  verifiedAt := ownAssertion.verifiedAt
  expiresAt := ownAssertion.expiresAt
  scope := ownAssertion.scope
  manifestDigest := ownAssertion.manifestDigest
  keyId := ownAssertion.keyId

/-- The agent registers, and then the key of the authority is published. -/
def issuingRequests : List Request :=
  [.register (some sampleRegistration.toJson) sampleClock [] [],
    .authorityKeys (some (units "Bearer secret"))
      (some sampleIssuerKey.toJson)]

theorem issuingKey_correct :
    letI := issuingPlatform
    Ed25519Correct :=
  let := issuingPlatform
  { publicKeyLength := fun _ _ =>
      (by decide : (b64uDecode sampleIssuerKey.publicKeyB64u).length = 32)
    signatureLength := fun _ _ _ =>
      (by decide : (b64uDecode ownAssertion.signature).length = 64)
    verifies := fun _ _ _ => rfl }

theorem ownAssertion_signed :
    letI := issuingPlatform
    signVerificationAssertion (some issuingPayload.toJson) issuingKey =
      .ok ownAssertion := by
  let := issuingPlatform
  have isSignature : b64uEncode (SigningPlatform.ed25519Sign
      issuingKey.privateKey (signingBytes issuingPayload.toJson)) =
        ownAssertion.signature :=
    (by decide : b64uEncode (b64uDecode ownAssertion.signature) =
      ownAssertion.signature)
  have signs : signPayload issuingKey.privateKey issuingPayload.toJson =
      .ok ownAssertion.toJson := by
    refine (signPayload_eq_ok_iff
      (inDomain_VerificationAssertionPayload issuingPayload)).mpr ⟨rfl, ?_⟩
    rw [withSignature_assertion, isSignature]
    rfl
  simp only [signVerificationAssertion, except_bind_eq_ok_iff,
    parseOrThrow_eq_ok_iff, throw_guard_eq_ok_iff]
  exact ⟨issuingPayload, rfl, sampleIssuerKey, sampleIssuerKey_accepted,
    not_not.mpr rfl, not_not.mpr rfl, not_not.mpr rfl, _, signs,
    ownAssertion_accepted⟩

/-- The store after the sample requests. -/
theorem issuingRequests_served :
    letI := samplePlatform
    serveAll sampleToken issuingRequests .empty =
      (registered sampleRegistration (nowIso sampleClock) [] []
        .empty).putKey sampleIssuerKey := by
  let := samplePlatform
  have registers : serve sampleToken .empty
      (.register (some sampleRegistration.toJson) sampleClock [] []) =
        registered sampleRegistration (nowIso sampleClock) [] [] .empty := by
    rw [serve, Request.program_register, Program.run_bind,
      registerAgent_published sampleRegistration_admitted rfl rfl]
    rfl
  have isPathOf : ∃ keyPath, keyResolverPath sampleIssuerKey.keyId =
      .ok keyPath := keyResolverPath_ok (by decide)
  obtain ⟨keyPath, isPath⟩ := isPathOf
  rw [issuingRequests, serveAll, List.foldl_cons, registers, List.foldl_cons,
    List.foldl_nil, serve, authorityKeys_program sampleRequests_authorized
      sampleIssuerKey_accepted rfl isPath]
  rfl

/-- The sample assertion is signed, issued and counted. -/
theorem issued_assertion_counts_sample :
    letI := issuingPlatform
    ∃ envelope, (buildEnvelope (recordOf sampleRegistration
          (nowIso sampleClock)) (units "2026-10-01T00:00:00Z")).run
        MemoryStore.handle (serveAll sampleToken (issuingRequests ++
          [.assertions (some (units "Bearer secret")) sampleManifest.agentId
            (some (issueBody ownAssertion)) (units "2026-09-15T00:00:00Z")
            [] []]) .empty) = (.ok envelope,
        serveAll sampleToken (issuingRequests ++
          [.assertions (some (units "Bearer secret")) sampleManifest.agentId
            (some (issueBody ownAssertion)) (units "2026-09-15T00:00:00Z")
            [] []]) .empty) ∧
      .L2_DOMAIN_VERIFIED ≤ envelope.level := by
  let := issuingPlatform
  have isBefore := issuingRequests_served
  have inWindow {now : JsString} (instant : Int)
      (isInstant : dateParse now = some instant)
      (started : 1789279200000 ≤ instant)
      (unfinished : instant ≤ 1791871200000) :
      InWindow now ownAssertion.verifiedAt ownAssertion.expiresAt :=
    ⟨_, _, _, isInstant, rfl, rfl, started, unfinished⟩
  have isDocument : KeyDocument.schema.accepts issuingKey.document =
      some sampleIssuerKey := sampleIssuerKey_accepted
  obtain ⟨-, envelope, check, isEnvelope, -, -, inTime, raises⟩ :=
    @issued_assertion_counts issuingPlatform issuingKey_correct sampleToken
      (some (units "Bearer secret")) sampleRequests_authorized
      issuingRequests sampleManifest.agentId
      (recordOf sampleRegistration (nowIso sampleClock))
      (by rw [isBefore]; rfl) issuingKey ⟨sampleIssuerKey, isDocument, rfl⟩
      sampleIssuerKey isDocument (by rw [isBefore]; rfl)
      (some issuingPayload.toJson) ownAssertion ownAssertion_signed
      ⟨sampleIssuerKey, isDocument, rfl⟩ rfl rfl (by rw [isBefore]; rfl)
      (units "2026-09-15T00:00:00Z") (inWindow _ rfl (by decide) (by decide))
      [] [] [] (units "2026-10-01T00:00:00Z") (by decide)
  exact ⟨envelope, isEnvelope, raises (inTime.mpr
    (inWindow _ rfl (by decide) (by decide)))⟩

end AgenId.Registry
