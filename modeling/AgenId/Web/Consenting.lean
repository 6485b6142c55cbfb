import AgenId.Web.Delisting
import AgenId.Web.SigningLog

/-!
# Consents from the browser to the directory

An operator lists and delists its agent by consents that the browser signs,
each sent within five minutes.  Whatever else the directory is sent for other
agents, it accepts each of them and shows what the last one says.
-/

namespace AgenId.Web

open AgenId.Core
open AgenId.Ecma
open AgenId.Library
open AgenId.Registry
open AgenId.Validation
open ClientCrypto (generateKeyPair signDirectoryConsent consentPayload)

/-! ## What is signed -/

theorem B64U_test_iff {text : JsString} :
    B64U.test text = true ↔
      1 ≤ text.length ∧ ∀ unit ∈ text, isBase64Url unit = true := by
  simp only [B64U, Regex.whole, Regex.test, List.any_cons, List.any_nil,
    Bool.or_false, if_true]
  constructor
  · intro matched
    obtain ⟨taken, rest, rfl, areUnits, nonempty, -, ended⟩ :=
      matchesAt_run_iff.mp matched
    obtain rfl := matchesAt_finish.mp ended
    rw [List.append_nil]
    exact ⟨nonempty, areUnits⟩
  · rintro ⟨nonempty, areUnits⟩
    exact matchesAt_run_iff.mpr ⟨text, [], (List.append_nil _).symm, areUnits,
      nonempty, rfl, matchesAt_finish.mpr rfl⟩

section Consenting

variable [SigningPlatform]

/-- The consent that the browser signs. -/
def issuedConsent (seed : List UInt8) (agentId keyId : JsString)
    (listed : Bool) (time : Int) : DirectoryConsent :=
  let payload := consentPayload agentId keyId listed (isoString time)
  let signature :=
    b64uEncode (SigningPlatform.ed25519Sign seed (canonicalBytes payload))
  { object :=
      [(units "type", .literal DIRECTORY_CONSENT_TYPE),
        (units "agent_id", .string agentId),
        (units "key_id", .string keyId),
        (units "listed", .boolean listed),
        (units "created_at", .string (isoString time)),
        (units "signature", .string signature)]
    agentId := agentId
    keyId := keyId
    listed := listed
    createdAt := isoString time
    signature := signature }

variable {seed : List UInt8} {agentId keyId : JsString} {listed : Bool}
  {time : Int}

theorem signDirectoryConsent_eq (seedLength : seed.length = 32) :
    signDirectoryConsent (generateKeyPair seed) agentId keyId listed
        (some time) =
      .ok (.object
        (issuedConsent seed agentId keyId listed time).object) := by
  have domain : InDomain (consentPayload agentId keyId listed
      (isoString time)) := by
    simp [consentPayload]
  have payloadBytes := canonicalizeToBytes_client domain
  unfold signDirectoryConsent
  refine except_bind_eq_ok_iff.mpr ⟨isoString time, rfl, ?_⟩
  refine except_bind_eq_ok_iff.mpr ⟨_, payloadBytes, ?_⟩
  refine except_bind_eq_ok_iff.mpr ⟨_, if_neg (not_not.mpr seedLength), ?_⟩
  rw [b64uEncode_eq]
  rfl

theorem parseConsent_issued
    (correct : Ed25519Correct) (seedLength : seed.length = 32)
    (isAgentId : isValidAgentId agentId = true)
    (isKeyId : KEY_ID_REGEX.test keyId = true) (year : FourDigitYear time) :
    parseConsent (some (.object
        (issuedConsent seed agentId keyId listed time).object)) =
      .ok (issuedConsent seed agentId keyId listed time) := by
  let consent := issuedConsent seed agentId keyId listed time
  have isTime : RFC3339_UTC.test (isoString time) = true :=
    timestampRegex_isoString year.1 year.2
  have isDate : (dateParse (isoString time)).isSome = true := by
    rw [dateParse_isoString year]
    rfl
  have signatureLength := correct.signatureLength seed
    (canonicalBytes (consentPayload agentId keyId listed (isoString time)))
    seedLength
  have textLength : consent.signature.length = 86 := by
    unfold consent issuedConsent
    rw [length_b64uEncode, signatureLength]
  have isSignature : B64U.test consent.signature = true :=
    B64U_test_iff.mpr ⟨by omega, isBase64Url_of_mem_b64uEncode⟩
  have known : (objectKeys consent.object).find?
      (fun name => name ∉ MEMBERS.map units) = none := by
    apply List.find?_eq_none.mpr
    intro name isName
    have isMember := mem_objectKeys.mp isName
    have isKnown : name ∈ MEMBERS.map units := isMember
    simpa using isKnown
  have parsed : parseMembers consent.object = .ok consent := by
    simp only [parseMembers, orRefuse_bind_eq_ok_iff,
      Option.filter_eq_some_iff, stringMember_eq_some_iff,
      booleanMember_eq_some_iff, Bool.and_eq_true]
    refine ⟨units DIRECTORY_CONSENT_TYPE, ⟨rfl, by simp⟩, agentId,
      ⟨rfl, isAgentId⟩, keyId, ⟨rfl, isKeyId⟩, listed, rfl, isoString time,
      ⟨rfl, isTime, isDate⟩, consent.signature,
      ⟨rfl, isSignature, decide_eq_true (by omega)⟩, rfl⟩
  unfold parseConsent
  dsimp only
  rw [known]
  exact parsed

/-- A key of the registry is that of the browser. -/
structure HoldsKey (seed : List UInt8) (agentId : JsString)
    (key : KeyDocument) : Prop where
  isPublicKey : b64uDecode key.publicKeyB64u =
    SigningPlatform.ed25519PublicKey seed
  isOperator : key.role = .operator
  controls : key.controller = agentId
  isActive : key.status = .active

theorem issuedConsent_signed
    (correct : Ed25519Correct) (seedLength : seed.length = 32)
    {agent : AgentRecord} {key : KeyDocument} (isActive : agent.status = .ACTIVE)
    (isNamed : agent.proof.keyId = keyId) (holds : HoldsKey seed agentId key) :
    SignedByOperator (issuedConsent seed agentId keyId listed time) agent
      key := by
  let payload := consentPayload agentId keyId listed (isoString time)
  have inDomain : InDomain (.object
      (issuedConsent seed agentId keyId listed time).object) := by
    have isJson : (Json.object (issuedConsent seed agentId keyId listed
        time).object) = (issuedConsent seed agentId keyId listed
          time).toJson := rfl
    rw [isJson]
    exact inDomain_DirectoryConsent _
  have sameBytes : signingBytes (.object
      (issuedConsent seed agentId keyId listed time).object) =
        canonicalBytes payload := rfl
  refine
    { isActive := isActive
      isNamed := isNamed
      isOperator := holds.isOperator
      controls := holds.controls
      keyActive := holds.isActive
      verifies := ⟨_, signingInputOf_eq inDomain, ?_⟩ }
  have isSignature : b64uDecode (issuedConsent seed agentId keyId listed
      time).signature = SigningPlatform.ed25519Sign seed
        (canonicalBytes payload) :=
    b64uDecode_b64uEncode _
  unfold verifyBytes
  rw [sameBytes, isSignature, holds.isPublicKey,
    if_neg (not_not.mpr (correct.signatureLength seed _ seedLength)),
    if_neg (not_not.mpr (correct.publicKeyLength seed seedLength))]
  exact correct.verifies seed _ seedLength

/-! ## One consent -/

/-- What an operator asks for, and when the browser signs it. -/
structure Toggle where
  listed : Bool
  time : Int

/-- An attempt with the consent of a toggle, sent within five minutes, that
meets the agent and the key in the registry and stores that answer. -/
structure Sends (seed : List UInt8) (agentId keyId : JsString)
    (toggle : Toggle) (attempt : Attempt) : Prop where
  signs : ∃ consent, signDirectoryConsent (generateKeyPair seed) agentId keyId
    toggle.listed (some toggle.time) = .ok consent ∧
      attempt.body = some consent
  inTime : ∃ clock, attempt.now = some clock ∧
    clock.natAbs ≤ maxTime.natAbs ∧
    ((clock - toggle.time).natAbs : Int) ≤ CONSENT_WINDOW_MS
  year : FourDigitYear toggle.time
  registered : ∃ agent key,
    attempt.getAgent agentId = .fulfilled (some agent) ∧
      attempt.getKey keyId = .fulfilled (some key) ∧
      agent.status = .ACTIVE ∧ agent.proof.keyId = keyId ∧
      HoldsKey seed agentId key
  readable : attempt.readFails = false
  writable : attempt.writeFails = false

/-- The directory holds nothing of an agent from a time or later. -/
def OlderThan (directory : MemoryDirectoryStore) (agentId : JsString)
    (time : Int) : Prop :=
  ∀ held, directory.get agentId = some held →
    ∃ created, dateParse held.consentCreatedAt = some created ∧
      created < time

theorem not_superseded_of_olderThan
    {directory : MemoryDirectoryStore} {consent : DirectoryConsent}
    (isCreated : dateParse consent.createdAt = some time)
    (older : OlderThan directory consent.agentId time) :
    superseded consent (directory.get consent.agentId) = false := by
  unfold superseded
  cases isHeld : directory.get consent.agentId with
  | none => rfl
  | some held =>
      obtain ⟨created, isTime, less⟩ := older held isHeld
      rw [Option.any_some, isTime, isCreated, dateAtLeast_some]
      exact decide_eq_false (not_le.mpr less)

/-- A toggle that nothing supersedes is accepted and recorded. -/
theorem Sends.applies
    (correct : Ed25519Correct) (seedLength : seed.length = 32)
    (isAgentId : isValidAgentId agentId = true)
    (isKeyId : KEY_ID_REGEX.test keyId = true) {toggle : Toggle}
    {attempt : Attempt} (sends : Sends seed agentId keyId toggle attempt)
    {directory : MemoryDirectoryStore}
    (older : OlderThan directory agentId toggle.time) :
    ∃ record, attempt.apply directory =
        (.ok (.ok record), directory.put record) ∧
      record.agentId = agentId ∧ record.listed = toggle.listed ∧
      dateParse record.consentCreatedAt = some toggle.time := by
  let consent :=
    issuedConsent seed agentId keyId toggle.listed toggle.time
  obtain ⟨body, signs, isBody⟩ := sends.signs
  rw [signDirectoryConsent_eq seedLength] at signs
  obtain rfl := Except.ok.inj signs
  have isParsed : parseConsent attempt.body = .ok consent := by
    rw [isBody]
    exact parseConsent_issued correct seedLength isAgentId isKeyId sends.year
  have isCreated : dateParse consent.createdAt = some toggle.time :=
    dateParse_isoString sends.year
  obtain ⟨clock, isNow, inRange, inWindow⟩ := sends.inTime
  have isInside : outsideWindow attempt.now (dateParse consent.createdAt) =
      false := by
    rw [isNow, isCreated]
    exact decide_eq_false (not_lt.mpr inWindow)
  obtain ⟨agent, key, isAgent, isKey, isActive, isNamed, holds⟩ :=
    sends.registered
  have isChecked : checkOperator consent (some (agent, some key)) = .ok () :=
    checkOperator_eq_ok_iff.mpr ⟨agent, key, rfl,
      issuedConsent_signed correct seedLength isActive isNamed holds⟩
  have isConsent := (isConsent_of_parseConsent isParsed).2
  have createdInRange := inRange_of_isConsent isConsent isCreated
  let record : DirectoryRecord := {
    agentId := agentId
    listed := toggle.listed
    consent := consent
    consentCreatedAt := isoString toggle.time
    updatedAt := isoString clock }
  have isRecord : consentRecord consent attempt.now = .ok record := by
    unfold consentRecord
    rw [isCreated, isNow]
    refine except_bind_eq_ok_iff.mpr ⟨_, toISOString_eq_ok_iff.mpr
      ⟨toggle.time, rfl, createdInRange, rfl⟩, ?_⟩
    exact except_bind_eq_ok_iff.mpr ⟨_, toISOString_eq_ok_iff.mpr
      ⟨clock, rfl, inRange, rfl⟩, rfl⟩
  refine ⟨record, ?_, rfl, rfl, dateParse_isoString sends.year⟩
  have isRead : (readOperator consent).run attempt.handle directory =
      (.fulfilled (some (agent, some key)), directory) :=
    readOperator_found isAgent isKey directory
  unfold Attempt.apply applyDirectoryConsent
  rw [isParsed]
  dsimp only
  rw [isInside, if_neg Bool.false_ne_true, Program.run_bind, isRead]
  dsimp only
  rw [isChecked]
  unfold recordConsent directoryCall
  simp only [Program.perform_bind, Program.run_call, Attempt.handle,
    sends.readable, Bool.false_eq_true, if_false]
  rw [show directory.get consent.agentId = directory.get agentId from rfl,
    show superseded consent (directory.get agentId) = false from
      not_superseded_of_olderThan isCreated older,
    if_neg Bool.false_ne_true, isRecord]
  simp only [Program.run_call, Attempt.handle, sends.writable,
    Bool.false_eq_true, if_false]
  rfl

/-! ## A history of toggles -/

/-- A step of a history: a toggle with its attempt, or an attempt with
whatever is about another agent. -/
structure Step where
  toggle : Option Toggle
  attempt : Attempt

/-- A step sends its toggle, or concerns another agent. -/
def Step.Proper (seed : List UInt8) (agentId keyId : JsString)
    (step : Step) : Prop :=
  match step.toggle with
  | some toggle => Sends seed agentId keyId toggle step.attempt
  | none => ∀ consent, parseConsent step.attempt.body = .ok consent →
    consent.agentId ≠ agentId

/-- What was accepted about an agent: the flag and the instant. -/
def acceptedAbout (agentId : JsString) (attempts : List Attempt)
    (directory : MemoryDirectoryStore) : List (Bool × Option Int) :=
  ((acceptances attempts directory).filter fun accepted =>
    accepted.2.agentId = agentId).map fun accepted =>
      (accepted.2.listed, dateParse accepted.2.consentCreatedAt)

/-- An attempt about another agent leaves what the directory holds of an
agent. -/
theorem apply_other
    {attempt : Attempt} (isOther : ∀ consent,
      parseConsent attempt.body = .ok consent → consent.agentId ≠ agentId)
    (directory : MemoryDirectoryStore) :
    (attempt.apply directory).2.get agentId = directory.get agentId ∧
      ∀ accepted ∈ acceptance attempt (attempt.apply directory).1,
        accepted.2.agentId ≠ agentId := by
  have outcome := attempt.apply_outcome directory
  generalize attempt.apply directory = result at outcome ⊢
  cases outcome with
  | accepted attested isNewer =>
      have different := attested.agentId_eq ▸ isOther _ attested.isParsed
      refine ⟨directory.get_put_of_ne different.symm, ?_⟩
      intro accepted isMember
      obtain rfl := List.mem_singleton.mp isMember
      exact different
  | @refused result notOk =>
      refine ⟨rfl, ?_⟩
      intro accepted isMember
      unfold acceptance at isMember
      split at isMember
      · rename_i record isOk
        exact absurd isOk (notOk record)
      · cases isMember

/-- The toggles of a history are accepted in order, and the directory holds
the last of them, or what it held when there are none. -/
structure Obeyed (agentId : JsString) (history : List Step)
    (directory : MemoryDirectoryStore) : Prop where
  accepted : acceptedAbout agentId (history.map Step.attempt) directory =
    (history.filterMap Step.toggle).map
      fun toggle => (toggle.listed, some toggle.time)
  unchanged : history.filterMap Step.toggle = [] →
    (applyAll (history.map Step.attempt) directory).get agentId =
      directory.get agentId
  last : ∀ last, (history.filterMap Step.toggle).getLast? = some last →
    ∃ record, (applyAll (history.map Step.attempt) directory).get agentId =
        some record ∧ record.agentId = agentId ∧ record.listed = last.listed

theorem acceptedAbout_cons
    (attempt : Attempt) (rest : List Attempt)
    (directory : MemoryDirectoryStore) :
    acceptedAbout agentId (attempt :: rest) directory =
      (((acceptance attempt (attempt.apply directory).1).filter
        fun accepted => accepted.2.agentId = agentId).map fun accepted =>
          (accepted.2.listed, dateParse accepted.2.consentCreatedAt)) ++
        acceptedAbout agentId rest (attempt.apply directory).2 := by
  unfold acceptedAbout
  rw [acceptances, List.filter_append, List.map_append]

/-- An attempt about another agent goes before. -/
theorem Obeyed.other
    {attempt : Attempt} {rest : List Step} {directory : MemoryDirectoryStore}
    (isOther : ∀ consent, parseConsent attempt.body = .ok consent →
      consent.agentId ≠ agentId)
    (obeyed : Obeyed agentId rest (attempt.apply directory).2) :
    Obeyed agentId (⟨none, attempt⟩ :: rest) directory := by
  obtain ⟨unchanged, areOthers⟩ := apply_other isOther directory
  have noneAccepted : (acceptance attempt
      (attempt.apply directory).1).filter
        (fun accepted => accepted.2.agentId = agentId) = [] := by
    apply List.filter_eq_nil_iff.mpr
    intro accepted isMember
    simpa using areOthers accepted isMember
  constructor
  · rw [List.map_cons, acceptedAbout_cons, noneAccepted, obeyed.accepted]
    rfl
  · exact fun noToggles => (obeyed.unchanged noToggles).trans unchanged
  · exact obeyed.last

/-- A toggle that is accepted goes before. -/
theorem Obeyed.toggle
    {toggle : Toggle} {attempt : Attempt} {rest : List Step}
    {directory : MemoryDirectoryStore} {record : DirectoryRecord}
    (applies : attempt.apply directory =
      (.ok (.ok record), directory.put record))
    (isAgent : record.agentId = agentId)
    (isListed : record.listed = toggle.listed)
    (isCreated : dateParse record.consentCreatedAt = some toggle.time)
    (obeyed : Obeyed agentId rest (directory.put record)) :
    Obeyed agentId (⟨some toggle, attempt⟩ :: rest) directory := by
  have runs : applyAll (((⟨some toggle, attempt⟩ : Step) :: rest).map
      Step.attempt) directory =
        applyAll (rest.map Step.attempt) (directory.put record) := by
    change applyAll (rest.map Step.attempt) (attempt.apply directory).2 = _
    rw [applies]
  have isHeld : (directory.put record).get agentId = some record := by
    rw [← isAgent]
    exact directory.get_put_self record
  constructor
  · rw [List.map_cons, acceptedAbout_cons, applies, obeyed.accepted]
    simp [acceptance, isAgent, isListed, isCreated]
  · exact fun noToggles => absurd noToggles (List.cons_ne_nil _ _)
  · intro last wasLast
    have isNext : (toggle :: rest.filterMap Step.toggle).getLast? =
        some last := wasLast
    rw [runs]
    cases others : rest.filterMap Step.toggle with
    | nil =>
        rw [others] at isNext
        obtain rfl : toggle = last := Option.some.inj isNext
        exact ⟨record, (obeyed.unchanged others).trans isHeld, isAgent,
          isListed⟩
    | cons next more =>
        apply obeyed.last
        rw [others, List.getLast?_cons_cons] at isNext
        rw [others]
        exact isNext

theorem toggles_run
    (correct : Ed25519Correct) (seedLength : seed.length = 32)
    (isAgentId : isValidAgentId agentId = true)
    (isKeyId : KEY_ID_REGEX.test keyId = true) {history : List Step}
    (proper : ∀ step ∈ history, step.Proper seed agentId keyId)
    (increasing : (history.filterMap Step.toggle).Pairwise
      fun first next => first.time < next.time)
    {directory : MemoryDirectoryStore}
    (older : ∀ toggle ∈ history.filterMap Step.toggle,
      OlderThan directory agentId toggle.time) :
    Obeyed agentId history directory := by
  induction history generalizing directory with
  | nil => exact ⟨rfl, fun _ => rfl, fun _ isLast => absurd isLast (by simp)⟩
  | cons step rest inductionHypothesis =>
      obtain ⟨isProper, areProper⟩ := List.forall_mem_cons.mp proper
      obtain ⟨choice, attempt⟩ := step
      cases choice with
      | none =>
          have unchanged := (apply_other isProper directory).1
          apply Obeyed.other isProper
          apply inductionHypothesis areProper increasing
          intro toggle isMember held isHeld
          rw [unchanged] at isHeld
          exact older toggle isMember held isHeld
      | some toggle =>
          have increases : (toggle :: rest.filterMap Step.toggle).Pairwise
              fun first next => first.time < next.time := increasing
          obtain ⟨isFirst, areIncreasing⟩ := List.pairwise_cons.mp increases
          obtain ⟨record, applies, isAgent, isListed, isCreated⟩ :=
            isProper.applies correct seedLength isAgentId isKeyId
              (older toggle List.mem_cons_self)
          have isHeld : (directory.put record).get agentId = some record := by
            rw [← isAgent]
            exact directory.get_put_self record
          apply Obeyed.toggle applies isAgent isListed isCreated
          apply inductionHypothesis areProper areIncreasing
          intro later isMember held isFound
          obtain rfl := Option.some.inj (isHeld.symm.trans isFound)
          exact ⟨toggle.time, isCreated, isFirst later isMember⟩

/-- The toggles of an operator, each signed in the browser later than the one
before and sent in time, are all accepted in order, whatever is sent about
other agents between them; the directory then lists the agent exactly when
the last of them says so. -/
theorem toggles_obeyed
    (correct : Ed25519Correct) (seedLength : seed.length = 32)
    (isAgentId : isValidAgentId agentId = true)
    (isKeyId : KEY_ID_REGEX.test keyId = true) {history : List Step}
    (proper : ∀ step ∈ history, step.Proper seed agentId keyId)
    (increasing : (history.filterMap Step.toggle).Pairwise
      fun first next => first.time < next.time)
    {directory : MemoryDirectoryStore}
    (older : ∀ toggle ∈ history.filterMap Step.toggle,
      OlderThan directory agentId toggle.time) :
    acceptedAbout agentId (history.map Step.attempt) directory =
        (history.filterMap Step.toggle).map
          (fun toggle => (toggle.listed, some toggle.time)) ∧
      ∀ last, (history.filterMap Step.toggle).getLast? = some last →
        ∃ record, (applyAll (history.map Step.attempt) directory).get
            agentId = some record ∧ record.agentId = agentId ∧
          (Lists (applyAll (history.map Step.attempt) directory) record ↔
            last.listed = true) := by
  obtain ⟨areAccepted, -, isLast⟩ := toggles_run correct seedLength isAgentId
    isKeyId proper increasing older
  refine ⟨areAccepted, ?_⟩
  intro last wasLast
  obtain ⟨record, isHeld, isAgent, isListed⟩ := isLast last wasLast
  refine ⟨record, isHeld, isAgent, ?_⟩
  unfold Lists
  rw [MemoryDirectoryStore.mem_listListed_iff, isListed]
  exact and_iff_left ⟨agentId, isHeld⟩

end Consenting

/-! ## The toggles of the sample operator -/

/-- The agent of the samples, as the registry holds it. -/
def consentingAgent : AgentRecord where
  agentId := sampleManifest.agentId
  manifest := sampleManifest
  manifestDigest := sampleProof.manifestDigest
  proof := sampleProof
  status := .ACTIVE
  registeredAt := units "2026-09-13T00:00:00.000Z"
  updatedAt := units "2026-09-13T00:00:00.000Z"

/-- A toggle of the sample operator, sent a second after it is signed. -/
def sampleStep [SigningPlatform] (toggle : Toggle) : Step where
  toggle := some toggle
  attempt := {
    body := some (.object (issuedConsent sampleSigningKey.privateKey
      sampleManifest.agentId sampleProof.keyId toggle.listed
        toggle.time).object)
    now := some (toggle.time + 1000)
    getAgent := fun _ => .fulfilled (some consentingAgent)
    getKey := fun _ => .fulfilled (some sampleOperatorKey)
    readFails := false
    writeFails := false }

/-- Listed, and delisted a day later. -/
def sampleToggles : List Toggle :=
  [⟨true, 1789257600000⟩, ⟨false, 1789344000000⟩]

/-- The signatures of the two consents. -/
def listingSignature : List UInt8 :=
  b64uDecode (units <|
    "u7hu5OGtayZmItPOZpAV26_ImYDgmHgpWERxmX0qb03fzVwpYnscfr-LMxJM28Uz" ++
      "DVkoo5pEi-JnWyIM1M3xCg")

def delistingSignature : List UInt8 :=
  b64uDecode (units <|
    "lJRTqqeBqI_9Ql1YERC5KOhjWqdc5UXj7f5WA2gGBvs-HWfch0j6apiBCDxPc_0z" ++
      "IbWzWvIAZB_UNk6X1cQhBA")

theorem length_listingSignature : listingSignature.length = 64 := by
  decide

theorem length_delistingSignature : delistingSignature.length = 64 := by
  decide

/-- The runtime on the consents of the sample operator. -/
@[reducible]
def consentingPlatform : SigningPlatform :=
  recordedPlatform []
    [⟨consentPayload sampleManifest.agentId sampleProof.keyId true
        (isoString 1789257600000), listingSignature,
        length_listingSignature⟩,
      ⟨consentPayload sampleManifest.agentId sampleProof.keyId false
        (isoString 1789344000000), delistingSignature,
        length_delistingSignature⟩]

/-- The sample operator lists and delists its agent: both consents are
accepted, and the agent is not listed then. -/
theorem toggles_obeyed_sample :
    letI := consentingPlatform
    acceptedAbout sampleManifest.agentId
        ((sampleToggles.map sampleStep).map Step.attempt) .empty =
      sampleToggles.map (fun toggle => (toggle.listed, some toggle.time)) ∧
    ∃ record, (applyAll ((sampleToggles.map sampleStep).map Step.attempt)
        .empty).get sampleManifest.agentId = some record ∧
      ¬ Lists (applyAll ((sampleToggles.map sampleStep).map Step.attempt)
        .empty) record := by
  let := consentingPlatform
  have seedLength : sampleSigningKey.privateKey.length = 32 := rfl
  have holds : HoldsKey sampleSigningKey.privateKey sampleManifest.agentId
      sampleOperatorKey := ⟨rfl, rfl, rfl, rfl⟩
  have sends : ∀ toggle : Toggle, FourDigitYear toggle.time →
      (toggle.time + 1000).natAbs ≤ maxTime.natAbs →
      Sends sampleSigningKey.privateKey sampleManifest.agentId
        sampleProof.keyId toggle (sampleStep toggle).attempt := by
    intro toggle year inRange
    have inWindow :
        ((toggle.time + 1000 - toggle.time).natAbs : Int) ≤
          CONSENT_WINDOW_MS := by
      rw [add_sub_cancel_left]
      decide
    exact
      { signs := ⟨_, signDirectoryConsent_eq seedLength, rfl⟩
        inTime := ⟨_, rfl, inRange, inWindow⟩
        year := year
        registered := ⟨consentingAgent, sampleOperatorKey, rfl, rfl, rfl, rfl,
          holds⟩
        readable := rfl
        writable := rfl }
  have proper : ∀ step ∈ sampleToggles.map sampleStep, step.Proper
      sampleSigningKey.privateKey sampleManifest.agentId
        sampleProof.keyId := by
    refine List.forall_mem_cons.mpr ⟨sends _ ?_ (by decide),
      List.forall_mem_singleton.mpr (sends _ ?_ (by decide))⟩
    · unfold FourDigitYear
      decide
    · unfold FourDigitYear
      decide
  have increasing : (((sampleToggles.map sampleStep).filterMap
      Step.toggle)).Pairwise fun first next => first.time < next.time := by
    exact List.pairwise_pair.mpr (by decide)
  have isAgentId : isValidAgentId sampleManifest.agentId = true :=
    Manifest.agentId_valid sampleManifest_accepted
  have isKeyId : KEY_ID_REGEX.test sampleProof.keyId = true := by
    decide
  have older : ∀ toggle ∈ (sampleToggles.map sampleStep).filterMap
      Step.toggle, OlderThan .empty sampleManifest.agentId toggle.time := by
    intro toggle _ held isHeld
    exact absurd isHeld (by simp)
  obtain ⟨areAccepted, obeyed⟩ := toggles_obeyed (recorded_correct _ _)
    seedLength isAgentId isKeyId proper increasing older
  obtain ⟨record, isHeld, -, isListed⟩ := obeyed ⟨false, 1789344000000⟩ rfl
  exact ⟨areAccepted, record, isHeld,
    fun lists => absurd (isListed.mp lists) Bool.false_ne_true⟩

end AgenId.Web
