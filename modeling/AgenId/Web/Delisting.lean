import AgenId.Core.Timestamps
import AgenId.Web.DirectoryHistory

/-!
# Leaving the directory

What a consent to be delisted meets, when it is made at the registry's clock
and signed by the operator key of a listed agent.  It is accepted exactly when
the agent and the key are active and the consent that the directory holds was
made before the clock; the held one may have been made up to five minutes
ahead of it.
-/

namespace AgenId.Web

open AgenId.Core
open AgenId.Ecma
open AgenId.Library
open AgenId.Registry

section Delisting

variable [Platform]

/-- An agent is listed by a directory. -/
def Lists (directory : MemoryDirectoryStore) (record : DirectoryRecord) :
    Prop :=
  ∃ limit, record ∈ directory.listListed limit

/-- No page of a directory has an agent. -/
def Unlisted (directory : MemoryDirectoryStore) (agentId : JsString) : Prop :=
  ∀ record, Lists directory record → record.agentId ≠ agentId

/-- A consent to be delisted, made at the clock and signed with the operator
key of the agent, meets stores that answer. -/
structure Delists
    (attempt : Attempt) (consent : DirectoryConsent) (agent : AgentRecord)
    (key : KeyDocument) (clock : Int) : Prop where
  isParsed : parseConsent attempt.body = .ok consent
  delists : consent.listed = false
  isNow : attempt.now = some clock
  atClock : dateParse consent.createdAt = some clock
  isAgent : attempt.getAgent consent.agentId = .fulfilled (some agent)
  isKey : attempt.getKey consent.keyId = .fulfilled (some key)
  isNamed : agent.proof.keyId = consent.keyId
  isOperator : key.role = .operator
  controls : key.controller = consent.agentId
  verifies : consentVerifies consent key = true
  readable : attempt.readFails = false
  writable : attempt.writeFails = false

/-- The agent and its key are active, and the held consent was made before
the clock. -/
structure MayDelist
    (agent : AgentRecord) (key : KeyDocument) (held : DirectoryRecord)
    (clock : Int) : Prop where
  agentActive : agent.status = .ACTIVE
  keyActive : key.status = .active
  isEarlier :
    dateLess (dateParse held.consent.createdAt) (some clock) = true

variable {attempt : Attempt} {consent : DirectoryConsent}
  {agent : AgentRecord} {key : KeyDocument} {clock : Int}
  {directory : MemoryDirectoryStore}

omit [Platform] in
theorem readOperator_found
    (isAgent : attempt.getAgent consent.agentId = .fulfilled (some agent))
    (isKey : attempt.getKey consent.keyId = .fulfilled (some key))
    (directory : MemoryDirectoryStore) :
    (readOperator consent).run attempt.handle directory =
      (.fulfilled (some (agent, some key)), directory) := by
  unfold readOperator directoryCall
  simp only [Program.perform_bind, Program.run_call, Attempt.handle]
  rw [isAgent]
  simp only [Program.run_call, Attempt.handle]
  rw [isKey]
  rfl

/-- The instant of a consent is a time value, so that it is recorded. -/
theorem inRange_of_isConsent
    (isConsent : IsConsent consent)
    (atClock : dateParse consent.createdAt = some clock) :
    clock.natAbs ≤ maxTime.natAbs := by
  obtain ⟨stamp, isStamp⟩ := exists_timestamp isConsent.validCreatedAt
  rw [← isStamp, dateParse, parseDate, stamp.readInstant_text] at atClock
  unfold DateFields.time timeClip at atClock
  dsimp only at atClock
  split at atClock
  · split at atClock
    · rename_i inRange
      rwa [← Option.some.inj atClock]
    · cases atClock
  · cases atClock

/-- What follows the checks of a consent to be delisted. -/
theorem Delists.apply_signed
    (request : Delists attempt consent agent key clock)
    (directory : MemoryDirectoryStore) :
    attempt.apply directory =
      match checkOperator consent (some (agent, some key)) with
      | .error refused => (.ok (.fail refused), directory)
      | .ok () =>
        (recordConsent consent (some clock)).run attempt.handle directory := by
  have isInside : outsideWindow (some clock) (some clock) = false := by
    unfold outsideWindow
    dsimp only
    rw [sub_self]
    rfl
  unfold Attempt.apply applyDirectoryConsent
  rw [request.isParsed]
  dsimp only
  rw [request.isNow, request.atClock, isInside, if_neg Bool.false_ne_true,
    Program.run_bind, readOperator_found request.isAgent request.isKey]
  dsimp only
  cases checkOperator consent (some (agent, some key)) <;> rfl

theorem Delists.checked_iff
    (request : Delists attempt consent agent key clock) :
    checkOperator consent (some (agent, some key)) = .ok () ↔
      agent.status = .ACTIVE ∧ key.status = .active := by
  rw [checkOperator_eq_ok_iff]
  constructor
  · rintro ⟨found, foundKey, isFound, signed⟩
    cases isFound
    exact ⟨signed.isActive, signed.keyActive⟩
  · rintro ⟨agentActive, keyActive⟩
    exact ⟨agent, key, rfl, agentActive, request.isNamed, request.isOperator,
      request.controls, keyActive, consentVerifies_iff.mp request.verifies⟩

/-- The record of a consent to be delisted. -/
theorem Delists.consentRecord
    (request : Delists attempt consent agent key clock) :
    ∃ record, consentRecord consent (some clock) = .ok record ∧
      record.agentId = consent.agentId ∧ record.listed = false := by
  have isConsent := (isConsent_of_parseConsent request.isParsed).2
  have inRange := inRange_of_isConsent isConsent request.atClock
  have isText : toISOString (some clock) = .ok (isoString clock) :=
    toISOString_eq_ok_iff.mpr ⟨clock, rfl, inRange, rfl⟩
  refine ⟨⟨consent.agentId, consent.listed, consent, isoString clock,
    isoString clock⟩, ?_, rfl, request.delists⟩
  rw [Web.consentRecord, request.atClock, isText]
  rfl

/-- A consent to be delisted that passed the checks is recorded unless the
directory holds one that is not older. -/
theorem Delists.recorded
    (request : Delists attempt consent agent key clock)
    (directory : MemoryDirectoryStore) :
    (superseded consent (directory.get consent.agentId) = true ∧
      ∃ failure, (recordConsent consent (some clock)).run attempt.handle
        directory = (.ok (.fail failure), directory)) ∨
    (superseded consent (directory.get consent.agentId) = false ∧
      ∃ record, record.agentId = consent.agentId ∧ record.listed = false ∧
        (recordConsent consent (some clock)).run attempt.handle directory =
          (.ok (.ok record), directory.put record)) := by
  obtain ⟨record, isRecord, isAgentId, notListed⟩ := request.consentRecord
  unfold recordConsent directoryCall
  simp only [Program.perform_bind, Program.run_call, Attempt.handle,
    request.readable, Bool.false_eq_true, if_false]
  cases isSuperseded : superseded consent (directory.get consent.agentId) with
  | true => exact Or.inl ⟨rfl, _, rfl⟩
  | false =>
      refine Or.inr ⟨rfl, record, isAgentId, notListed, ?_⟩
      rw [if_neg Bool.false_ne_true, isRecord]
      simp only [Program.run_call, Attempt.handle, request.writable,
        Bool.false_eq_true, if_false]
      rfl

/-! ## In any state -/

/-- An agent whose record is not listed is on no page. -/
theorem unlisted_put
    {record : DirectoryRecord} (notListed : record.listed = false)
    (namesAgent : ∀ agentId held, directory.get agentId = some held →
      held.agentId = agentId) :
    Unlisted (directory.put record) record.agentId := by
  intro held isListed same
  obtain ⟨isListed, agentId, isHeld⟩ :=
    (MemoryDirectoryStore.mem_listListed_iff _).mp isListed
  by_cases isSame : agentId = record.agentId
  · rw [isSame, directory.get_put_self] at isHeld
    rw [← Option.some.inj isHeld, notListed] at isListed
    cases isListed
  · rw [directory.get_put_of_ne isSame] at isHeld
    exact isSame ((namesAgent agentId held isHeld).symm.trans same)

/-- A held consent stands in the way unless it was made before the clock. -/
theorem Delists.superseded_iff
    (request : Delists attempt consent agent key clock)
    {origin : Attempt} {held : DirectoryRecord}
    (attested : Attested origin held) :
    superseded consent (some held) = false ↔
      dateLess (dateParse held.consent.createdAt) (some clock) = true := by
  obtain ⟨_, created, -, isCreated, -⟩ := attested.inWindow
  rw [superseded, Option.any_some, attested.created_eq, isCreated,
    request.atClock, dateAtLeast_some, dateLess_some,
    decide_eq_false_iff_not, decide_eq_true_iff, not_le]

/-- In every directory that consents lead to, for every agent that it lists: a
consent to be delisted, made at the clock and signed with the operator key of
the agent, is accepted and leaves the agent unlisted when the agent and the
key are active and the held consent was made before the clock, and is
otherwise refused and changes nothing. -/
theorem delisting_decided
    (attempts : List Attempt) {held : DirectoryRecord}
    (isListed : Lists (applyAll attempts .empty) held)
    (sameAgent : held.agentId = consent.agentId)
    (request : Delists attempt consent agent key clock) :
    let before := applyAll attempts .empty
    let result := attempt.apply before
    (MayDelist agent key held clock →
      (∃ record, result.1 = .ok (.ok record)) ∧
        Unlisted result.2 held.agentId) ∧
      (¬ MayDelist agent key held clock →
        (∃ failure, result.1 = .ok (.fail failure)) ∧ result.2 = before) := by
  dsimp only
  have tracks := tracks_empty.applyAll attempts
  generalize applyAll attempts .empty = directory at isListed tracks ⊢
  obtain ⟨-, agentId, isHeld⟩ :=
    (MemoryDirectoryStore.mem_listListed_iff _).mp isListed
  obtain ⟨_, attested⟩ := tracks.attested_of_get isHeld
  have isAgentId : held.agentId = agentId :=
    (tracks.holds.newest _ _ isHeld).1
  rw [← isAgentId, sameAgent] at isHeld
  have isRecorded := request.recorded directory
  rw [isHeld] at isRecorded
  rw [request.apply_signed]
  constructor
  · intro may
    have notSuperseded :=
      (request.superseded_iff attested).mpr may.isEarlier
    rw [request.checked_iff.mpr ⟨may.agentActive, may.keyActive⟩]
    rcases isRecorded with
      ⟨isSuperseded, -⟩ | ⟨-, record, isRecorded, notListed, isRun⟩
    · rw [notSuperseded] at isSuperseded
      cases isSuperseded
    · dsimp only
      rw [isRun, sameAgent, ← isRecorded]
      refine ⟨⟨record, rfl⟩, unlisted_put notListed ?_⟩
      intro name other isOther
      exact (tracks.holds.newest _ _ isOther).1
  · intro mayNot
    cases isChecked : checkOperator consent (some (agent, some key)) with
    | error refused => exact ⟨⟨refused, rfl⟩, rfl⟩
    | ok passed =>
        obtain ⟨agentActive, keyActive⟩ := request.checked_iff.mp isChecked
        rcases isRecorded with ⟨-, failure, isRun⟩ | ⟨notSuperseded, -⟩
        · dsimp only
          rw [isRun]
          exact ⟨⟨failure, rfl⟩, rfl⟩
        · have isEarlier :=
            (request.superseded_iff attested).mp notSuperseded
          exact absurd ⟨agentActive, keyActive, isEarlier⟩ mayNot

end Delisting

/-! ## A consent made ahead of the clock -/

/-- A consent of the sample agent to be delisted. -/
def delistingConsent (createdAt signature : String) : DirectoryConsent :=
  { object :=
      [(units "type", .literal DIRECTORY_CONSENT_TYPE),
        (units "agent_id", .string sampleConsent.agentId),
        (units "key_id", .string sampleConsent.keyId),
        (units "listed", .boolean false),
        (units "created_at", .literal createdAt),
        (units "signature", .literal signature)]
    agentId := sampleConsent.agentId
    keyId := sampleConsent.keyId
    listed := false
    createdAt := units createdAt
    signature := units signature }

/-- Half a minute before the sample consent was made. -/
def earlyDelisting : DirectoryConsent :=
  delistingConsent "2026-09-13T23:59:30Z" <|
    "bDRtM7JbuI3SEeTc0E86MV_2rPBD4izVX2UIfOEAUWib" ++
      "XiqUnk2nzEr_8eB2f-s1-UlnYtVdFgB1-SFAqzOJBg"

/-- A minute after the sample consent was made. -/
def lateDelisting : DirectoryConsent :=
  delistingConsent "2026-09-14T00:01:00Z" <|
    "wq_CxlQiE-Is8-76FzYeBVqDinbrG3GxcWq4bUAOS0qC" ++
      "hN4pF0CiPNQCkTH4r6DIYiHfakD_8EdeSmLtwL2SCQ"

/-- The sample consent as the directory holds it. -/
def sampleHeld (updatedAt : JsString) : DirectoryRecord where
  agentId := sampleConsent.agentId
  listed := true
  consent := sampleConsent
  consentCreatedAt := units "2026-09-14T00:00:00.000Z"
  updatedAt := updatedAt

/-- The agent of the samples, with a status. -/
def sampleAgent (status : AgentStatus) : AgentRecord where
  agentId := sampleConsent.agentId
  manifest := sampleManifest
  manifestDigest := sampleProof.manifestDigest
  proof := sampleProof
  status := status
  registeredAt := sampleProof.createdAt
  updatedAt := sampleProof.createdAt

/-- A delisting of the sample agent, posted when the agent has a status. -/
def sampleDelistingAttempt
    (consent : DirectoryConsent) (now : Int) (status : AgentStatus) :
    Attempt :=
  { sampleAttempt now with
    body := some (.object consent.object)
    getAgent := fun _ => .fulfilled (some (sampleAgent status)) }

theorem sample_lists
    {now : Int} {updatedAt : JsString}
    (isHeld :
      letI := samplePlatform
      (applyAll [sampleAttempt now] .empty).get sampleConsent.agentId =
        some (sampleHeld updatedAt)) :
    letI := samplePlatform
    Lists (applyAll [sampleAttempt now] .empty) (sampleHeld updatedAt) := by
  let := samplePlatform
  exact (MemoryDirectoryStore.mem_listListed_iff _).mpr ⟨rfl, _, isHeld⟩

theorem sample_delists
    {createdAt signature : String} {now : Int} (status : AgentStatus)
    (isParsed :
      letI := samplePlatform
      parseConsent (some (.object
          (delistingConsent createdAt signature).object)) =
        .ok (delistingConsent createdAt signature))
    (atClock :
      letI := samplePlatform
      dateParse (units createdAt) = some now)
    (verifies :
      letI := samplePlatform
      consentVerifies (delistingConsent createdAt signature)
        sampleOperatorKey = true) :
    letI := samplePlatform
    Delists (sampleDelistingAttempt (delistingConsent createdAt signature) now
        status)
      (delistingConsent createdAt signature) (sampleAgent status)
      sampleOperatorKey now :=
  let := samplePlatform
  { isParsed := isParsed
    delists := rfl
    isNow := rfl
    atClock := atClock
    isAgent := rfl
    isKey := rfl
    isNamed := rfl
    isOperator := rfl
    controls := rfl
    verifies := verifies
    readable := rfl
    writable := rfl }

/-- The sample consent, posted when it was made, is listed. -/
theorem sample_listed :
    letI := samplePlatform
    Lists (applyAll [sampleAttempt 1789344000000] .empty)
      (sampleHeld (units "2026-09-14T00:00:00.000Z")) :=
  sample_lists rfl

theorem early_delists :
    letI := samplePlatform
    Delists (sampleDelistingAttempt earlyDelisting 1789343970000 .ACTIVE)
      earlyDelisting (sampleAgent .ACTIVE) sampleOperatorKey 1789343970000 :=
  sample_delists .ACTIVE rfl rfl rfl

theorem late_delists (status : AgentStatus) :
    letI := samplePlatform
    Delists (sampleDelistingAttempt lateDelisting 1789344060000 status)
      lateDelisting (sampleAgent status) sampleOperatorKey 1789344060000 :=
  sample_delists status rfl rfl rfl

/-- After a consent that was made a minute ahead of the clock, a delisting at
the clock is refused; so is one of a suspended agent. -/
theorem listed_agent_not_delisted :
    letI := samplePlatform
    (∃ attempts held attempt consent agent key clock,
      Lists (applyAll attempts .empty) held ∧
        held.agentId = consent.agentId ∧
        Delists attempt consent agent key clock ∧
        agent.status = .ACTIVE ∧ key.status = .active ∧
        ¬ ∃ record,
          (attempt.apply (applyAll attempts .empty)).1 = .ok (.ok record)) ∧
      ∃ attempts held attempt consent agent key clock,
        Lists (applyAll attempts .empty) held ∧
          held.agentId = consent.agentId ∧
          Delists attempt consent agent key clock ∧
          agent.status = .SUSPENDED ∧
          ¬ ∃ record,
            (attempt.apply (applyAll attempts .empty)).1 =
              .ok (.ok record) := by
  let := samplePlatform
  constructor
  · refine ⟨[sampleAttempt 1789343940000],
      sampleHeld (units "2026-09-13T23:59:00.000Z"), _, earlyDelisting,
      sampleAgent .ACTIVE, sampleOperatorKey, 1789343970000,
      sample_lists rfl, rfl, early_delists, rfl, rfl, ?_⟩
    rintro ⟨record, isOk⟩
    cases isOk
  · refine ⟨[sampleAttempt 1789344000000],
      sampleHeld (units "2026-09-14T00:00:00.000Z"), _, lateDelisting,
      sampleAgent .SUSPENDED, sampleOperatorKey, 1789344060000,
      sample_listed, rfl, late_delists .SUSPENDED, rfl, ?_⟩
    rintro ⟨record, isOk⟩
    cases isOk

/-- The sample agent is delisted a minute after it was listed. -/
theorem delisting_decided_sample :
    letI := samplePlatform
    let before := applyAll [sampleAttempt 1789344000000] .empty
    let attempt := sampleDelistingAttempt lateDelisting 1789344060000 .ACTIVE
    (∃ record, (attempt.apply before).1 = .ok (.ok record)) ∧
      Unlisted (attempt.apply before).2 sampleConsent.agentId := by
  let := samplePlatform
  have sameAgent : (sampleHeld (units "2026-09-14T00:00:00.000Z")).agentId =
      lateDelisting.agentId := rfl
  have decided := delisting_decided [sampleAttempt 1789344000000]
    sample_listed sameAgent (late_delists .ACTIVE)
  exact decided.1 ⟨rfl, rfl, rfl⟩

end AgenId.Web
