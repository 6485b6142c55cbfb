import AgenId.Core.Identified
import AgenId.Registry.Publication
import AgenId.Registry.Resolution

/-!
# A store call that throws

A registration makes five store calls, numbered from zero: it reads the key,
creates the agent, publishes the key and appends two events.  When one of them
throws, the registration is recoverable unless it is the publication of the
key: the agent then stands without its key, and no resubmission publishes it.
-/

namespace AgenId.Registry

open AgenId.Core
open AgenId.Ecma
open AgenId.Library

section Recovery

variable [Platform]

/-! ## The envelope of a registered agent -/

theorem checkProof_recordOf_iff
    {registration : RegisterBody} (registrable : Registrable registration)
    (ts now : JsString) :
    checkProof (recordOf registration ts) (some registration.keyDocument)
        now = .ok .ok ↔
      windowAdmits now registration.proof.createdAt
        registration.proof.expiresAt := by
  have checked : checkProof (recordOf registration ts)
      (some registration.keyDocument) now =
        (verifyRegistration registration now).map Check.ofResult := rfl
  rw [checked, map_ofResult_eq_ok_iff,
    verifyRegistration_succeeds_iff registrable.toAccepted]
  exact and_iff_right registrable.bound

/-- The envelope of an agent is written when its documents are accepted. -/
theorem buildEnvelope_ok
    {registration : RegisterBody} (registrable : Registrable registration)
    (ts now : JsString) (store : MemoryStore) :
    ∃ envelope,
      ((buildEnvelope (recordOf registration ts) now).run
        MemoryStore.handle store).1 = .ok envelope ∧
      envelope.status = .ACTIVE ∧
      checkProof (recordOf registration ts)
        (store.getKey registration.proof.keyId) now =
          .ok envelope.proofCheck := by
  obtain ⟨proofCheck, views, isCheck, -, isEnvelope⟩ :=
    buildEnvelope_answered store.answers (recordOf registration ts) now
  have hasPath :=
    keyResolverPath_ok (ManifestProof.keyId_valid registrable.proof)
  have isHostname := Manifest.operatorDomain_valid registrable.manifest
  obtain ⟨path, isPath⟩ := hasPath
  rw [buildEnvelope_run, isEnvelope]
  simp only [recordOf, isPath, wellKnownKeysUrl, isHostname, Bool.not_true,
    Bool.false_eq_true, if_false]
  exact ⟨_, rfl, rfl, isCheck⟩

/-- The envelope of a stored agent has a proof that checks. -/
def ProofChecks (store : MemoryStore) (agentId now : JsString) : Prop :=
  ∃ record envelope, store.getAgent agentId = some record ∧
    ((buildEnvelope record now).run MemoryStore.handle store).1 =
      .ok envelope ∧
    envelope.proofCheck = .ok

theorem proofChecks_iff
    {registration : RegisterBody} (registrable : Registrable registration)
    {ts : JsString} {store : MemoryStore}
    (found : store.getAgent registration.manifest.agentId =
      some (recordOf registration ts)) (now : JsString) :
    ProofChecks store registration.manifest.agentId now ↔
      checkProof (recordOf registration ts)
        (store.getKey registration.proof.keyId) now = .ok .ok := by
  obtain ⟨envelope, isEnvelope, -, isCheck⟩ :=
    buildEnvelope_ok registrable ts now store
  constructor
  · intro checks
    obtain ⟨record, other, isRecord, isOther, passed⟩ := checks
    obtain rfl := Option.some.inj (found.symm.trans isRecord)
    obtain rfl := Except.ok.inj (isEnvelope.symm.trans isOther)
    rw [isCheck, passed]
  · intro checks
    refine ⟨_, envelope, found, isEnvelope, ?_⟩
    exact Except.ok.inj (isCheck.symm.trans checks)

/-! ## Recovery -/

/-- Nothing of a registration is stored. -/
def NothingStored (store : MemoryStore) (record : AgentRecord)
    (keyDocument : KeyDocument) : Prop :=
  store.getAgent record.agentId = none ∧
    store.getKey keyDocument.keyId = none ∧
    store.listEvents record.agentId = []

/-- An agent is registered as submitted, and its key is published. -/
def RegisteredWithKey (store : MemoryStore) (record : AgentRecord)
    (keyDocument : KeyDocument) : Prop :=
  (∃ stored, store.getAgent record.agentId = some stored ∧
    stored.manifest = record.manifest ∧ stored.proof = record.proof) ∧
    store.getKey keyDocument.keyId = some keyDocument

/-- After a failure nothing is stored or the envelope's proof checks, and
after the resubmission the agent is registered with its key. -/
def Recovers (record : AgentRecord) (keyDocument : KeyDocument)
    (now : JsString) (failed retried : MemoryStore) : Prop :=
  (NothingStored failed record keyDocument ∨
      ProofChecks failed record.agentId now) ∧
    RegisteredWithKey retried record keyDocument

/-! ## The runs -/

variable {body : Option Json} {clock retryClock : Clock}
  {keyUlid agentUlid retryKeyUlid retryAgentUlid : JsString}
  {registration : RegisterBody} {registeredAt : JsString}

theorem registerAgent_published
    (isAdmitted : admitAgent body clock = .ok (registration, registeredAt))
    {store : MemoryStore}
    (usable : differs (store.getKey registration.keyDocument.keyId)
      registration.keyDocument = false)
    (free : store.getAgent registration.manifest.agentId = none) :
    (registerAgent body clock keyUlid agentUlid).run MemoryStore.handle
        store =
      (.ok (recordOf registration registeredAt) registration.keyDocument
          registration.manifest,
        registered registration registeredAt keyUlid agentUlid store) := by
  rw [registerAgent_of_admitted isAdmitted, Program.run_bind,
    publish_published registeredAt keyUlid agentUlid usable free]
  rfl

theorem registerAgent_agentExists
    (isAdmitted : admitAgent body clock = .ok (registration, registeredAt))
    {store : MemoryStore} {record : AgentRecord}
    (usable : differs (store.getKey registration.keyDocument.keyId)
      registration.keyDocument = false)
    (taken : store.getAgent registration.manifest.agentId = some record) :
    (registerAgent body clock keyUlid agentUlid).run MemoryStore.handle
        store =
      (refusal 409 "agent_exists" "agent_id is already registered" none,
        store) := by
  rw [registerAgent_of_admitted isAdmitted, Program.run_bind,
    publish_agentExists registeredAt keyUlid agentUlid usable taken]
  rfl

theorem registerAgentFaulty_of_admitted
    (isAdmitted : admitAgent body clock = .ok (registration, registeredAt))
    {count : Nat} (isStoreCall : count < 5) :
    registerAgentFaulty count body clock keyUlid agentUlid .empty =
      (registryUnavailable,
        partlyRegistered registration registeredAt keyUlid count .empty) := by
  have usable : differs (MemoryStore.empty.getKey
      registration.keyDocument.keyId) registration.keyDocument = false := rfl
  have free :
      MemoryStore.empty.getAgent registration.manifest.agentId = none := rfl
  have faults := publish_runFaulty registeredAt keyUlid agentUlid usable free
    isStoreCall
  unfold registerAgentFaulty
  rw [registerAgent_of_admitted isAdmitted,
    Program.runFaulty_bind _ faults]
  rfl

/-- A body that a healthy, empty store accepts is one that is admitted. -/
theorem admitted_of_accepted
    {record : AgentRecord} {keyDocument : KeyDocument} {manifest : Manifest}
    (accepted : ((registerAgent body clock keyUlid agentUlid).run
      MemoryStore.handle .empty).1 = .ok record keyDocument manifest) :
    ∃ registration registeredAt,
      admitAgent body clock = .ok (registration, registeredAt) ∧
      record = recordOf registration registeredAt ∧
      keyDocument = registration.keyDocument := by
  cases isAdmitted : admitAgent body clock with
  | error failure =>
      rw [registerAgent_of_refused isAdmitted] at accepted
      obtain ⟨_, _, _, _, rfl⟩ := admitAgent_isFailure isAdmitted
      cases accepted
  | ok admitted =>
      obtain ⟨registration, registeredAt⟩ := admitted
      rw [registerAgent_published isAdmitted rfl rfl] at accepted
      obtain ⟨isRecord, isKey, -⟩ := RegisterResult.ok.inj accepted
      exact ⟨registration, registeredAt, rfl, isRecord.symm, isKey.symm⟩

/-! ## What a failure leaves -/

theorem failed_iff
    (registrable : Registrable registration) (count : Nat) (now : JsString) :
    NothingStored
          (partlyRegistered registration registeredAt keyUlid count .empty)
          (recordOf registration registeredAt) registration.keyDocument ∨
        ProofChecks
          (partlyRegistered registration registeredAt keyUlid count .empty)
          registration.manifest.agentId now ↔
      count ≠ 2 ∧ (3 ≤ count → windowAdmits now registration.proof.createdAt
        registration.proof.expiresAt) := by
  by_cases early : count < 2
  · have nothing : NothingStored
        (partlyRegistered registration registeredAt keyUlid count .empty)
        (recordOf registration registeredAt) registration.keyDocument := by
      rw [partlyRegistered_early registeredAt keyUlid early]
      exact ⟨rfl, rfl, rfl⟩
    constructor
    · intro _
      exact ⟨by omega, by omega⟩
    · intro _
      exact Or.inl nothing
  · have found : (partlyRegistered registration registeredAt keyUlid count
        .empty).getAgent registration.manifest.agentId =
          some (recordOf registration registeredAt) :=
      getAgent_partlyRegistered registeredAt keyUlid (by omega)
    have something : ¬ NothingStored
        (partlyRegistered registration registeredAt keyUlid count .empty)
        (recordOf registration registeredAt) registration.keyDocument := by
      intro nothing
      exact absurd (found.symm.trans nothing.1) (by simp)
    rw [or_iff_right something, proofChecks_iff registrable found]
    by_cases unpublished : count = 2
    · subst unpublished
      have noKey : (partlyRegistered registration registeredAt keyUlid 2
          .empty).getKey registration.proof.keyId = none := rfl
      rw [noKey]
      simp [checkProof, StoredForm.checkProof]
    · have isKey : (partlyRegistered registration registeredAt keyUlid count
          .empty).getKey registration.keyDocument.keyId =
            some registration.keyDocument :=
        getKey_partlyRegistered registeredAt keyUlid (by omega)
      rw [← registrable.bound.keyId, isKey,
        checkProof_recordOf_iff registrable]
      constructor
      · intro admits
        exact ⟨unpublished, fun _ => admits⟩
      · intro conditions
        exact conditions.2 (by omega)

/-- A resubmission leads to the agent with its key, unless the agent stands
without it. -/
theorem retried_iff
    (isAdmitted :
      admitAgent body retryClock = .ok (registration, registeredAt))
    (firstTime : JsString) (count : Nat) :
    RegisteredWithKey
        ((registerAgent body retryClock retryKeyUlid retryAgentUlid).run
          MemoryStore.handle
          (partlyRegistered registration firstTime keyUlid count .empty)).2
        (recordOf registration firstTime) registration.keyDocument ↔
      count ≠ 2 := by
  by_cases early : count < 2
  · rw [partlyRegistered_early firstTime keyUlid early,
      registerAgent_published isAdmitted rfl rfl]
    constructor
    · intro _
      omega
    · intro _
      refine ⟨⟨recordOf registration registeredAt, ?_, rfl, rfl⟩, ?_⟩
      · simp [registered, recordOf]
      · simp [registered]
  · have taken : (partlyRegistered registration firstTime keyUlid count
        .empty).getAgent registration.manifest.agentId =
          some (recordOf registration firstTime) :=
      getAgent_partlyRegistered firstTime keyUlid (by omega)
    by_cases unpublished : count = 2
    · subst unpublished
      rw [registerAgent_agentExists isAdmitted rfl taken]
      constructor
      · intro isRegistered
        cases isRegistered.2
      · intro notSecond
        exact absurd rfl notSecond
    · have isKey : (partlyRegistered registration firstTime keyUlid count
          .empty).getKey registration.keyDocument.keyId =
            some registration.keyDocument :=
        getKey_partlyRegistered firstTime keyUlid (by omega)
      have usable :
          differs ((partlyRegistered registration firstTime keyUlid count
            .empty).getKey registration.keyDocument.keyId)
              registration.keyDocument = false :=
        differs_eq_false_iff.mpr (Or.inr isKey)
      rw [registerAgent_agentExists isAdmitted usable taken]
      constructor
      · intro _
        exact unpublished
      · intro _
        exact ⟨⟨recordOf registration firstTime, taken, rfl, rfl⟩, isKey⟩

/-- The comparisons admit the registry's clock exactly when the proof was not
made ahead of it. -/
theorem windowAdmits_nowIso_iff
    (admitted : Admitted registration clock registeredAt) :
    windowAdmits (nowIso clock) registration.proof.createdAt
        registration.proof.expiresAt ↔
      dateLess (some clock.time) (dateParse registration.proof.createdAt) =
        false := by
  have isInstant := admitted.instant
  have inTime := admitted.inTime
  constructor
  · intro admits
    rw [← dateParse_nowIso]
    exact admits.1
  · intro notAhead
    rw [notAhead, if_neg Bool.false_ne_true] at isInstant
    rw [isInstant] at inTime
    exact inTime

theorem recovers_iff
    (registrable : Registrable registration) {retriedAt : JsString}
    (isAdmitted :
      admitAgent body retryClock = .ok (registration, retriedAt))
    (count : Nat) (now : JsString) :
    Recovers (recordOf registration registeredAt) registration.keyDocument now
        (partlyRegistered registration registeredAt keyUlid count .empty)
        ((registerAgent body retryClock retryKeyUlid retryAgentUlid).run
          MemoryStore.handle (partlyRegistered registration registeredAt
            keyUlid count .empty)).2 ↔
      count ≠ 2 ∧ (3 ≤ count → windowAdmits now registration.proof.createdAt
        registration.proof.expiresAt) := by
  have left := @failed_iff _ keyUlid registration registeredAt registrable
    count now
  have right := @retried_iff _ body retryClock keyUlid retryKeyUlid
    retryAgentUlid registration retriedAt isAdmitted registeredAt count
  constructor
  · intro recovers
    exact left.mp recovers.1
  · intro conditions
    exact ⟨left.mpr conditions, right.mpr conditions.1⟩

/-- A registration that a healthy, empty store accepts and that meets a store
call that throws is recoverable exactly when that call does not publish the
key.  For the envelope at the registry's clock, the proof must not have been
made ahead of that clock once the key is published. -/
theorem registerAgent_recovers_iff
    {record again : AgentRecord} {keyDocument keyAgain : KeyDocument}
    {manifest manifestAgain : Manifest}
    (accepted : ((registerAgent body clock keyUlid agentUlid).run
      MemoryStore.handle .empty).1 = .ok record keyDocument manifest)
    (acceptedAgain :
      ((registerAgent body retryClock retryKeyUlid retryAgentUlid).run
        MemoryStore.handle .empty).1 = .ok again keyAgain manifestAgain)
    {count : Nat} (isStoreCall : count < 5) :
    let failed := registerAgentFaulty count body clock keyUlid agentUlid
      .empty
    let retried :=
      (registerAgent body retryClock retryKeyUlid retryAgentUlid).run
        MemoryStore.handle failed.2
    failed.1 = registryUnavailable ∧
      (Recovers record keyDocument (evaluationInstant record.proof clock)
          failed.2 retried.2 ↔ count ≠ 2) ∧
      (Recovers record keyDocument (nowIso clock) failed.2 retried.2 ↔
        count ≠ 2 ∧ (3 ≤ count → dateLess (some clock.time)
          (dateParse record.proof.createdAt) = false)) := by
  obtain ⟨registration, registeredAt, isAdmitted, rfl, rfl⟩ :=
    admitted_of_accepted accepted
  obtain ⟨second, retriedAt, isAdmittedAgain, -, -⟩ :=
    admitted_of_accepted acceptedAgain
  obtain rfl : registration = second :=
    Except.ok.inj ((readBody_of_admitAgent isAdmitted).symm.trans
      (readBody_of_admitAgent isAdmittedAgain))
  have admitted := admitted_of_admitAgent isAdmitted
  have recovers := @recovers_iff _ body retryClock keyUlid retryKeyUlid
    retryAgentUlid registration registeredAt admitted.registrable retriedAt
    isAdmittedAgain count
  have fault : registerAgentFaulty count body clock keyUlid agentUlid .empty =
      (registryUnavailable,
        partlyRegistered registration registeredAt keyUlid count .empty) :=
    registerAgentFaulty_of_admitted isAdmitted isStoreCall
  simp only [fault, true_and]
  constructor
  · rw [recovers]
    exact and_iff_left fun _ => admitted.inTime
  · rw [recovers, windowAdmits_nowIso_iff admitted]
    rfl

end Recovery

/-! ## The sample registration under a fault -/

theorem sampleRegistration_accepted :
    letI := samplePlatform
    ((registerAgent (some sampleRegistration.toJson) sampleClock [] []).run
      MemoryStore.handle .empty).1 =
        .ok (recordOf sampleRegistration (nowIso sampleClock))
          sampleOperatorKey sampleManifest := by
  let := samplePlatform
  rw [registerAgent_published sampleRegistration_admitted rfl rfl]
  rfl

/-- The sample registration recovers from a fault in an event. -/
theorem registerAgent_recovers_sample :
    letI := samplePlatform
    let failed := registerAgentFaulty 3 (some sampleRegistration.toJson)
      sampleClock [] [] .empty
    Recovers (recordOf sampleRegistration (nowIso sampleClock))
      sampleOperatorKey (evaluationInstant sampleProof sampleClock) failed.2
      ((registerAgent (some sampleRegistration.toJson) sampleClock [] []).run
        MemoryStore.handle failed.2).2 := by
  let := samplePlatform
  intro failed
  have recovers := registerAgent_recovers_iff sampleRegistration_accepted
    sampleRegistration_accepted (show 3 < 5 by decide)
  exact recovers.2.1.mpr (by decide)

/-- When the publication of the key throws, the envelope of the agent has no
key, and the resubmission finds the agent and publishes nothing. -/
theorem registerAgent_strands_agent :
    letI := samplePlatform
    let failed := registerAgentFaulty 2 (some sampleRegistration.toJson)
      sampleClock [] [] .empty
    let retried :=
      (registerAgent (some sampleRegistration.toJson) sampleClock [] []).run
        MemoryStore.handle failed.2
    failed.1 = registryUnavailable ∧
      ¬ Recovers (recordOf sampleRegistration (nowIso sampleClock))
        sampleOperatorKey (evaluationInstant sampleProof sampleClock)
        failed.2 retried.2 ∧
      retried.1 = refusal 409 "agent_exists" "agent_id is already registered"
        none ∧
      retried.2.getKey sampleOperatorKey.keyId = none := by
  let := samplePlatform
  have fault := @registerAgentFaulty_of_admitted samplePlatform _ _ [] [] _ _
    sampleRegistration_admitted 2 (by decide)
  have recovers := @recovers_iff samplePlatform _ _ [] [] [] _
    (nowIso sampleClock) sampleRegistration_registrable _
    sampleRegistration_admitted 2 (evaluationInstant sampleProof sampleClock)
  have taken : (@partlyRegistered samplePlatform sampleRegistration
      (nowIso sampleClock) [] 2 .empty).getAgent sampleManifest.agentId =
        some (recordOf sampleRegistration (nowIso sampleClock)) :=
    getAgent_partlyRegistered _ _ (by decide)
  have refused := @registerAgent_agentExists samplePlatform _ _ [] [] _ _
    sampleRegistration_admitted _ _ rfl taken
  simp only [fault, true_and]
  constructor
  · intro isRecovered
    exact (recovers.mp isRecovered).1 rfl
  · rw [refused]
    exact ⟨rfl, rfl⟩

end AgenId.Registry
