import AgenId.Core.Procedure
import AgenId.Registry.Agreement
import AgenId.Registry.Recovery
import AgenId.Web.TrustPresentation

/-!
# Freshly registered agents

A registration evaluates a proof that was made a little ahead of the
registry's clock at the instant of the proof; a resolution evaluates it at
the clock, without leeway.  The envelope of a registered agent therefore
checks from the later of the two instants on, and before the instant of the
proof it reports that the proof is not yet valid.
-/

namespace AgenId.Web

open AgenId.Core
open AgenId.Ecma
open AgenId.Library
open AgenId.Registry

section Freshness

variable [Platform]

/-- A registry registers a body at an instant. -/
inductive Registers (clock : Clock) (registration : RegisterBody)
    (store after : MemoryStore) : Prop
  | web {body : Option Json} {keyUlid agentUlid : JsString}
      {record : AgentRecord} {keyDocument : KeyDocument}
      {manifest : Manifest}
      (isRead : readBody body = .ok registration)
      (runs : (registerAgent body clock keyUlid agentUlid).run
        MemoryStore.handle store = (.ok record keyDocument manifest, after))
  | app {body : Option Json} {ts keyUlid agentUlid : JsString}
      {response : Response}
      (isRead : RegisterBody.schema.accepts body = some registration)
      (runs : (postAgents body (nowIso clock) ts keyUlid agentUlid).run
        MemoryStore.handle store = (response, after))
      (isCreated : response.status = 201)

/-! ## What a registration guarantees -/

theorem skew_of_registrationTime
    {proofCreatedAt now registeredAt : JsString} {time created : Int}
    (isOk : registrationTime proofCreatedAt (some time) =
      some (.ok now registeredAt))
    (isCreated : dateParse proofCreatedAt = some created) :
    created - time ≤ MAX_FORWARD_SKEW_MS := by
  unfold registrationTime at isOk
  dsimp only at isOk
  rw [isCreated] at isOk
  dsimp only at isOk
  by_cases skewed : MAX_FORWARD_SKEW_MS < created - time
  · rw [if_pos skewed] at isOk
    cases isOk
  · exact not_lt.mp skewed

theorem skew_of_admitAgent
    {body : Option Json} {clock : Clock} {registration : RegisterBody}
    {registeredAt : JsString}
    (isAdmitted : admitAgent body clock = .ok (registration, registeredAt))
    {created : Int}
    (isCreated : dateParse registration.proof.createdAt = some created) :
    created - clock.time ≤ MAX_FORWARD_SKEW_MS := by
  have isRead := readBody_of_admitAgent isAdmitted
  unfold admitAgent at isAdmitted
  simp only [isRead, dateParse_nowIso] at isAdmitted
  cases isTime : registrationTime registration.proof.createdAt
      (some clock.time) with
  | none => exact absurd isTime (registrationTime_ne_none _ _)
  | some time =>
      cases time with
      | ok now registeredAt => exact skew_of_registrationTime isTime isCreated
      | fail message =>
          simp only [isTime] at isAdmitted
          repeat' split at isAdmitted
          all_goals cases isAdmitted

/-- A registration that was accepted: what was admitted, and what is stored
of it. -/
structure RegisteredAt (clock : Clock) (registration : RegisterBody)
    (after : MemoryStore) : Prop where
  registrable : Registrable registration
  skew : ∀ created, dateParse registration.proof.createdAt = some created →
    created - clock.time ≤ MAX_FORWARD_SKEW_MS
  agent : ∃ ts, after.getAgent registration.manifest.agentId =
    some (recordOf registration ts)
  key : after.getKey registration.proof.keyId = some registration.keyDocument

theorem registeredAt_registered
    {body : Option Json} {clock : Clock} {registration : RegisterBody}
    {registeredAt : JsString}
    (isAdmitted : admitAgent body clock = .ok (registration, registeredAt))
    (ts keyUlid agentUlid : JsString) (store : MemoryStore) :
    RegisteredAt clock registration
      (registered registration ts keyUlid agentUlid store) := by
  have registrable := (admitted_of_admitAgent isAdmitted).registrable
  exact
    { registrable := registrable
      skew := fun _ => skew_of_admitAgent isAdmitted
      agent := ⟨ts, by simp [registered, recordOf]⟩
      key := by simp [registered, registrable.bound.keyId] }

theorem Registers.registeredAt
    {clock : Clock} {registration : RegisterBody} {store after : MemoryStore}
    (registers : Registers clock registration store after) :
    RegisteredAt clock registration after := by
  cases registers with
  | @web body keyUlid agentUlid record keyDocument manifest isRead runs =>
      cases isAdmitted : admitAgent body clock with
      | error failure =>
          rw [registerAgent_of_refused isAdmitted] at runs
          obtain ⟨_, _, _, _, rfl⟩ := admitAgent_isFailure isAdmitted
          cases runs
      | ok admitted =>
          obtain ⟨found, registeredAt⟩ := admitted
          obtain rfl := Except.ok.inj
            ((readBody_of_admitAgent isAdmitted).symm.trans isRead)
          rw [registerAgent_of_admitted isAdmitted, Program.run_bind] at runs
          rcases publish_cases found registeredAt keyUlid agentUlid store with
            ⟨refused, notPublished, isRun⟩ | ⟨-, -, isRun⟩
          · rw [isRun] at runs
            cases refused with
            | keyConflict => cases runs
            | agentExists => cases runs
            | published other => exact absurd rfl (notPublished other)
          · rw [isRun] at runs
            cases runs
            exact registeredAt_registered isAdmitted _ _ _ _
  | @app body ts keyUlid agentUlid response isRead runs isCreated =>
      rcases admissions_agree body clock with
        ⟨status, code, message, text, issues, isApp, isWeb⟩ |
          ⟨found, isApp, isWeb⟩
      · rw [postAgents_of_refused isApp] at runs
        cases runs
        have refusedStatus := status_of_admitRegistration isApp
        omega
      · obtain rfl := Except.ok.inj ((readBody_of_admitAgent isWeb).symm.trans
          (readBody_eq_ok_iff.mpr isRead))
        rw [postAgents_of_admitted isApp, Program.run_bind] at runs
        rcases publish_cases found ts keyUlid agentUlid store with
          ⟨refused, notPublished, isRun⟩ | ⟨-, -, isRun⟩
        · rw [isRun] at runs
          cases refused with
          | keyConflict =>
              cases runs
              cases isCreated
          | agentExists =>
              cases runs
              cases isCreated
          | published other => exact absurd rfl (notPublished other)
        · rw [isRun] at runs
          cases runs
          exact registeredAt_registered isWeb _ _ _ _

/-! ## The check of a registered proof -/

/-- Before its own instant, a proof that is otherwise in order fails as not
yet valid. -/
theorem checkProof_early
    {registration : RegisterBody} (registrable : Registrable registration)
    (ts : JsString) {now : JsString} {later created : Int}
    (isNow : dateParse now = some later)
    (isCreated : dateParse registration.proof.createdAt = some created)
    (early : later < created) :
    checkProof (recordOf registration ts) (some registration.keyDocument)
      now = .ok (.failed "not_yet_valid") := by
  obtain ⟨result, isResult, ends⟩ := verifyManifestProof_follows
    (some registration.proof.toJson) (some registration.manifest.toJson)
    (some registration.keyDocument.toJson)
    (Option.isSome_of_eq_some isNow)
  have bound := registrable.bound
  have sameVersion := memberOf_manifest_version registrable.proof
    registrable.manifest
  have tooEarly : ¬ NotBefore now registration.proof.createdAt := by
    intro ⟨instant, first, isInstant, isFirst, ordered⟩
    obtain rfl := Option.some.inj (isNow.symm.trans isInstant)
    obtain rfl := Option.some.inj (isCreated.symm.trans isFirst)
    exact absurd ordered (not_le.mpr early)
  unfold proofSteps at ends
  simp only [registrable.proof, registrable.manifest,
    registrable.keyDocument] at ends
  have fails : VerifyResult.failure result = some .notYetValid := by
    apply ends.unique
    apply Ends.next rfl
    apply Ends.next rfl
    apply Ends.next rfl
    apply Ends.next ⟨bound.digest, bound.agentId, sameVersion⟩
    apply Ends.next bound.keyId
    apply Ends.next bound.role
    apply Ends.next bound.controller
    apply Ends.next bound.active
    exact Ends.failed tooEarly
  have checked : checkProof (recordOf registration ts)
      (some registration.keyDocument) now =
        (verifyRegistration registration now).map Check.ofResult := rfl
  rw [checked, verifyRegistration, isResult]
  cases result with
  | ok state details => cases fails
  | fail code message =>
      obtain rfl := Option.some.inj fails
      rfl

/-- The envelope of a registered agent at an instant before its proof expires:
from the later of the instants of the registration and of the proof on its
proof checks, and it does not show as invalid; before the instant of the
proof, which is at most the tolerated skew ahead of the registration, it is
not yet valid. -/
theorem registered_agent_checks
    {clock : Clock} {registration : RegisterBody}
    {store after current : MemoryStore} {now : JsString}
    {later created expires : Int}
    (registers : Registers clock registration store after)
    (sameAgent : current.getAgent registration.manifest.agentId =
      after.getAgent registration.manifest.agentId)
    (sameKey : current.getKey registration.proof.keyId =
      after.getKey registration.proof.keyId)
    (isNow : dateParse now = some later)
    (isCreated : dateParse registration.proof.createdAt = some created)
    (isExpires : dateParse registration.proof.expiresAt = some expires)
    (inTime : later ≤ expires) :
    ∃ record envelope,
      current.getAgent registration.manifest.agentId = some record ∧
      (buildEnvelope record now).run MemoryStore.handle current =
        (.ok envelope, current) ∧
      (max clock.time created ≤ later → envelope.proofCheck = .ok ∧
        presentEnvelopeTrust (some (presented envelope)) ≠
          PROOF_INVALID_TRUST) ∧
      (later < created →
        envelope.proofCheck = .failed "not_yet_valid" ∧
          created - clock.time ≤ MAX_FORWARD_SKEW_MS) := by
  have stored := registers.registeredAt
  obtain ⟨ts, isAgent⟩ := stored.agent
  obtain ⟨envelope, isEnvelope, -, isCheck⟩ :=
    buildEnvelope_ok stored.registrable ts now current
  rw [sameKey, stored.key] at isCheck
  refine ⟨recordOf registration ts, envelope, sameAgent.trans isAgent, ?_, ?_,
    ?_⟩
  · rw [buildEnvelope_run] at isEnvelope ⊢
    exact Prod.ext isEnvelope rfl
  · intro since
    have inWindow : InWindow now registration.proof.createdAt
        registration.proof.expiresAt :=
      ⟨_, _, _, isNow, isCreated, isExpires,
        (le_max_right _ _).trans since, inTime⟩
    have passes : envelope.proofCheck = .ok := Except.ok.inj (isCheck.symm.trans
      ((checkProof_recordOf_iff stored.registrable ts now).mpr inWindow.admits))
    refine ⟨passes, ?_⟩
    intro invalid
    exact ((presentEnvelopeTrust_eq_proofInvalid_iff envelope).mp invalid).2
      passes
  · intro early
    have fails := checkProof_early stored.registrable ts isNow isCreated early
    exact ⟨Except.ok.inj (isCheck.symm.trans fails),
      stored.skew created isCreated⟩

end Freshness

/-! ## A fresh agent -/

/-- One second before the sample proof was made. -/
def earlyClock : Clock where
  time := 1789257599000
  valid := by decide

theorem sampleRegistration_early :
    letI := samplePlatform
    Registers earlyClock sampleRegistration .empty
      (registered sampleRegistration (nowIso earlyClock) [] [] .empty) := by
  let := samplePlatform
  have isRead :=
    readBody_toJson sampleRegistration_registrable.toAccepted
  have isTime : registrationTime sampleProof.createdAt
      (dateParse (nowIso earlyClock)) =
        some (.ok sampleProof.createdAt (nowIso earlyClock)) := by
    rw [dateParse_nowIso]
    decide
  have admits : windowAdmits sampleProof.createdAt sampleProof.createdAt
      sampleProof.expiresAt := by
    unfold windowAdmits
    decide
  have isAdmitted := admitAgent_of_registrable isRead
    sampleRegistration_registrable isTime admits
  exact .web isRead (registerAgent_published isAdmitted rfl rfl)

/-- The sample agent checks a day after its registration. -/
theorem registered_agent_checks_sample :
    letI := samplePlatform
    ∃ record envelope,
      (buildEnvelope record (units "2026-09-14T00:00:00Z")).run
          MemoryStore.handle
          (registered sampleRegistration (nowIso earlyClock) [] [] .empty) =
        (.ok envelope,
          registered sampleRegistration (nowIso earlyClock) [] [] .empty) ∧
      envelope.proofCheck = .ok := by
  let := samplePlatform
  have isNow : dateParse (units "2026-09-14T00:00:00Z") =
      some 1789344000000 := by decide
  have isCreated : dateParse sampleProof.createdAt = some 1789257600000 := by
    decide
  have isExpires : dateParse sampleProof.expiresAt = some 1797033600000 := by
    decide
  obtain ⟨record, envelope, -, isEnvelope, passes, -⟩ :=
    registered_agent_checks sampleRegistration_early rfl rfl isNow isCreated
      isExpires (by decide)
  exact ⟨record, envelope, isEnvelope, (passes (by decide)).1⟩

/-- An agent whose proof was made a second ahead of the registry's clock is
registered, and at that same clock its envelope shows an invalid proof. -/
theorem fresh_agent_shows_invalid :
    letI := samplePlatform
    Registers earlyClock sampleRegistration .empty
        (registered sampleRegistration (nowIso earlyClock) [] [] .empty) ∧
      ∃ envelope,
        (buildEnvelope (recordOf sampleRegistration (nowIso earlyClock))
          (nowIso earlyClock)).run MemoryStore.handle
            (registered sampleRegistration (nowIso earlyClock) [] []
              .empty) =
          (.ok envelope,
            registered sampleRegistration (nowIso earlyClock) [] []
              .empty) ∧
        envelope.proofCheck = .failed "not_yet_valid" ∧
        presentEnvelopeTrust (some (presented envelope)) =
          PROOF_INVALID_TRUST := by
  let := samplePlatform
  refine ⟨sampleRegistration_early, ?_⟩
  obtain ⟨envelope, isEnvelope, isActive, isCheck⟩ :=
    buildEnvelope_ok sampleRegistration_registrable (nowIso earlyClock)
      (nowIso earlyClock)
      (registered sampleRegistration (nowIso earlyClock) [] [] .empty)
  have isCreated : dateParse sampleProof.createdAt = some 1789257600000 := by
    decide
  have isKey : (registered sampleRegistration (nowIso earlyClock) [] []
      .empty).getKey sampleRegistration.proof.keyId =
        some sampleRegistration.keyDocument := by
    rfl
  have fails : envelope.proofCheck = .failed "not_yet_valid" := by
    rw [isKey] at isCheck
    exact Except.ok.inj (isCheck.symm.trans
      (checkProof_early sampleRegistration_registrable _
        (dateParse_nowIso earlyClock) isCreated (by decide)))
  have invalid : presentEnvelopeTrust (some (presented envelope)) =
      PROOF_INVALID_TRUST := by
    rw [presentEnvelopeTrust_eq_proofInvalid_iff, isActive, fails]
    decide
  rw [buildEnvelope_run] at isEnvelope ⊢
  exact ⟨envelope, Prod.ext isEnvelope rfl, fails, invalid⟩

end AgenId.Web
