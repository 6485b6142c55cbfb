import AgenId.Core.Timestamps
import AgenId.Core.WindowSoundness
import AgenId.Registry.Register

/-!
# What the clock of a registration changes

A registration is refused when its proof was made too far ahead of the
registry's clock, and is otherwise evaluated at the later of the two instants,
both in whole milliseconds.  The verification of the proof differs there from
the one at the registry's clock only in that a proof that is not yet valid is
verified further.
-/

namespace AgenId.Registry

open AgenId.Core
open AgenId.Ecma
open AgenId.Validation
open AgenId.Validation.Schema

section ClockPolicy

variable [Platform]

/-! ## A proof at two clocks -/

/-- A verification reports that a document is not yet valid. -/
def NotYetValid (outcome : Except AgenIdError VerifyResult) : Prop :=
  ∃ message, outcome = .ok (.fail .notYetValid message)

/-- Two verifications are the same, unless the second reports that a document
is not yet valid. -/
def SameUnlessEarly (late early : Except AgenIdError VerifyResult) : Prop :=
  late = early ∨ NotYetValid early

omit [Platform] in
theorem SameUnlessEarly.guard
    {condition : Prop} [Decidable condition]
    {refusal late early : Except AgenIdError VerifyResult}
    (same : SameUnlessEarly late early) :
    SameUnlessEarly (if condition then refusal else late)
      (if condition then refusal else early) := by
  by_cases holds : condition
  · rw [if_pos holds, if_pos holds]
    exact Or.inl rfl
  · rw [if_neg holds, if_neg holds]
    exact same

omit [Platform] in
theorem not_notYetValid_guard
    {condition : Prop} [Decidable condition] {code : VerifyFailureCode}
    {message : JsString} {rest : Except AgenIdError VerifyResult}
    (other : code ≠ .notYetValid) (started : ¬ NotYetValid rest) :
    ¬ NotYetValid (if condition then pure (.fail code message) else rest) := by
  by_cases holds : condition
  · rw [if_pos holds]
    rintro ⟨text, isEarly⟩
    have same := pure_eq_ok_iff.mp isEarly
    exact other (VerifyResult.fail.inj same).1
  · rw [if_neg holds]
    exact started

/-- A proof fails as not yet valid at a clock before it was made, or an earlier
check fails at every clock. -/
theorem verifyParsedProof_early
    (proof : ManifestProof) (manifest : Manifest) (key : KeyDocument)
    {early : JsString} (late : JsString)
    (isEarly : dateLess (dateParse early) (dateParse proof.createdAt) = true) :
    SameUnlessEarly (verifyParsedProof proof manifest key late)
      (verifyParsedProof proof manifest key early) := by
  unfold verifyParsedProof
  rw [manifestDigestHex_eq]
  simp only [except_ok_bind]
  refine SameUnlessEarly.guard ?_
  refine SameUnlessEarly.guard ?_
  refine SameUnlessEarly.guard ?_
  refine SameUnlessEarly.guard ?_
  refine SameUnlessEarly.guard ?_
  rw [isEarly]
  exact Or.inr ⟨_, rfl⟩

/-- A proof does not fail as not yet valid at a clock that is not before it was
made. -/
theorem verifyParsedProof_started
    (proof : ManifestProof) (manifest : Manifest) (key : KeyDocument)
    {now : JsString}
    (started : dateLess (dateParse now) (dateParse proof.createdAt) = false) :
    ¬ NotYetValid (verifyParsedProof proof manifest key now) := by
  unfold verifyParsedProof
  rw [manifestDigestHex_eq, signatureVerifies_eq (inDomain_ManifestProof proof)]
  simp only [except_ok_bind]
  refine not_notYetValid_guard (by decide) ?_
  refine not_notYetValid_guard (by decide) ?_
  refine not_notYetValid_guard (by decide) ?_
  refine not_notYetValid_guard (by decide) ?_
  refine not_notYetValid_guard (by decide) ?_
  rw [started, if_neg Bool.false_ne_true]
  refine not_notYetValid_guard (by decide) ?_
  refine not_notYetValid_guard (by decide) ?_
  rintro ⟨message, impossible⟩
  cases pure_eq_ok_iff.mp impossible

/-- A verification reads its clock only through `Date.parse`. -/
theorem verifyManifestProof_congr
    (proofInput manifestInput keyInput : Option Json) {now other : JsString}
    (same : dateParse now = dateParse other) :
    verifyManifestProof proofInput manifestInput keyInput now =
      verifyManifestProof proofInput manifestInput keyInput other := by
  unfold verifyManifestProof verifyParsedProof
  rw [same]

theorem not_notYetValid_schemaFailure (name : String) (issues : List Issue) :
    ¬ NotYetValid (.ok (schemaFailure name issues)) := by
  rintro ⟨message, isFailure⟩
  cases isFailure

theorem verifyManifestProof_started
    (proofInput manifestInput keyInput : Option Json) {now : JsString}
    (started : ∀ proof, ManifestProof.schema.accepts proofInput = some proof →
      dateLess (dateParse now) (dateParse proof.createdAt) = false) :
    ¬ NotYetValid
      (verifyManifestProof proofInput manifestInput keyInput now) := by
  unfold verifyManifestProof safeParse
  cases accepted : ManifestProof.schema.accepts proofInput with
  | none => exact not_notYetValid_schemaFailure _ _
  | some proof =>
      cases Manifest.schema.accepts manifestInput with
      | none => exact not_notYetValid_schemaFailure _ _
      | some manifest =>
          cases KeyDocument.schema.accepts keyInput with
          | none => exact not_notYetValid_schemaFailure _ _
          | some key =>
              exact verifyParsedProof_started proof manifest key
                (started proof accepted)

theorem verifyManifestProof_early
    (proofInput manifestInput keyInput : Option Json) {early : JsString}
    (late : JsString)
    (isEarly : ∀ proof, ManifestProof.schema.accepts proofInput = some proof →
      dateLess (dateParse early) (dateParse proof.createdAt) = true) :
    SameUnlessEarly
      (verifyManifestProof proofInput manifestInput keyInput late)
      (verifyManifestProof proofInput manifestInput keyInput early) := by
  unfold verifyManifestProof safeParse
  cases accepted : ManifestProof.schema.accepts proofInput with
  | none => exact Or.inl rfl
  | some proof =>
      cases Manifest.schema.accepts manifestInput with
      | none => exact Or.inl rfl
      | some manifest =>
          cases KeyDocument.schema.accepts keyInput with
          | none => exact Or.inl rfl
          | some key =>
              exact verifyParsedProof_early proof manifest key late
                (isEarly proof accepted)

/-! ## The policy -/

/-- What the policy promises of the verification of a proof at the instant that
it chooses, in place of the registry's clock. -/
structure EvaluatedLater (atChosen atClock : Except AgenIdError VerifyResult) :
    Prop where
  started : ¬ NotYetValid atChosen
  keeps : Succeeds atClock → Succeeds atChosen
  same : atChosen = atClock ∨ NotYetValid atClock

/-- The verification of a proof, moved from the registry's clock to the later
one of it and of the instant at which the proof was made. -/
theorem verifyManifestProof_evaluatedLater
    (proofInput manifestInput keyInput : Option Json) {now clock : JsString}
    {created time : Int}
    (isProof : ∀ proof, ManifestProof.schema.accepts proofInput = some proof →
      dateParse proof.createdAt = some created)
    (isClock : dateParse clock = some time)
    (isNow : dateParse now = some (max created time)) :
    EvaluatedLater
      (verifyManifestProof proofInput manifestInput keyInput now)
      (verifyManifestProof proofInput manifestInput keyInput clock) := by
  have same : SameUnlessEarly
      (verifyManifestProof proofInput manifestInput keyInput now)
      (verifyManifestProof proofInput manifestInput keyInput clock) := by
    by_cases notAhead : created ≤ time
    · refine Or.inl (verifyManifestProof_congr _ _ _ ?_)
      rw [isNow, isClock, max_eq_right notAhead]
    · refine verifyManifestProof_early _ _ _ now ?_
      intro proof accepted
      rw [isClock, isProof proof accepted, dateLess_some]
      exact decide_eq_true (not_le.mp notAhead)
  refine ⟨?_, ?_, same⟩
  · refine verifyManifestProof_started _ _ _ ?_
    intro proof accepted
    rw [isNow, isProof proof accepted, dateLess_some]
    exact decide_eq_false (not_lt.mpr (le_max_left _ _))
  · rintro ⟨state, details, isOk⟩
    rcases same with sameResult | ⟨message, isEarly⟩
    · exact ⟨state, details, sameResult.trans isOk⟩
    · rw [isOk] at isEarly
      cases isEarly

/-- A registration is refused for a proof made beyond the tolerated skew. -/
theorem registrationTime_fails_iff
    {createdAt : JsString} {created time : Int}
    (isCreated : dateParse createdAt = some created) :
    (∃ message, registrationTime createdAt (some time) =
        some (.fail message)) ↔
      MAX_FORWARD_SKEW_MS < created - time := by
  unfold registrationTime
  dsimp only
  rw [isCreated]
  dsimp only
  by_cases skewed : MAX_FORWARD_SKEW_MS < created - time
  · rw [if_pos skewed]
    exact iff_of_true ⟨_, rfl⟩ skewed
  · rw [if_neg skewed]
    refine iff_of_false ?_ skewed
    rintro ⟨message, impossible⟩
    cases impossible

/-- The chosen instant is the later of the two. -/
theorem dateParse_registrationTime
    {createdAt now registeredAt : JsString} {created time : Int}
    (isCreated : dateParse createdAt = some created)
    (isClock : dateParse registeredAt = some time)
    (isOk : registrationTime createdAt (some time) =
      some (.ok now registeredAt)) :
    dateParse now = some (max created time) := by
  have chosen := registrationTime_now isOk
  rw [isCreated, dateLess_some] at chosen
  by_cases ahead : time < created
  · rw [chosen, if_pos (decide_eq_true ahead), isCreated,
      max_eq_left ahead.le]
  · rw [chosen, if_neg (by simpa using ahead), isClock,
      max_eq_right (not_lt.mp ahead)]

/-- A registration is refused exactly when its proof was made more than the
tolerated skew ahead of the clock, in whole milliseconds; otherwise the clock
is recorded, and the proof is evaluated at the later of the two instants. -/
theorem registration_clock_policy
    {createdAt : JsString}
    (isTimestamp : Rfc3339Utc.accepts (some (.string createdAt)) =
      some createdAt)
    (clock : Clock) :
    ∃ instant created, exactTime createdAt = some instant ∧
      created = instant / 1000000 ∧ dateParse createdAt = some created ∧
      ((∃ message, registrationTime createdAt (some clock.time) =
          some (.fail message)) ↔
        MAX_FORWARD_SKEW_MS < created - clock.time) ∧
      ∀ now registeredAt,
        registrationTime createdAt (some clock.time) =
          some (.ok now registeredAt) →
        registeredAt = nowIso clock ∧
          dateParse registeredAt = some clock.time ∧
          dateParse now = some (max created clock.time) ∧
          ∀ proofInput manifestInput keyInput,
            (∀ proof, ManifestProof.schema.accepts proofInput = some proof →
              proof.createdAt = createdAt) →
            EvaluatedLater
              (verifyManifestProof proofInput manifestInput keyInput now)
              (verifyManifestProof proofInput manifestInput keyInput
                registeredAt) := by
  obtain ⟨instant, isInstant, isCreated⟩ := exactTime_of_accepted isTimestamp
  refine ⟨instant, _, isInstant, rfl, isCreated,
    registrationTime_fails_iff isCreated, ?_⟩
  intro now registeredAt isOk
  have isRegistered : registeredAt = nowIso clock :=
    registrationTime_registeredAt isOk
  have isClock : dateParse registeredAt = some clock.time := by
    rw [isRegistered]
    exact parseDate_isoString _ clock.valid
  have isNow := dateParse_registrationTime isCreated isClock isOk
  refine ⟨isRegistered, isClock, isNow, ?_⟩
  intro proofInput manifestInput keyInput isProof
  refine verifyManifestProof_evaluatedLater _ _ _ ?_ isClock isNow
  intro proof accepted
  rw [isProof proof accepted]
  exact isCreated

end ClockPolicy

/-! ## A proof made half a millisecond beyond the skew -/

/-- The instant 2026-09-13T00:00:00Z. -/
def startClock : Clock where
  time := 1789257600000
  valid := by decide

/-- A proof made half a millisecond more than the tolerated skew ahead of the
clock is not refused. -/
theorem skew_within_millisecond_accepted :
    letI := samplePlatform
    Rfc3339Utc.accepts (some (.string (units "2026-09-13T00:02:00.0005Z"))) =
        some (units "2026-09-13T00:02:00.0005Z") ∧
      ∃ instant,
        exactTime (units "2026-09-13T00:02:00.0005Z") = some instant ∧
        ¬ ((∃ message,
            registrationTime (units "2026-09-13T00:02:00.0005Z")
              (some startClock.time) = some (.fail message)) ↔
          MAX_FORWARD_SKEW_MS * 1000000 <
            instant - startClock.time * 1000000) := by
  let := samplePlatform
  refine ⟨rfl, _, rfl, ?_⟩
  intro refuses
  obtain ⟨message, isRefused⟩ := refuses.mpr (by decide)
  cases isRefused

/-- A minute before the sample proof was made. -/
def earlyClock : Clock where
  time := 1789257540000
  valid := by decide

/-- A registration a minute before its proof was made is not refused: the
clock is recorded, and the proof is evaluated at the instant it was made,
where it is accepted if it is at the clock. -/
theorem registration_clock_policy_sample :
    letI := samplePlatform
    ∃ now, registrationTime sampleProof.createdAt (some earlyClock.time) =
        some (.ok now (nowIso earlyClock)) ∧
      dateParse (nowIso earlyClock) = some 1789257540000 ∧
      dateParse now = some 1789257600000 ∧
      EvaluatedLater
        (verifyManifestProof (some sampleProof.toJson)
          (some sampleManifest.toJson) (some sampleOperatorKey.toJson) now)
        (verifyManifestProof (some sampleProof.toJson)
          (some sampleManifest.toJson) (some sampleOperatorKey.toJson)
          (nowIso earlyClock)) := by
  let := samplePlatform
  have isMade : dateParse sampleProof.createdAt = some 1789257600000 := rfl
  have isTime : registrationTime sampleProof.createdAt
      (some earlyClock.time) =
        some (.ok sampleProof.createdAt (nowIso earlyClock)) := by
    decide
  obtain ⟨_, created, -, -, isCreated, -, evaluates⟩ :=
    registration_clock_policy
      (rfl : Rfc3339Utc.accepts (some (.string sampleProof.createdAt)) =
        some sampleProof.createdAt) earlyClock
  obtain rfl := Option.some.inj (isMade.symm.trans isCreated)
  obtain ⟨-, isClock, isNow, later⟩ := evaluates _ _ isTime
  refine ⟨_, isTime, isClock, isNow, later _ _ _ ?_⟩
  intro proof isProof
  rw [sampleProof_accepted] at isProof
  rw [← Option.some.inj isProof]

end AgenId.Registry
