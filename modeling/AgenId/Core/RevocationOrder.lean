import AgenId.Core.Permission

/-!
# The order and the company of revocations

The loop returns at the first revocation with a verdict, so the decision
depends on the order of the list exactly when it holds both a revocation that
cannot be verified and one that withdraws the grant.  A revocation of
something else changes the decision only when its key document is missing.
-/

namespace AgenId.Core

open AgenId.Ecma
open AgenId.Library
open AgenId.Validation
open AgenId.Validation.Schema

section Verification

variable [Platform]

/-- The same check with a list of collected revocations. -/
def EvaluateAuthorizationInput.withRevocations
    (input : EvaluateAuthorizationInput) (revocations : List Json) :
    EvaluateAuthorizationInput :=
  { input with revocations := some (.array revocations) }

/-- The grant verifies and the presented actor is its subject, so that the
revocations are consulted. -/
structure ConsultsRevocations (input : EvaluateAuthorizationInput)
    (grant : AuthorizationGrant) (key : KeyDocument) : Prop where
  acceptsGrant : AuthorizationGrant.schema.accepts input.grant = some grant
  acceptsKey : KeyDocument.schema.accepts input.principalKey = some key
  bound : GrantBound grant key
  admitted : windowAdmits input.now grant.notBefore grant.expiresAt
  actor : ActorBound input grant.subject

/-- The decision and its cause. -/
def outcome (input : EvaluateAuthorizationInput) :
    Except AgenIdError (AuthorizationDecision × Option ReasonCode) :=
  (evaluateAuthorization input).map fun evaluation =>
    (evaluation.decision, evaluation.reasonCode)

/-- The decision. -/
def decision (input : EvaluateAuthorizationInput) :
    Except AgenIdError AuthorizationDecision :=
  (evaluateAuthorization input).map AuthorizationEvaluation.decision

theorem decision_eq_map_outcome (input : EvaluateAuthorizationInput) :
    decision input = (outcome input).map Prod.fst := by
  unfold decision outcome
  cases evaluateAuthorization input <;> rfl

/-- When the revocations are consulted, the first verdict decides. -/
theorem ConsultsRevocations.evaluates
    {input : EvaluateAuthorizationInput} {grant : AuthorizationGrant}
    {key : KeyDocument} (consults : ConsultsRevocations input grant key)
    (revocations : List Json) :
    evaluateAuthorization (input.withRevocations revocations) =
      .ok ((revocations.findSome?
          (verdict (input.withRevocations []) grant.granted)).getD
        (decideScope (input.withRevocations []) grant.granted)) := by
  have verifies : verifyAuthorizationGrant
      (input.withRevocations revocations).grant
      (input.withRevocations revocations).principalKey
      (input.withRevocations revocations).now = .ok (.ok grant.granted) :=
    verifyAuthorizationGrant_eq_ok_iff.mpr ⟨grant, key,
      consults.acceptsGrant, consults.acceptsKey, consults.bound,
      consults.admitted, rfl⟩
  have bound :
      bindActor (input.withRevocations revocations) grant.granted = none :=
    bindActor_eq_none_iff.mpr consults.actor
  rw [evaluateAuthorization_of_verified verifies, conclusion, bound]
  rfl

/-- When they are not, they do not matter. -/
theorem evaluates_of_not_consults
    {input : EvaluateAuthorizationInput}
    (unconsulted : ∀ grant key, ¬ ConsultsRevocations input grant key)
    (revocations : List Json) :
    evaluateAuthorization (input.withRevocations revocations) =
      evaluateAuthorization (input.withRevocations []) := by
  obtain ⟨result, returned⟩ := verifyAuthorizationGrant_returns input.grant
    input.principalKey input.now
  cases result with
  | fail code message =>
      rw [@evaluateAuthorization_of_failed _
          (input.withRevocations revocations) _ _ returned,
        @evaluateAuthorization_of_failed _
          (input.withRevocations []) _ _ returned]
      rfl
  | ok verified =>
      rw [@evaluateAuthorization_of_verified _
          (input.withRevocations revocations) _ returned,
        @evaluateAuthorization_of_verified _
          (input.withRevocations []) _ returned]
      obtain ⟨grant, key, isGrant, isKey, bound, admitted, rfl⟩ :=
        verifyAuthorizationGrant_eq_ok_iff.mp returned
      cases refused :
          bindActor (input.withRevocations []) grant.granted with
      | some evaluation =>
          have alsoRefused : bindActor (input.withRevocations revocations)
              grant.granted = some evaluation := refused
          unfold conclusion
          rw [refused, alsoRefused]
      | none =>
          exact absurd ⟨isGrant, isKey, bound, admitted,
            bindActor_eq_none_iff.mp refused⟩ (unconsulted grant key)

/-! ## Order -/

theorem Unverifiable.not_withdraws
    {input : EvaluateAuthorizationInput} {value : Json}
    (unverifiable : Unverifiable input value) (grant : AuthorizationGrant) :
    ¬ Withdraws input grant value := by
  rintro ⟨revocation, keyDoc, _, accepted, supplied, -⟩
  obtain ⟨other, isOther, missing⟩ := unverifiable
  obtain rfl : other = revocation :=
    Option.some.inj (isOther.symm.trans accepted)
  simp [supplied] at missing

theorem Unverifiable.verdict_eq
    {input : EvaluateAuthorizationInput} {grant : AuthorizationGrant}
    (accepted : AuthorizationGrant.schema.accepts input.grant = some grant)
    {value : Json} (unverifiable : Unverifiable input value) :
    ∃ message, verdict input grant.granted value =
      some (input.refuse .unknown .registryUnavailable message) := by
  rcases verdict_cases accepted value with
    ⟨-, refuses⟩ | ⟨withdraws, -⟩ | ⟨verifiable, -⟩
  · exact refuses
  · exact absurd withdraws (unverifiable.not_withdraws grant)
  · exact absurd unverifiable verifiable

theorem Withdraws.verdict_eq
    {input : EvaluateAuthorizationInput} {grant : AuthorizationGrant}
    (accepted : AuthorizationGrant.schema.accepts input.grant = some grant)
    {value : Json} (withdraws : Withdraws input grant value) :
    ∃ code message, verdict input grant.granted value =
      some (input.refuse .notPermitted (.failure code) message) := by
  rcases verdict_cases accepted value with
    ⟨unverifiable, -⟩ | ⟨-, refuses⟩ | ⟨-, upholds, -⟩
  · exact absurd withdraws (unverifiable.not_withdraws grant)
  · exact refuses
  · exact absurd withdraws upholds

/-- The verdicts of the loop differ only between a revocation that cannot be
verified and one that withdraws the grant. -/
theorem unanimous_of_not_both
    {input : EvaluateAuthorizationInput} {grant : AuthorizationGrant}
    (accepted : AuthorizationGrant.schema.accepts input.grant = some grant)
    {revocations : List Json}
    (notBoth : ¬ ((∃ value ∈ revocations, Unverifiable input value) ∧
      ∃ value ∈ revocations, Withdraws input grant value)) :
    Unanimous (verdict input grant.granted)
      AuthorizationEvaluation.decision revocations := by
  intro first isFirst second isSecond firstVerdict secondVerdict
    firstDecides secondDecides
  rcases verdict_cases accepted first with
    ⟨missing, _, refuses⟩ | ⟨withdraws, _, _, refuses⟩ | ⟨-, -, silent⟩
  · obtain rfl := Option.some.inj (refuses.symm.trans firstDecides)
    rcases verdict_cases accepted second with
      ⟨-, _, also⟩ | ⟨withdraws, -⟩ | ⟨-, -, silent⟩
    · obtain rfl := Option.some.inj (also.symm.trans secondDecides)
      rfl
    · exact absurd ⟨⟨first, isFirst, missing⟩, second, isSecond, withdraws⟩
        notBoth
    · simp [silent] at secondDecides
  · obtain rfl := Option.some.inj (refuses.symm.trans firstDecides)
    rcases verdict_cases accepted second with
      ⟨missing, -⟩ | ⟨-, _, _, also⟩ | ⟨-, -, silent⟩
    · exact absurd ⟨⟨second, isSecond, missing⟩, first, isFirst, withdraws⟩
        notBoth
    · obtain rfl := Option.some.inj (also.symm.trans secondDecides)
      rfl
    · simp [silent] at secondDecides
  · simp [silent] at firstDecides

theorem ConsultsRevocations.decision_eq
    {input : EvaluateAuthorizationInput} {grant : AuthorizationGrant}
    {key : KeyDocument} (consults : ConsultsRevocations input grant key)
    (revocations : List Json) :
    decision (input.withRevocations revocations) =
      .ok (((revocations.findSome?
          (verdict (input.withRevocations []) grant.granted)).map
            AuthorizationEvaluation.decision).getD
        (decideScope (input.withRevocations []) grant.granted).decision) := by
  rw [decision, consults.evaluates]
  cases revocations.findSome?
      (verdict (input.withRevocations []) grant.granted) <;> rfl

/-- A list with a verdict has that decision in some order. -/
theorem ConsultsRevocations.exists_perm_decision
    {input : EvaluateAuthorizationInput} {grant : AuthorizationGrant}
    {key : KeyDocument} (consults : ConsultsRevocations input grant key)
    {revocations : List Json} {value : Json} (isMember : value ∈ revocations)
    {evaluation : AuthorizationEvaluation}
    (ends : verdict (input.withRevocations []) grant.granted value =
      some evaluation) :
    ∃ other : List Json, other.Perm revocations ∧
      decision (input.withRevocations other) =
        .ok evaluation.decision := by
  obtain ⟨other, order, found⟩ := exists_perm_findSome? isMember ends
  refine ⟨other, order, ?_⟩
  rw [consults.decision_eq, found]
  rfl

/-- A list with a revocation that cannot be verified and one that withdraws
the grant has two decisions. -/
theorem ConsultsRevocations.order_matters
    {input : EvaluateAuthorizationInput} {grant : AuthorizationGrant}
    {key : KeyDocument} (consults : ConsultsRevocations input grant key)
    {revocations : List Json}
    (someMissing : ∃ value ∈ revocations, Unverifiable input value)
    (someWithdraw : ∃ value ∈ revocations, Withdraws input grant value) :
    ¬ ∀ other : List Json, other.Perm revocations →
      decision (input.withRevocations other) =
        decision (input.withRevocations revocations) := by
  intro same
  obtain ⟨missing, isMissing, unverifiable⟩ := someMissing
  obtain ⟨withdrawing, isWithdrawing, withdraws⟩ := someWithdraw
  have accepted : AuthorizationGrant.schema.accepts
      (input.withRevocations []).grant = some grant :=
    consults.acceptsGrant
  obtain ⟨_, unknown⟩ := Unverifiable.verdict_eq accepted unverifiable
  obtain ⟨_, _, refused⟩ := Withdraws.verdict_eq accepted withdraws
  obtain ⟨first, firstOrder, firstDecision⟩ :=
    consults.exists_perm_decision isMissing unknown
  obtain ⟨second, secondOrder, secondDecision⟩ :=
    consults.exists_perm_decision isWithdrawing refused
  have sameDecision :=
    (same first firstOrder).trans (same second secondOrder).symm
  rw [firstDecision, secondDecision] at sameDecision
  simp [EvaluateAuthorizationInput.refuse] at sameDecision

/-- The decision is the same in every order of the revocations exactly when
the list does not hold both a revocation that cannot be verified and one that
withdraws the grant, or when they are not consulted. -/
theorem decision_perm_iff
    (input : EvaluateAuthorizationInput) (revocations : List Json) :
    (∀ other : List Json, other.Perm revocations →
      decision (input.withRevocations other) =
        decision (input.withRevocations revocations)) ↔
      ¬ ∃ grant key, ConsultsRevocations input grant key ∧
        (∃ value ∈ revocations, Unverifiable input value) ∧
        ∃ value ∈ revocations, Withdraws input grant value := by
  constructor
  · rintro same ⟨grant, key, consults, someMissing, someWithdraw⟩
    exact consults.order_matters someMissing someWithdraw same
  · intro notBoth other order
    by_cases consulted : ∃ grant key, ConsultsRevocations input grant key
    · obtain ⟨grant, key, consults⟩ := consulted
      have unanimous := @unanimous_of_not_both _
        (input.withRevocations []) _ consults.acceptsGrant revocations
        fun both => notBoth ⟨grant, key, consults, both⟩
      rw [consults.decision_eq, consults.decision_eq,
        unanimous.findSome?_perm order]
    · have unconsulted : ∀ grant key,
          ¬ ConsultsRevocations input grant key :=
        fun grant key consults => consulted ⟨grant, key, consults⟩
      rw [decision, decision, evaluates_of_not_consults unconsulted other,
        evaluates_of_not_consults unconsulted revocations]

/-! ## Company -/

/-- A value is no revocation of the grant or of its subject. -/
def Unrelated (input : EvaluateAuthorizationInput) (value : Json) : Prop :=
  ∀ grant revocation,
    AuthorizationGrant.schema.accepts input.grant = some grant →
    Revocation.schema.accepts (some value) = some revocation →
    ¬ (revocation.revokesType = .grant ∧
        revocation.revokes = grant.grantId) ∧
      ¬ (revocation.revokesType = .agent ∧
        revocation.revokes = grant.subject)

theorem Unrelated.not_withdraws
    {input : EvaluateAuthorizationInput} {value : Json}
    (unrelated : Unrelated input value) {grant : AuthorizationGrant}
    (accepted : AuthorizationGrant.schema.accepts input.grant = some grant) :
    ¬ Withdraws input grant value := by
  rintro ⟨revocation, _, _, isRevocation, -, -, -, stands, -⟩
  obtain ⟨notGrant, notAgent⟩ :=
    unrelated grant revocation accepted isRevocation
  rcases stands with ⟨isGrant, sameId, -⟩ | ⟨isAgent, sameSubject, -⟩
  · exact notGrant ⟨isGrant, sameId⟩
  · exact notAgent ⟨isAgent, sameSubject⟩

/-- With a revocation that cannot be verified nothing is permitted. -/
theorem Unverifiable.not_permitted
    {input : EvaluateAuthorizationInput} {value : Json}
    (unverifiable : Unverifiable input value) {revocations : List Json}
    (isMember : value ∈ revocations) :
    decision (input.withRevocations revocations) ≠ .ok .permitted := by
  intro isPermitted
  have permits : Permits (input.withRevocations revocations) := by
    unfold decision at isPermitted
    cases evaluates :
        evaluateAuthorization (input.withRevocations revocations) with
    | error thrown =>
        rw [evaluates] at isPermitted
        cases isPermitted
    | ok evaluation =>
        rw [evaluates] at isPermitted
        exact ⟨evaluation, evaluates, Except.ok.inj isPermitted⟩
  obtain ⟨_, _, upToClock, -⟩ := (permits_iff _).mp permits
  exact upToClock.verifiable value isMember unverifiable

/-- When the revocations are consulted, a revocation of something else leaves
the outcome or, when its key document is missing, ends it as unknown. -/
theorem ConsultsRevocations.outcome_insert
    {input : EvaluateAuthorizationInput} {grant : AuthorizationGrant}
    {key : KeyDocument} (consults : ConsultsRevocations input grant key)
    (before after : List Json) {value : Json}
    (unrelated : Unrelated input value) :
    outcome (input.withRevocations (before ++ value :: after)) =
        outcome (input.withRevocations (before ++ after)) ∨
      Unverifiable input value ∧
        outcome (input.withRevocations (before ++ value :: after)) =
          .ok (.unknown, some .registryUnavailable) := by
  have accepted : AuthorizationGrant.schema.accepts
      (input.withRevocations []).grant = some grant :=
    consults.acceptsGrant
  rw [outcome, outcome, consults.evaluates, consults.evaluates]
  rcases findSome?_insert (verdict (input.withRevocations [])
      grant.granted) before after value with unchanged | ⟨decided, ends⟩
  · rw [unchanged]
    exact Or.inl rfl
  · by_cases unverifiable : Unverifiable input value
    · obtain ⟨_, unknown⟩ := Unverifiable.verdict_eq accepted unverifiable
      rw [decided, unknown]
      exact Or.inr ⟨unverifiable, rfl⟩
    · have silent := (verdict_eq_none_iff accepted).mpr
        ⟨unverifiable, unrelated.not_withdraws consults.acceptsGrant⟩
      simp [silent] at ends

/-- A revocation of something else changes nothing when its key document was
supplied.  Otherwise it changes the decision to unknown at most, and nothing
is permitted with it. -/
theorem outcome_insert_unrelated
    (input : EvaluateAuthorizationInput) (before after : List Json)
    (value : Json) (unrelated : Unrelated input value) :
    (¬ Unverifiable input value →
      outcome (input.withRevocations (before ++ value :: after)) =
        outcome (input.withRevocations (before ++ after))) ∧
    (Unverifiable input value →
      (outcome (input.withRevocations (before ++ value :: after)) =
          outcome (input.withRevocations (before ++ after)) ∨
        outcome (input.withRevocations (before ++ value :: after)) =
          .ok (.unknown, some .registryUnavailable)) ∧
      decision (input.withRevocations (before ++ value :: after)) ≠
        .ok .permitted) := by
  have isMember : value ∈ before ++ value :: after :=
    List.mem_append_right before List.mem_cons_self
  by_cases consulted : ∃ grant key, ConsultsRevocations input grant key
  · obtain ⟨grant, key, consults⟩ := consulted
    rcases consults.outcome_insert before after unrelated with
      unchanged | ⟨unverifiable, unknown⟩
    · exact ⟨fun _ => unchanged, fun unverifiable =>
        ⟨Or.inl unchanged, unverifiable.not_permitted isMember⟩⟩
    · exact ⟨fun verifiable => absurd unverifiable verifiable,
        fun _ => ⟨Or.inr unknown, unverifiable.not_permitted isMember⟩⟩
  · have unconsulted : ∀ grant key,
        ¬ ConsultsRevocations input grant key :=
      fun grant key consults => consulted ⟨grant, key, consults⟩
    have unchanged :
        outcome (input.withRevocations (before ++ value :: after)) =
          outcome (input.withRevocations (before ++ after)) := by
      rw [outcome, outcome,
        evaluates_of_not_consults unconsulted (before ++ value :: after),
        evaluates_of_not_consults unconsulted (before ++ after)]
    exact ⟨fun _ => unchanged, fun unverifiable =>
      ⟨Or.inl unchanged, unverifiable.not_permitted isMember⟩⟩

end Verification

/-! ## Revocations of the sample grant and of another -/

/-- A revocation of the sample grant, signed by its principal. -/
def sampleRevocation : Revocation where
  revocationId := units "revocation:01J8Z3RH2D7CV9XKQ4W6TNM5YE"
  revokes := units "grant:01J8Z3R0F4N6QWE2TYB8KMX5VD"
  revokesType := .grant
  reason := .noLongerAuthorized
  revokedAt := units "2026-03-01T00:00:00Z"
  keyId := units "agenid:key:01J8Z3QG8ZC5H2SVKT4WM9X7RA"
  signature := units <| "ucWhnJt4uuz-Qbyx1SQeebxcVRJPp8_3i76nrkdrD2uAqXaI" ++
    "BgiJX6qYW0jdGVlVDR1_QO32YF0Wt_g1gHuBAw"

/-- A revocation of another grant that names a key nobody supplied. -/
def strangerRevocation : Revocation where
  revocationId := units "revocation:01J8Z3S5B9M2XR7TKQ4VWN6DYC"
  revokes := units "grant:01J8Z3SN6Y3KV8WQ2TXB5MR7DE"
  revokesType := .grant
  reason := .unspecified
  revokedAt := units "2026-03-01T00:00:00Z"
  keyId := units "agenid:key:01J8Z3T2E7NX4VRK9WQB6MD5YC"
  signature := List.replicate 86 0x41

theorem sampleRevocation_accepted :
    letI := samplePlatform
    Revocation.schema.accepts (some sampleRevocation.toJson) =
      some sampleRevocation := by
  rfl

theorem strangerRevocation_accepted :
    letI := samplePlatform
    Revocation.schema.accepts (some strangerRevocation.toJson) =
      some strangerRevocation := by
  rfl

theorem sampleCheck_consults :
    letI := samplePlatform
    ConsultsRevocations (sampleCheck []) sampleGrant samplePrincipalKey :=
  let := samplePlatform
  { acceptsGrant := sampleGrant_accepted
    acceptsKey := samplePrincipalKey_accepted
    bound := sampleGrant_bound
    admitted := ⟨by decide, by decide⟩
    actor := Or.inl ⟨rfl, rfl⟩ }

theorem strangerRevocation_unverifiable :
    letI := samplePlatform
    Unverifiable (sampleCheck []) strangerRevocation.toJson :=
  ⟨strangerRevocation, strangerRevocation_accepted, by decide⟩

theorem sampleRevocation_withdraws :
    letI := samplePlatform
    Withdraws (sampleCheck []) sampleGrant sampleRevocation.toJson := by
  let := samplePlatform
  refine ⟨sampleRevocation, samplePrincipalKey.toJson, samplePrincipalKey,
    sampleRevocation_accepted, rfl, samplePrincipalKey_accepted,
    ⟨rfl, rfl, rfl, by decide⟩, Or.inl ⟨rfl, rfl, rfl⟩,
    effectiveAt_iff.mpr (by decide)⟩

/-- The two revocations give two decisions. -/
theorem decision_depends_on_order :
    letI := samplePlatform
    (dateParse (sampleCheck []).now).isSome ∧
      ¬ ∀ other : List Json,
        other.Perm [strangerRevocation.toJson, sampleRevocation.toJson] →
          decision ((sampleCheck []).withRevocations other) =
            decision ((sampleCheck []).withRevocations
              [strangerRevocation.toJson, sampleRevocation.toJson]) := by
  let := samplePlatform
  exact ⟨by decide, sampleCheck_consults.order_matters
    ⟨_, List.mem_cons_self, strangerRevocation_unverifiable⟩
    ⟨_, List.mem_cons_of_mem _ List.mem_cons_self,
      sampleRevocation_withdraws⟩⟩

theorem strangerRevocation_unrelated :
    letI := samplePlatform
    Unrelated (sampleCheck []) strangerRevocation.toJson := by
  let := samplePlatform
  intro grant revocation isGrant isRevocation
  obtain rfl := Option.some.inj (sampleGrant_accepted.symm.trans isGrant)
  obtain rfl :=
    Option.some.inj (strangerRevocation_accepted.symm.trans isRevocation)
  exact ⟨by decide, by decide⟩

theorem sampleCheck_permitted :
    letI := samplePlatform
    decision ((sampleCheck []).withRevocations []) = .ok .permitted := by
  let := samplePlatform
  rw [sampleCheck_consults.decision_eq]
  exact congrArg Except.ok
    (decideScope_permitted_iff.mpr (List.mem_singleton.mpr rfl))

/-- A revocation of another grant withdraws a permission. -/
theorem outcome_changed_by_stranger :
    letI := samplePlatform
    ¬ ∀ value, Unrelated (sampleCheck []) value →
      outcome ((sampleCheck []).withRevocations [value]) =
        outcome ((sampleCheck []).withRevocations []) := by
  let := samplePlatform
  intro same
  have permitted : decision ((sampleCheck []).withRevocations
      [strangerRevocation.toJson]) = .ok .permitted := by
    rw [decision_eq_map_outcome, same _ strangerRevocation_unrelated,
      ← decision_eq_map_outcome, sampleCheck_permitted]
  exact strangerRevocation_unverifiable.not_permitted
    (List.mem_singleton.mpr rfl) permitted

/-- The revocation of another grant, whose key nobody supplied, makes the
sample decision unknown. -/
theorem outcome_insert_stranger :
    letI := samplePlatform
    Unrelated (sampleCheck []) strangerRevocation.toJson ∧
      decision ((sampleCheck []).withRevocations []) = .ok .permitted ∧
      outcome ((sampleCheck []).withRevocations
          [strangerRevocation.toJson]) =
        .ok (.unknown, some .registryUnavailable) := by
  let := samplePlatform
  have inserted := (outcome_insert_unrelated (sampleCheck []) [] [] _
    strangerRevocation_unrelated).2 strangerRevocation_unverifiable
  refine ⟨strangerRevocation_unrelated, sampleCheck_permitted, ?_⟩
  refine inserted.1.resolve_left ?_
  intro unchanged
  apply inserted.2
  rw [decision_eq_map_outcome, unchanged, List.nil_append,
    ← decision_eq_map_outcome, sampleCheck_permitted]

end AgenId.Core
