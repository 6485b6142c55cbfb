import AgenId.Core.Authorized
import AgenId.Library.FirstVerdict

/-!
# What the authorization decision is made of

After the grant verifies and the actor is bound, the loop over the
revocations returns its first verdict.  A revocation whose key document is
missing gives one, and so does an effective revocation by a key with standing
over the grant or over the agent; every other value gives none.
-/

namespace AgenId.Core

open AgenId.Ecma
open AgenId.Validation
open AgenId.Validation.Schema

variable [Platform]

/-! ## The actor -/

/-- The presented agent, if one is presented, is the subject of the grant and
the operator key is its own. -/
def ActorBound (input : EvaluateAuthorizationInput) (subject : JsString) :
    Prop :=
  (input.manifest = none ∧ input.operatorKey = none) ∨
    ∃ manifest key,
      Manifest.schema.accepts input.manifest = some manifest ∧
      KeyDocument.schema.accepts input.operatorKey = some key ∧
      manifest.agentId = subject ∧ key.role = .operator ∧
      key.controller = manifest.agentId

theorem bindActor_eq_none_iff
    {input : EvaluateAuthorizationInput} {verified : Granted} :
    bindActor input verified = none ↔ ActorBound input verified.subject := by
  unfold bindActor ActorBound safeParse
  by_cases unbound : input.manifest = none ∧ input.operatorKey = none
  · simp [unbound]
  · rw [if_neg unbound]
    cases Manifest.schema.accepts input.manifest with
    | none => simp [unbound]
    | some manifest =>
        cases KeyDocument.schema.accepts input.operatorKey with
        | none => simp [unbound]
        | some key =>
            simp only [unbound, Option.some.injEq, exists_eq_left',
              exists_and_left, false_or]
            by_cases subject : manifest.agentId = verified.subject
            · by_cases bound : key.role = .operator ∧
                  key.controller = manifest.agentId
              · simp [subject, bound]
              · rw [if_neg (by simp [subject]),
                  if_pos (not_and_or.mp bound)]
                simpa [subject] using bound
            · simp [subject]

/-! ## One revocation -/

/-- A key has standing over a grant or over its subject, whichever the
revocation names. -/
def HasStanding (grant : AuthorizationGrant) (revocation : Revocation)
    (key : KeyDocument) : Prop :=
  (revocation.revokesType = .grant ∧ revocation.revokes = grant.grantId ∧
      key.controller = grant.principal) ∨
    (revocation.revokesType = .agent ∧ revocation.revokes = grant.subject ∧
      key.controller = grant.subject)

/-- A revocation is effective at a clock: it was made at that instant or
before. -/
def EffectiveAt (now : JsString) (revocation : Revocation) : Prop :=
  ∃ instant revoked, dateParse now = some instant ∧
    dateParse revocation.revokedAt = some revoked ∧ revoked ≤ instant

theorem effectiveAt_iff {now : JsString} {revocation : Revocation} :
    EffectiveAt now revocation ↔
      dateAtLeast (dateParse now) (dateParse revocation.revokedAt) = true := by
  unfold EffectiveAt
  cases dateParse now with
  | none => simp
  | some instant =>
      cases dateParse revocation.revokedAt with
      | none => simp
      | some revoked => simp

/-- A value is a revocation whose key document was not supplied. -/
def Unverifiable (input : EvaluateAuthorizationInput) (value : Json) : Prop :=
  ∃ revocation, Revocation.schema.accepts (some value) = some revocation ∧
    input.revocationKey revocation.keyId = none

/-- A value is a verified and authoritative revocation that is effective. -/
def Withdraws (input : EvaluateAuthorizationInput)
    (grant : AuthorizationGrant) (value : Json) : Prop :=
  ∃ revocation keyDoc key,
    Revocation.schema.accepts (some value) = some revocation ∧
    input.revocationKey revocation.keyId = some keyDoc ∧
    KeyDocument.schema.accepts (some keyDoc) = some key ∧
    RevocationBound revocation key ∧
    HasStanding grant revocation key ∧ EffectiveAt input.now revocation

/-- The refusal that one value ends the loop in, if it does. -/
def verdict (input : EvaluateAuthorizationInput) (verified : Granted)
    (value : Json) : Option AuthorizationEvaluation :=
  match Revocation.schema.accepts (some value) with
  | none => none
  | some revocation =>
    match input.revocationKey revocation.keyId with
    | none =>
      some (input.refuse .unknown .registryUnavailable
        (units "a revocation names key " ++ revocation.keyId ++
          units ", whose key document was not supplied; cannot " ++
          units "determine revocation status"))
    | some keyDoc =>
      match KeyDocument.schema.accepts (some keyDoc) with
      | none => none
      | some key =>
        if RevocationBound revocation key then
          standing input verified revocation key
        else
          none

theorem verifyRevocation_eq
    {revocation : Revocation} {value : Json}
    (accepted : Revocation.schema.accepts (some value) = some revocation)
    (keyDoc : Json) :
    verifyRevocation (some revocation.toJson) (some keyDoc) =
      match KeyDocument.schema.safeParse (some keyDoc) with
      | .error issues =>
        .ok (.fail .schemaInvalid (schemaMessage "KeyDocument" issues))
      | .ok key => verifyParsedRevocation revocation key := by
  have parsed :=
    safeParse_of_accepts (rereads_Revocation value revocation accepted)
  cases keyParsed : KeyDocument.schema.safeParse (some keyDoc) with
  | error issues => simp only [verifyRevocation, parsed, keyParsed]
  | ok key => simp only [verifyRevocation, parsed, keyParsed]

/-- One turn of the loop never throws and has the verdict of its value. -/
theorem considerRevocation_eq
    (input : EvaluateAuthorizationInput) (verified : Granted)
    (value : Json) :
    considerRevocation input verified value =
      .ok (verdict input verified value) := by
  unfold considerRevocation verdict
  rw [safeParse]
  cases accepted : Revocation.schema.accepts (some value) with
  | none => rfl
  | some revocation =>
      dsimp only
      cases input.revocationKey revocation.keyId with
      | none => rfl
      | some keyDoc =>
          dsimp only
          rw [verifyRevocation_eq accepted, safeParse]
          cases KeyDocument.schema.accepts (some keyDoc) with
          | none => rfl
          | some key =>
              obtain ⟨result, returned⟩ :=
                verifyParsedRevocation_returns revocation key
              dsimp only
              rw [returned, except_ok_bind]
              cases result with
              | ok revokes revokesType revokedAt =>
                  rw [if_pos (verifyParsedRevocation_eq_ok_iff.mp returned).1]
                  rfl
              | fail code message =>
                  rw [if_neg]
                  · rfl
                  · intro bound
                    have verifies :=
                      verifyParsedRevocation_eq_ok_iff.mpr
                        ⟨bound, rfl, rfl, rfl⟩
                    rw [returned] at verifies
                    simp at verifies

/-- The loop returns the first verdict. -/
theorem considerRevocations_eq
    (input : EvaluateAuthorizationInput) (verified : Granted)
    (revocations : List Json) :
    considerRevocations input verified revocations =
      .ok (revocations.findSome? (verdict input verified)) := by
  induction revocations with
  | nil => rfl
  | cons value rest inductionHypothesis =>
      rw [considerRevocations, considerRevocation_eq, except_ok_bind,
        List.findSome?_cons]
      cases verdict input verified value with
      | none => exact inductionHypothesis
      | some evaluation => rfl

/-- A revocation by a key without standing ends nothing, and neither does one
that is not yet effective. -/
theorem standing_cases
    {input : EvaluateAuthorizationInput} {grant : AuthorizationGrant}
    (accepted : AuthorizationGrant.schema.accepts input.grant = some grant)
    (revocation : Revocation) (key : KeyDocument) :
    (HasStanding grant revocation key ∧ EffectiveAt input.now revocation ∧
        ∃ code what, standing input grant.granted revocation key =
          some (input.refuse .notPermitted (.failure code)
            (revokedMessage what revocation))) ∨
      (¬ (HasStanding grant revocation key ∧
          EffectiveAt input.now revocation) ∧
        standing input grant.granted revocation key = none) := by
  unfold standing HasStanding
  rw [safeParse_of_accepts accepted, effectiveAt_iff]
  dsimp only
  by_cases onGrant : revocation.revokesType = .grant ∧
      some grant.grantId = some revocation.revokes
  · rw [if_pos onGrant]
    by_cases controls : key.controller = grant.granted.principal
    · by_cases effective :
          dateAtLeast (dateParse input.now) (dateParse revocation.revokedAt)
      · refine Or.inl ⟨Or.inl ⟨onGrant.1, ?_, controls⟩, effective,
          .grantRevoked, "grant", ?_⟩
        · exact (Option.some.inj onGrant.2).symm
        · simp [controls, effective]
      · exact Or.inr ⟨fun both => effective both.2, by
          simp [controls, effective]⟩
    · refine Or.inr ⟨?_, if_pos controls⟩
      rintro ⟨⟨-, -, isController⟩ | ⟨onAgent, -⟩, -⟩
      · exact controls isController
      · simp [onGrant.1] at onAgent
  · rw [if_neg onGrant]
    by_cases onAgent : revocation.revokesType = .agent ∧
        revocation.revokes = grant.granted.subject
    · rw [if_pos onAgent]
      by_cases controls : key.controller = grant.granted.subject
      · by_cases effective :
            dateAtLeast (dateParse input.now) (dateParse revocation.revokedAt)
        · exact Or.inl ⟨Or.inr ⟨onAgent.1, onAgent.2, controls⟩, effective,
            .agentRevoked, "agent", by simp [controls, effective]⟩
        · exact Or.inr ⟨fun both => effective both.2, by
            simp [controls, effective]⟩
      · refine Or.inr ⟨?_, if_pos controls⟩
        rintro ⟨⟨isGrant, -⟩ | ⟨-, -, isController⟩, -⟩
        · simp [onAgent.1] at isGrant
        · exact controls isController
    · refine Or.inr ⟨?_, if_neg onAgent⟩
      rintro ⟨⟨isGrant, sameId, -⟩ | ⟨isAgent, sameSubject, -⟩, -⟩
      · exact onGrant ⟨isGrant, congrArg some sameId.symm⟩
      · exact onAgent ⟨isAgent, sameSubject⟩

/-- The three kinds of value that the loop meets. -/
theorem verdict_cases
    {input : EvaluateAuthorizationInput} {grant : AuthorizationGrant}
    (accepted : AuthorizationGrant.schema.accepts input.grant = some grant)
    (value : Json) :
    (Unverifiable input value ∧ ∃ message,
        verdict input grant.granted value =
          some (input.refuse .unknown .registryUnavailable message)) ∨
      (Withdraws input grant value ∧ ∃ code message,
        verdict input grant.granted value =
          some (input.refuse .notPermitted (.failure code) message)) ∨
      (¬ Unverifiable input value ∧ ¬ Withdraws input grant value ∧
        verdict input grant.granted value = none) := by
  unfold verdict Unverifiable Withdraws
  cases Revocation.schema.accepts (some value) with
  | none => simp
  | some revocation =>
      simp only [Option.some.injEq, exists_and_left, exists_eq_left']
      cases input.revocationKey revocation.keyId with
      | none => exact Or.inl ⟨rfl, _, rfl⟩
      | some keyDoc =>
          simp only [reduceCtorEq, Option.some.injEq, exists_eq_left',
            false_and, not_false_eq_true, true_and, false_or]
          cases KeyDocument.schema.accepts (some keyDoc) with
          | none => simp
          | some key =>
              simp only [Option.some.injEq, exists_eq_left']
              by_cases bound : RevocationBound revocation key
              · rw [if_pos bound]
                rcases standing_cases accepted revocation key with
                  ⟨stands, effective, code, what, ends⟩ | ⟨silent, ends⟩
                · exact Or.inl ⟨⟨bound, stands, effective⟩, code, _, ends⟩
                · exact Or.inr ⟨fun withdraws => silent withdraws.2, ends⟩
              · rw [if_neg bound]
                exact Or.inr ⟨fun withdraws => bound withdraws.1, rfl⟩

/-! ## The decision -/

/-- The revocations that were collected. -/
def EvaluateAuthorizationInput.revocationList
    (input : EvaluateAuthorizationInput) : List Json :=
  (input.revocations.bind Json.items?).getD []

/-- What the decision is once the grant is verified. -/
def conclusion (input : EvaluateAuthorizationInput) (verified : Granted) :
    AuthorizationEvaluation :=
  match bindActor input verified with
  | some evaluation => evaluation
  | none =>
    (input.revocationList.findSome? (verdict input verified)).getD
      (decideScope input verified)

theorem evaluateAuthorization_of_verified
    {input : EvaluateAuthorizationInput} {verified : Granted}
    (verifies : verifyAuthorizationGrant input.grant input.principalKey
      input.now = .ok (.ok verified)) :
    evaluateAuthorization input = .ok (conclusion input verified) := by
  unfold evaluateAuthorization conclusion
  rw [verifies, except_ok_bind]
  dsimp only
  cases bindActor input verified with
  | some evaluation => rfl
  | none =>
      dsimp only [EvaluateAuthorizationInput.revocationList]
      cases input.revocations.bind Json.items? with
      | none => rfl
      | some revocations =>
          dsimp only [Option.getD_some]
          rw [considerRevocations_eq, except_ok_bind]
          cases revocations.findSome? (verdict input verified) with
          | none => rfl
          | some evaluation => rfl

theorem evaluateAuthorization_of_failed
    {input : EvaluateAuthorizationInput} {code : AuthorizationFailureCode}
    {message : JsString}
    (fails : verifyAuthorizationGrant input.grant input.principalKey
      input.now = .ok (.fail code message)) :
    evaluateAuthorization input =
      .ok (input.refuse .notPermitted (.failure code) message) := by
  unfold evaluateAuthorization
  rw [fails, except_ok_bind]
  rfl

/-- A decision is always made: either the grant fails to verify, or it
verifies and the rest of the procedure concludes. -/
theorem evaluateAuthorization_cases (input : EvaluateAuthorizationInput) :
    (∃ grant key,
        AuthorizationGrant.schema.accepts input.grant = some grant ∧
        KeyDocument.schema.accepts input.principalKey = some key ∧
        GrantBound grant key ∧
        windowAdmits input.now grant.notBefore grant.expiresAt ∧
        evaluateAuthorization input =
          .ok (conclusion input grant.granted)) ∨
      ((∀ verified, verifyAuthorizationGrant input.grant input.principalKey
          input.now ≠ .ok (.ok verified)) ∧
        ∃ code message, evaluateAuthorization input =
          .ok (input.refuse .notPermitted (.failure code) message)) := by
  obtain ⟨result, returned⟩ := verifyAuthorizationGrant_returns input.grant
    input.principalKey input.now
  cases result with
  | ok verified =>
      obtain ⟨grant, key, isGrant, isKey, bound, admitted, rfl⟩ :=
        verifyAuthorizationGrant_eq_ok_iff.mp returned
      exact Or.inl ⟨grant, key, isGrant, isKey, bound, admitted,
        evaluateAuthorization_of_verified returned⟩
  | fail code message =>
      refine Or.inr ⟨fun verified verifies => ?_, code, message,
        evaluateAuthorization_of_failed returned⟩
      rw [returned] at verifies
      simp at verifies

omit [Platform] in
theorem Constraint.type_understood (constraint : Constraint) :
    constraint.type ∈ UNDERSTOOD_CONSTRAINTS := by
  cases constraint <;> simp [Constraint.type, UNDERSTOOD_CONSTRAINTS]

omit [Platform] in
/-- An accepted grant carries no constraint that is not understood. -/
theorem decideScope_eq
    (input : EvaluateAuthorizationInput) (verified : Granted) :
    decideScope input verified =
      if input.scope ∉ verified.scopes then
        { input.refuse .notPermitted (.failure .scopeNotGranted)
            (units "grant does not include scope " ++ quote input.scope) with
          granted := some verified }
      else
        { decision := .permitted
          reasonCode := none
          message := units "scope " ++ input.scope ++
            units " is granted to " ++ verified.subject ++ units " by " ++
            verified.principal
          revocationsChecked := input.revocationsChecked
          granted := some verified
          obligations := verified.constraints } := by
  unfold decideScope
  have allUnderstood : (verified.constraints.find? fun constraint =>
      decide (constraint.type ∉ UNDERSTOOD_CONSTRAINTS)) = none :=
    List.find?_eq_none.mpr fun constraint _ => by
      simpa using constraint.type_understood
  rw [allUnderstood]

omit [Platform] in
theorem decideScope_permitted_iff
    {input : EvaluateAuthorizationInput} {verified : Granted} :
    (decideScope input verified).decision = .permitted ↔
      input.scope ∈ verified.scopes := by
  rw [decideScope_eq]
  by_cases granted : input.scope ∈ verified.scopes <;>
    simp [granted, EvaluateAuthorizationInput.refuse]

theorem bindActor_refuses
    {input : EvaluateAuthorizationInput} {verified : Granted}
    {evaluation : AuthorizationEvaluation}
    (refuses : bindActor input verified = some evaluation) :
    evaluation.decision ≠ .permitted := by
  unfold bindActor at refuses
  split at refuses
  · simp at refuses
  · split at refuses
    · split at refuses
      · cases refuses
        simp [EvaluateAuthorizationInput.refuse]
      · split at refuses
        · cases refuses
          simp [EvaluateAuthorizationInput.refuse]
        · simp at refuses
    · cases refuses
      simp [EvaluateAuthorizationInput.refuse]

theorem verdict_refuses
    {input : EvaluateAuthorizationInput} {grant : AuthorizationGrant}
    (accepted : AuthorizationGrant.schema.accepts input.grant = some grant)
    {value : Json} {evaluation : AuthorizationEvaluation}
    (ends : verdict input grant.granted value = some evaluation) :
    evaluation.decision ≠ .permitted := by
  rcases verdict_cases accepted value with
    ⟨-, _, refuses⟩ | ⟨-, _, _, refuses⟩ | ⟨-, -, silent⟩
  · cases refuses.symm.trans ends
    simp [EvaluateAuthorizationInput.refuse]
  · cases refuses.symm.trans ends
    simp [EvaluateAuthorizationInput.refuse]
  · simp [silent] at ends

theorem verdict_eq_none_iff
    {input : EvaluateAuthorizationInput} {grant : AuthorizationGrant}
    (accepted : AuthorizationGrant.schema.accepts input.grant = some grant)
    {value : Json} :
    verdict input grant.granted value = none ↔
      ¬ Unverifiable input value ∧ ¬ Withdraws input grant value := by
  rcases verdict_cases accepted value with
    ⟨unverifiable, _, refuses⟩ | ⟨withdraws, _, _, refuses⟩ |
      ⟨verifiable, upholds, silent⟩
  · simp [refuses, unverifiable]
  · simp [refuses, withdraws]
  · simp [silent, verifiable, upholds]

/-- What a permission says after the grant is verified. -/
theorem conclusion_permitted_iff
    {input : EvaluateAuthorizationInput} {grant : AuthorizationGrant}
    (accepted : AuthorizationGrant.schema.accepts input.grant = some grant) :
    (conclusion input grant.granted).decision = .permitted ↔
      ActorBound input grant.subject ∧
        (∀ value ∈ input.revocationList,
          ¬ Unverifiable input value ∧ ¬ Withdraws input grant value) ∧
        input.scope ∈ grant.scopes := by
  unfold conclusion
  rw [← grant.granted_subject, ← bindActor_eq_none_iff]
  cases bound : bindActor input grant.granted with
  | some evaluation => simp [bindActor_refuses bound]
  | none =>
      simp only [true_and, ← verdict_eq_none_iff accepted,
        ← List.findSome?_eq_none_iff]
      cases found :
          input.revocationList.findSome? (verdict input grant.granted) with
      | none =>
          simp [decideScope_permitted_iff, AuthorizationGrant.granted]
      | some evaluation =>
          obtain ⟨value, -, ends⟩ := List.exists_of_findSome?_eq_some found
          simp [verdict_refuses accepted ends]

/-- What must hold besides the clock for the decision to be permitted. -/
structure PermitsUpToClock (input : EvaluateAuthorizationInput)
    (grant : AuthorizationGrant) (key : KeyDocument) : Prop where
  acceptsGrant : AuthorizationGrant.schema.accepts input.grant = some grant
  acceptsKey : KeyDocument.schema.accepts input.principalKey = some key
  bound : GrantBound grant key
  actor : ActorBound input grant.subject
  verifiable : ∀ value ∈ input.revocationList, ¬ Unverifiable input value
  scope : input.scope ∈ grant.scopes

/-- The outcome of an evaluation is a permission. -/
def Permits (input : EvaluateAuthorizationInput) : Prop :=
  ∃ evaluation, evaluateAuthorization input = .ok evaluation ∧
    evaluation.decision = .permitted

theorem permits_iff (input : EvaluateAuthorizationInput) :
    Permits input ↔
      ∃ grant key, PermitsUpToClock input grant key ∧
        windowAdmits input.now grant.notBefore grant.expiresAt ∧
        ∀ value ∈ input.revocationList, ¬ Withdraws input grant value := by
  unfold Permits
  constructor
  · rintro ⟨evaluation, evaluates, permitted⟩
    rcases evaluateAuthorization_cases input with
      ⟨grant, key, isGrant, isKey, bound, admitted, concludes⟩ |
        ⟨-, code, message, refuses⟩
    · cases concludes.symm.trans evaluates
      obtain ⟨actor, silent, scope⟩ :=
        (conclusion_permitted_iff isGrant).mp permitted
      exact ⟨grant, key, ⟨isGrant, isKey, bound, actor,
        fun value isMember => (silent value isMember).1, scope⟩, admitted,
        fun value isMember => (silent value isMember).2⟩
    · cases refuses.symm.trans evaluates
      simp [EvaluateAuthorizationInput.refuse] at permitted
  · rintro ⟨grant, key, permits, admitted, upheld⟩
    have verifies := verifyAuthorizationGrant_eq_ok_iff.mpr
      ⟨grant, key, permits.acceptsGrant, permits.acceptsKey, permits.bound,
        admitted, rfl⟩
    refine ⟨conclusion input grant.granted,
      evaluateAuthorization_of_verified verifies, ?_⟩
    exact (conclusion_permitted_iff permits.acceptsGrant).mpr
      ⟨permits.actor, fun value isMember =>
        ⟨permits.verifiable value isMember, upheld value isMember⟩,
        permits.scope⟩

end AgenId.Core
