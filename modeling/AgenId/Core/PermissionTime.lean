import AgenId.Core.RevocationOrder
import Mathlib.Data.List.Chain

/-!
# A permission over time

A relying party asks again with a later clock, with more revocations and with
more of their key documents.  A permission that has ended, by its expiry or by
a revocation, is never given again; between its first and its end it is given
at every view that has the key documents of its revocations.
-/

namespace AgenId.Core

open AgenId.Ecma
open AgenId.Library
open AgenId.Validation
open AgenId.Validation.Schema

/-- A list along which a property, once it holds, goes on to hold. -/
theorem exists_split_of_lasting
    {View : Type*} {related : View → View → Prop} {lost : View → Prop}
    (lasts : ∀ first next, related first next → lost first → lost next)
    {views : List View} (inOrder : views.Pairwise related) :
    ∃ earlier ended, views = earlier ++ ended ∧
      (∀ view ∈ earlier, ¬ lost view) ∧ ∀ view ∈ ended, lost view := by
  induction inOrder with
  | nil => exact ⟨[], [], rfl, by simp, by simp⟩
  | @cons view rest isFirst _ inductionHypothesis =>
      by_cases isLost : lost view
      · refine ⟨[], view :: rest, rfl, by simp, ?_⟩
        intro other isMember
        rcases List.mem_cons.mp isMember with rfl | isLater
        · exact isLost
        · exact lasts view other (isFirst other isLater) isLost
      · obtain ⟨earlier, ended, rfl, areOpen, areEnded⟩ := inductionHypothesis
        exact ⟨view :: earlier, ended, rfl,
          List.forall_mem_cons.mpr ⟨isLost, areOpen⟩, areEnded⟩

section Time

variable [Platform]

/-! ## Views -/

/-- The same question at a later clock, with all that was collected before. -/
structure Later (first next : EvaluateAuthorizationInput) : Prop where
  grant : next.grant = first.grant
  principalKey : next.principalKey = first.principalKey
  scope : next.scope = first.scope
  manifest : next.manifest = first.manifest
  operatorKey : next.operatorKey = first.operatorKey
  revocations : ∀ value ∈ first.revocationList, value ∈ next.revocationList
  revocationKeys : ∀ keyId keyDoc, first.revocationKey keyId = some keyDoc →
    next.revocationKey keyId = some keyDoc
  clock : ∃ instant later, dateParse first.now = some instant ∧
    dateParse next.now = some later ∧ instant ≤ later

theorem Later.trans
    {first next last : EvaluateAuthorizationInput}
    (later : Later first next) (latest : Later next last) :
    Later first last := by
  obtain ⟨instant, middle, isInstant, isMiddle, less⟩ := later.clock
  obtain ⟨_, final, isSame, isFinal, lessThen⟩ := latest.clock
  obtain rfl := Option.some.inj (isMiddle.symm.trans isSame)
  exact
    { grant := latest.grant.trans later.grant
      principalKey := latest.principalKey.trans later.principalKey
      scope := latest.scope.trans later.scope
      manifest := latest.manifest.trans later.manifest
      operatorKey := latest.operatorKey.trans later.operatorKey
      revocations := fun value isMember =>
        latest.revocations value (later.revocations value isMember)
      revocationKeys := fun keyId keyDoc supplied =>
        latest.revocationKeys keyId keyDoc
          (later.revocationKeys keyId keyDoc supplied)
      clock := ⟨instant, final, isInstant, isFinal, less.trans lessThen⟩ }

instance later_trans : Trans Later Later Later where
  trans := Later.trans

theorem Later.actorBound
    {first next : EvaluateAuthorizationInput} (later : Later first next)
    {subject : JsString} (bound : ActorBound first subject) :
    ActorBound next subject := by
  unfold ActorBound at bound ⊢
  rw [later.manifest, later.operatorKey]
  exact bound

/-- A revocation that withdraws a permission withdraws it later. -/
theorem Later.withdraws
    {first next : EvaluateAuthorizationInput} (later : Later first next)
    {grant : AuthorizationGrant} {value : Json}
    (withdraws : Withdraws first grant value) :
    Withdraws next grant value := by
  obtain ⟨revocation, keyDoc, key, isRevocation, supplied, isKey, bound,
    stands, instant, revoked, isNow, isRevoked, less⟩ := withdraws
  obtain ⟨_, final, isInstant, isFinal, lessThen⟩ := later.clock
  obtain rfl := Option.some.inj (isNow.symm.trans isInstant)
  exact ⟨revocation, keyDoc, key, isRevocation,
    later.revocationKeys _ _ supplied, isKey, bound, stands, final, revoked,
    isFinal, isRevoked, less.trans lessThen⟩

/-! ## The end of a permission -/

/-- The grant has expired, or a collected revocation withdraws it. -/
def Ended (input : EvaluateAuthorizationInput) : Prop :=
  ∃ grant, AuthorizationGrant.schema.accepts input.grant = some grant ∧
    (dateLess (dateParse grant.expiresAt) (dateParse input.now) = true ∨
      ∃ value ∈ input.revocationList, Withdraws input grant value)

theorem Later.ended
    {first next : EvaluateAuthorizationInput} (later : Later first next)
    (ended : Ended first) : Ended next := by
  obtain ⟨grant, isGrant, isOver⟩ := ended
  refine ⟨grant, later.grant ▸ isGrant, ?_⟩
  rcases isOver with isExpired | ⟨value, isMember, withdraws⟩
  · left
    obtain ⟨finish, now, isFinish, isNow, past⟩ :=
      dateLess_eq_true_iff.mp isExpired
    obtain ⟨_, final, isInstant, isFinal, less⟩ := later.clock
    obtain rfl := Option.some.inj (isNow.symm.trans isInstant)
    exact dateLess_eq_true_iff.mpr
      ⟨finish, final, isFinish, isFinal, past.trans_le less⟩
  · right
    exact ⟨value, later.revocations value isMember, later.withdraws withdraws⟩

theorem Ended.not_permits
    {input : EvaluateAuthorizationInput} (ended : Ended input) :
    ¬ Permits input := by
  intro permits
  obtain ⟨grant, key, upToClock, admits, upheld⟩ := (permits_iff input).mp permits
  obtain ⟨same, isGrant, isOver⟩ := ended
  obtain rfl : grant = same :=
    Option.some.inj (upToClock.acceptsGrant.symm.trans isGrant)
  rcases isOver with isExpired | ⟨value, isMember, withdraws⟩
  · exact absurd (isExpired.symm.trans admits.2) (by decide)
  · exact upheld value isMember withdraws

/-! ## The refusal of what was permitted -/

/-- The decision is left open because a revocation names a key whose document
was not supplied. -/
def AwaitsKey (input : EvaluateAuthorizationInput) : Prop :=
  (∃ evaluation, evaluateAuthorization input = .ok evaluation ∧
    evaluation.decision = .unknown ∧
    evaluation.reasonCode = some .registryUnavailable) ∧
  ∃ value ∈ input.revocationList, Unverifiable input value

/-- The action is refused because the grant has expired or is withdrawn. -/
def RefusedAsEnded (input : EvaluateAuthorizationInput) : Prop :=
  ∃ evaluation code, evaluateAuthorization input = .ok evaluation ∧
    evaluation.decision = .notPermitted ∧
    evaluation.reasonCode = some (.failure code) ∧
    code ∈ [AuthorizationFailureCode.expired, .grantRevoked, .agentRevoked]

theorem verifyParsedGrant_expired
    {grant : AuthorizationGrant} {key : KeyDocument} {now : JsString}
    (bound : GrantBound grant key)
    (started : dateLess (dateParse now) (dateParse grant.notBefore) = false)
    (isOver :
      dateLess (dateParse grant.expiresAt) (dateParse now) = true) :
    verifyParsedGrant grant key now =
      .ok (.fail .expired (units "now > expires_at")) := by
  have verifies : signatureVerifies key grant.toJson grant.signature =
      .ok true := by
    rw [signatureVerifies_eq (inDomain_AuthorizationGrant grant)]
    exact congrArg Except.ok bound.signed
  unfold verifyParsedGrant
  rw [if_neg (not_not.mpr bound.keyId), if_neg (not_not.mpr bound.role),
    if_neg (not_not.mpr bound.controller), bound.active]
  simp only [Bool.not_true, Bool.false_eq_true, if_false, verifies,
    except_ok_bind, started, isOver, if_true]
  rfl

/-- The codes with which a revocation refuses an action. -/
theorem standing_code
    {input : EvaluateAuthorizationInput} {verified : Granted}
    {revocation : Revocation} {key : KeyDocument}
    {evaluation : AuthorizationEvaluation}
    (ends : standing input verified revocation key = some evaluation) :
    ∃ code ∈ [AuthorizationFailureCode.expired, .grantRevoked,
        .agentRevoked],
      evaluation.decision = .notPermitted ∧
        evaluation.reasonCode = some (.failure code) := by
  unfold standing at ends
  dsimp only at ends
  repeat' split at ends
  all_goals cases ends
  all_goals exact ⟨_, by decide, rfl, rfl⟩

theorem verdict_code
    {input : EvaluateAuthorizationInput} {verified : Granted} {value : Json}
    {evaluation : AuthorizationEvaluation}
    (ends : verdict input verified value = some evaluation) :
    (evaluation.decision = .unknown ∧
        evaluation.reasonCode = some .registryUnavailable ∧
        Unverifiable input value) ∨
      ∃ code ∈ [AuthorizationFailureCode.expired, .grantRevoked,
          .agentRevoked],
        evaluation.decision = .notPermitted ∧
          evaluation.reasonCode = some (.failure code) := by
  unfold verdict at ends
  cases accepted : Revocation.schema.accepts (some value) with
  | none =>
      rw [accepted] at ends
      cases ends
  | some revocation =>
      rw [accepted] at ends
      dsimp only at ends
      cases supplied : input.revocationKey revocation.keyId with
      | none =>
          rw [supplied] at ends
          cases ends
          exact Or.inl ⟨rfl, rfl, revocation, accepted, supplied⟩
      | some keyDoc =>
          rw [supplied] at ends
          dsimp only at ends
          split at ends
          · cases ends
          · split at ends
            · exact Or.inr (standing_code ends)
            · cases ends

/-- What was permitted is permitted later, or it awaits the key of a
revocation, or it has ended. -/
theorem permitted_later
    {first next : EvaluateAuthorizationInput} (later : Later first next)
    (permitted : Permits first) :
    Permits next ∨ AwaitsKey next ∨ RefusedAsEnded next ∧ Ended next := by
  obtain ⟨grant, key, upToClock, admits, -⟩ :=
    (permits_iff first).mp permitted
  have isGrant : AuthorizationGrant.schema.accepts next.grant = some grant :=
    later.grant ▸ upToClock.acceptsGrant
  have isKey : KeyDocument.schema.accepts next.principalKey = some key :=
    later.principalKey ▸ upToClock.acceptsKey
  have started : dateLess (dateParse next.now) (dateParse grant.notBefore) =
      false := by
    obtain ⟨instant, now, isInstant, isNow, less⟩ := later.clock
    have wasStarted := admits.1
    rw [isInstant] at wasStarted
    rw [isNow]
    cases isStart : dateParse grant.notBefore with
    | none => exact dateLess_none_right _
    | some start =>
        rw [isStart, dateLess_some, decide_eq_false_iff_not] at wasStarted
        rw [dateLess_some, decide_eq_false_iff_not]
        omega
  cases isOver : dateLess (dateParse grant.expiresAt) (dateParse next.now) with
  | true =>
      have fails : verifyAuthorizationGrant next.grant next.principalKey
          next.now = .ok (.fail .expired (units "now > expires_at")) := by
        unfold verifyAuthorizationGrant
        rw [safeParse_of_accepts isGrant, safeParse_of_accepts isKey]
        exact verifyParsedGrant_expired upToClock.bound started isOver
      right
      right
      exact ⟨⟨_, .expired, evaluateAuthorization_of_failed fails, rfl, rfl,
        by decide⟩, grant, isGrant, Or.inl isOver⟩
  | false =>
      have verifies := verifyAuthorizationGrant_eq_ok_iff.mpr
        ⟨grant, key, isGrant, isKey, upToClock.bound, ⟨started, isOver⟩, rfl⟩
      have concludes := evaluateAuthorization_of_verified verifies
      have isActor : bindActor next grant.granted = none :=
        bindActor_eq_none_iff.mpr (later.actorBound upToClock.actor)
      unfold conclusion at concludes
      rw [isActor] at concludes
      dsimp only at concludes
      cases found :
          next.revocationList.findSome? (verdict next grant.granted) with
      | none =>
          rw [found, Option.getD_none] at concludes
          left
          refine ⟨_, concludes, decideScope_permitted_iff.mpr ?_⟩
          exact later.scope ▸ upToClock.scope
      | some evaluation =>
          rw [found, Option.getD_some] at concludes
          obtain ⟨value, isMember, ends⟩ :=
            List.exists_of_findSome?_eq_some found
          right
          rcases verdict_code ends with
            ⟨isUnknown, isReason, unverifiable⟩ |
            ⟨code, isCode, isRefused, isReason⟩
          · left
            exact ⟨⟨evaluation, concludes, isUnknown, isReason⟩, value,
              isMember, unverifiable⟩
          · right
            refine ⟨⟨evaluation, code, concludes, isRefused, isReason,
              isCode⟩, grant, isGrant, Or.inr ⟨value, isMember, ?_⟩⟩
            rcases verdict_cases isGrant value with
              ⟨-, message, refuses⟩ | ⟨withdraws, -⟩ | ⟨-, -, silent⟩
            · obtain rfl := Option.some.inj (refuses.symm.trans ends)
              cases isRefused
            · exact withdraws
            · rw [silent] at ends
              cases ends

end Time

/-! ## The sample grant and its revocation -/

/-- The sample check at a clock, with the revocations collected by then. -/
def checkAt (now : JsString) (revocations : List Json) :
    EvaluateAuthorizationInput :=
  { sampleCheck revocations with now := now }

theorem checkAt_later
    {first next : JsString} {earlier revocations : List Json}
    (grows : ∀ value ∈ earlier, value ∈ revocations)
    (clock : letI := samplePlatform
      ∃ instant later, dateParse first = some instant ∧
        dateParse next = some later ∧ instant ≤ later) :
    letI := samplePlatform
    Later (checkAt first earlier) (checkAt next revocations) := by
  let := samplePlatform
  exact
    { grant := rfl
      principalKey := rfl
      scope := rfl
      manifest := rfl
      operatorKey := rfl
      revocations := grows
      revocationKeys := fun _ _ supplied => supplied
      clock := clock }

end AgenId.Core
