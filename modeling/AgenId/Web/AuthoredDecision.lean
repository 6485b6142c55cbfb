import AgenId.Core.Permission
import AgenId.Web.SigningLog

/-!
# Authenticity of decisions

A relying party that is sent a grant and revocations permits an action under a
principal key that is held only by a grant that the principal has made, and
refuses it as revoked only by a revocation that a holder with standing has
made.
-/

namespace AgenId.Web

open AgenId.Core
open AgenId.Ecma
open AgenId.Registry
open AgenId.Validation
open AgenId.Validation.Schema

/-- The codes of a refusal by a revocation. -/
def IsRevoked (code : AuthorizationFailureCode) : Prop :=
  code = .grantRevoked ∨ code = .agentRevoked

section Codes

variable [Platform]

theorem verifyParsedGrant_code
    {grant : AuthorizationGrant} {key : KeyDocument} {now : JsString}
    {code : AuthorizationFailureCode} {message : JsString}
    (fails : verifyParsedGrant grant key now = .ok (.fail code message)) :
    ¬ IsRevoked code := by
  unfold verifyParsedGrant at fails
  rw [signatureVerifies_eq (inDomain_AuthorizationGrant grant)] at fails
  simp only [except_ok_bind] at fails
  repeat' split at fails
  all_goals cases fails <;> simp [IsRevoked]

theorem verifyAuthorizationGrant_code
    {grantInput keyInput : Option Json} {now : JsString}
    {code : AuthorizationFailureCode} {message : JsString}
    (fails : verifyAuthorizationGrant grantInput keyInput now =
      .ok (.fail code message)) :
    ¬ IsRevoked code := by
  unfold verifyAuthorizationGrant at fails
  split at fails
  · cases fails
    simp [IsRevoked]
  · split at fails
    · cases fails
      simp [IsRevoked]
    · exact verifyParsedGrant_code fails

theorem bindActor_code
    {input : EvaluateAuthorizationInput} {verified : Granted}
    {evaluation : AuthorizationEvaluation}
    (refuses : bindActor input verified = some evaluation)
    {code : AuthorizationFailureCode}
    (isCode : evaluation.reasonCode = some (.failure code)) :
    ¬ IsRevoked code := by
  unfold bindActor at refuses
  repeat' split at refuses
  all_goals
    cases refuses
  all_goals
    cases isCode
    simp [IsRevoked]

omit [Platform] in
theorem decideScope_code
    {input : EvaluateAuthorizationInput} {verified : Granted}
    {code : AuthorizationFailureCode}
    (isCode : (decideScope input verified).reasonCode =
      some (.failure code)) :
    ¬ IsRevoked code := by
  rw [decideScope_eq] at isCode
  split at isCode
  · cases isCode
    simp [IsRevoked]
  · cases isCode

/-- A refusal as revoked is by a value that withdraws the permission. -/
theorem withdraws_of_code
    {input : EvaluateAuthorizationInput}
    {evaluation : AuthorizationEvaluation}
    (evaluates : evaluateAuthorization input = .ok evaluation)
    {code : AuthorizationFailureCode}
    (isCode : evaluation.reasonCode = some (.failure code))
    (isRevoked : IsRevoked code) :
    ∃ grant, AuthorizationGrant.schema.accepts input.grant = some grant ∧
      ∃ value ∈ input.revocationList, Withdraws input grant value := by
  obtain ⟨result, returned⟩ := verifyAuthorizationGrant_returns input.grant
    input.principalKey input.now
  cases result with
  | fail failed message =>
      rw [evaluateAuthorization_of_failed returned] at evaluates
      cases evaluates
      obtain rfl : failed = code := by
        simpa [EvaluateAuthorizationInput.refuse] using isCode
      exact absurd isRevoked (verifyAuthorizationGrant_code returned)
  | ok verified =>
      obtain ⟨grant, key, isGrant, -, -, -, rfl⟩ :=
        verifyAuthorizationGrant_eq_ok_iff.mp returned
      rw [evaluateAuthorization_of_verified returned] at evaluates
      obtain rfl := Except.ok.inj evaluates
      refine ⟨grant, isGrant, ?_⟩
      unfold conclusion at isCode
      cases bound : bindActor input grant.granted with
      | some refused =>
          rw [bound] at isCode
          exact absurd isRevoked (bindActor_code bound isCode)
      | none =>
          rw [bound] at isCode
          dsimp only at isCode
          cases found :
              input.revocationList.findSome? (verdict input grant.granted) with
          | none =>
              rw [found, Option.getD_none] at isCode
              exact absurd isRevoked (decideScope_code isCode)
          | some ended =>
              rw [found, Option.getD_some] at isCode
              obtain ⟨value, isMember, ends⟩ :=
                List.exists_of_findSome?_eq_some found
              refine ⟨value, isMember, ?_⟩
              rcases verdict_cases isGrant value with
                ⟨-, message, refuses⟩ | ⟨withdraws, -⟩ | ⟨-, -, silent⟩
              · obtain rfl := Option.some.inj (refuses.symm.trans ends)
                cases isCode
              · exact withdraws
              · rw [silent] at ends
                cases ends

end Codes

section Decisions

variable [SigningPlatform] {held : List UInt8 → Prop} {acts : List Act}

theorem Sendable.items
    {body : Option Json} (sendable : Sendable held acts body)
    {items : List Json} (isItems : body.bind Json.items? = some items)
    {item : Json} (isItem : item ∈ items) :
    WellFormed item ∧ Unforged held acts item := by
  obtain ⟨value, isBody, areItems⟩ := Option.bind_eq_some_iff.mp isItems
  obtain ⟨wellFormed, unforged⟩ := sendable value isBody
  cases value with
  | array found =>
      obtain rfl := Option.some.inj areItems
      refine ⟨wellFormed_array.mp wellFormed item isItem, ?_⟩
      intro text within
      exact unforged text (.item isItem within)
  | null | boolean | number | string | object => cases areItems

/-- Of an evaluation of whatever was sent: a permission is by a grant of the
scope that verifies under a key of its principal, who has made the grant when
the key is held; a refusal as revoked is by a revocation that is effective and
verifies under a key with standing over the grant or the agent, whose holder
has made the revocation when the key is held. -/
theorem decisions_authored
    (made : ∀ act ∈ acts, act.Made) {input : EvaluateAuthorizationInput}
    (grantSent : Sendable held acts input.grant)
    (revocationsSent : Sendable held acts input.revocations)
    {evaluation : AuthorizationEvaluation}
    (evaluates : evaluateAuthorization input = .ok evaluation) :
    (evaluation.decision = .permitted → ∃ grant key,
      AuthorizationGrant.schema.accepts input.grant = some grant ∧
        KeyDocument.schema.accepts input.principalKey = some key ∧
        GrantBound grant key ∧
        windowAdmits input.now grant.notBefore grant.expiresAt ∧
        input.scope ∈ grant.scopes ∧
        (held (b64uDecode key.publicKeyB64u) →
          Authored acts (b64uDecode key.publicKeyB64u) .authorizationGrant
            grant.toJson)) ∧
    ∀ code, evaluation.reasonCode = some (.failure code) → IsRevoked code →
      ∃ grant revocation key,
        AuthorizationGrant.schema.accepts input.grant = some grant ∧
          (∃ value ∈ input.revocationList,
            Revocation.schema.accepts (some value) = some revocation) ∧
          (∃ value, input.revocationKey revocation.keyId = some value ∧
            KeyDocument.schema.accepts (some value) = some key) ∧
          RevocationBound revocation key ∧
          HasStanding grant revocation key ∧
          EffectiveAt input.now revocation ∧
          (held (b64uDecode key.publicKeyB64u) →
            Authored acts (b64uDecode key.publicKeyB64u) .revocation
              revocation.toJson) := by
  constructor
  · intro isPermitted
    obtain ⟨grant, key, permits, admitted, -⟩ :=
      (permits_iff input).mp ⟨evaluation, evaluates, isPermitted⟩
    refine ⟨grant, key, permits.acceptsGrant, permits.acceptsKey,
      permits.bound, admitted, permits.scope, ?_⟩
    intro isHeld
    cases isInput : input.grant with
    | none =>
        have accepted := permits.acceptsGrant
        rw [isInput] at accepted
        cases accepted
    | some value =>
        obtain ⟨wellFormed, unforged⟩ := grantSent value isInput
        have same := faithful_AuthorizationGrant.encoded wellFormed
          (isInput ▸ permits.acceptsGrant)
        have shaped : Shaped .authorizationGrant grant.toJson :=
          ⟨wellFormed_AuthorizationGrant grant,
            inDomain_AuthorizationGrant grant, _, rfl, rfl⟩
        have within := within_text same
          (AuthorizationGrant.get?_signature grant)
        exact genuine_of_unforged made unforged shaped within _ isHeld
          permits.bound.signed
  · intro code isCode isRevoked
    obtain ⟨grant, isGrant, value, isMember, revocation, keyDoc, key,
      isRevocation, supplied, isKey, bound, stands, effective⟩ :=
        withdraws_of_code evaluates isCode isRevoked
    refine ⟨grant, revocation, key, isGrant, ⟨value, isMember, isRevocation⟩,
      ⟨keyDoc, supplied, isKey⟩, bound, stands, effective, ?_⟩
    intro isHeld
    unfold EvaluateAuthorizationInput.revocationList at isMember
    cases isItems : input.revocations.bind Json.items? with
    | none =>
        rw [isItems] at isMember
        cases isMember
    | some items =>
        rw [isItems] at isMember
        obtain ⟨wellFormed, unforged⟩ :=
          revocationsSent.items isItems isMember
        have same := faithful_Revocation.encoded wellFormed isRevocation
        have shaped : Shaped .revocation revocation.toJson :=
          ⟨wellFormed_Revocation revocation, inDomain_Revocation revocation,
            _, rfl, rfl⟩
        have within : Within (.string revocation.signature) value :=
          @within_text _ _ same (units "signature") _ rfl
        exact genuine_of_unforged made unforged shaped within _ isHeld
          bound.signed

end Decisions

/-! ## The principal of the sample grant -/

/-- The runtime on the principal of the sample grant, who signs it. -/
@[reducible]
def grantingPlatform : SigningPlatform :=
  holderPlatform sampleGrant.toJson
    (b64uDecode samplePrincipalKey.publicKeyB64u)
    (b64uDecode sampleGrant.signature)

/-- The signing of the sample grant. -/
def sampleGrantAct : Act where
  publicKey := b64uDecode samplePrincipalKey.publicKeyB64u
  kind := .authorizationGrant
  object := sampleGrant.toJson

/-- What the principal of the sample grant asks to sign. -/
def sampleGrantPayload : AuthorizationGrantPayload where
  grantId := sampleGrant.grantId
  principal := sampleGrant.principal
  subject := sampleGrant.subject
  scopes := sampleGrant.scopes
  constraints := sampleGrant.constraints
  notBefore := sampleGrant.notBefore
  expiresAt := sampleGrant.expiresAt
  keyId := sampleGrant.keyId

theorem sampleGrantPayload_accepted :
    letI := grantingPlatform
    AuthorizationGrantPayload.schema.accepts
      (some sampleGrantPayload.toJson) = some sampleGrantPayload := by
  rfl

theorem sampleGrantAct_made :
    letI := grantingPlatform
    sampleGrantAct.Made := by
  let := grantingPlatform
  have isSignature : ∀ seed message : List UInt8,
      b64uEncode (SigningPlatform.ed25519Sign seed message) =
        sampleGrant.signature := fun _ _ =>
    (by decide : b64uEncode (b64uDecode sampleGrant.signature) =
      sampleGrant.signature)
  have signsPayload : signPayload sampleSigningKey.privateKey
      sampleGrantPayload.toJson = .ok sampleGrant.toJson := by
    refine (signPayload_eq_ok_iff
      (inDomain_AuthorizationGrantPayload _)).mpr ⟨rfl, ?_⟩
    rw [withSignature_grant, isSignature]
    rfl
  have signs : signAuthorizationGrant (some sampleGrantPayload.toJson)
      ⟨sampleSigningKey.privateKey, some samplePrincipalKey.toJson⟩ =
        .ok sampleGrant := by
    simp only [signAuthorizationGrant, except_bind_eq_ok_iff,
      parseOrThrow_eq_ok_iff, throw_guard_eq_ok_iff]
    refine ⟨sampleGrantPayload, sampleGrantPayload_accepted,
      samplePrincipalKey, samplePrincipalKey_accepted, not_not.mpr rfl,
      not_not.mpr rfl, not_not.mpr rfl, _, signsPayload,
      sampleGrant_accepted⟩
  exact ⟨sampleSigningKey.privateKey, rfl, .grant signs⟩

theorem sampleCheck_permits_granting :
    letI := grantingPlatform
    Permits (sampleCheck []) := by
  let := grantingPlatform
  have signed : Signed samplePrincipalKey sampleGrant.toJson
      sampleGrant.signature :=
    verifyBytes_holder.mpr ⟨by decide, by decide, rfl⟩
  have bound : GrantBound sampleGrant samplePrincipalKey :=
    { keyId := rfl
      role := rfl
      controller := rfl
      active := rfl
      signed := signed }
  refine (permits_iff _).mpr ⟨sampleGrant, samplePrincipalKey,
    ⟨sampleGrant_accepted, samplePrincipalKey_accepted, bound,
      Or.inl ⟨rfl, rfl⟩, ?_, List.mem_singleton.mpr rfl⟩,
    ⟨by decide, by decide⟩, ?_⟩
  · intro value isMember
    cases isMember
  · intro value isMember
    cases isMember

/-- The sample grant permits its scope, and its principal has made it. -/
theorem decisions_authored_sample :
    letI := grantingPlatform
    ∃ evaluation, evaluateAuthorization (sampleCheck []) = .ok evaluation ∧
      evaluation.decision = .permitted ∧
      GrantBound sampleGrant samplePrincipalKey ∧
      Authored [sampleGrantAct] (b64uDecode samplePrincipalKey.publicKeyB64u)
        .authorizationGrant sampleGrant.toJson := by
  let := grantingPlatform
  obtain ⟨evaluation, evaluates, isPermitted⟩ := sampleCheck_permits_granting
  have made : ∀ act ∈ [sampleGrantAct], act.Made :=
    List.forall_mem_singleton.mpr sampleGrantAct_made
  have isAct : sampleGrantAct ∈ [sampleGrantAct] := List.mem_singleton.mpr rfl
  have grantSent : Sendable
      (· = b64uDecode samplePrincipalKey.publicKeyB64u) [sampleGrantAct]
        (sampleCheck []).grant :=
    sendable_holder isAct rfl rfl (wellFormed_AuthorizationGrant sampleGrant)
  have revocationsSent : Sendable
      (· = b64uDecode samplePrincipalKey.publicKeyB64u) [sampleGrantAct]
        (sampleCheck []).revocations :=
    sendable_holder isAct rfl rfl (by simp [wellFormed_array])
  obtain ⟨grant, key, isGrant, isKey, bound, -, -, authored⟩ :=
    (decisions_authored made grantSent revocationsSent evaluates).1
      isPermitted
  obtain rfl : sampleGrant = grant :=
    Option.some.inj (sampleGrant_accepted.symm.trans isGrant)
  obtain rfl : samplePrincipalKey = key :=
    Option.some.inj (samplePrincipalKey_accepted.symm.trans isKey)
  exact ⟨evaluation, evaluates, isPermitted, bound, authored rfl⟩

end AgenId.Web
