import AgenId.Core.Permission

/-!
# The state of the operator key in a bound decision

The decision binds the actor by the role and the controller of its operator
key.  The lifecycle of that key has no part in it, and neither have revocations
of keys.
-/

namespace AgenId.Core

open AgenId.Ecma
open AgenId.Validation
open AgenId.Validation.Schema

section OperatorState

variable [Platform]

/-! ## Revocations of keys -/

/-- A value is a verified revocation of a key by an operator key of an agent,
effective at the clock. -/
def RevokesKey (input : EvaluateAuthorizationInput)
    (agentId keyId : JsString) (value : Json) : Prop :=
  ∃ revocation keyDoc key,
    Revocation.schema.accepts (some value) = some revocation ∧
    revocation.revokesType = .key ∧ revocation.revokes = keyId ∧
    input.revocationKey revocation.keyId = some keyDoc ∧
    KeyDocument.schema.accepts (some keyDoc) = some key ∧
    RevocationBound revocation key ∧ key.controller = agentId ∧
    EffectiveAt input.now revocation

theorem RevokesKey.verdict_eq_none
    {input : EvaluateAuthorizationInput} {grant : AuthorizationGrant}
    (accepted : AuthorizationGrant.schema.accepts input.grant = some grant)
    {agentId keyId : JsString} {value : Json}
    (revokes : RevokesKey input agentId keyId value) :
    verdict input grant.granted value = none := by
  obtain ⟨revocation, keyDoc, key, isRevocation, ofKey, -, isSupplied, -⟩ :=
    revokes
  apply (verdict_eq_none_iff accepted).mpr
  constructor
  · intro unverifiable
    obtain ⟨other, isOther, missing⟩ := unverifiable
    obtain rfl := Option.some.inj (isRevocation.symm.trans isOther)
    rw [isSupplied] at missing
    cases missing
  · intro withdraws
    obtain ⟨other, _, _, isOther, -, -, -, stands, -⟩ := withdraws
    obtain rfl := Option.some.inj (isRevocation.symm.trans isOther)
    rcases stands with ⟨ofGrant, -⟩ | ⟨ofAgent, -⟩
    · rw [ofKey] at ofGrant
      cases ofGrant
    · rw [ofKey] at ofAgent
      cases ofAgent

/-! ## The lifecycle of the operator key -/

/-- The same input with another operator key. -/
def EvaluateAuthorizationInput.withOperatorKey
    (input : EvaluateAuthorizationInput) (key : KeyDocument) :
    EvaluateAuthorizationInput :=
  { input with operatorKey := some key.toJson }

theorem actorBound_withOperatorKey_iff
    {input : EvaluateAuthorizationInput} {key other : KeyDocument}
    (isKey : KeyDocument.schema.accepts input.operatorKey = some key)
    (isOther : KeyDocument.schema.accepts (some other.toJson) = some other)
    (sameRole : other.role = key.role)
    (sameController : other.controller = key.controller)
    (subject : JsString) :
    ActorBound (input.withOperatorKey other) subject ↔
      ActorBound input subject := by
  have supplied : input.operatorKey ≠ none := by
    intro absent
    rw [absent] at isKey
    cases isKey
  unfold ActorBound EvaluateAuthorizationInput.withOperatorKey
  simp [supplied, isKey, isOther, sameRole, sameController]

/-- A decision that permits also permits when the operator key is retired or
revoked. -/
theorem permits_withOperatorKey_iff
    {input : EvaluateAuthorizationInput} {key other : KeyDocument}
    (isKey : KeyDocument.schema.accepts input.operatorKey = some key)
    (isOther : KeyDocument.schema.accepts (some other.toJson) = some other)
    (sameRole : other.role = key.role)
    (sameController : other.controller = key.controller) :
    Permits (input.withOperatorKey other) ↔ Permits input := by
  have sameActor :=
    actorBound_withOperatorKey_iff isKey isOther sameRole sameController
  rw [permits_iff, permits_iff]
  constructor
  · intro permitted
    obtain ⟨grant, principalKey, permits, admitted, upheld⟩ := permitted
    exact ⟨grant, principalKey, ⟨permits.acceptsGrant, permits.acceptsKey,
      permits.bound, (sameActor grant.subject).mp permits.actor,
      permits.verifiable, permits.scope⟩, admitted, upheld⟩
  · intro permitted
    obtain ⟨grant, principalKey, permits, admitted, upheld⟩ := permitted
    exact ⟨grant, principalKey, ⟨permits.acceptsGrant, permits.acceptsKey,
      permits.bound, (sameActor grant.subject).mpr permits.actor,
      permits.verifiable, permits.scope⟩, admitted, upheld⟩

/-! ## The operator key that a permission is given to -/

/-- An operator key is active at the clock, and no collected revocation by an
operator key of its agent has revoked it. -/
def OperatorKeyStands (input : EvaluateAuthorizationInput)
    (manifest : Manifest) (key : KeyDocument) : Prop :=
  keyActiveAt key input.now = true ∧
    ∀ value ∈ input.revocationList,
      ¬ RevokesKey input manifest.agentId key.keyId value

/-- The presented agent is bound by its operator key, whatever the state of
that key. -/
structure Presented (input : EvaluateAuthorizationInput)
    (manifest : Manifest) (key : KeyDocument) : Prop where
  acceptsManifest : Manifest.schema.accepts input.manifest = some manifest
  acceptsKey : KeyDocument.schema.accepts input.operatorKey = some key
  role : key.role = .operator
  controller : key.controller = manifest.agentId

/-- The grant and the revocations permit the scope to an agent. -/
def GrantsTo (input : EvaluateAuthorizationInput) (agentId : JsString) :
    Prop :=
  ∃ grant key,
    AuthorizationGrant.schema.accepts input.grant = some grant ∧
    KeyDocument.schema.accepts input.principalKey = some key ∧
    GrantBound grant key ∧
    InWindow input.now grant.notBefore grant.expiresAt ∧
    input.scope ∈ grant.scopes ∧ grant.subject = agentId ∧
    RevocationsUphold input grant

theorem permits_presented_iff
    {input : EvaluateAuthorizationInput}
    (presents : input.manifest ≠ none ∧ input.operatorKey ≠ none)
    (nowParses : (dateParse input.now).isSome) :
    Permits input ↔
      ∃ manifest key, Presented input manifest key ∧
        GrantsTo input manifest.agentId := by
  rw [permits_iff]
  constructor
  · intro permitted
    obtain ⟨grant, key, permits, admitted, upheld⟩ := permitted
    have inWindow := (windowAdmits_iff nowParses
      (AuthorizationGrant.ordered permits.acceptsGrant)).mp admitted
    have upholds := revocationsUphold_iff.mpr fun value isMember =>
      ⟨permits.verifiable value isMember, upheld value isMember⟩
    rcases permits.actor with ⟨absent, -⟩ | bound
    · exact absurd absent presents.1
    · obtain ⟨manifest, operatorKey, isManifest, isOperatorKey, isSubject,
        role, controller⟩ := bound
      exact ⟨manifest, operatorKey,
        ⟨isManifest, isOperatorKey, role, controller⟩, grant, key,
        permits.acceptsGrant, permits.acceptsKey, permits.bound, inWindow,
        permits.scope, isSubject.symm, upholds⟩
  · intro presented
    obtain ⟨manifest, operatorKey, ⟨isManifest, isOperatorKey, role,
      controller⟩, grant, key, isGrant, isKey, bound, inWindow, scope,
      isSubject, upholds⟩ := presented
    have silent := revocationsUphold_iff.mp upholds
    have actor : ActorBound input grant.subject :=
      Or.inr ⟨manifest, operatorKey, isManifest, isOperatorKey,
        isSubject.symm, role, controller⟩
    exact ⟨grant, key, ⟨isGrant, isKey, bound, actor,
        fun value isMember => (silent value isMember).1, scope⟩,
      (windowAdmits_iff nowParses (AuthorizationGrant.ordered isGrant)).mpr
        inWindow,
      fun value isMember => (silent value isMember).2⟩

/-- With an actor presented at a clock that denotes an instant, a permission
respects the state of the operator key exactly when the key stands or one of
the checks that are made fails. -/
theorem permission_respects_operatorKey_iff
    (input : EvaluateAuthorizationInput)
    (presents : input.manifest ≠ none ∧ input.operatorKey ≠ none)
    (nowParses : (dateParse input.now).isSome) :
    (Permits input → ∃ manifest key, Presented input manifest key ∧
        OperatorKeyStands input manifest key) ↔
      ∀ manifest key, Presented input manifest key →
        GrantsTo input manifest.agentId →
        OperatorKeyStands input manifest key := by
  rw [permits_presented_iff presents nowParses]
  constructor
  · intro respects manifest key presented grants
    obtain ⟨sameManifest, sameKey, same, stands⟩ :=
      respects ⟨manifest, key, presented, grants⟩
    obtain rfl := Option.some.inj
      (same.acceptsManifest.symm.trans presented.acceptsManifest)
    obtain rfl :=
      Option.some.inj (same.acceptsKey.symm.trans presented.acceptsKey)
    exact stands
  · intro stands permitted
    obtain ⟨manifest, key, presented, grants⟩ := permitted
    exact ⟨manifest, key, presented, stands manifest key presented grants⟩

end OperatorState

/-! ## A revoked operator key -/

/-- The sample operator key after its revocation. -/
def revokedOperatorKey : KeyDocument :=
  { sampleOperatorKey with
    status := .revoked
    revokedAt := some (units "2026-09-20T00:00:00Z") }

/-- The operator's revocation of its key. -/
def operatorKeyRevocation : Revocation where
  revocationId := units "revocation:01J8Z3V6M4QK9T2XW7BN5RCDYE"
  revokes := units "agenid:key:01J8Z3M9Q4XK2P7VBN6TDR8HWE"
  revokesType := .key
  reason := .keyCompromise
  revokedAt := units "2026-09-20T00:00:00Z"
  keyId := units "agenid:key:01J8Z3M9Q4XK2P7VBN6TDR8HWE"
  signature := units <| "GFvy5oS7leqCVuN3M-Q41AX7C2YHpOai0EADj5Xi3YzM36XQ" ++
    "P8i_Z6wRxZEzMFJnaXm6OW3FYcJ77qLfJA1-CA"

/-- A check of the sample grant with the sample agent and an operator key
presented, and a list of revocations. -/
def presentedCheck (operatorKey : KeyDocument) (revocations : List Json) :
    EvaluateAuthorizationInput where
  grant := some sampleGrant.toJson
  principalKey := some samplePrincipalKey.toJson
  scope := units "data:read"
  manifest := some sampleManifest.toJson
  operatorKey := some operatorKey.toJson
  revocations := some (.array revocations)
  revocationKeys := some (.object
    [(sampleOperatorKey.keyId, sampleOperatorKey.toJson)])
  now := units "2026-10-01T00:00:00Z"

theorem revokedOperatorKey_accepted :
    letI := samplePlatform
    KeyDocument.schema.accepts (some revokedOperatorKey.toJson) =
      some revokedOperatorKey := by
  rfl

theorem operatorKeyRevocation_accepted :
    letI := samplePlatform
    Revocation.schema.accepts (some operatorKeyRevocation.toJson) =
      some operatorKeyRevocation := by
  rfl

theorem presentedCheck_grants
    {operatorKey : KeyDocument} {revocations : List Json}
    (upholds :
      letI := samplePlatform
      RevocationsUphold (presentedCheck operatorKey revocations)
        sampleGrant) :
    letI := samplePlatform
    GrantsTo (presentedCheck operatorKey revocations)
      sampleManifest.agentId := by
  let := samplePlatform
  have inWindow : InWindow (units "2026-10-01T00:00:00Z")
      sampleGrant.notBefore sampleGrant.expiresAt :=
    (windowAdmits_iff (by decide)
      (AuthorizationGrant.ordered sampleGrant_accepted)).mp
        ⟨by decide, by decide⟩
  exact ⟨sampleGrant, samplePrincipalKey, sampleGrant_accepted,
    samplePrincipalKey_accepted, sampleGrant_bound, inWindow,
    List.mem_singleton.mpr rfl, rfl, upholds⟩

theorem presentedCheck_upholds_nothing (operatorKey : KeyDocument) :
    letI := samplePlatform
    RevocationsUphold (presentedCheck operatorKey []) sampleGrant :=
  fun _ isMember => absurd isMember (List.not_mem_nil)

theorem presentedCheck_upholds_revocation :
    letI := samplePlatform
    RevocationsUphold (presentedCheck sampleOperatorKey
      [operatorKeyRevocation.toJson]) sampleGrant := by
  let := samplePlatform
  intro value isMember revocation accepted
  obtain rfl := List.mem_singleton.mp isMember
  obtain rfl :=
    Option.some.inj (operatorKeyRevocation_accepted.symm.trans accepted)
  refine ⟨sampleOperatorKey.toJson, rfl, ?_⟩
  intro key isKey bound effective stands
  rcases stands with ⟨ofGrant, -⟩ | ⟨ofAgent, -⟩
  · cases ofGrant
  · cases ofAgent

/-- An action is permitted with an operator key that was revoked, and with one
whose revocation was collected. -/
theorem permission_ignores_operatorKey :
    letI := samplePlatform
    let revoked := presentedCheck revokedOperatorKey []
    let collected := presentedCheck sampleOperatorKey
      [operatorKeyRevocation.toJson]
    (dateParse revoked.now).isSome ∧
      ¬ (Permits revoked → ∃ manifest key, Presented revoked manifest key ∧
        OperatorKeyStands revoked manifest key) ∧
      ¬ (Permits collected → ∃ manifest key,
        Presented collected manifest key ∧
          OperatorKeyStands collected manifest key) := by
  let := samplePlatform
  intro revoked collected
  have presentsRevoked :
      Presented revoked sampleManifest revokedOperatorKey :=
    ⟨sampleManifest_accepted, revokedOperatorKey_accepted, rfl, rfl⟩
  have presentsCollected :
      Presented collected sampleManifest sampleOperatorKey :=
    ⟨sampleManifest_accepted, sampleOperatorKey_accepted, rfl, rfl⟩
  refine ⟨by decide, ?_, ?_⟩
  · intro respects
    have permitted : Permits revoked :=
      (permits_presented_iff (by decide) (by decide)).mpr
        ⟨_, _, presentsRevoked,
          presentedCheck_grants (presentedCheck_upholds_nothing _)⟩
    obtain ⟨manifest, key, presented, active, -⟩ := respects permitted
    obtain rfl := Option.some.inj
      (revokedOperatorKey_accepted.symm.trans presented.acceptsKey)
    exact absurd active (by decide)
  · intro respects
    have permitted : Permits collected :=
      (permits_presented_iff (by decide) (by decide)).mpr
        ⟨_, _, presentsCollected,
          presentedCheck_grants presentedCheck_upholds_revocation⟩
    obtain ⟨manifest, key, presented, -, unrevoked⟩ := respects permitted
    obtain rfl := Option.some.inj
      (sampleManifest_accepted.symm.trans presented.acceptsManifest)
    obtain rfl := Option.some.inj
      (sampleOperatorKey_accepted.symm.trans presented.acceptsKey)
    apply unrevoked operatorKeyRevocation.toJson List.mem_cons_self
    exact ⟨operatorKeyRevocation, sampleOperatorKey.toJson,
      sampleOperatorKey, operatorKeyRevocation_accepted, rfl, rfl, rfl,
      sampleOperatorKey_accepted, ⟨rfl, rfl, rfl, by decide⟩, rfl,
      effectiveAt_iff.mpr (by decide)⟩

/-- The sample grant is permitted to an agent whose operator key stands. -/
theorem permission_respects_sample :
    letI := samplePlatform
    let check := presentedCheck sampleOperatorKey []
    Permits check → ∃ manifest key, Presented check manifest key ∧
      OperatorKeyStands check manifest key := by
  let := samplePlatform
  intro check
  apply (permission_respects_operatorKey_iff check (by decide)
    (by decide)).mpr
  intro manifest key presented grants
  obtain rfl := Option.some.inj
    (sampleOperatorKey_accepted.symm.trans presented.acceptsKey)
  exact ⟨by decide, fun value isMember => absurd isMember List.not_mem_nil⟩

end AgenId.Core
