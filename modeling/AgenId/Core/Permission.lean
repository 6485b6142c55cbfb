import AgenId.Core.WindowSoundness

/-!
# When an action is permitted

Exactly what `evaluateAuthorization` has established when it permits an
action, and what the permission hands back to the relying party.
-/

namespace AgenId.Core

open AgenId.Ecma
open AgenId.Validation
open AgenId.Validation.Schema

section Verification

variable [Platform]

/-- No collected revocation withdraws the grant, and each that its schema
accepts names a key document that was supplied. -/
def RevocationsUphold (input : EvaluateAuthorizationInput)
    (grant : AuthorizationGrant) : Prop :=
  ∀ value ∈ input.revocationList, ∀ revocation,
    Revocation.schema.accepts (some value) = some revocation →
      ∃ keyDoc, input.revocationKey revocation.keyId = some keyDoc ∧
        ∀ key, KeyDocument.schema.accepts (some keyDoc) = some key →
          RevocationBound revocation key →
          EffectiveAt input.now revocation →
          ¬ HasStanding grant revocation key

theorem revocationsUphold_iff
    {input : EvaluateAuthorizationInput} {grant : AuthorizationGrant} :
    RevocationsUphold input grant ↔
      ∀ value ∈ input.revocationList,
        ¬ Unverifiable input value ∧ ¬ Withdraws input grant value := by
  constructor
  · intro upholds value isMember
    constructor
    · rintro ⟨revocation, accepted, missing⟩
      obtain ⟨keyDoc, supplied, -⟩ :=
        upholds value isMember revocation accepted
      simp [missing] at supplied
    · rintro ⟨revocation, keyDoc, key, accepted, supplied, isKey, bound,
        stands, effective⟩
      obtain ⟨_, sameSupplied, silent⟩ :=
        upholds value isMember revocation accepted
      obtain rfl := Option.some.inj (supplied.symm.trans sameSupplied)
      exact silent key isKey bound effective stands
  · intro silent value isMember revocation accepted
    obtain ⟨verifiable, upheld⟩ := silent value isMember
    cases supplied : input.revocationKey revocation.keyId with
    | none => exact absurd ⟨revocation, accepted, supplied⟩ verifiable
    | some keyDoc =>
        exact ⟨keyDoc, rfl, fun key isKey bound effective stands =>
          upheld ⟨revocation, keyDoc, key, accepted, supplied, isKey, bound,
            stands, effective⟩⟩

/-- A permission is the one that the scope check gives. -/
theorem conclusion_eq_of_permitted
    {input : EvaluateAuthorizationInput} {grant : AuthorizationGrant}
    (accepted : AuthorizationGrant.schema.accepts input.grant = some grant)
    (permitted : (conclusion input grant.granted).decision = .permitted) :
    conclusion input grant.granted = decideScope input grant.granted := by
  obtain ⟨actor, silent, -⟩ :=
    (conclusion_permitted_iff accepted).mp permitted
  have bound : bindActor input grant.granted = none :=
    bindActor_eq_none_iff.mpr actor
  have unended : input.revocationList.findSome?
      (verdict input grant.granted) = none :=
    List.findSome?_eq_none_iff.mpr fun value isMember =>
      (verdict_eq_none_iff accepted).mpr (silent value isMember)
  unfold conclusion
  rw [bound, unended]
  rfl

/-- A permission hands back the constraints of the grant. -/
theorem permitted_obligations
    {input : EvaluateAuthorizationInput}
    {evaluation : AuthorizationEvaluation} {grant : AuthorizationGrant}
    (evaluates : evaluateAuthorization input = .ok evaluation)
    (permitted : evaluation.decision = .permitted)
    (accepted : AuthorizationGrant.schema.accepts input.grant = some grant) :
    evaluation.obligations = grant.constraints.getD [] ∧
      evaluation.granted = some grant.granted := by
  rcases evaluateAuthorization_cases input with
    ⟨other, key, isOther, -, -, -, concludes⟩ | ⟨-, code, message, refuses⟩
  · obtain rfl : other = grant :=
      Option.some.inj (isOther.symm.trans accepted)
    obtain rfl := Except.ok.inj (concludes.symm.trans evaluates)
    obtain ⟨-, -, scope⟩ := (conclusion_permitted_iff accepted).mp permitted
    have isGranted : input.scope ∈ other.granted.scopes := scope
    rw [conclusion_eq_of_permitted accepted permitted, decideScope_eq,
      if_neg (not_not.mpr isGranted)]
    exact ⟨rfl, rfl⟩
  · obtain rfl := Except.ok.inj (refuses.symm.trans evaluates)
    simp [EvaluateAuthorizationInput.refuse] at permitted

/-- At a clock that denotes an instant, an action is permitted exactly when
the grant verifies at that instant and grants the scope, the presented actor
is its subject, and the collected revocations uphold it.  The permission then
returns the constraints of the grant. -/
theorem evaluateAuthorization_permits_iff
    (input : EvaluateAuthorizationInput)
    (nowParses : (dateParse input.now).isSome) :
    (Permits input ↔
      ∃ grant key,
        AuthorizationGrant.schema.accepts input.grant = some grant ∧
        KeyDocument.schema.accepts input.principalKey = some key ∧
        GrantBound grant key ∧
        InWindow input.now grant.notBefore grant.expiresAt ∧
        input.scope ∈ grant.scopes ∧
        ActorBound input grant.subject ∧
        RevocationsUphold input grant) ∧
    ∀ evaluation grant, evaluateAuthorization input = .ok evaluation →
      evaluation.decision = .permitted →
      AuthorizationGrant.schema.accepts input.grant = some grant →
      evaluation.obligations = grant.constraints.getD [] ∧
        evaluation.granted = some
          { principal := grant.principal
            subject := grant.subject
            scopes := grant.scopes
            constraints := grant.constraints.getD [] } := by
  refine ⟨?_, fun evaluation grant => permitted_obligations⟩
  rw [permits_iff]
  constructor
  · rintro ⟨grant, key, permits, admitted, upheld⟩
    have ordered := AuthorizationGrant.ordered permits.acceptsGrant
    exact ⟨grant, key, permits.acceptsGrant, permits.acceptsKey,
      permits.bound, (windowAdmits_iff nowParses ordered).mp admitted,
      permits.scope, permits.actor, revocationsUphold_iff.mpr
        fun value isMember =>
          ⟨permits.verifiable value isMember, upheld value isMember⟩⟩
  · rintro ⟨grant, key, isGrant, isKey, bound, inWindow, scope, actor,
      upholds⟩
    have silent := revocationsUphold_iff.mp upholds
    exact ⟨grant, key, ⟨isGrant, isKey, bound, actor,
        fun value isMember => (silent value isMember).1, scope⟩,
      (windowAdmits_iff nowParses (AuthorizationGrant.ordered isGrant)).mpr
        inWindow,
      fun value isMember => (silent value isMember).2⟩

end Verification

/-! ## A permitted action -/

/-- A grant, signed by the principal key. -/
def sampleGrant : AuthorizationGrant where
  grantId := units "grant:01J8Z3R0F4N6QWE2TYB8KMX5VD"
  principal := units "agenid:principal:01J8Z3Q6T1BX9W4M7KDV2NRYEP"
  subject := units "agenid:01J8Z3K3F2QZ9X6V7R4T8N2W5Y"
  scopes := [units "data:read"]
  constraints := some [.requiresHumanConfirmation]
  notBefore := units "2026-01-01T00:00:00Z"
  expiresAt := units "2027-01-01T00:00:00Z"
  keyId := units "agenid:key:01J8Z3QG8ZC5H2SVKT4WM9X7RA"
  signature := units <| "Cm9mXR9Nx_Nt5BjbQv2y5h3OBwnQL3la25syxAMNiifQ9CqU" ++
    "m67M2kK3va57gUvlFmkwbqvyc7gEF75fU24tAA"

/-- The principal key. -/
def samplePrincipalKey : KeyDocument where
  keyId := units "agenid:key:01J8Z3QG8ZC5H2SVKT4WM9X7RA"
  publicKeyB64u := units "9j_ebwipvy77c1gBQyKPJaNjYyWFTEZu-XXEV98NMd8"
  role := .principal
  controller := units "agenid:principal:01J8Z3Q6T1BX9W4M7KDV2NRYEP"
  createdAt := units "2026-01-01T00:00:00Z"
  status := .active
  retiredAt := none
  revokedAt := none

/-- A check of the sample grant against a list of revocations, with the key
document of the principal at hand. -/
def sampleCheck (revocations : List Json) : EvaluateAuthorizationInput where
  grant := some sampleGrant.toJson
  principalKey := some samplePrincipalKey.toJson
  scope := units "data:read"
  manifest := none
  operatorKey := none
  revocations := some (.array revocations)
  revocationKeys := some (.object
    [(samplePrincipalKey.keyId, samplePrincipalKey.toJson)])
  now := units "2026-06-01T00:00:00Z"

theorem sampleGrant_accepted :
    letI := samplePlatform
    AuthorizationGrant.schema.accepts (some sampleGrant.toJson) =
      some sampleGrant := by
  rfl

theorem samplePrincipalKey_accepted :
    letI := samplePlatform
    KeyDocument.schema.accepts (some samplePrincipalKey.toJson) =
      some samplePrincipalKey := by
  rfl

theorem sampleGrant_bound :
    letI := samplePlatform
    GrantBound sampleGrant samplePrincipalKey :=
  let := samplePlatform
  { keyId := rfl
    role := rfl
    controller := rfl
    active := rfl
    signed := by decide }

/-- The sample grant permits its scope, whatever malformed value was
collected. -/
theorem evaluateAuthorization_permits_sample :
    letI := samplePlatform
    (dateParse (units "2026-06-01T00:00:00Z")).isSome ∧
      Permits (sampleCheck [.null]) := by
  let := samplePlatform
  refine ⟨by decide, (evaluateAuthorization_permits_iff (sampleCheck [.null])
    (by decide)).1.mpr ⟨sampleGrant, samplePrincipalKey,
      sampleGrant_accepted, samplePrincipalKey_accepted, sampleGrant_bound,
      ?_, List.mem_singleton.mpr rfl, Or.inl ⟨rfl, rfl⟩, ?_⟩⟩
  · exact (windowAdmits_iff (by decide)
      (AuthorizationGrant.ordered sampleGrant_accepted)).mp
        ⟨by decide, by decide⟩
  · rintro value isMember revocation accepted
    obtain rfl := List.mem_singleton.mp isMember
    exact nomatch accepted

end AgenId.Core
