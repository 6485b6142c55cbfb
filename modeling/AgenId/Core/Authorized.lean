import AgenId.Core.AuthorizationVerify
import AgenId.Core.Verified
import AgenId.Library.FirstVerdict

/-!
# What the authorization decision establishes

A grant verifies exactly when it is accepted, bound to a principal key and in
force.  The loop over the revocations returns the first verdict: a revocation
that cannot be verified gives one, and so does an effective revocation with
standing over the grant or over the agent; every other value gives none.
-/

namespace AgenId.Core

open AgenId.Ecma
open AgenId.Validation
open AgenId.Validation.Schema

/-! ## Grants and revocations reread -/

theorem rereads_Scope : Rereads Scope .string :=
  (rereads_string.check _ _).check _ _

theorem rereads_Constraint :
    Rereads Constraint.schema Constraint.toJson := by
  intro input value accepted
  obtain ⟨option, isOption, accepted⟩ :=
    exists_of_accepts_discriminatedUnion accepted
  simp only [Constraint.options, List.mem_cons, List.not_mem_nil, or_false]
    at isOption
  rcases isOption with rfl | rfl | rfl | rfl
  · obtain ⟨members, rfl, -, fields⟩ :=
      accepts_strictObject_eq_some_iff.mp accepted
    obtain ⟨-, fields⟩ := Parse.accepted_seqRight_eq_some_iff.mp fields
    obtain ⟨domains, isDomains, rfl⟩ :=
      Parse.accepted_map_eq_some_iff.mp fields
    refine accepts_discriminatedUnion_of_find rfl
      (accepts_strictObject_eq_some_iff.mpr ⟨_, rfl,
        unknownNames_eq_nil rfl (List.Subset.refl _),
        Parse.accepted_seqRight_eq_some_iff.mpr
          ⟨⟨_, accepted_literal_field rfl⟩, ?_⟩⟩)
    exact Parse.accepted_map_of (Rereads.field
      (Rereads.array (rereads_string.check _ _) 1 (some 32)) isDomains rfl)
  · obtain ⟨members, rfl, -, fields⟩ :=
      accepts_strictObject_eq_some_iff.mp accepted
    obtain ⟨-, fields⟩ := Parse.accepted_seqRight_eq_some_iff.mp fields
    simp only [Parse.accepted_seq_eq_some_iff,
      Parse.accepted_map_eq_some_iff] at fields
    obtain ⟨amount, isAmount, _, ⟨currency, isCurrency, rfl⟩, rfl⟩ := fields
    refine accepts_discriminatedUnion_of_find rfl
      (accepts_strictObject_eq_some_iff.mpr ⟨_, rfl,
        unknownNames_eq_nil rfl (List.Subset.refl _),
        Parse.accepted_seqRight_eq_some_iff.mpr
          ⟨⟨_, accepted_literal_field rfl⟩, ?_⟩⟩)
    refine Parse.accepted_seq_of ?_
      (Rereads.field (rereads_string.check _ _) isAmount rfl)
    exact Parse.accepted_map_of
      (Rereads.field (rereads_string.check _ _) isCurrency rfl)
  · obtain ⟨members, rfl, -, fields⟩ :=
      accepts_strictObject_eq_some_iff.mp accepted
    obtain ⟨-, fields⟩ := Parse.accepted_seqRight_eq_some_iff.mp fields
    obtain ⟨count, isCount, rfl⟩ := Parse.accepted_map_eq_some_iff.mp fields
    refine accepts_discriminatedUnion_of_find rfl
      (accepts_strictObject_eq_some_iff.mpr ⟨_, rfl,
        unknownNames_eq_nil rfl (List.Subset.refl _),
        Parse.accepted_seqRight_eq_some_iff.mpr
          ⟨⟨_, accepted_literal_field rfl⟩, ?_⟩⟩)
    exact Parse.accepted_map_of
      (Rereads.field (rereads_string.check _ _) isCount rfl)
  · obtain ⟨members, rfl, -, fields⟩ :=
      accepts_strictObject_eq_some_iff.mp accepted
    obtain ⟨_, -, rfl⟩ := Parse.accepted_map_eq_some_iff.mp fields
    rfl

theorem inDomain_Constraint (constraint : Constraint) :
    InDomain constraint.toJson := by
  cases constraint <;> simp [Constraint.toJson]

theorem inDomain_Revocation (revocation : Revocation) :
    InDomain revocation.toJson := by
  simp [Revocation.toJson]

theorem inDomain_AuthorizationGrant (grant : AuthorizationGrant) :
    InDomain grant.toJson := by
  simp only [AuthorizationGrant.toJson, inDomain_record, List.mem_cons,
    List.not_mem_nil, or_false]
  rintro entry (rfl | rfl | rfl | rfl | rfl | rfl | rfl | rfl | rfl | rfl)
    value isValue
  case inr.inr.inr.inr.inl =>
    obtain rfl := Option.mem_some_iff.mp isValue
    simp
  case inr.inr.inr.inr.inr.inl =>
    obtain ⟨constraints, -, rfl⟩ := Option.map_eq_some_iff.mp isValue
    simp [inDomain_Constraint]
  all_goals
    obtain rfl := Option.mem_some_iff.mp isValue
    simp

section Verification

variable [Platform]

theorem rereads_Revocation : Rereads Revocation.schema Revocation.toJson := by
  refine Rereads.superRefine ?_ _
  intro input value accepted
  obtain ⟨members, rfl, -, fields⟩ :=
    accepts_strictObject_eq_some_iff.mp accepted
  simp only [Parse.accepted_seq_eq_some_iff,
    Parse.accepted_seqRight_eq_some_iff,
    Parse.accepted_map_eq_some_iff] at fields
  obtain ⟨-, signature, isSignature, _, ⟨keyId, isKeyId, _,
    ⟨revokedAt, isRevokedAt, _, ⟨reason, isReason, _,
    ⟨revokesType, isRevokesType, _, ⟨revokes, isRevokes, _,
    ⟨revocationId, isRevocationId, rfl⟩, rfl⟩, rfl⟩, rfl⟩, rfl⟩, rfl⟩,
    rfl⟩ := fields
  refine accepts_strictObject_eq_some_iff.mpr ⟨_, rfl,
    unknownNames_eq_nil rfl (List.Subset.refl _),
    Parse.accepted_seqRight_eq_some_iff.mpr
      ⟨⟨_, accepted_literal_field rfl⟩, ?_⟩⟩
  refine Parse.accepted_seq_of ?_
    (Rereads.field (rereads_string.check _ _) isSignature rfl)
  refine Parse.accepted_seq_of ?_ (rereads_KeyId.field isKeyId rfl)
  refine Parse.accepted_seq_of ?_ (rereads_Rfc3339Utc.field isRevokedAt rfl)
  refine Parse.accepted_seq_of ?_
    ((rereads_enumerationOf (by decide)).field isReason rfl)
  refine Parse.accepted_seq_of ?_
    ((rereads_enumerationOf (by decide)).field isRevokesType rfl)
  refine Parse.accepted_seq_of ?_
    (Rereads.field (rereads_string.check _ _) isRevokes rfl)
  exact Parse.accepted_map_of
    (Rereads.field (rereads_string.check _ _) isRevocationId rfl)

theorem rereads_AuthorizationGrant :
    Rereads AuthorizationGrant.schema AuthorizationGrant.toJson := by
  refine Rereads.superRefine ?_ _
  intro input value accepted
  obtain ⟨members, rfl, -, fields⟩ :=
    accepts_strictObject_eq_some_iff.mp accepted
  simp only [Parse.accepted_seq_eq_some_iff,
    Parse.accepted_seqRight_eq_some_iff,
    Parse.accepted_map_eq_some_iff] at fields
  obtain ⟨-, signature, isSignature, _, ⟨keyId, isKeyId, _,
    ⟨expiresAt, isExpiresAt, _, ⟨notBefore, isNotBefore, _,
    ⟨constraints, isConstraints, _, ⟨scopes, isScopes, _,
    ⟨subject, isSubject, _, ⟨principal, isPrincipal, _,
    ⟨grantId, isGrantId, rfl⟩, rfl⟩, rfl⟩, rfl⟩, rfl⟩, rfl⟩, rfl⟩, rfl⟩,
    rfl⟩ := fields
  have rereadsScopes := rereads_Scope.array 1 (some 64)
  have rereadsConstraints := rereads_Constraint.array 0 (some 16)
  refine accepts_strictObject_eq_some_iff.mpr ⟨_, rfl, ?_, ?_⟩
  · cases constraints with
    | none =>
        exact @unknownNames_eq_nil _ ["$schema", "grant_id", "principal",
          "subject", "scopes", "not_before", "expires_at", "key_id",
          "signature"] _ rfl (by simp)
    | some _ => exact unknownNames_eq_nil rfl (List.Subset.refl _)
  · refine Parse.accepted_seqRight_eq_some_iff.mpr
      ⟨⟨_, accepted_literal_field rfl⟩, ?_⟩
    refine Parse.accepted_seq_of ?_ (Rereads.field
      (rereads_string.check _ _) isSignature (by cases constraints <;> rfl))
    refine Parse.accepted_seq_of ?_
      (rereads_KeyId.field isKeyId (by cases constraints <;> rfl))
    refine Parse.accepted_seq_of ?_ (rereads_Rfc3339Utc.field isExpiresAt
      (by cases constraints <;> rfl))
    refine Parse.accepted_seq_of ?_ (rereads_Rfc3339Utc.field isNotBefore
      (by cases constraints <;> rfl))
    refine Parse.accepted_seq_of ?_ (rereadsConstraints.optionalField
      isConstraints (by cases constraints <;> rfl))
    refine Parse.accepted_seq_of ?_ (rereadsScopes.field isScopes rfl)
    refine Parse.accepted_seq_of ?_
      (Rereads.field (rereads_string.check _ _) isSubject rfl)
    refine Parse.accepted_seq_of ?_
      (Rereads.field (rereads_string.check _ _) isPrincipal rfl)
    exact Parse.accepted_map_of
      (Rereads.field (rereads_string.check _ _) isGrantId rfl)
/-! ## Grants -/

/-- A grant is bound to a principal key. -/
structure GrantBound (grant : AuthorizationGrant) (key : KeyDocument) :
    Prop where
  keyId : key.keyId = grant.keyId
  role : key.role = .principal
  controller : key.controller = grant.principal
  active : keyActiveAt key grant.notBefore = true
  signed : Signed key grant.toJson grant.signature

/-- What a grant grants. -/
def AuthorizationGrant.granted (grant : AuthorizationGrant) : Granted where
  principal := grant.principal
  subject := grant.subject
  scopes := grant.scopes
  constraints := grant.constraints.getD []

omit [Platform] in
@[simp]
theorem AuthorizationGrant.granted_principal (grant : AuthorizationGrant) :
    grant.granted.principal = grant.principal := rfl

omit [Platform] in
@[simp]
theorem AuthorizationGrant.granted_subject (grant : AuthorizationGrant) :
    grant.granted.subject = grant.subject := rfl

omit [Platform] in
@[simp]
theorem AuthorizationGrant.granted_scopes (grant : AuthorizationGrant) :
    grant.granted.scopes = grant.scopes := rfl

theorem verifyParsedGrant_eq_ok_iff
    {grant : AuthorizationGrant} {key : KeyDocument} {now : JsString}
    {granted : Granted} :
    verifyParsedGrant grant key now = .ok (.ok granted) ↔
      GrantBound grant key ∧
        windowAdmits now grant.notBefore grant.expiresAt ∧
        granted = grant.granted := by
  unfold verifyParsedGrant
  rw [signatureVerifies_eq (inDomain_AuthorizationGrant grant)]
  simp only [except_ok_bind, guard_eq_ok_iff, ne_eq, reduceCtorEq,
    not_false_eq_true, not_not, Bool.not_eq_true, Bool.not_eq_true',
    Bool.not_eq_false, pure_eq_ok_iff, GrantVerifyResult.ok.injEq]
  constructor
  · rintro ⟨keyId, role, controller, active, signed, started, unfinished,
      same⟩
    exact ⟨⟨keyId, role, controller, active, signed⟩,
      ⟨started, unfinished⟩, same.symm⟩
  · rintro ⟨⟨keyId, role, controller, active, signed⟩,
      ⟨started, unfinished⟩, same⟩
    exact ⟨keyId, role, controller, active, signed, started, unfinished,
      same.symm⟩

/-- Exactly when a grant verifies, and what it then says. -/
theorem verifyAuthorizationGrant_eq_ok_iff
    {grantInput keyInput : Option Json} {now : JsString}
    {granted : Granted} :
    verifyAuthorizationGrant grantInput keyInput now = .ok (.ok granted) ↔
      ∃ grant key,
        AuthorizationGrant.schema.accepts grantInput = some grant ∧
        KeyDocument.schema.accepts keyInput = some key ∧
        GrantBound grant key ∧
        windowAdmits now grant.notBefore grant.expiresAt ∧
        granted = grant.granted := by
  unfold verifyAuthorizationGrant safeParse
  cases AuthorizationGrant.schema.accepts grantInput with
  | none => simp
  | some grant =>
      cases KeyDocument.schema.accepts keyInput with
      | none => simp
      | some key => simpa using verifyParsedGrant_eq_ok_iff

theorem verifyAuthorizationGrant_returns
    (grantInput keyInput : Option Json) (now : JsString) :
    Returns (verifyAuthorizationGrant grantInput keyInput now) := by
  unfold verifyAuthorizationGrant
  split
  · exact returns_pure _
  · split
    · exact returns_pure _
    · rename_i grant _ _ key _
      unfold verifyParsedGrant
      rw [signatureVerifies_eq (inDomain_AuthorizationGrant grant)]
      simp only [except_ok_bind]
      repeat' apply returns_guard
      exact returns_pure _

/-! ## Revocations -/

/-- A revocation is bound to a key of the role that may revoke its target. -/
structure RevocationBound (revocation : Revocation) (key : KeyDocument) :
    Prop where
  keyId : key.keyId = revocation.keyId
  role : key.role = REVOKER_ROLE revocation.revokesType
  active : keyActiveAt key revocation.revokedAt = true
  signed : Signed key revocation.toJson revocation.signature

instance (revocation : Revocation) (key : KeyDocument) :
    Decidable (RevocationBound revocation key) :=
  decidable_of_iff
    (key.keyId = revocation.keyId ∧
      key.role = REVOKER_ROLE revocation.revokesType ∧
      keyActiveAt key revocation.revokedAt = true ∧
      Signed key revocation.toJson revocation.signature)
    ⟨fun ⟨keyId, role, active, signed⟩ => ⟨keyId, role, active, signed⟩,
      fun ⟨keyId, role, active, signed⟩ => ⟨keyId, role, active, signed⟩⟩

theorem verifyParsedRevocation_eq_ok_iff
    {revocation : Revocation} {key : KeyDocument}
    {revokes : JsString} {revokesType : RevokesType} {revokedAt : JsString} :
    verifyParsedRevocation revocation key =
        .ok (.ok revokes revokesType revokedAt) ↔
      RevocationBound revocation key ∧ revokes = revocation.revokes ∧
        revokesType = revocation.revokesType ∧
        revokedAt = revocation.revokedAt := by
  unfold verifyParsedRevocation
  rw [signatureVerifies_eq (inDomain_Revocation revocation)]
  simp only [except_ok_bind, guard_eq_ok_iff, ne_eq, reduceCtorEq,
    not_false_eq_true, not_not, Bool.not_eq_true', Bool.not_eq_false,
    pure_eq_ok_iff, RevocationVerifyResult.ok.injEq]
  constructor
  · rintro ⟨keyId, role, active, signed, sameTarget, sameType, sameInstant⟩
    exact ⟨⟨keyId, role, active, signed⟩, sameTarget.symm, sameType.symm,
      sameInstant.symm⟩
  · rintro ⟨⟨keyId, role, active, signed⟩, sameTarget, sameType, sameInstant⟩
    exact ⟨keyId, role, active, signed, sameTarget.symm, sameType.symm,
      sameInstant.symm⟩

/-- Exactly when a revocation verifies, and what it then says. -/
theorem verifyRevocation_eq_ok_iff
    {revocationInput keyInput : Option Json} {revokes : JsString}
    {revokesType : RevokesType} {revokedAt : JsString} :
    verifyRevocation revocationInput keyInput =
        .ok (.ok revokes revokesType revokedAt) ↔
      ∃ revocation key,
        Revocation.schema.accepts revocationInput = some revocation ∧
        KeyDocument.schema.accepts keyInput = some key ∧
        RevocationBound revocation key ∧ revokes = revocation.revokes ∧
        revokesType = revocation.revokesType ∧
        revokedAt = revocation.revokedAt := by
  unfold verifyRevocation safeParse
  cases Revocation.schema.accepts revocationInput with
  | none => simp
  | some revocation =>
      cases KeyDocument.schema.accepts keyInput with
      | none => simp
      | some key => simpa using verifyParsedRevocation_eq_ok_iff

theorem verifyParsedRevocation_returns
    (revocation : Revocation) (key : KeyDocument) :
    Returns (verifyParsedRevocation revocation key) := by
  unfold verifyParsedRevocation
  rw [signatureVerifies_eq (inDomain_Revocation revocation)]
  simp only [except_ok_bind]
  repeat' apply returns_guard
  exact returns_pure _

end Verification

end AgenId.Core
