import AgenId.Core.Schemas

/-!
# Accepted documents

What a document that its schema accepts is known to satisfy, and that its own
encoding is accepted as the same document again.
-/

namespace AgenId.Core

open AgenId.Ecma
open AgenId.Validation
open AgenId.Validation.Schema

/-! ## Primitives reread -/

theorem rereads_enumerationOf
    {α : Type} {members : List α} {text : α → String}
    (found : ∀ value ∈ members,
      members.find? (fun other => units (text other) = units (text value)) =
        some value) :
    Rereads (enumerationOf members text) fun value => .literal (text value) := by
  apply rereads_enumeration
  intro option isOption
  obtain ⟨value, isMember, rfl⟩ := List.mem_map.mp isOption
  rw [List.find?_map]
  simpa [Function.comp_def] using found value isMember

theorem rereads_KeyId : Rereads KeyId .string :=
  (rereads_string.check _ _).check _ _

theorem rereads_FreeText (max : Nat) : Rereads (FreeText max) .string :=
  ((rereads_string.check _ _).check _ _).check _ _

theorem rereads_Digest : Rereads Digest digestJson := by
  intro input value accepted
  obtain ⟨members, rfl, -, fields⟩ :=
    accepts_strictObject_eq_some_iff.mp accepted
  obtain ⟨-, isValue⟩ := Parse.accepted_seqRight_eq_some_iff.mp fields
  refine accepts_strictObject_eq_some_iff.mpr ⟨_, rfl,
    @unknownNames_eq_nil _ ["alg", "value"] _ rfl (by simp), ?_⟩
  exact Parse.accepted_seqRight_eq_some_iff.mpr
    ⟨⟨_, accepted_literal_field rfl⟩,
      Rereads.field (rereads_string.check _ _) isValue rfl⟩

/-! ## Parts of a manifest and of an assertion reread -/

theorem rereads_Identity : Rereads Identity.schema Identity.toJson := by
  intro input value accepted
  obtain ⟨members, rfl, -, fields⟩ :=
    accepts_strictObject_eq_some_iff.mp accepted
  simp only [Parse.accepted_seq_eq_some_iff,
    Parse.accepted_map_eq_some_iff] at fields
  obtain ⟨description, isDescription, _, ⟨name, isName, rfl⟩, rfl⟩ := fields
  refine accepts_strictObject_eq_some_iff.mpr ⟨_, rfl, ?_, ?_⟩
  · cases description with
    | none => exact @unknownNames_eq_nil _ ["name"] _ rfl (by simp)
    | some _ => exact unknownNames_eq_nil rfl (List.Subset.refl _)
  · refine Parse.accepted_seq_of ?_
      ((rereads_FreeText 1000).optionalField isDescription ?_)
    · exact Parse.accepted_map_of
        ((rereads_FreeText 200).field isName rfl)
    · cases description <;> rfl

theorem rereads_Purpose : Rereads Purpose.schema Purpose.toJson := by
  intro input value accepted
  obtain ⟨members, rfl, -, fields⟩ :=
    accepts_strictObject_eq_some_iff.mp accepted
  simp only [Parse.accepted_seq_eq_some_iff,
    Parse.accepted_map_eq_some_iff] at fields
  obtain ⟨channels, isChannels, _, ⟨summary, isSummary, rfl⟩, rfl⟩ := fields
  have rereadsChannel : Rereads (enumerationOf Channel.all Channel.text)
      fun channel => .literal channel.text := rereads_enumerationOf (by decide)
  refine accepts_strictObject_eq_some_iff.mpr ⟨_, rfl,
    unknownNames_eq_nil rfl (List.Subset.refl _), ?_⟩
  refine Parse.accepted_seq_of ?_
    ((rereadsChannel.array 1 none).field isChannels rfl)
  exact Parse.accepted_map_of ((rereads_FreeText 500).field isSummary rfl)

theorem rereads_Disclosure : Rereads Disclosure.schema Disclosure.toJson := by
  intro input value accepted
  obtain ⟨members, rfl, -, fields⟩ :=
    accepts_strictObject_eq_some_iff.mp accepted
  simp only [Parse.accepted_seq_eq_some_iff,
    Parse.accepted_map_eq_some_iff] at fields
  obtain ⟨human, isHuman, _, ⟨user, isUser, _, ⟨ai, isAi, rfl⟩, rfl⟩, rfl⟩ :=
    fields
  refine accepts_strictObject_eq_some_iff.mpr ⟨_, rfl,
    unknownNames_eq_nil rfl (List.Subset.refl _), ?_⟩
  refine Parse.accepted_seq_of ?_ (rereads_boolean.field isHuman rfl)
  refine Parse.accepted_seq_of ?_ (rereads_boolean.field isUser rfl)
  exact Parse.accepted_map_of (rereads_boolean.field isAi rfl)

theorem rereads_Evidence : Rereads Evidence.schema Evidence.toJson := by
  intro input value accepted
  obtain ⟨members, rfl, -, fields⟩ :=
    accepts_strictObject_eq_some_iff.mp accepted
  simp only [Parse.accepted_seq_eq_some_iff,
    Parse.accepted_map_eq_some_iff] at fields
  obtain ⟨reference, isReference, _, ⟨type, isType, rfl⟩, rfl⟩ := fields
  refine accepts_strictObject_eq_some_iff.mpr ⟨_, rfl,
    unknownNames_eq_nil rfl (List.Subset.refl _), ?_⟩
  refine Parse.accepted_seq_of ?_ (Rereads.field
    ((rereads_string.check _ _).check _ _) isReference rfl)
  exact Parse.accepted_map_of
    ((rereads_enumerationOf (by decide)).field isType rfl)

/-- An accepted claim is accepted by the alternative of its type. -/
theorem Claim.accepts_option
    {input : Option Json} {claim : Claim}
    (accepted : Claim.schema.accepts input = some claim) :
    ∃ option ∈ Claim.options, option.2.accepts input = some claim :=
  exists_of_accepts_discriminatedUnion accepted

theorem rereads_Claim : Rereads Claim.schema Claim.toJson := by
  intro input value accepted
  obtain ⟨option, isOption, accepted⟩ := Claim.accepts_option accepted
  simp only [Claim.options, List.mem_cons, List.not_mem_nil, or_false]
    at isOption
  rcases isOption with rfl | rfl | rfl | rfl
  · obtain ⟨members, rfl, -, fields⟩ :=
      accepts_strictObject_eq_some_iff.mp accepted
    obtain ⟨_, -, rfl⟩ := Parse.accepted_map_eq_some_iff.mp fields
    rfl
  · obtain ⟨members, rfl, -, fields⟩ :=
      accepts_strictObject_eq_some_iff.mp accepted
    obtain ⟨-, fields⟩ := Parse.accepted_seqRight_eq_some_iff.mp fields
    obtain ⟨domain, isDomain, rfl⟩ :=
      Parse.accepted_map_eq_some_iff.mp fields
    refine accepts_discriminatedUnion_of_find rfl
      (accepts_strictObject_eq_some_iff.mpr ⟨_, rfl,
        unknownNames_eq_nil rfl (List.Subset.refl _),
        Parse.accepted_seqRight_eq_some_iff.mpr
          ⟨⟨_, accepted_literal_field rfl⟩, ?_⟩⟩)
    exact Parse.accepted_map_of
      (Rereads.field (rereads_string.check _ _) isDomain rfl)
  · obtain ⟨members, rfl, -, fields⟩ :=
      accepts_strictObject_eq_some_iff.mp accepted
    obtain ⟨-, fields⟩ := Parse.accepted_seqRight_eq_some_iff.mp fields
    simp only [Parse.accepted_seq_eq_some_iff,
      Parse.accepted_map_eq_some_iff] at fields
    obtain ⟨jurisdiction, isJurisdiction, _, ⟨legalName, isName, rfl⟩, rfl⟩ :=
      fields
    refine accepts_discriminatedUnion_of_find rfl
      (accepts_strictObject_eq_some_iff.mpr ⟨_, rfl, ?_,
        Parse.accepted_seqRight_eq_some_iff.mpr
          ⟨⟨_, accepted_literal_field rfl⟩, ?_⟩⟩)
    · cases jurisdiction with
      | none =>
          exact @unknownNames_eq_nil _ ["type", "legal_name"] _ rfl
            (by simp)
      | some _ => exact unknownNames_eq_nil rfl (List.Subset.refl _)
    · refine Parse.accepted_seq_of ?_ (Rereads.optionalField
        ((rereads_string.check _ _).check _ _) isJurisdiction ?_)
      · exact Parse.accepted_map_of
          ((rereads_FreeText 300).field isName rfl)
      · cases jurisdiction <;> rfl
  · obtain ⟨members, rfl, -, fields⟩ :=
      accepts_strictObject_eq_some_iff.mp accepted
    obtain ⟨-, fields⟩ := Parse.accepted_seqRight_eq_some_iff.mp fields
    obtain ⟨deployment, isDeployment, rfl⟩ :=
      Parse.accepted_map_eq_some_iff.mp fields
    refine accepts_discriminatedUnion_of_find rfl
      (accepts_strictObject_eq_some_iff.mpr ⟨_, rfl,
        unknownNames_eq_nil rfl (List.Subset.refl _),
        Parse.accepted_seqRight_eq_some_iff.mpr
          ⟨⟨_, accepted_literal_field rfl⟩, ?_⟩⟩)
    exact Parse.accepted_map_of
      (Rereads.field (rereads_string.check _ _) isDeployment rfl)

variable [Platform]

theorem rereads_Rfc3339Utc : Rereads Rfc3339Utc .string :=
  (rereads_string.check _ _).check _ _

theorem rereads_KeyDocument_shape :
    Rereads KeyDocument.shape KeyDocument.toJson := by
  intro input value accepted
  obtain ⟨members, rfl, -, fields⟩ :=
    accepts_strictObject_eq_some_iff.mp accepted
  simp only [Parse.accepted_seq_eq_some_iff,
    Parse.accepted_seqLeft_eq_some_iff,
    Parse.accepted_map_eq_some_iff] at fields
  obtain ⟨revokedAt, isRevokedAt, _, ⟨retiredAt, isRetiredAt, _,
    ⟨status, isStatus, _, ⟨createdAt, isCreatedAt, _,
    ⟨controller, isController, _, ⟨role, isRole, _,
    ⟨publicKey, isPublicKey, _, ⟨⟨keyId, isKeyId, rfl⟩, -⟩,
    rfl⟩, rfl⟩, rfl⟩, rfl⟩, rfl⟩, rfl⟩, rfl⟩ := fields
  have rereadsTime := rereads_Rfc3339Utc.nullable (by simp)
  refine accepts_strictObject_eq_some_iff.mpr ⟨_, rfl, unknownNames_eq_nil rfl
    (List.Subset.refl _), ?_⟩
  refine Parse.accepted_seq_of ?_ (rereadsTime.field isRevokedAt rfl)
  refine Parse.accepted_seq_of ?_ (rereadsTime.field isRetiredAt rfl)
  refine Parse.accepted_seq_of ?_
    ((rereads_enumerationOf (by decide)).field isStatus rfl)
  refine Parse.accepted_seq_of ?_ (rereads_Rfc3339Utc.field isCreatedAt rfl)
  refine Parse.accepted_seq_of ?_
    (Rereads.field (rereads_string.check _ _) isController rfl)
  refine Parse.accepted_seq_of ?_
    ((rereads_enumerationOf (by decide)).field isRole rfl)
  refine Parse.accepted_seq_of ?_
    (Rereads.field (rereads_string.check _ _) isPublicKey rfl)
  exact Parse.accepted_seqLeft_eq_some_iff.mpr
    ⟨Parse.accepted_map_of (rereads_KeyId.field isKeyId rfl),
      _, accepted_literal_field rfl⟩

/-! ## Documents reread -/

theorem rereads_KeyDocument :
    Rereads KeyDocument.schema KeyDocument.toJson :=
  ((rereads_KeyDocument_shape.check _ _).check _ _).check _ _

theorem rereads_Ownership : Rereads Ownership.schema Ownership.toJson := by
  intro input value accepted
  obtain ⟨members, rfl, -, fields⟩ :=
    accepts_strictObject_eq_some_iff.mp accepted
  simp only [Parse.accepted_seq_eq_some_iff,
    Parse.accepted_map_eq_some_iff] at fields
  obtain ⟨contact, isContact, _, ⟨domain, isDomain, _,
    ⟨operator, isOperator, rfl⟩, rfl⟩, rfl⟩ := fields
  refine accepts_strictObject_eq_some_iff.mpr ⟨_, rfl, ?_, ?_⟩
  · cases contact with
    | none =>
        exact @unknownNames_eq_nil _ ["operator", "operator_domain"] _
          rfl (by simp)
    | some _ => exact unknownNames_eq_nil rfl (List.Subset.refl _)
  · refine Parse.accepted_seq_of ?_
      (Rereads.optionalField (rereads_string.check _ _) isContact ?_)
    · refine Parse.accepted_seq_of ?_
        (Rereads.field (rereads_string.check _ _) isDomain rfl)
      exact Parse.accepted_map_of
        ((rereads_FreeText 300).field isOperator rfl)
    · cases contact <;> rfl

theorem rereads_Manifest : Rereads Manifest.schema Manifest.toJson := by
  intro input value accepted
  obtain ⟨members, rfl, -, fields⟩ :=
    accepts_strictObject_eq_some_iff.mp accepted
  obtain ⟨-, fields⟩ := Parse.accepted_seqRight_eq_some_iff.mp fields
  simp only [Parse.accepted_seq_eq_some_iff,
    Parse.accepted_map_eq_some_iff] at fields
  obtain ⟨disclosure, isDisclosure, _, ⟨purpose, isPurpose, _,
    ⟨ownership, isOwnership, _, ⟨identity, isIdentity, _,
    ⟨agentId, isAgentId, rfl⟩, rfl⟩, rfl⟩, rfl⟩, rfl⟩ := fields
  refine accepts_strictObject_eq_some_iff.mpr ⟨_, rfl,
    unknownNames_eq_nil rfl (List.Subset.refl _),
    Parse.accepted_seqRight_eq_some_iff.mpr
      ⟨⟨_, accepted_literal_field rfl⟩, ?_⟩⟩
  refine Parse.accepted_seq_of ?_ (rereads_Disclosure.field isDisclosure rfl)
  refine Parse.accepted_seq_of ?_ (rereads_Purpose.field isPurpose rfl)
  refine Parse.accepted_seq_of ?_ (rereads_Ownership.field isOwnership rfl)
  refine Parse.accepted_seq_of ?_ (rereads_Identity.field isIdentity rfl)
  exact Parse.accepted_map_of
    (Rereads.field (rereads_string.check _ _) isAgentId rfl)

theorem rereads_ManifestProof :
    Rereads ManifestProof.schema ManifestProof.toJson := by
  apply Rereads.check
  intro input value accepted
  obtain ⟨members, rfl, -, fields⟩ :=
    accepts_strictObject_eq_some_iff.mp accepted
  simp only [Parse.accepted_seq_eq_some_iff,
    Parse.accepted_seqLeft_eq_some_iff, Parse.accepted_seqRight_eq_some_iff,
    Parse.accepted_map_eq_some_iff] at fields
  obtain ⟨-, signature, isSignature, _, ⟨expiresAt, isExpiresAt, _,
    ⟨createdAt, isCreatedAt, _, ⟨keyId, isKeyId, _,
    ⟨digest, isDigest, _, ⟨⟨agentId, isAgentId, rfl⟩, -⟩,
    rfl⟩, rfl⟩, rfl⟩, rfl⟩, rfl⟩ := fields
  refine accepts_strictObject_eq_some_iff.mpr ⟨_, rfl,
    unknownNames_eq_nil rfl (List.Subset.refl _), ?_⟩
  simp only [Parse.accepted_seqRight_eq_some_iff]
  refine ⟨⟨_, ⟨_, accepted_literal_field rfl⟩,
    accepted_literal_field rfl⟩, ?_⟩
  refine Parse.accepted_seq_of ?_
    (Rereads.field (rereads_string.check _ _) isSignature rfl)
  refine Parse.accepted_seq_of ?_ (rereads_Rfc3339Utc.field isExpiresAt rfl)
  refine Parse.accepted_seq_of ?_ (rereads_Rfc3339Utc.field isCreatedAt rfl)
  refine Parse.accepted_seq_of ?_ (rereads_KeyId.field isKeyId rfl)
  refine Parse.accepted_seq_of ?_ (rereads_Digest.field isDigest rfl)
  exact Parse.accepted_seqLeft_eq_some_iff.mpr
    ⟨Parse.accepted_map_of
      (Rereads.field (rereads_string.check _ _) isAgentId rfl),
      _, accepted_literal_field rfl⟩

theorem rereads_VerificationAssertion_base :
    Rereads VerificationAssertion.base VerificationAssertion.toJson := by
  intro input value accepted
  obtain ⟨members, rfl, -, fields⟩ :=
    accepts_strictObject_eq_some_iff.mp accepted
  clear accepted
  simp only [Parse.accepted_seq_eq_some_iff,
    Parse.accepted_seqRight_eq_some_iff,
    Parse.accepted_map_eq_some_iff] at fields
  obtain ⟨-, signature, isSignature, _, ⟨keyId, isKeyId, _,
    ⟨digest, isDigest, _, ⟨scope, isScope, _, ⟨expiresAt, isExpiresAt, _,
    ⟨verifiedAt, isVerifiedAt, _, ⟨evidence, isEvidence, _,
    ⟨authority, isAuthority, _, ⟨claim, isClaim, _, ⟨level, isLevel, _,
    ⟨subjectType, isSubjectType, _, ⟨subject, isSubject, _,
    ⟨assertionId, isAssertionId, rfl⟩, rfl⟩, rfl⟩, rfl⟩, rfl⟩, rfl⟩, rfl⟩,
    rfl⟩, rfl⟩, rfl⟩, rfl⟩, rfl⟩, rfl⟩ := fields
  refine accepts_strictObject_eq_some_iff.mpr ⟨_, rfl,
    unknownNames_eq_nil rfl (List.Subset.refl _), ?_⟩
  rw [Parse.accepted_seqRight_eq_some_iff]
  refine ⟨⟨_, accepted_literal_field rfl⟩, ?_⟩
  refine Parse.accepted_seq_of ?_
    (Rereads.field (rereads_string.check _ _) isSignature rfl)
  refine Parse.accepted_seq_of ?_ (rereads_KeyId.field isKeyId rfl)
  refine Parse.accepted_seq_of ?_ (rereads_Digest.field isDigest rfl)
  refine Parse.accepted_seq_of ?_ (Rereads.field
    ((rereads_string.check _ _).check _ _) isScope rfl)
  refine Parse.accepted_seq_of ?_ (rereads_Rfc3339Utc.field isExpiresAt rfl)
  refine Parse.accepted_seq_of ?_ (rereads_Rfc3339Utc.field isVerifiedAt rfl)
  refine Parse.accepted_seq_of ?_ (rereads_Evidence.field isEvidence rfl)
  refine Parse.accepted_seq_of ?_
    (Rereads.field (rereads_string.check _ _) isAuthority rfl)
  refine Parse.accepted_seq_of ?_ (rereads_Claim.field isClaim rfl)
  refine Parse.accepted_seq_of ?_
    ((rereads_enumerationOf (by decide)).field isLevel rfl)
  refine Parse.accepted_seq_of ?_
    ((rereads_enumerationOf (by decide)).field isSubjectType rfl)
  refine Parse.accepted_seq_of ?_
    (Rereads.field (rereads_string.check _ _) isSubject rfl)
  exact Parse.accepted_map_of
    (Rereads.field (rereads_string.check _ _) isAssertionId rfl)

theorem rereads_VerificationAssertion :
    Rereads VerificationAssertion.schema VerificationAssertion.toJson :=
  rereads_VerificationAssertion_base.superRefine _

end AgenId.Core
