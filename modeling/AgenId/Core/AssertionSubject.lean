import AgenId.Core.WindowSoundness

/-!
# The subject of a verified assertion

The verification of an assertion compares the digest that the assertion is
bound to with the digest of the manifest under evaluation.  Nothing compares
its subject with the agent of that manifest, as the verification of a manifest
proof does, and nothing compares the subject of a deployment with the
deployment that the claim names.
-/

namespace AgenId.Core

open AgenId.Ecma
open AgenId.Validation
open AgenId.Validation.Schema

/-- An assertion speaks about the agent of a manifest, or about the deployment
that its own claim names. -/
structure VerificationAssertion.Concerns
    (assertion : VerificationAssertion) (manifest : Manifest) : Prop where
  agent : assertion.subjectType = .agent →
    assertion.subject = manifest.agentId
  deployment : assertion.subjectType = .deployment →
    assertion.claim = .deploymentConformance assertion.subject

section Verification

variable [Platform]

/-- The assertion concerns the manifest, when both are accepted. -/
def ConcernsManifest (assertionInput currentManifest : Option Json) : Prop :=
  ∀ assertion manifest,
    VerificationAssertion.schema.accepts assertionInput = some assertion →
    Manifest.schema.accepts currentManifest = some manifest →
      assertion.Concerns manifest

/-- A clock is in the window of an assertion. -/
def InAssertionWindow (now : JsString) (assertionInput : Option Json) : Prop :=
  ∃ start finish, assertionWindow assertionInput = some (start, finish) ∧
    InWindow now start finish

/-- At a clock that parses, an assertion verifies exactly when the clock is in
its window and the other checks hold. -/
theorem verifyVerificationAssertion_succeeds_iff_inWindow
    (assertionInput keyInput currentManifest : Option Json)
    {now : JsString} (nowParses : (dateParse now).isSome) :
    Succeeds (verifyVerificationAssertion assertionInput keyInput now
        currentManifest) ↔
      AssertionChecks assertionInput keyInput currentManifest ∧
        InAssertionWindow now assertionInput := by
  rw [verifyVerificationAssertion_succeeds_iff]
  constructor
  · rintro ⟨assertion, key, isAssertion, isKey, bound, admitted, applicable⟩
    have ordered := VerificationAssertion.ordered isAssertion
    have isWindow : assertionWindow assertionInput =
        some (assertion.verifiedAt, assertion.expiresAt) := by
      rw [assertionWindow, isAssertion, Option.map_some]
    exact ⟨⟨assertion, key, isAssertion, isKey, bound, applicable⟩,
      _, _, isWindow, (windowAdmits_iff nowParses ordered).mp admitted⟩
  · rintro ⟨⟨assertion, key, isAssertion, isKey, bound, applicable⟩,
      start, finish, isWindow, inWindow⟩
    rw [assertionWindow, isAssertion, Option.map_some] at isWindow
    have isStart : assertion.verifiedAt = start :=
      congrArg Prod.fst (Option.some.inj isWindow)
    have isFinish : assertion.expiresAt = finish :=
      congrArg Prod.snd (Option.some.inj isWindow)
    rw [← isStart, ← isFinish] at inWindow
    exact ⟨assertion, key, isAssertion, isKey, bound, inWindow.admits,
      applicable⟩

/-- An assertion that verifies against a manifest concerns it exactly when it
names the right subject, or one of the checks that are made fails. -/
theorem verified_assertion_concerns_iff
    (assertionInput keyInput : Option Json) (value : Json) {now : JsString}
    (nowParses : (dateParse now).isSome) :
    (Succeeds (verifyVerificationAssertion assertionInput keyInput now
          (some value)) →
        ConcernsManifest assertionInput (some value)) ↔
      ConcernsManifest assertionInput (some value) ∨
        ¬ InAssertionWindow now assertionInput ∨
        ¬ AssertionChecks assertionInput keyInput (some value) := by
  rw [verifyVerificationAssertion_succeeds_iff_inWindow _ _ _ nowParses]
  constructor
  · intro concerns
    by_cases inWindow : InAssertionWindow now assertionInput
    · by_cases checks : AssertionChecks assertionInput keyInput (some value)
      · exact Or.inl (concerns ⟨checks, inWindow⟩)
      · exact Or.inr (Or.inr checks)
    · exact Or.inr (Or.inl inWindow)
  · intro condition verifies
    rcases condition with concerns | outside | fails
    · exact concerns
    · exact absurd verifies.2 outside
    · exact absurd verifies.1 fails

end Verification

/-! ## An assertion about another agent -/

/-- The authority key of the sample documents. -/
def sampleIssuerKey : KeyDocument where
  keyId := units "agenid:key:01J8Z3NC5R7YT3W9KM2XQ4VJHB"
  publicKeyB64u := units "gGsTCSTbswlr2XSubZnRSyGM9X4pH_piNzVTZ0rmT-A"
  role := .authority
  controller := units "agenid:authority:node-01"
  createdAt := units "2026-09-13T00:00:00Z"
  status := .active
  retiredAt := none
  revokedAt := none

/-- The sample assertion, about an agent, with the signature over it. -/
def sampleAssertion (subject signature : String) : VerificationAssertion where
  assertionId := units "assertion:01J8Z3P2K8VW4RN7XTQ6MYD5HC"
  subject := units subject
  subjectType := .agent
  level := .L2_DOMAIN_VERIFIED
  claim := .domainControl (units "acmemedical.com")
  authority := units "agenid:authority:node-01"
  evidence :=
    { type := .dnsTxtChallenge
      reference := units "_agenid-challenge.acmemedical.com" }
  verifiedAt := units "2026-09-13T06:00:00Z"
  expiresAt := units "2026-10-13T06:00:00Z"
  scope := units "domain_control_only"
  manifestDigest := units
    "81ba268016595373a12091598403eb1d099b214faed04fdabb5bdb47b473ab5d"
  keyId := units "agenid:key:01J8Z3NC5R7YT3W9KM2XQ4VJHB"
  signature := units signature

/-- The assertion about the agent of the sample manifest. -/
def ownAssertion : VerificationAssertion :=
  sampleAssertion "agenid:01J8Z3K3F2QZ9X6V7R4T8N2W5Y" <|
    "-j7UqsjeAgC-jjGx5W0KZ4PGxMHimL8peyVSKqG482nA9kgJycXIJ3f_qd0l1yShB4uOF5r_" ++
      "ilWvbTPnP9ZTCw"

/-- The assertion about another agent, bound to the sample manifest. -/
def strayAssertion : VerificationAssertion :=
  sampleAssertion "agenid:01J8Z3Q7B4MW6XN2VR9TDK5HCE" <|
    "kO3gQtWIFHqXYcN03Wjyglwap-h_ZT-2bQQlkHI-zKiuwWsdymilW655n_ST-MsSIYQjfult" ++
      "LjYCBlTWgI3NAA"

theorem sampleIssuerKey_accepted :
    letI := samplePlatform
    KeyDocument.schema.accepts (some sampleIssuerKey.toJson) =
      some sampleIssuerKey := by
  rfl

theorem ownAssertion_accepted :
    letI := samplePlatform
    VerificationAssertion.schema.accepts (some ownAssertion.toJson) =
      some ownAssertion := by
  rfl

theorem strayAssertion_accepted :
    letI := samplePlatform
    VerificationAssertion.schema.accepts (some strayAssertion.toJson) =
      some strayAssertion := by
  rfl

theorem ownAssertion_bound :
    letI := samplePlatform
    AssertionBound ownAssertion sampleIssuerKey :=
  let := samplePlatform
  { keyId := rfl
    role := rfl
    controller := rfl
    active := rfl
    signed := by decide }

theorem strayAssertion_bound :
    letI := samplePlatform
    AssertionBound strayAssertion sampleIssuerKey :=
  let := samplePlatform
  { keyId := rfl
    role := rfl
    controller := rfl
    active := rfl
    signed := by decide }

/-- A sample assertion that is accepted and bound to the key verifies against
the sample manifest, whatever its subject. -/
theorem sampleAssertion_verifies {subject signature : String} :
    letI := samplePlatform
    VerificationAssertion.schema.accepts
        (some (sampleAssertion subject signature).toJson) =
      some (sampleAssertion subject signature) →
    AssertionBound (sampleAssertion subject signature) sampleIssuerKey →
    Succeeds (verifyVerificationAssertion
      (some (sampleAssertion subject signature).toJson)
      (some sampleIssuerKey.toJson) (units "2026-10-01T00:00:00Z")
      (some sampleManifest.toJson)) := by
  let := samplePlatform
  intro accepted bound
  have inWindow : InWindow (units "2026-10-01T00:00:00Z")
      (sampleAssertion subject signature).verifiedAt
      (sampleAssertion subject signature).expiresAt :=
    ⟨_, _, _, rfl, rfl, rfl, by decide, by decide⟩
  have isDigest : manifestDigest sampleManifest =
      ownAssertion.manifestDigest := by
    decide
  have applicable : Applicable (sampleAssertion subject signature)
      (some sampleManifest.toJson) :=
    Or.inr ⟨sampleManifest, sampleManifest_accepted, isDigest⟩
  exact (verifyVerificationAssertion_succeeds_iff _ _ _ _).mpr
    ⟨sampleAssertion subject signature, sampleIssuerKey, accepted,
      sampleIssuerKey_accepted, bound, inWindow.admits, applicable⟩

/-- A signed assertion about another agent verifies against the sample
manifest. -/
theorem stray_assertion_verifies :
    letI := samplePlatform
    (dateParse (units "2026-10-01T00:00:00Z")).isSome ∧
      ¬ (Succeeds (verifyVerificationAssertion (some strayAssertion.toJson)
            (some sampleIssuerKey.toJson) (units "2026-10-01T00:00:00Z")
            (some sampleManifest.toJson)) →
        ConcernsManifest (some strayAssertion.toJson)
          (some sampleManifest.toJson)) := by
  let := samplePlatform
  refine ⟨by decide, ?_⟩
  intro concerns
  have verifies := sampleAssertion_verifies strayAssertion_accepted
    strayAssertion_bound
  have concerned := concerns verifies strayAssertion sampleManifest
    strayAssertion_accepted sampleManifest_accepted
  have sameAgent := concerned.agent rfl
  exact absurd sameAgent (by decide)

/-- The assertion about the agent of the sample manifest verifies against it
and concerns it. -/
theorem verified_assertion_concerns_sample :
    letI := samplePlatform
    Succeeds (verifyVerificationAssertion (some ownAssertion.toJson)
        (some sampleIssuerKey.toJson) (units "2026-10-01T00:00:00Z")
        (some sampleManifest.toJson)) ∧
      ConcernsManifest (some ownAssertion.toJson)
        (some sampleManifest.toJson) := by
  let := samplePlatform
  have verifies := sampleAssertion_verifies ownAssertion_accepted
    ownAssertion_bound
  have nowParses : (dateParse (units "2026-10-01T00:00:00Z")).isSome := by
    decide
  refine ⟨verifies, ?_⟩
  apply (verified_assertion_concerns_iff _ _ _ nowParses).mpr (Or.inl ?_)
  · exact verifies
  · intro assertion manifest isAssertion isManifest
    rw [ownAssertion_accepted] at isAssertion
    rw [sampleManifest_accepted] at isManifest
    rw [← Option.some.inj isAssertion, ← Option.some.inj isManifest]
    exact ⟨fun _ => rfl, nofun⟩

end AgenId.Core
