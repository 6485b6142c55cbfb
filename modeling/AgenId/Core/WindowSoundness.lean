import AgenId.Core.Decision

/-!
# Validity windows and the clock

The comparisons of a verification admit every clock in the window of the
document, and also every clock that does not denote an instant: with `NaN` on
one side, neither comparison holds.  A verification is therefore sound for its
window exactly when the clock parses or another check fails.
-/

namespace AgenId.Core

open AgenId.Ecma
open AgenId.Validation
open AgenId.Validation.Schema

section Verification

variable [Platform]

/-- A clock denotes an instant of a window. -/
def InWindow (now start finish : JsString) : Prop :=
  ∃ instant first last,
    dateParse now = some instant ∧ dateParse start = some first ∧
    dateParse finish = some last ∧ first ≤ instant ∧ instant ≤ last

theorem InWindow.nowParses
    {now start finish : JsString} (inWindow : InWindow now start finish) :
    (dateParse now).isSome := by
  obtain ⟨instant, _, _, isInstant, -⟩ := inWindow
  simp [isInstant]

theorem InWindow.admits
    {now start finish : JsString}
    (inWindow : InWindow now start finish) : windowAdmits now start finish := by
  obtain ⟨instant, first, last, isInstant, isFirst, isLast, started,
    unfinished⟩ := inWindow
  rw [windowAdmits, isInstant, isFirst, isLast, dateLess_some, dateLess_some]
  exact ⟨decide_eq_false (not_lt.mpr started),
    decide_eq_false (not_lt.mpr unfinished)⟩

/-- A clock that is not an instant passes both comparisons. -/
theorem windowAdmits_of_not_parses
    {now : JsString} (unparsed : dateParse now = none)
    (start finish : JsString) :
    windowAdmits now start finish := by
  simp [windowAdmits, unparsed]

theorem windowAdmits_iff
    {now start finish : JsString}
    (nowParses : (dateParse now).isSome)
    (ordered : dateLess (dateParse start) (dateParse finish) = true) :
    windowAdmits now start finish ↔ InWindow now start finish := by
  obtain ⟨instant, isInstant⟩ := Option.isSome_iff_exists.mp nowParses
  obtain ⟨first, last, isFirst, isLast, -⟩ := dateLess_eq_true_iff.mp ordered
  simp [windowAdmits, InWindow, isInstant, isFirst, isLast]

/-! ## The window of an accepted document -/

/-- The window of a manifest proof. -/
def proofWindow (proofInput : Option Json) : Option (JsString × JsString) :=
  (ManifestProof.schema.accepts proofInput).map fun proof =>
    (proof.createdAt, proof.expiresAt)

/-- The window of a verification assertion. -/
def assertionWindow (assertionInput : Option Json) :
    Option (JsString × JsString) :=
  (VerificationAssertion.schema.accepts assertionInput).map fun assertion =>
    (assertion.verifiedAt, assertion.expiresAt)

/-- The window of a grant. -/
def grantWindow (grantInput : Option Json) : Option (JsString × JsString) :=
  (AuthorizationGrant.schema.accepts grantInput).map fun grant =>
    (grant.notBefore, grant.expiresAt)

theorem ManifestProof.ordered
    {proofInput : Option Json} {proof : ManifestProof}
    (accepted : ManifestProof.schema.accepts proofInput = some proof) :
    dateLess (dateParse proof.createdAt) (dateParse proof.expiresAt) =
      true := by
  obtain ⟨-, ordered⟩ := accepts_check_eq_some_iff.mp accepted
  exact ordered

theorem VerificationAssertion.ordered
    {assertionInput : Option Json} {assertion : VerificationAssertion}
    (accepted : VerificationAssertion.schema.accepts assertionInput =
      some assertion) :
    dateLess (dateParse assertion.verifiedAt)
      (dateParse assertion.expiresAt) = true := by
  obtain ⟨-, rules⟩ := accepts_superRefine_eq_some_iff.mp accepted
  simp only [assertionRules, List.append_eq_nil_iff, ruleIssue_eq_nil_iff]
    at rules
  exact rules.1.2

theorem AuthorizationGrant.ordered
    {grantInput : Option Json} {grant : AuthorizationGrant}
    (accepted : AuthorizationGrant.schema.accepts grantInput = some grant) :
    dateLess (dateParse grant.notBefore) (dateParse grant.expiresAt) =
      true := by
  obtain ⟨-, rules⟩ := accepts_superRefine_eq_some_iff.mp accepted
  simp only [grantRules, List.append_eq_nil_iff, ruleIssue_eq_nil_iff]
    at rules
  exact rules.1

/-! ## Soundness -/

/-- A success places the clock in the window. -/
def WindowSound (succeeds : Prop) (now : JsString)
    (window : Option (JsString × JsString)) : Prop :=
  succeeds → ∃ start finish,
    window = some (start, finish) ∧ InWindow now start finish

/-- A procedure that compares the clock with both ends of a window, and that
succeeds whenever its other checks and the comparisons do, is sound exactly
when the clock parses or another check fails. -/
theorem windowSound_iff
    {succeeds otherChecks : Prop} {now : JsString}
    {window : Option (JsString × JsString)}
    (compares : succeeds → ∃ start finish, window = some (start, finish) ∧
      dateLess (dateParse start) (dateParse finish) = true ∧
      windowAdmits now start finish)
    (checks : succeeds → otherChecks)
    (unguarded : dateParse now = none → otherChecks → succeeds) :
    WindowSound succeeds now window ↔
      (dateParse now).isSome ∨ ¬ otherChecks := by
  constructor
  · intro sound
    by_contra neither
    obtain ⟨unparsed, holds⟩ := not_or.mp neither
    obtain ⟨_, _, -, inWindow⟩ :=
      sound (unguarded (Option.not_isSome_iff_eq_none.mp unparsed)
        (not_not.mp holds))
    exact unparsed inWindow.nowParses
  · rintro (nowParses | fails) success
    · obtain ⟨start, finish, isWindow, ordered, admitted⟩ := compares success
      exact ⟨start, finish, isWindow,
        (windowAdmits_iff nowParses ordered).mp admitted⟩
    · exact absurd (checks success) fails

/-- The checks of a manifest proof besides those of the clock. -/
def ProofChecks (proofInput manifestInput keyInput : Option Json) : Prop :=
  ∃ proof manifest key,
    ManifestProof.schema.accepts proofInput = some proof ∧
    Manifest.schema.accepts manifestInput = some manifest ∧
    KeyDocument.schema.accepts keyInput = some key ∧
    ProofBound proof manifest key

/-- The checks of a verification assertion besides those of the clock. -/
def AssertionChecks (assertionInput keyInput currentManifest : Option Json) :
    Prop :=
  ∃ assertion key,
    VerificationAssertion.schema.accepts assertionInput = some assertion ∧
    KeyDocument.schema.accepts keyInput = some key ∧
    AssertionBound assertion key ∧ Applicable assertion currentManifest

/-- The checks of a grant besides those of the clock. -/
def GrantChecks (grantInput keyInput : Option Json) : Prop :=
  ∃ grant key,
    AuthorizationGrant.schema.accepts grantInput = some grant ∧
    KeyDocument.schema.accepts keyInput = some key ∧ GrantBound grant key

/-- The outcome of a grant verification is a success. -/
def GrantSucceeds (outcome : Except AgenIdError GrantVerifyResult) : Prop :=
  ∃ granted, outcome = .ok (.ok granted)

theorem verifyManifestProof_windowSound_iff
    (proofInput manifestInput keyInput : Option Json) (now : JsString) :
    WindowSound
        (Succeeds (verifyManifestProof proofInput manifestInput keyInput now))
        now (proofWindow proofInput) ↔
      (dateParse now).isSome ∨
        ¬ ProofChecks proofInput manifestInput keyInput := by
  apply windowSound_iff
  · rw [verifyManifestProof_succeeds_iff]
    rintro ⟨proof, _, _, isProof, -, -, -, admitted⟩
    exact ⟨_, _, by rw [proofWindow, isProof]; rfl,
      ManifestProof.ordered isProof,
      admitted⟩
  · rw [verifyManifestProof_succeeds_iff]
    rintro ⟨proof, manifest, key, isProof, isManifest, isKey, bound, -⟩
    exact ⟨proof, manifest, key, isProof, isManifest, isKey, bound⟩
  · rintro unparsed
      ⟨proof, manifest, key, isProof, isManifest, isKey, bound⟩
    exact (verifyManifestProof_succeeds_iff _ _ _ _).mpr
      ⟨proof, manifest, key, isProof, isManifest, isKey, bound,
        windowAdmits_of_not_parses unparsed _ _⟩

theorem verifyVerificationAssertion_windowSound_iff
    (assertionInput keyInput currentManifest : Option Json)
    (now : JsString) :
    WindowSound
        (Succeeds (verifyVerificationAssertion assertionInput keyInput now
          currentManifest))
        now (assertionWindow assertionInput) ↔
      (dateParse now).isSome ∨
        ¬ AssertionChecks assertionInput keyInput currentManifest := by
  apply windowSound_iff
  · rw [verifyVerificationAssertion_succeeds_iff]
    rintro ⟨assertion, _, isAssertion, -, -, admitted, -⟩
    exact ⟨_, _, by rw [assertionWindow, isAssertion]; rfl,
      VerificationAssertion.ordered isAssertion, admitted⟩
  · rw [verifyVerificationAssertion_succeeds_iff]
    rintro ⟨assertion, key, isAssertion, isKey, bound, -, applicable⟩
    exact ⟨assertion, key, isAssertion, isKey, bound, applicable⟩
  · rintro unparsed
      ⟨assertion, key, isAssertion, isKey, bound, applicable⟩
    exact (verifyVerificationAssertion_succeeds_iff _ _ _ _).mpr
      ⟨assertion, key, isAssertion, isKey, bound,
        windowAdmits_of_not_parses unparsed _ _, applicable⟩

theorem verifyAuthorizationGrant_windowSound_iff
    (grantInput keyInput : Option Json) (now : JsString) :
    WindowSound
        (GrantSucceeds (verifyAuthorizationGrant grantInput keyInput now))
        now (grantWindow grantInput) ↔
      (dateParse now).isSome ∨ ¬ GrantChecks grantInput keyInput := by
  apply windowSound_iff
  · rintro ⟨granted, verifies⟩
    obtain ⟨grant, _, isGrant, -, -, admitted, -⟩ :=
      verifyAuthorizationGrant_eq_ok_iff.mp verifies
    exact ⟨_, _, by rw [grantWindow, isGrant]; rfl,
      AuthorizationGrant.ordered isGrant,
      admitted⟩
  · rintro ⟨granted, verifies⟩
    obtain ⟨grant, key, isGrant, isKey, bound, -⟩ :=
      verifyAuthorizationGrant_eq_ok_iff.mp verifies
    exact ⟨grant, key, isGrant, isKey, bound⟩
  · rintro unparsed ⟨grant, key, isGrant, isKey, bound⟩
    exact ⟨grant.granted, verifyAuthorizationGrant_eq_ok_iff.mpr
      ⟨grant, key, isGrant, isKey, bound,
        windowAdmits_of_not_parses unparsed _ _, rfl⟩⟩

/-- No clock that is not an instant makes a revocation effective. -/
theorem not_withdraws_of_not_parses
    {input : EvaluateAuthorizationInput}
    (unparsed : dateParse input.now = none)
    (grant : AuthorizationGrant) (value : Json) :
    ¬ Withdraws input grant value := by
  rintro ⟨_, _, _, -, -, -, -, -, instant, _, isInstant, -⟩
  simp [unparsed] at isInstant

theorem evaluateAuthorization_windowSound_iff
    (input : EvaluateAuthorizationInput) :
    WindowSound (Permits input) input.now (grantWindow input.grant) ↔
      (dateParse input.now).isSome ∨
        ¬ ∃ grant key, PermitsUpToClock input grant key := by
  apply windowSound_iff
  · rw [permits_iff]
    rintro ⟨grant, key, permits, admitted, -⟩
    exact ⟨_, _, by rw [grantWindow, permits.acceptsGrant]; rfl,
      AuthorizationGrant.ordered permits.acceptsGrant, admitted⟩
  · rw [permits_iff]
    rintro ⟨grant, key, permits, -⟩
    exact ⟨grant, key, permits⟩
  · rintro unparsed ⟨grant, key, permits⟩
    exact (permits_iff input).mpr ⟨grant, key, permits,
      windowAdmits_of_not_parses unparsed _ _,
      fun value _ => not_withdraws_of_not_parses unparsed grant value⟩

theorem not_permits_of_withdraws
    {input : EvaluateAuthorizationInput} {grant : AuthorizationGrant}
    (accepted : AuthorizationGrant.schema.accepts input.grant = some grant)
    {value : Json} (isMember : value ∈ input.revocationList)
    (withdraws : Withdraws input grant value) :
    ¬ Permits input := by
  rw [permits_iff]
  rintro ⟨other, _, permits, -, upheld⟩
  obtain rfl : other = grant :=
    Option.some.inj (permits.acceptsGrant.symm.trans accepted)
  exact upheld value isMember withdraws

/-- Every verification, and the decision, is sound for its window exactly when
the clock parses or another check fails; a withdrawn grant is never
permitted, whatever the clock. -/
theorem verification_windowSound_iff
    (proofInput manifestInput operatorKey assertionInput authorityKey
      currentManifest grantInput principalKey : Option Json)
    (now : JsString) (input : EvaluateAuthorizationInput) :
    (WindowSound
        (Succeeds (verifyManifestProof proofInput manifestInput operatorKey
          now))
        now (proofWindow proofInput) ↔
      (dateParse now).isSome ∨
        ¬ ProofChecks proofInput manifestInput operatorKey) ∧
    (WindowSound
        (Succeeds (verifyVerificationAssertion assertionInput authorityKey
          now currentManifest))
        now (assertionWindow assertionInput) ↔
      (dateParse now).isSome ∨
        ¬ AssertionChecks assertionInput authorityKey currentManifest) ∧
    (WindowSound
        (GrantSucceeds (verifyAuthorizationGrant grantInput principalKey now))
        now (grantWindow grantInput) ↔
      (dateParse now).isSome ∨ ¬ GrantChecks grantInput principalKey) ∧
    (WindowSound (Permits input) input.now (grantWindow input.grant) ↔
      (dateParse input.now).isSome ∨
        ¬ ∃ grant key, PermitsUpToClock input grant key) ∧
    ∀ grant, AuthorizationGrant.schema.accepts input.grant = some grant →
      (∃ value ∈ input.revocationList, Withdraws input grant value) →
      ¬ Permits input :=
  ⟨verifyManifestProof_windowSound_iff _ _ _ _,
    verifyVerificationAssertion_windowSound_iff _ _ _ _,
    verifyAuthorizationGrant_windowSound_iff _ _ _,
    evaluateAuthorization_windowSound_iff input,
    fun _ accepted ⟨_, isMember, withdraws⟩ =>
      not_permits_of_withdraws accepted isMember withdraws⟩

end Verification

/-! ## A proof that verifies at no instant -/

/-- The runtime on the sample documents, whose signatures all verify: the
hash is the one of the sample manifest. -/
@[reducible]
def samplePlatform : Platform where
  sha256 _ :=
    [0x81, 0xba, 0x26, 0x80, 0x16, 0x59, 0x53, 0x73,
      0xa1, 0x20, 0x91, 0x59, 0x84, 0x03, 0xeb, 0x1d,
      0x09, 0x9b, 0x21, 0x4f, 0xae, 0xd0, 0x4f, 0xda,
      0xbb, 0x5b, 0xdb, 0x47, 0xb4, 0x73, 0xab, 0x5d]
  ed25519Verify _ _ _ := true
  parseOtherDate _ := none
  isEmail _ := true
  issueText _ := units "Invalid input"
  localeCompare left right := compareOfLessAndEq left right

/-- A manifest. -/
def sampleManifest : Manifest where
  agentId := units "agenid:01J8Z3K3F2QZ9X6V7R4T8N2W5Y"
  identity :=
    { name := units "Sarah"
      description := some
        (units "Inbound appointment scheduling assistant") }
  ownership :=
    { operator := units "Acme Medical LLC"
      operatorDomain := units "acmemedical.com"
      contact := some (units "trust@acmemedical.com") }
  purpose :=
    { summary := units
        "Schedules and reschedules patient appointments by phone and SMS"
      channels := [.voice, .sms] }
  disclosure :=
    { isAi := true, disclosesToUser := true, humanEscalation := true }

/-- The proof of the manifest, signed by the operator key. -/
def sampleProof : ManifestProof where
  agentId := units "agenid:01J8Z3K3F2QZ9X6V7R4T8N2W5Y"
  manifestDigest := units
    "81ba268016595373a12091598403eb1d099b214faed04fdabb5bdb47b473ab5d"
  keyId := units "agenid:key:01J8Z3M9Q4XK2P7VBN6TDR8HWE"
  createdAt := units "2026-09-13T00:00:00Z"
  expiresAt := units "2026-12-12T00:00:00Z"
  signature := units <| "gtXt3CI35xZiHv16YsKWWJuuZ8TXTeXTzWonQ7braZ7P3aC4" ++
    "RJJxJY0iGIax86SLybRp3nxlP4Fj0WmkSXukBQ"

/-- The operator key. -/
def sampleOperatorKey : KeyDocument where
  keyId := units "agenid:key:01J8Z3M9Q4XK2P7VBN6TDR8HWE"
  publicKeyB64u := units "C2XCaQ41IZoFum-4PbNJ1aUCevSZwClSzjyZ-x85T3g"
  role := .operator
  controller := units "agenid:01J8Z3K3F2QZ9X6V7R4T8N2W5Y"
  createdAt := units "2026-09-13T00:00:00Z"
  status := .active
  retiredAt := none
  revokedAt := none

theorem sampleProof_accepted :
    letI := samplePlatform
    ManifestProof.schema.accepts (some sampleProof.toJson) =
      some sampleProof := by
  rfl

theorem sampleManifest_accepted :
    letI := samplePlatform
    Manifest.schema.accepts (some sampleManifest.toJson) =
      some sampleManifest := by
  rfl

theorem sampleOperatorKey_accepted :
    letI := samplePlatform
    KeyDocument.schema.accepts (some sampleOperatorKey.toJson) =
      some sampleOperatorKey := by
  rfl

theorem sampleProof_bound :
    letI := samplePlatform
    ProofBound sampleProof sampleManifest sampleOperatorKey :=
  let := samplePlatform
  { digest := by decide
    agentId := rfl
    keyId := rfl
    role := rfl
    controller := rfl
    active := rfl
    signed := by decide }

/-- A proof verifies at a clock that denotes no instant. -/
theorem verifyManifestProof_unsound_at_no_instant :
    letI := samplePlatform
    ¬ WindowSound
      (Succeeds (verifyManifestProof (some sampleProof.toJson)
        (some sampleManifest.toJson) (some sampleOperatorKey.toJson)
        (units "not-a-date")))
      (units "not-a-date") (proofWindow (some sampleProof.toJson)) := by
  let := samplePlatform
  rw [verifyManifestProof_windowSound_iff]
  have unparsed : dateParse (units "not-a-date") = none := by decide
  simp only [unparsed, Option.isSome_none, Bool.false_eq_true, false_or,
    not_not]
  exact ⟨sampleProof, sampleManifest, sampleOperatorKey,
    sampleProof_accepted, sampleManifest_accepted,
    sampleOperatorKey_accepted, sampleProof_bound⟩

end AgenId.Core
