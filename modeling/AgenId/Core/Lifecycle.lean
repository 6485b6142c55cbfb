import AgenId.Core.SignedObject

/-!
# The lifecycle of a key

A key is active until it ends: at the earlier of the instants at which it is
retired and at which it is revoked.  Ending a key changes nothing for the
objects that are dated before it ends, and makes the others fail at the
activity check.  Instants are those of `Date.parse`.
-/

namespace AgenId.Core

open AgenId.Ecma
open AgenId.Validation
open AgenId.Validation.Schema

/-! ## Timestamps of accepted documents -/

section Timestamps

variable [Platform]

theorem parses_of_accepts_Rfc3339Utc
    {input : Option Json} {text : JsString}
    (accepted : Rfc3339Utc.accepts input = some text) :
    (dateParse text).isSome := by
  obtain ⟨-, parses⟩ := accepts_check_eq_some_iff.mp accepted
  exact parses

theorem Revocation.revokedAt_parses
    {input : Option Json} {revocation : Revocation}
    (accepted : Revocation.schema.accepts input = some revocation) :
    (dateParse revocation.revokedAt).isSome := by
  have isBase := (accepts_superRefine_eq_some_iff.mp accepted).1
  obtain ⟨members, -, -, fields⟩ :=
    accepts_strictObject_eq_some_iff.mp isBase
  simp only [Parse.accepted_seq_eq_some_iff, Parse.accepted_map_eq_some_iff,
    Parse.accepted_seqRight_eq_some_iff] at fields
  obtain ⟨-, _, -, _, ⟨_, -, _, ⟨revokedAt, isRevokedAt, _, ⟨_, -, _, ⟨_, -, _,
    ⟨_, -, _, ⟨_, -, rfl⟩, rfl⟩, rfl⟩, rfl⟩, rfl⟩, rfl⟩, rfl⟩ := fields
  rw [accepted_field] at isRevokedAt
  exact parses_of_accepts_Rfc3339Utc isRevokedAt

end Timestamps

/-! ## Activity -/

section Activity

variable [Platform]

/-- A key ends at an instant: it is retired or revoked then. -/
def KeyDocument.EndsAt (key : KeyDocument) (ending : Int) : Prop :=
  ∃ text, (key.retiredAt = some text ∨ key.revokedAt = some text) ∧
    dateParse text = some ending

/-- A key is active at the instants before each of its ends. -/
def KeyDocument.ActiveAt (key : KeyDocument) (instant : Int) : Prop :=
  ∀ ending, key.EndsAt ending → instant < ending

theorem not_any_atLeast_iff
    {text : Option JsString} {instant : Int} :
    text.any (fun ending => dateAtLeast (some instant) (dateParse ending)) =
        false ↔
      ∀ ending last, text = some ending → dateParse ending = some last →
        instant < last := by
  cases text with
  | none => simp
  | some ending =>
      cases parsed : dateParse ending with
      | none =>
          simp only [Option.any_some, dateAtLeast_none_right, true_iff, parsed]
          intro other last same isLast
          obtain rfl := Option.some.inj same
          cases parsed.symm.trans isLast
      | some last =>
          simp only [Option.any_some, parsed, dateAtLeast_some,
            decide_eq_false_iff_not, not_le]
          constructor
          · intro before other found same isFound
            obtain rfl := Option.some.inj same
            obtain rfl := Option.some.inj (parsed.symm.trans isFound)
            exact before
          · intro before
            exact before ending last rfl parsed

theorem KeyDocument.revokedAt_ne_none
    {keyInput : Option Json} {key : KeyDocument}
    (isKey : KeyDocument.schema.accepts keyInput = some key)
    (isRevoked : key.status = .revoked) : key.revokedAt ≠ none := by
  obtain ⟨-, coupled⟩ := accepts_check_eq_some_iff.mp isKey
  exact (of_decide_eq_true coupled).mp isRevoked

/-- A key document is active at an instant exactly when none of its ends is
at or before it. -/
theorem keyActiveAt_iff
    {keyInput : Option Json} {key : KeyDocument} {text : JsString}
    {instant : Int} (isKey : KeyDocument.schema.accepts keyInput = some key)
    (isInstant : dateParse text = some instant) :
    keyActiveAt key text = true ↔ key.ActiveAt instant := by
  have notUndated : ¬ (key.status = .revoked ∧ key.revokedAt = none) := by
    intro undated
    exact KeyDocument.revokedAt_ne_none isKey undated.1 undated.2
  have unfolded : keyActiveAt key text = true ↔
      key.revokedAt.any (fun ending =>
          dateAtLeast (some instant) (dateParse ending)) = false ∧
        key.retiredAt.any (fun ending =>
          dateAtLeast (some instant) (dateParse ending)) = false := by
    unfold keyActiveAt
    dsimp only
    rw [isInstant, if_neg notUndated]
    cases key.revokedAt.any _ <;> cases key.retiredAt.any _ <;> simp
  rw [unfolded, not_any_atLeast_iff, not_any_atLeast_iff]
  constructor
  · intro ⟨revoked, retired⟩ ending ⟨endText, isEnd, parsed⟩
    rcases isEnd with isRetired | isRevoked
    · exact retired endText ending isRetired parsed
    · exact revoked endText ending isRevoked parsed
  · intro active
    constructor
    · intro endText ending isRevoked parsed
      exact active ending ⟨endText, Or.inr isRevoked, parsed⟩
    · intro endText ending isRetired parsed
      exact active ending ⟨endText, Or.inl isRetired, parsed⟩

theorem keyActiveAt_antitone
    {key : KeyDocument} {earlier later : JsString} {first last : Int}
    (isFirst : dateParse earlier = some first)
    (isLast : dateParse later = some last) (ordered : first ≤ last)
    (active : keyActiveAt key later = true) :
    keyActiveAt key earlier = true := by
  have antitone : ∀ text : Option JsString,
      text.any (fun ending =>
          dateAtLeast (some last) (dateParse ending)) = false →
        text.any (fun ending =>
          dateAtLeast (some first) (dateParse ending)) = false := by
    intro text before
    rw [not_any_atLeast_iff] at before ⊢
    intro ending end_ isEnding parsed
    exact lt_of_le_of_lt ordered (before ending end_ isEnding parsed)
  unfold keyActiveAt at active ⊢
  dsimp only at active ⊢
  rw [isLast] at active
  rw [isFirst]
  by_cases revoked : key.revokedAt.any (fun ending =>
      dateAtLeast (some last) (dateParse ending)) = true
  · rw [if_pos revoked] at active
    cases active
  rw [if_neg revoked] at active
  by_cases retired : key.retiredAt.any (fun ending =>
      dateAtLeast (some last) (dateParse ending)) = true
  · rw [if_pos retired] at active
    cases active
  rw [if_neg retired] at active
  rw [antitone _ (Bool.eq_false_iff.mpr revoked),
    antitone _ (Bool.eq_false_iff.mpr retired)]
  exact active

/-! ## One key under two documents -/

/-- Two documents of one key, which differ in lifecycle members only. -/
structure SameKey (key later : KeyDocument) : Prop where
  keyId : later.keyId = key.keyId
  publicKeyB64u : later.publicKeyB64u = key.publicKeyB64u
  role : later.role = key.role
  controller : later.controller = key.controller
  createdAt : later.createdAt = key.createdAt

theorem SameKey.signatureVerifies_eq
    {key later : KeyDocument} (same : SameKey key later) (signed : Json)
    (signature : JsString) :
    signatureVerifies later signed signature =
      signatureVerifies key signed signature := by
  rw [signatureVerifies, signatureVerifies, same.publicKeyB64u]

/-- What becomes of a verification when the document of the key changes: it
stays if the key is still active at the dating instant, and fails at the
activity check if not. -/
def Preserves {Result : Type} (isInactive : Result → Prop) (active : Bool)
    (after before : Except AgenIdError Result) : Prop :=
  (active = true → after = before) ∧
    (active = false → ∃ result, after = .ok result ∧ isInactive result)

omit [Platform] in
theorem Preserves.map
    {Result : Type} {isInactive : Result → Prop} {active : Bool}
    {after before : Except AgenIdError Result}
    (preserves : Preserves isInactive active after before)
    {wrap : Result → Verification}
    (wraps : ∀ result, isInactive result → (wrap result).isInactive = true) :
    Preserves (fun verification => verification.isInactive = true) active
      (after.map wrap) (before.map wrap) := by
  constructor
  · intro isActive
    rw [preserves.1 isActive]
  · intro inactive
    obtain ⟨result, isResult, fails⟩ := preserves.2 inactive
    rw [isResult]
    exact ⟨wrap result, rfl, wraps result fails⟩

theorem SameKey.preserves_proof
    {key later : KeyDocument} (same : SameKey key later)
    {proof : ManifestProof} {manifest : Manifest}
    (bound : ProofBound proof manifest key) (now : JsString) :
    Preserves (fun result => ∃ message,
        result = .fail .keyNotActiveAtSigningTime message)
      (keyActiveAt later proof.createdAt)
      (verifyParsedProof proof manifest later now)
      (verifyParsedProof proof manifest key now) := by
  unfold verifyParsedProof
  rw [same.signatureVerifies_eq, same.keyId, same.role, same.controller,
    manifestDigestHex_eq]
  constructor
  · intro isActive
    rw [isActive, bound.active]
  · intro inactive
    simp only [except_ok_bind]
    rw [if_neg (not_or.mpr
        ⟨not_not.mpr bound.digest, not_not.mpr bound.agentId⟩),
      if_neg (not_not.mpr bound.keyId), if_neg (not_not.mpr bound.role),
      if_neg (not_not.mpr bound.controller),
      if_pos (show (!keyActiveAt later proof.createdAt) = true by
        rw [inactive]; rfl)]
    exact ⟨_, rfl, _, rfl⟩

theorem SameKey.preserves_assertion
    {key later : KeyDocument} (same : SameKey key later)
    {assertion : VerificationAssertion} (bound : AssertionBound assertion key)
    (now : JsString) (currentManifest : Option Json) :
    Preserves (fun result => ∃ message,
        result = .fail .keyNotActiveAtSigningTime message)
      (keyActiveAt later assertion.verifiedAt)
      (verifyParsedAssertion assertion later now currentManifest)
      (verifyParsedAssertion assertion key now currentManifest) := by
  unfold verifyParsedAssertion
  rw [same.signatureVerifies_eq, same.keyId, same.role, same.controller]
  constructor
  · intro isActive
    rw [isActive, bound.active]
  · intro inactive
    rw [if_neg (not_not.mpr bound.keyId), if_neg (not_not.mpr bound.role),
      if_neg (not_not.mpr bound.controller),
      if_pos (show (!keyActiveAt later assertion.verifiedAt) = true by
        rw [inactive]; rfl)]
    exact ⟨_, rfl, _, rfl⟩

theorem SameKey.preserves_grant
    {key later : KeyDocument} (same : SameKey key later)
    {grant : AuthorizationGrant} (bound : GrantBound grant key)
    (now : JsString) :
    Preserves (fun result => ∃ message,
        result = .fail .keyNotActiveAtSigningTime message)
      (keyActiveAt later grant.notBefore)
      (verifyParsedGrant grant later now)
      (verifyParsedGrant grant key now) := by
  unfold verifyParsedGrant
  rw [same.signatureVerifies_eq, same.keyId, same.role, same.controller]
  constructor
  · intro isActive
    rw [isActive, bound.active]
  · intro inactive
    rw [if_neg (not_not.mpr bound.keyId), if_neg (not_not.mpr bound.role),
      if_neg (not_not.mpr bound.controller),
      if_pos (show (!keyActiveAt later grant.notBefore) = true by
        rw [inactive]; rfl)]
    exact ⟨_, rfl, _, rfl⟩

theorem SameKey.preserves_revocation
    {key later : KeyDocument} (same : SameKey key later)
    {revocation : Revocation} (bound : RevocationBound revocation key) :
    Preserves (fun result => ∃ message,
        result = .fail .keyNotActiveAtSigningTime message)
      (keyActiveAt later revocation.revokedAt)
      (verifyParsedRevocation revocation later)
      (verifyParsedRevocation revocation key) := by
  unfold verifyParsedRevocation
  rw [same.signatureVerifies_eq, same.keyId, same.role]
  constructor
  · intro isActive
    rw [isActive, bound.active]
  · intro inactive
    dsimp only
    rw [if_neg (not_not.mpr bound.keyId), if_neg (not_not.mpr bound.role),
      if_pos (show (!keyActiveAt later revocation.revokedAt) = true by
        rw [inactive]; rfl)]
    exact ⟨_, rfl, _, rfl⟩

/-! ## History -/

/-- An object that verifies is accepted, dated and signed while its key was
active, and its verifications under another document of the key are as the
activity of that document has them. -/
theorem SignedObject.Verifies.preserves
    {object : SignedObject} {keyInput laterInput : Option Json}
    {key later : KeyDocument} {verifiedNow : JsString}
    (verifies : object.Verifies keyInput verifiedNow)
    (isKey : KeyDocument.schema.accepts keyInput = some key)
    (isLater : KeyDocument.schema.accepts laterInput = some later)
    (same : SameKey key later) :
    ∃ dated, object.datedAt = some dated ∧ (dateParse dated).isSome ∧
      ∀ now, Preserves (fun verification => verification.isInactive = true)
        (keyActiveAt later dated) (object.verify laterInput now)
        (object.verify keyInput now) := by
  cases object with
  | proof proofInput manifestInput =>
      obtain ⟨proof, manifest, other, isProof, isManifest, isOther, bound, -⟩ :=
        (verifyManifestProof_succeeds_iff _ _ _ _).mp
          (verifies_proof_iff.mp verifies)
      obtain rfl := Option.some.inj (isKey.symm.trans isOther)
      obtain ⟨_, _, parsed, -⟩ :=
        dateLess_eq_true_iff.mp (ManifestProof.ordered isProof)
      refine ⟨proof.createdAt, by simp [SignedObject.datedAt, isProof],
        by simp [parsed], ?_⟩
      intro now
      unfold SignedObject.verify verifyManifestProof
      dsimp only
      rw [safeParse_of_accepts isProof, safeParse_of_accepts isManifest,
        safeParse_of_accepts isKey, safeParse_of_accepts isLater]
      refine (same.preserves_proof bound now).map ?_
      rintro _ ⟨message, rfl⟩
      rfl
  | assertion assertionInput currentManifest =>
      obtain ⟨assertion, other, isAssertion, isOther, bound, -⟩ :=
        (verifyVerificationAssertion_succeeds_iff _ _ _ _).mp
          (verifies_assertion_iff.mp verifies)
      obtain rfl := Option.some.inj (isKey.symm.trans isOther)
      obtain ⟨_, _, parsed, -⟩ :=
        dateLess_eq_true_iff.mp (VerificationAssertion.ordered isAssertion)
      refine ⟨assertion.verifiedAt, by simp [SignedObject.datedAt, isAssertion],
        by simp [parsed], ?_⟩
      intro now
      unfold SignedObject.verify verifyVerificationAssertion
      dsimp only
      rw [safeParse_of_accepts isAssertion, safeParse_of_accepts isKey,
        safeParse_of_accepts isLater]
      refine (same.preserves_assertion bound now currentManifest).map ?_
      rintro _ ⟨message, rfl⟩
      rfl
  | grant grantInput =>
      obtain ⟨granted, isOk⟩ := verifies_grant_iff.mp verifies
      obtain ⟨grant, other, isGrant, isOther, bound, -⟩ :=
        verifyAuthorizationGrant_eq_ok_iff.mp isOk
      obtain rfl := Option.some.inj (isKey.symm.trans isOther)
      obtain ⟨_, _, parsed, -⟩ :=
        dateLess_eq_true_iff.mp (AuthorizationGrant.ordered isGrant)
      refine ⟨grant.notBefore, by simp [SignedObject.datedAt, isGrant],
        by simp [parsed], ?_⟩
      intro now
      unfold SignedObject.verify verifyAuthorizationGrant
      dsimp only
      rw [safeParse_of_accepts isGrant, safeParse_of_accepts isKey,
        safeParse_of_accepts isLater]
      refine (same.preserves_grant bound now).map ?_
      rintro _ ⟨message, rfl⟩
      rfl
  | revocation revocationInput =>
      obtain ⟨revokes, revokesType, revokedAt, isOk⟩ :=
        verifies_revocation_iff.mp verifies
      obtain ⟨revocation, other, isRevocation, isOther, bound, -⟩ :=
        verifyRevocation_eq_ok_iff.mp isOk
      obtain rfl := Option.some.inj (isKey.symm.trans isOther)
      refine ⟨revocation.revokedAt,
        by simp [SignedObject.datedAt, isRevocation],
        Revocation.revokedAt_parses isRevocation, ?_⟩
      intro now
      unfold SignedObject.verify verifyRevocation
      dsimp only
      rw [safeParse_of_accepts isRevocation, safeParse_of_accepts isKey,
        safeParse_of_accepts isLater]
      refine (same.preserves_revocation bound).map ?_
      rintro _ ⟨message, rfl⟩
      rfl

/-- Retiring or revoking a key at an instant preserves history: an object that
verifies under the document of the key before keeps each of its verifications
if it is dated before that instant, and is refused at the activity check at
every clock if not.  And a key that is active at an instant
is active before it. -/
theorem lifecycle_preserves_history
    {object : SignedObject} {keyInput laterInput : Option Json}
    {key later : KeyDocument} {verifiedNow : JsString} {ending : Int}
    (isKey : KeyDocument.schema.accepts keyInput = some key)
    (verifies : object.Verifies keyInput verifiedNow)
    (isLater : KeyDocument.schema.accepts laterInput = some later)
    (same : SameKey key later) (ends : later.EndsAt ending)
    (isFirst : ∀ other, later.EndsAt other → ending ≤ other) :
    (∃ dated instant, object.datedAt = some dated ∧
      dateParse dated = some instant ∧
      ∀ now,
        (instant < ending →
          object.verify laterInput now = object.verify keyInput now) ∧
        (ending ≤ instant → ∃ verification,
          object.verify laterInput now = .ok verification ∧
            verification.isInactive = true)) ∧
    ∀ {doc : KeyDocument} {before after : JsString} {first last : Int},
      dateParse before = some first → dateParse after = some last →
      first ≤ last → keyActiveAt doc after = true →
      keyActiveAt doc before = true := by
  refine ⟨?_, keyActiveAt_antitone⟩
  obtain ⟨dated, isDated, parses, preserves⟩ :=
    verifies.preserves isKey isLater same
  obtain ⟨instant, isInstant⟩ := Option.isSome_iff_exists.mp parses
  have activity : keyActiveAt later dated = true ↔ instant < ending := by
    rw [keyActiveAt_iff isLater isInstant]
    constructor
    · intro active
      exact active ending ends
    · intro before other endsThen
      exact lt_of_lt_of_le before (isFirst other endsThen)
  refine ⟨dated, instant, isDated, isInstant, ?_⟩
  intro now
  constructor
  · intro before
    exact (preserves now).1 (activity.mpr before)
  · intro after
    apply (preserves now).2
    rw [Bool.eq_false_iff, ne_eq, activity, not_lt]
    exact after

end Activity

/-- The operator key, retired and later revoked. -/
def sampleEndedKey : KeyDocument :=
  { sampleOperatorKey with
    status := .revoked
    retiredAt := some (units "2026-10-15T00:00:00Z")
    revokedAt := some (units "2026-11-01T00:00:00.000Z") }

theorem sampleEndedKey_accepted :
    letI := samplePlatform
    KeyDocument.schema.accepts (some sampleEndedKey.toJson) =
      some sampleEndedKey := by
  rfl

/-- The sample proof outlives its key. -/
theorem lifecycle_preserves_history_sample :
    letI := samplePlatform
    (SignedObject.proof (some sampleProof.toJson)
        (some sampleManifest.toJson)).verify (some sampleEndedKey.toJson)
          (units "2026-11-30T00:00:00Z") =
      (SignedObject.proof (some sampleProof.toJson)
        (some sampleManifest.toJson)).verify (some sampleOperatorKey.toJson)
          (units "2026-11-30T00:00:00Z") := by
  let := samplePlatform
  have retired : dateParse (units "2026-10-15T00:00:00Z") =
      some 1792022400000 := by decide
  have revoked : dateParse (units "2026-11-01T00:00:00.000Z") =
      some 1793491200000 := by decide
  have verifies : (SignedObject.proof (some sampleProof.toJson)
      (some sampleManifest.toJson)).Verifies (some sampleOperatorKey.toJson)
        (units "2026-10-01T00:00:00Z") := by
    rw [verifies_proof_iff, verifyManifestProof_succeeds_iff]
    exact ⟨sampleProof, sampleManifest, sampleOperatorKey,
      sampleProof_accepted, sampleManifest_accepted,
      sampleOperatorKey_accepted, sampleProof_bound, by decide, by decide⟩
  have isFirst : ∀ other, sampleEndedKey.EndsAt other →
      (1792022400000 : Int) ≤ other := by
    intro other ⟨text, isText, parsed⟩
    rcases isText with isRetired | isRevoked
    · obtain rfl := Option.some.inj isRetired
      obtain rfl := Option.some.inj (retired.symm.trans parsed)
      exact le_refl _
    · obtain rfl := Option.some.inj isRevoked
      obtain rfl := Option.some.inj (revoked.symm.trans parsed)
      decide
  obtain ⟨⟨dated, instant, isDated, isInstant, history⟩, -⟩ :=
    lifecycle_preserves_history sampleOperatorKey_accepted verifies
      sampleEndedKey_accepted ⟨rfl, rfl, rfl, rfl, rfl⟩
      ⟨_, Or.inl rfl, retired⟩ isFirst
  have isCreated : sampleProof.createdAt = dated := by
    simpa [SignedObject.datedAt, sampleProof_accepted] using isDated
  obtain rfl := isCreated
  have created : dateParse sampleProof.createdAt = some 1789257600000 := by
    decide
  obtain rfl := Option.some.inj (created.symm.trans isInstant)
  exact (history _).1 (by decide)

end AgenId.Core
