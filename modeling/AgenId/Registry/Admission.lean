import AgenId.Core.Identified
import AgenId.Core.WindowSoundness
import AgenId.Registry.Register

/-!
# What an admitted registration is

Both doors of the registry admit a registration only when its documents are
accepted by their schemas and the proof is bound to the manifest and to the
key.  Both then make the same store calls, which are spelled out here.
-/

namespace AgenId.Registry

open AgenId.Core
open AgenId.Ecma
open AgenId.Library
open AgenId.Validation
open AgenId.Validation.Schema

/-! ## Comparing key documents by their text -/

theorem KeyRole.eq_of_text
    {first second : KeyRole}
    (same : units first.text = units second.text) :
    first = second := by
  revert same
  cases first <;> cases second <;> decide

theorem KeyStatus.eq_of_text
    {first second : KeyStatus}
    (same : units first.text = units second.text) :
    first = second := by
  revert same
  cases first <;> cases second <;> decide

theorem nullableText_injective : Function.Injective nullableText := by
  intro first second same
  cases first <;> cases second <;> simp_all [nullableText]

theorem printable_nullableText (text : Option JsString) :
    (nullableText text).Printable := by
  cases text <;> trivial

theorem printable_KeyDocument (doc : KeyDocument) :
    doc.toJson.Printable := by
  unfold KeyDocument.toJson
  apply printable_record
  · simp only [List.map_cons, List.map_nil]
    decide
  · simp only [List.mem_cons, List.not_mem_nil, or_false]
    rintro entry (rfl | rfl | rfl | rfl | rfl | rfl | rfl | rfl | rfl)
      value isValue
    all_goals obtain rfl := Option.mem_some_iff.mp isValue
    all_goals first | trivial | exact printable_nullableText _

theorem KeyDocument.toJson_injective :
    Function.Injective KeyDocument.toJson := by
  intro first second same
  simp only [KeyDocument.toJson, Json.record, List.filterMap_cons,
    Option.map_some, List.filterMap_nil, Json.object.injEq, List.cons.injEq,
    Prod.mk.injEq, true_and, Json.string.injEq, Json.literal, and_true]
    at same
  obtain ⟨keyId, publicKey, role, controller, createdAt, status, retiredAt,
    revokedAt⟩ := same
  rw [KeyDocument.mk.injEq]
  exact ⟨keyId, publicKey, KeyRole.eq_of_text role, controller, createdAt,
    KeyStatus.eq_of_text status, nullableText_injective retiredAt,
    nullableText_injective revokedAt⟩

theorem differs_eq_false_iff
    {existing : Option KeyDocument} {doc : KeyDocument} :
    differs existing doc = false ↔ existing = none ∨ existing = some doc := by
  cases existing with
  | none => simp [differs, StoredForm.differs]
  | some published =>
      simp only [differs, StoredForm.differs, Option.any_some, ne_eq,
        decide_not, Bool.not_eq_false', decide_eq_true_eq, reduceCtorEq,
        false_or, Option.some.injEq]
      constructor
      · intro sameText
        exact KeyDocument.toJson_injective (stringify_injective
          (printable_KeyDocument published) (printable_KeyDocument doc)
          sameText)
      · exact fun same => congrArg (fun doc => stringify doc.toJson) same

/-! ## Admitted registrations -/

section Admission

variable [Platform]

/-- The documents of a registration are accepted as they are written. -/
structure Accepted (registration : RegisterBody) : Prop where
  manifest : Manifest.schema.accepts (some registration.manifest.toJson) =
    some registration.manifest
  proof : ManifestProof.schema.accepts (some registration.proof.toJson) =
    some registration.proof
  keyDocument :
    KeyDocument.schema.accepts (some registration.keyDocument.toJson) =
      some registration.keyDocument

/-- The documents of a registration are accepted, and its proof is bound to
the manifest and to the operator key. -/
structure Registrable (registration : RegisterBody) : Prop extends
    Accepted registration where
  bound : ProofBound registration.proof registration.manifest
    registration.keyDocument

theorem verifyRegistration_succeeds_iff
    {registration : RegisterBody} (accepted : Accepted registration)
    (now : JsString) :
    Succeeds (verifyRegistration registration now) ↔
      ProofBound registration.proof registration.manifest
          registration.keyDocument ∧
        windowAdmits now registration.proof.createdAt
          registration.proof.expiresAt := by
  rw [verifyRegistration, verifyManifestProof_succeeds_iff]
  simp [accepted.manifest, accepted.proof, accepted.keyDocument]

/-! ### The application -/

theorem accepted_of_schema
    {body : Option Json} {registration : RegisterBody}
    (isParsed : RegisterBody.schema.safeParse body = .ok registration) :
    Accepted registration := by
  have isAccepted := safeParse_eq_ok_iff.mp isParsed
  obtain ⟨members, rfl, -, fields⟩ :=
    accepts_strictObject_eq_some_iff.mp isAccepted
  simp only [Parse.accepted_seq_eq_some_iff,
    Parse.accepted_map_eq_some_iff] at fields
  obtain ⟨keyDocument, isKeyDocument, _, ⟨proof, isProof, _,
    ⟨manifest, isManifest, rfl⟩, rfl⟩, rfl⟩ := fields
  rw [accepted_field] at isKeyDocument isProof isManifest
  exact ⟨rereads_Manifest _ _ isManifest, rereads_ManifestProof _ _ isProof,
    rereads_KeyDocument _ _ isKeyDocument⟩

theorem registrable_of_admitRegistration
    {body : Option Json} {clock : JsString} {registration : RegisterBody}
    (admitted : admitRegistration body clock = .ok registration) :
    Registrable registration := by
  unfold admitRegistration at admitted
  cases isParsed : RegisterBody.schema.safeParse body with
  | error issues => simp [isParsed] at admitted
  | ok found =>
      have accepted := accepted_of_schema isParsed
      simp only [isParsed] at admitted
      split at admitted
      · simp at admitted
      · split at admitted
        · simp at admitted
        · simp at admitted
        · split at admitted
          · simp at admitted
          · simp at admitted
          · rename_i verified
            obtain rfl := Except.ok.inj admitted
            have bound := (verifyRegistration_succeeds_iff accepted _).mp
              ⟨_, _, verified⟩
            exact ⟨accepted, bound.1⟩

theorem accepts_of_admitRegistration
    {body : Option Json} {clock : JsString} {registration : RegisterBody}
    (admitted : admitRegistration body clock = .ok registration) :
    RegisterBody.schema.accepts body = some registration := by
  unfold admitRegistration at admitted
  cases isParsed : RegisterBody.schema.safeParse body with
  | error issues => simp [isParsed] at admitted
  | ok found =>
      simp only [isParsed] at admitted
      repeat' split at admitted
      all_goals cases admitted
      exact safeParse_eq_ok_iff.mp isParsed

theorem status_of_admitRegistration
    {body : Option Json} {clock : JsString} {refused : Response}
    (isRefused : admitRegistration body clock = .error refused) :
    refused.status = 400 ∨ refused.status = 500 := by
  unfold admitRegistration at isRefused
  repeat' split at isRefused
  all_goals cases isRefused
  all_goals first | exact Or.inl rfl | exact Or.inr rfl

/-! ### The web deployment -/

theorem accepted_of_readRegistration
    {members : Members} {registration : RegisterBody}
    (isRead : readRegistration members = .ok registration) :
    Accepted registration := by
  unfold readRegistration at isRead
  split at isRead
  · simp at isRead
  · rename_i manifest manifestParsed
    split at isRead
    · simp at isRead
    · rename_i proof proofParsed
      split at isRead
      · simp at isRead
      · rename_i keyDocument keyParsed
        obtain rfl := Except.ok.inj isRead
        have manifestAccepted := safeParse_eq_ok_iff.mp manifestParsed
        have proofAccepted := safeParse_eq_ok_iff.mp proofParsed
        have keyAccepted := safeParse_eq_ok_iff.mp keyParsed
        exact ⟨rereads_Manifest _ _ manifestAccepted,
          rereads_ManifestProof _ _ proofAccepted,
          rereads_KeyDocument _ _ keyAccepted⟩

theorem accepted_of_readBody
    {body : Option Json} {registration : RegisterBody}
    (isRead : readBody body = .ok registration) :
    Accepted registration := by
  unfold readBody at isRead
  split at isRead
  · dsimp only at isRead
    split at isRead
    · exact accepted_of_readRegistration isRead
    · simp at isRead
  · simp at isRead

/-- A result that is no success. -/
def RegisterResult.IsFailure (result : RegisterResult) : Prop :=
  ∃ status error message issues, result = .fail status error message issues

theorem readBody_refuses
    {body : Option Json} {failure : RegisterResult}
    (isRefused : readBody body = .error failure) :
    ∃ text issues,
      failure = .fail 400 "schema_validation_failed" text issues := by
  unfold readBody at isRefused
  split at isRefused
  · dsimp only at isRefused
    split at isRefused
    · unfold readRegistration at isRefused
      repeat' split at isRefused
      all_goals cases isRefused
      all_goals exact ⟨_, _, rfl⟩
    · cases isRefused
      exact ⟨_, _, rfl⟩
  · cases isRefused
    exact ⟨_, _, rfl⟩

theorem admitAgent_isFailure
    {body : Option Json} {clock : Clock} {failure : RegisterResult}
    (isRefused : admitAgent body clock = .error failure) :
    failure.IsFailure := by
  unfold admitAgent at isRefused
  cases isRead : readBody body with
  | error found =>
      simp only [isRead] at isRefused
      cases isRefused
      obtain ⟨text, issues, rfl⟩ := readBody_refuses isRead
      exact ⟨_, _, _, _, rfl⟩
  | ok registration =>
      simp only [isRead] at isRefused
      repeat' split at isRefused
      all_goals cases isRefused
      all_goals exact ⟨_, _, _, _, rfl⟩

theorem dateParse_nowIso (clock : Clock) :
    dateParse (nowIso clock) = some clock.time :=
  parseDate_isoString _ clock.valid

/-- The instant at which the web deployment evaluates a proof. -/
def evaluationInstant (proof : ManifestProof) (clock : Clock) : JsString :=
  match registrationTime proof.createdAt (dateParse (nowIso clock)) with
  | some (.ok now _) => now
  | _ => nowIso clock

/-- The registration that is admitted is read from the body alone. -/
theorem readBody_of_admitAgent
    {body : Option Json} {clock : Clock} {registration : RegisterBody}
    {registeredAt : JsString}
    (isAdmitted : admitAgent body clock = .ok (registration, registeredAt)) :
    readBody body = .ok registration := by
  unfold admitAgent at isAdmitted
  cases isRead : readBody body with
  | error failure => simp [isRead] at isAdmitted
  | ok found =>
      simp only [isRead] at isAdmitted
      repeat' split at isAdmitted
      all_goals cases isAdmitted
      rfl

/-- The web deployment admits a registration in time and records its clock. -/
structure Admitted (registration : RegisterBody) (clock : Clock)
    (registeredAt : JsString) : Prop where
  registrable : Registrable registration
  recorded : registeredAt = nowIso clock
  instant : evaluationInstant registration.proof clock =
    if dateLess (some clock.time) (dateParse registration.proof.createdAt)
      then registration.proof.createdAt else nowIso clock
  inTime : windowAdmits (evaluationInstant registration.proof clock)
    registration.proof.createdAt registration.proof.expiresAt

theorem admitted_of_admitAgent
    {body : Option Json} {clock : Clock} {registration : RegisterBody}
    {registeredAt : JsString}
    (isAdmitted : admitAgent body clock = .ok (registration, registeredAt)) :
    Admitted registration clock registeredAt := by
  unfold admitAgent at isAdmitted
  cases isRead : readBody body with
  | error failure => simp [isRead] at isAdmitted
  | ok found =>
      have accepted := accepted_of_readBody isRead
      simp only [isRead] at isAdmitted
      split at isAdmitted
      · simp at isAdmitted
      · split at isAdmitted
        · simp at isAdmitted
        · split at isAdmitted
          · simp at isAdmitted
          · simp at isAdmitted
          · rename_i now registered isTime
            split at isAdmitted
            · simp at isAdmitted
            · simp at isAdmitted
            · rename_i verified
              obtain ⟨rfl, rfl⟩ := Prod.mk.inj (Except.ok.inj isAdmitted)
              have bound := (verifyRegistration_succeeds_iff accepted _).mp
                ⟨_, _, verified⟩
              have isInstant :
                  evaluationInstant found.proof clock = now := by
                simp only [evaluationInstant, isTime]
              rw [dateParse_nowIso] at isTime
              have recorded : registered = nowIso clock :=
                registrationTime_registeredAt isTime
              have isNow := registrationTime_now isTime
              have inTime : windowAdmits (evaluationInstant found.proof clock)
                  found.proof.createdAt found.proof.expiresAt := by
                rw [isInstant]
                exact bound.2
              rw [← isInstant, recorded] at isNow
              exact
                { registrable := ⟨accepted, bound.1⟩
                  recorded := recorded
                  instant := isNow
                  inTime := inTime }

/-! ## Admitting what is registrable -/

/-- A registration as a JSON body. -/
def RegisterBody.toJson (registration : RegisterBody) : Json :=
  .record
    [("manifest", some registration.manifest.toJson),
      ("proof", some registration.proof.toJson),
      ("key_document", some registration.keyDocument.toJson)]

theorem readBody_toJson
    {registration : RegisterBody} (accepted : Accepted registration) :
    readBody (some registration.toJson) = .ok registration := by
  have manifestParsed := safeParse_of_accepts accepted.manifest
  have proofParsed := safeParse_of_accepts accepted.proof
  have keyParsed := safeParse_of_accepts accepted.keyDocument
  let members : Members :=
    [(units "manifest", registration.manifest.toJson),
      (units "proof", registration.proof.toJson),
      (units "key_document", registration.keyDocument.toJson)]
  have names : members.map Prod.fst = REGISTER_MEMBERS.map units := rfl
  have known : ((members.map Prod.fst).filter
      fun name => name ∉ REGISTER_MEMBERS.map units) = [] := by
    rw [names]
    simp
  have isObject : registration.toJson = .object members := rfl
  have isRead : readBody (some registration.toJson) =
      readRegistration members := by
    rw [isObject, readBody]
    exact if_pos known
  have isManifest : members.lookup (units "manifest") =
      some registration.manifest.toJson := rfl
  have isProof : members.lookup (units "proof") =
      some registration.proof.toJson := rfl
  have isKey : members.lookup (units "key_document") =
      some registration.keyDocument.toJson := rfl
  rw [isRead]
  simp only [readRegistration, isManifest, isProof, isKey, manifestParsed,
    proofParsed, keyParsed]

theorem keyMismatch_eq_none
    {registration : RegisterBody} (registrable : Registrable registration) :
    keyMismatch registration = none := by
  have bound := registrable.bound
  have controller := bound.controller.trans bound.agentId.symm
  simp [keyMismatch, bound.keyId, bound.role, controller]

theorem admitAgent_of_registrable
    {body : Option Json} {clock : Clock} {registration : RegisterBody}
    {now registeredAt : JsString}
    (isRead : readBody body = .ok registration)
    (registrable : Registrable registration)
    (isTime : registrationTime registration.proof.createdAt
      (dateParse (nowIso clock)) = some (.ok now registeredAt))
    (admits : windowAdmits now registration.proof.createdAt
      registration.proof.expiresAt) :
    admitAgent body clock = .ok (registration, registeredAt) := by
  have isAgentId := Manifest.agentId_valid registrable.manifest
  have verifies := (verifyRegistration_succeeds_iff registrable.toAccepted
    now).mpr ⟨registrable.bound, admits⟩
  obtain ⟨state, details, isVerified⟩ := verifies
  simp only [admitAgent, isRead, keyMismatch_eq_none registrable, isAgentId,
    isTime, isVerified, Bool.true_eq_false, if_false]

end Admission

/-! ## A registration -/

/-- The registration of the sample agent. -/
def sampleRegistration : RegisterBody where
  manifest := sampleManifest
  proof := sampleProof
  keyDocument := sampleOperatorKey

/-- One day after the sample proof was made. -/
def sampleClock : Clock where
  time := 1789344000000
  valid := by decide

theorem sampleRegistration_registrable :
    letI := samplePlatform
    Registrable sampleRegistration :=
  let := samplePlatform
  { manifest := sampleManifest_accepted
    proof := sampleProof_accepted
    keyDocument := sampleOperatorKey_accepted
    bound := sampleProof_bound }

theorem sampleRegistration_admitted :
    letI := samplePlatform
    admitAgent (some sampleRegistration.toJson) sampleClock =
      .ok (sampleRegistration, nowIso sampleClock) := by
  let := samplePlatform
  have isRead :=
    readBody_toJson sampleRegistration_registrable.toAccepted
  have isTime : registrationTime sampleProof.createdAt
      (dateParse (nowIso sampleClock)) =
        some (.ok (nowIso sampleClock) (nowIso sampleClock)) := by
    rw [dateParse_nowIso]
    decide
  have admits : windowAdmits (nowIso sampleClock) sampleProof.createdAt
      sampleProof.expiresAt := by
    unfold windowAdmits
    rw [dateParse_nowIso]
    decide
  exact admitAgent_of_registrable isRead sampleRegistration_registrable
    isTime admits

end AgenId.Registry
