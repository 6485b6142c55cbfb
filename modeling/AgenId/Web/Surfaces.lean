import AgenId.Core.WindowSoundness
import AgenId.Ecma.Uri
import AgenId.Registry.ServeKey
import AgenId.Web.Badge

/-!
# Failure and absence on the public surfaces

`api.ts` and the routes over it: what a registry answers about an agent passes
through `fetchEnvelope` to the shield, and through `/api/resolve` to the
embedded badge; what it answers about a key passes through a key reader.  A
registry answers that there is no record, or with one, or fails.
-/

namespace AgenId.Web

open AgenId.Core
open AgenId.Ecma
open AgenId.Library
open AgenId.Registry

/-! ## Fetching an envelope -/

/-- What `fetchEnvelope` returns; the envelope is `null` when there is none. -/
structure Fetched where
  status : Nat
  envelope : Json
  error : Option Json

/-- What is fetched without an envelope. -/
def noEnvelope (status : Nat) (error : Json) : Fetched :=
  ⟨status, .null, some error⟩

def registryUnavailable : Fetched :=
  noEnvelope 503 (.literal "registry_unavailable")

/-- `(await r.json()).error ?? "registry_error"`; what throws is ignored. -/
def errorOf (body : Option Json) : Json :=
  match body.bind (Json.get? (units "error")) with
  | none | some .null => .literal "registry_error"
  | some error => error

def fetchEnvelopeOverHttp : HttpAnswer → Fetched
  | .networkError => registryUnavailable
  | .response status body =>
    if !isOkStatus status then
      noEnvelope status (errorOf body)
    else
      match body with
      | none => registryUnavailable
      | some envelope => ⟨200, envelope, none⟩

/-- The envelope as a JSON value. -/
def envelopeJson (envelope : ResolutionEnvelope) : Json :=
  .record
    [("agenid_envelope_version", some (.literal "1.0")),
      ("agent_id", some (.string envelope.agentId)),
      ("status", some (.literal envelope.status.text)),
      ("registered_at", some (.string envelope.registeredAt)),
      ("manifest", some envelope.manifest.toJson),
      ("manifest_digest", some (.record
        [("alg", some (.literal "sha-256")),
          ("value", some (.string envelope.manifestDigest))])),
      ("proof", some envelope.proof.toJson),
      ("proof_check", some (checkJson envelope.proofCheck)),
      ("operator_key", some (.record
        [("key_id", some (.string envelope.operatorKeyId)),
          ("document", some (envelope.operatorKeyDocument.elim .null
            KeyDocument.toJson)),
          ("discovery", some (.record
            [("registry_path", some (.string envelope.registryPath)),
              ("well_known_url", some (.string envelope.wellKnownUrl))]))])),
      ("verification", some (.record
        [("level", some (.literal envelope.level.text)),
          ("valid_assertions",
            some (.number (roundToNumber false envelope.validAssertions))),
          ("total_assertions",
            some (.number (roundToNumber false envelope.totalAssertions)))])),
      ("assertions", some (.array (envelope.assertions.map fun view =>
        .record
          [("assertion", some view.assertion.toJson),
            ("check", some (checkJson view.check))]))),
      ("verify_instructions", some (.literal <|
        "Recompute sha256(RFC8785(manifest)) and compare to " ++
          "manifest_digest; fetch the operator key from BOTH discovery " ++
          "paths (operator_key.discovery.registry_path on this registry's " ++
          "origin, and operator_key.discovery.well_known_url on the " ++
          "operator's domain) and require they agree, and that both agree " ++
          "with operator_key.document; verify Ed25519 over RFC8785(proof " ++
          "minus signature); for each assertion, fetch the authority key, " ++
          "check role=authority, verify Ed25519 over RFC8785(assertion " ++
          "minus signature), check the validity window and that " ++
          "assertion.manifest_digest matches. Spec: " ++
          "https://github.com/AgenID-protocol/spec"))]

/-- A store, and the number of the call that throws, if one does. -/
structure StoreBehaviour where
  State : Type
  handle : Program.Handler StoreCall.Reply State
  state : State
  throwsAt : Option Nat

/-- The result of a program over a store; none when a call throws. -/
def StoreBehaviour.attempt {Result : Type} (store : StoreBehaviour)
    (program : StoreProgram Result) : Option Result :=
  match store.throwsAt with
  | none => some (program.run store.handle store.state).1
  | some count => (program.runFaulty store.handle count store.state).1

/-- How a registry meets the resolution of an agent: over HTTP or from a
store in the process. -/
inductive RegistryBehaviour where
  | http (answer : HttpAnswer)
  | inProcess (store : StoreBehaviour)

section Resolution

variable [Platform]

/-- The lookup of an agent and, when there is one, its envelope. -/
def resolveInProcess (agentId now : JsString) :
    StoreProgram (Except AgenIdError (Option ResolutionEnvelope)) := do
  let found : Option AgentRecord ← call (.getAgent agentId)
  match found with
  | none => return .ok none
  | some record =>
    let envelope ← buildEnvelope record now
    return envelope.map some

def fetchEnvelopeInProcess (agentId now : JsString)
    (store : StoreBehaviour) : Fetched :=
  match store.attempt (resolveInProcess agentId now) with
  | none | some (.error _) => registryUnavailable
  | some (.ok none) => noEnvelope 404 (.literal "agent_not_found")
  | some (.ok (some envelope)) => ⟨200, envelopeJson envelope, none⟩

def fetchEnvelope (agentId now : JsString) (registry : RegistryBehaviour) :
    Fetched :=
  if !isValidAgentId agentId then
    noEnvelope 400 (.literal "invalid_agent_id")
  else
    match registry with
    | .http answer => fetchEnvelopeOverHttp answer
    | .inProcess store => fetchEnvelopeInProcess agentId now store

/-! ## The routes -/

/-- `new Response(JSON.stringify(body), { status })`; a status that takes no
body, or that is none, throws, which is answered 500. -/
def newResponse (status : Nat) (body : Json) : HttpAnswer :=
  if 200 ≤ status ∧ status ≤ 599 ∧ status ∉ [204, 205, 304] then
    .response status (some body)
  else
    .response 500 none

/-- `GET /api/resolve/<agenid>`; a parameter that cannot be decoded throws. -/
def getResolve (agenid now : JsString) (registry : RegistryBehaviour) :
    HttpAnswer :=
  match decodeURIComponent agenid with
  | none => .response 500 none
  | some id =>
    let fetched := fetchEnvelope id now registry
    if !isTruthy (some fetched.envelope) then
      newResponse fetched.status (.record
        [("error", fetched.error), ("agent_id", some (.string agenid))])
    else
      .response 200 (some fetched.envelope)

/-- What a shield is drawn with. -/
structure Shield where
  label : JsString
  color : JsString
  title : JsString

/-- A presentation on a shield. -/
def shieldOf (presentation : TrustPresentation) (name : JsString)
    (operator : Option JsString) : Shield :=
  ⟨presentation.badgeLabel, presentation.color,
    trustSummary presentation name operator⟩

/-- `value ?? fallback`, written as a text; an object may throw. -/
def writtenOr {Text : Type} (fallback : Text) (write : JsString → Text) :
    Option Json → Option Text
  | none | some .null => some fallback
  | some value => (toText value).map write

/-- `GET /badge/<agenid>/shield.svg`, up to the drawing; none when it
throws. -/
def getShield (agenid now : JsString) (registry : RegistryBehaviour) :
    Option Shield := do
  let id ← decodeURIComponent agenid
  if !isValidAgentId id then
    return shieldOf MALFORMED_ID_TRUST id none
  else
    let env := (fetchEnvelope id now registry).envelope
    if !isTruthy (some env) then
      return shieldOf NOT_REGISTERED_TRUST id none
    else
      let name ← writtenOr id (fun text => text) (envelopeName env)
      let operator ← writtenOr none some (envelopeOperator env)
      return shieldOf (presentEnvelopeTrust (some env)) name operator

/-! ## Key readers -/

/-- How a registry meets the lookup of a key: the answers over HTTP by their
path, or what a store in the process returns unless it throws. -/
inductive KeyRegistry where
  | http (answer : JsString → HttpAnswer)
  | inProcess (getKey : JsString → Option (Option KeyDocument))

def keyReader : KeyRegistry → KeyReader
  | .http answer, keyId =>
    match keyResolverPath keyId with
    | .error _ => .error ()
    | .ok path =>
      match answer path with
      | .networkError => .error ()
      | .response status body =>
        if status = 404 then
          .ok (some .null)
        else if !isOkStatus status then
          .error ()
        else
          match body with
          | none => .error ()
          | some document => .ok (some document)
  | .inProcess getKey, keyId =>
    match getKey keyId with
    | none => .error ()
    | some none => .ok (some .null)
    | some (some document) => .ok (some document.toJson)

/-! ## What the registry answered -/

/-- What a registry answers: a document, that there is none, or nothing that
can be read. -/
inductive RegistryAnswer where
  | found (document : Json)
  | absent
  | failed

/-- An answer over HTTP, read as the protocol has it. -/
def HttpAnswer.read : HttpAnswer → RegistryAnswer
  | .networkError => .failed
  | .response status body =>
    if status = 404 then
      .absent
    else if isOkStatus status then
      body.elim .failed .found
    else
      .failed

/-- What a registry answers about an agent. -/
def agentAnswer (agentId now : JsString) : RegistryBehaviour → RegistryAnswer
  | .http answer => answer.read
  | .inProcess store =>
    match store.attempt (resolveInProcess agentId now) with
    | none | some (.error _) => .failed
    | some (.ok none) => .absent
    | some (.ok (some envelope)) => .found (envelopeJson envelope)

/-- What a registry answers about a key. -/
def keyAnswer (keyId : JsString) : KeyRegistry → RegistryAnswer
  | .http answer =>
    match keyResolverPath keyId with
    | .error _ => .failed
    | .ok path => (answer path).read
  | .inProcess getKey =>
    match getKey keyId with
    | none => .failed
    | some none => .absent
    | some (some document) => .found document.toJson

/-- Every presentation of the canonical module. -/
def PRESENTATIONS : List TrustPresentation :=
  LEVELS.map Prod.snd ++
    [UNKNOWN_TRUST, NOT_REGISTERED_TRUST, MALFORMED_ID_TRUST,
      UNAVAILABLE_TRUST, PROOF_INVALID_TRUST] ++
    ALERT_STATUSES.map revokedTrust

/-- A shield shows a presentation. -/
def ShieldShows (shield : Option Shield) (presentation : TrustPresentation) :
    Prop :=
  ∃ drawn, shield = some drawn ∧ drawn.label = presentation.badgeLabel ∧
    drawn.color = presentation.color

/-- The surfaces tell failure from absence: the shield shows no record only
when there is none, and a failure as such, and it shows the same presentation
as the badge. -/
structure AgentShownTruly (answer : RegistryAnswer) (shield : Option Shield)
    (badge : PaintedBadge) : Prop where
  absence : ShieldShows shield NOT_REGISTERED_TRUST → answer = .absent
  failure : answer = .failed → ShieldShows shield UNAVAILABLE_TRUST
  agreement : ∃ presentation ∈ PRESENTATIONS,
    ShieldShows shield presentation ∧ badge.Shows presentation

/-- A key is answered not to be found only when there is none. -/
def KeyAnsweredTruly (registry : KeyRegistry) (ref : Option JsString)
    (position : KeyReferencePosition) : Prop :=
  ∀ status message keyId,
    resolveKeyDocument (keyReader registry) ref position =
        .failed status "key_not_found" message (some keyId) →
      keyAnswer keyId registry = .absent

/-! ## What is fetched -/

/-- What is fetched of an answer: its document, or no envelope and a status
that is not a success, which is 404 when the answer is that there is none. -/
def IsFetchedOf (fetched : Fetched) : RegistryAnswer → Prop
  | .found document => fetched = ⟨200, document, none⟩
  | .absent => ∃ error, fetched = noEnvelope 404 error
  | .failed => ∃ status error, isOkStatus status = false ∧
      fetched = noEnvelope status error

omit [Platform] in
theorem isFetchedOf_http (answer : HttpAnswer) :
    IsFetchedOf (fetchEnvelopeOverHttp answer) answer.read := by
  cases answer with
  | networkError => exact ⟨503, _, rfl, rfl⟩
  | response status body =>
      unfold fetchEnvelopeOverHttp HttpAnswer.read
      by_cases isMissing : status = 404
      · subst isMissing
        exact ⟨_, rfl⟩
      dsimp only
      rw [if_neg isMissing]
      by_cases isOk : isOkStatus status = true
      · rw [if_pos isOk, isOk, Bool.not_true, if_neg Bool.false_ne_true]
        cases body with
        | none => exact ⟨503, _, rfl, rfl⟩
        | some envelope => rfl
      · rw [if_neg isOk]
        have notOk := Bool.eq_false_of_not_eq_true isOk
        rw [notOk, Bool.not_false, if_pos rfl]
        exact ⟨status, _, notOk, rfl⟩

theorem isFetchedOf_answer
    {agentId : JsString} (isAgentId : isValidAgentId agentId = true)
    (now : JsString) (registry : RegistryBehaviour) :
    IsFetchedOf (fetchEnvelope agentId now registry)
      (agentAnswer agentId now registry) := by
  unfold fetchEnvelope agentAnswer
  rw [isAgentId, Bool.not_true, if_neg Bool.false_ne_true]
  cases registry with
  | http answer => exact isFetchedOf_http answer
  | inProcess store =>
      dsimp only
      unfold fetchEnvelopeInProcess
      cases store.attempt (resolveInProcess agentId now) with
      | none => exact ⟨503, _, rfl, rfl⟩
      | some result =>
          cases result with
          | error thrown => exact ⟨503, _, rfl, rfl⟩
          | ok found =>
              cases found with
              | none => exact ⟨_, rfl⟩
              | some envelope => rfl

/-! ## What the surfaces show -/

section Shown

variable {agenid resolved agentId now agent : JsString}
  {registry : RegistryBehaviour}

/-- Whatever is fetched without an envelope, the shield shows as not
registered. -/
theorem getShield_of_noEnvelope
    (isParameter : decodeURIComponent agenid = some agentId)
    (isAgentId : isValidAgentId agentId = true)
    (isEmpty : isTruthy (some (fetchEnvelope agentId now registry).envelope) =
      false) :
    getShield agenid now registry =
      some (shieldOf NOT_REGISTERED_TRUST agentId none) := by
  simp [getShield, isParameter, isAgentId, isEmpty]

omit [Platform] in
/-- The script paints what is answered without an envelope as unavailable. -/
theorem badgeScript_of_notOk
    {status : Nat} (notOk : isOkStatus status = false) (body : Json) :
    (badgeScript badgeTable agent (newResponse status body)).Shows
      UNAVAILABLE_TRUST := by
  unfold newResponse
  by_cases canRespond : 200 ≤ status ∧ status ≤ 599 ∧ status ∉ [204, 205, 304]
  · rw [if_pos canRespond]
    simp only [badgeScript, notOk, Bool.false_eq_true, if_false]
    exact wire_shows
  · rw [if_neg canRespond]
    exact wire_shows

theorem getResolve_of_noEnvelope
    (isParameter : decodeURIComponent resolved = some agentId)
    (isEmpty : isTruthy (some (fetchEnvelope agentId now registry).envelope) =
      false) :
    getResolve resolved now registry =
      newResponse (fetchEnvelope agentId now registry).status (.record
        [("error", (fetchEnvelope agentId now registry).error),
          ("agent_id", some (.string resolved))]) := by
  simp [getResolve, isParameter, isEmpty]

theorem getResolve_of_envelope
    (isParameter : decodeURIComponent resolved = some agentId)
    {document : Json}
    (isFetched : fetchEnvelope agentId now registry = ⟨200, document, none⟩)
    (isPresent : isTruthy (some document) = true) :
    getResolve resolved now registry = .response 200 (some document) := by
  simp [getResolve, isParameter, isFetched, isPresent]

omit [Platform] in
theorem writtenOr_isSome_iff
    {Text : Type} {fallback : Text} {write : JsString → Text}
    {value : Option Json} :
    (∃ text, writtenOr fallback write value = some text) ↔
      Writable value := by
  cases value with
  | none =>
      constructor
      · intro _ found isFound
        cases isFound
      · intro _
        exact ⟨fallback, rfl⟩
  | some found =>
      have writes : Writable (some found) ↔ (toText found).isSome := by
        constructor
        · intro writable
          exact writable found rfl
        · intro isSome other isOther
          cases isOther
          exact isSome
      rw [writes]
      cases found with
      | null =>
          refine iff_of_true ⟨fallback, rfl⟩ ?_
          rw [toText]
          rfl
      | _ =>
          rw [Option.isSome_iff_exists]
          unfold writtenOr
          simp only [Option.map_eq_some_iff]
          constructor
          · rintro ⟨_, text, isText, -⟩
            exact ⟨text, isText⟩
          · rintro ⟨text, isText⟩
            exact ⟨_, text, isText, rfl⟩

theorem getShield_of_envelope
    (isParameter : decodeURIComponent agenid = some agentId)
    (isAgentId : isValidAgentId agentId = true) {document : Json}
    (isFetched : fetchEnvelope agentId now registry = ⟨200, document, none⟩)
    (isPresent : isTruthy (some document) = true) :
    getShield agenid now registry = do
      let name ← writtenOr agentId (fun text => text) (envelopeName document)
      let operator ← writtenOr none some (envelopeOperator document)
      return shieldOf (presentEnvelopeTrust (some document)) name
        operator := by
  simp [getShield, isParameter, isAgentId, isFetched, isPresent]

/-- The shield of an envelope shows its presentation, when its names can be
written, and is not drawn otherwise. -/
theorem shieldShows_envelope_iff
    (isParameter : decodeURIComponent agenid = some agentId)
    (isAgentId : isValidAgentId agentId = true) {document : Json}
    (isFetched : fetchEnvelope agentId now registry = ⟨200, document, none⟩)
    (isPresent : isTruthy (some document) = true)
    (presentation : TrustPresentation) :
    ShieldShows (getShield agenid now registry) presentation ↔
      Writable (envelopeName document) ∧
        Writable (envelopeOperator document) ∧
        (presentEnvelopeTrust (some document)).badgeLabel =
          presentation.badgeLabel ∧
        (presentEnvelopeTrust (some document)).color =
          presentation.color := by
  rw [getShield_of_envelope isParameter isAgentId isFetched isPresent]
  constructor
  · rintro ⟨drawn, isDrawn, sameLabel, sameColor⟩
    obtain ⟨name, isName, isDrawn⟩ := Option.bind_eq_some_iff.mp isDrawn
    obtain ⟨operator, isOperator, isDrawn⟩ :=
      Option.bind_eq_some_iff.mp isDrawn
    cases isDrawn
    exact ⟨writtenOr_isSome_iff.mp ⟨name, isName⟩,
      writtenOr_isSome_iff.mp ⟨operator, isOperator⟩, sameLabel, sameColor⟩
  · rintro ⟨nameWritable, operatorWritable, sameLabel, sameColor⟩
    obtain ⟨name, isName⟩ := writtenOr_isSome_iff.mpr nameWritable
    obtain ⟨operator, isOperator⟩ := writtenOr_isSome_iff.mpr operatorWritable
    refine ⟨shieldOf (presentEnvelopeTrust (some document)) name operator,
      ?_, sameLabel, sameColor⟩
    rw [isName, isOperator]
    rfl

end Shown

/-! ## Exactly when the surfaces tell the truth -/

/-- The presentations of envelopes. -/
def ENVELOPE_PRESENTATIONS : List TrustPresentation :=
  LEVELS.map Prod.snd ++
    [UNKNOWN_TRUST, UNAVAILABLE_TRUST, PROOF_INVALID_TRUST] ++
    ALERT_STATUSES.map revokedTrust

omit [Platform] in
theorem presentTrustLevel_mem (found : Option Json) :
    presentTrustLevel found ∈ ENVELOPE_PRESENTATIONS := by
  have unknown : UNKNOWN_TRUST ∈ ENVELOPE_PRESENTATIONS := by
    simp [ENVELOPE_PRESENTATIONS]
  unfold presentTrustLevel
  split
  · rename_i level
    cases isEntry : LEVELS.lookup level with
    | none => exact unknown
    | some presentation =>
        have isMember : presentation ∈ LEVELS.map Prod.snd :=
          List.mem_map_of_mem (mem_of_lookup isEntry)
        simp [ENVELOPE_PRESENTATIONS, isMember]
  · exact unknown

omit [Platform] in
theorem presentEnvelopeTrust_mem (env : Option Json) :
    presentEnvelopeTrust env ∈ ENVELOPE_PRESENTATIONS := by
  have unavailable : UNAVAILABLE_TRUST ∈ ENVELOPE_PRESENTATIONS := by
    simp [ENVELOPE_PRESENTATIONS]
  have invalid : PROOF_INVALID_TRUST ∈ ENVELOPE_PRESENTATIONS := by
    simp [ENVELOPE_PRESENTATIONS]
  unfold presentEnvelopeTrust
  split
  · split
    · rename_i status _
      by_cases isAlert : status ∈ ALERT_STATUSES
      · rw [if_pos isAlert]
        have isMember : revokedTrust status ∈
            ALERT_STATUSES.map revokedTrust := List.mem_map_of_mem isAlert
        simp [ENVELOPE_PRESENTATIONS, isMember]
      rw [if_neg isAlert]
      by_cases isHealthy : status ∈ HEALTHY_STATUSES
      · rw [if_neg (not_not.mpr isHealthy)]
        split
        · exact presentTrustLevel_mem _
        · exact invalid
      · rw [if_pos isHealthy]
        exact unavailable
    · exact unavailable
  · exact unavailable

omit [Platform] in
theorem shieldShows_notRegistered
    {agentId : JsString} {presentation : TrustPresentation} :
    ShieldShows (some (shieldOf NOT_REGISTERED_TRUST agentId none))
        presentation ↔
      NOT_REGISTERED_TRUST.badgeLabel = presentation.badgeLabel ∧
        NOT_REGISTERED_TRUST.color = presentation.color := by
  constructor
  · rintro ⟨drawn, isDrawn, sameLabel, sameColor⟩
    cases isDrawn
    exact ⟨sameLabel, sameColor⟩
  · rintro ⟨sameLabel, sameColor⟩
    exact ⟨_, rfl, sameLabel, sameColor⟩

omit [Platform] in
/-- No presentation is labelled as not registered on the shield and as
unavailable on the badge. -/
theorem no_shared_presentation
    {presentation : TrustPresentation}
    (isPresentation : presentation ∈ PRESENTATIONS)
    (onShield : NOT_REGISTERED_TRUST.badgeLabel = presentation.badgeLabel) :
    UNAVAILABLE_TRUST.embedLabel ≠ presentation.embedLabel := by
  have apart : PRESENTATIONS.all (fun presentation =>
      decide (NOT_REGISTERED_TRUST.badgeLabel = presentation.badgeLabel →
        UNAVAILABLE_TRUST.embedLabel ≠ presentation.embedLabel)) = true := by
    decide
  exact of_decide_eq_true (List.all_eq_true.mp apart _ isPresentation)
    onShield

variable {agenid resolved agentId now : JsString}
  {registry : RegistryBehaviour}

/-- What is fetched without an envelope is not shown truly: the shield says
that there is no record, the badge that the registry is unavailable. -/
theorem not_shownTruly_of_noEnvelope
    (isParameter : decodeURIComponent agenid = some agentId)
    (isResolved : decodeURIComponent resolved = some agentId)
    (isAgentId : isValidAgentId agentId = true)
    {status : Nat} {error : Json} (notOk : isOkStatus status = false)
    (isFetched : fetchEnvelope agentId now registry =
      noEnvelope status error)
    (answer : RegistryAnswer) :
    ¬ AgentShownTruly answer (getShield agenid now registry)
      (badgeScript badgeTable agentId (getResolve resolved now registry)) := by
  have isEmpty : isTruthy (some (fetchEnvelope agentId now
      registry).envelope) = false := by
    rw [isFetched]
    rfl
  intro truly
  obtain ⟨presentation, isPresentation, onShield, -, onBadge⟩ :=
    truly.agreement
  rw [getShield_of_noEnvelope isParameter isAgentId isEmpty,
    shieldShows_notRegistered] at onShield
  have shown := @badgeScript_of_notOk agentId status notOk (.record
    [("error", some error), ("agent_id", some (.string resolved))])
  rw [getResolve_of_noEnvelope isResolved isEmpty, isFetched] at onBadge
  exact no_shared_presentation isPresentation onShield.1
    (shown.2.symm.trans onBadge)

/-- The surfaces show an agent truly exactly when the registry answers with an
envelope, one that is not falsy and whose names can be written. -/
theorem agentShownTruly_iff
    (isParameter : decodeURIComponent agenid = some agentId)
    (isResolved : decodeURIComponent resolved = some agentId)
    (isAgentId : isValidAgentId agentId = true) :
    AgentShownTruly (agentAnswer agentId now registry)
        (getShield agenid now registry)
        (badgeScript badgeTable agentId (getResolve resolved now registry)) ↔
      ∃ document, agentAnswer agentId now registry = .found document ∧
        isTruthy (some document) = true ∧
        Writable (envelopeName document) ∧
        Writable (envelopeOperator document) := by
  have isFetched := isFetchedOf_answer isAgentId now registry
  cases isAnswer : agentAnswer agentId now registry with
  | absent =>
      rw [isAnswer] at isFetched
      obtain ⟨error, isFetched⟩ := isFetched
      refine iff_of_false (not_shownTruly_of_noEnvelope isParameter isResolved
        isAgentId rfl isFetched _) ?_
      rintro ⟨document, isFound, -⟩
      cases isFound
  | failed =>
      rw [isAnswer] at isFetched
      obtain ⟨status, error, notOk, isFetched⟩ := isFetched
      refine iff_of_false (not_shownTruly_of_noEnvelope isParameter isResolved
        isAgentId notOk isFetched _) ?_
      rintro ⟨document, isFound, -⟩
      cases isFound
  | found document =>
      rw [isAnswer] at isFetched
      have isFetched : fetchEnvelope agentId now registry =
          ⟨200, document, none⟩ := isFetched
      by_cases isPresent : isTruthy (some document) = true
      · have shows := shieldShows_envelope_iff isParameter isAgentId isFetched
          isPresent
        constructor
        · intro truly
          obtain ⟨presentation, -, onShield, -⟩ := truly.agreement
          obtain ⟨isName, isOperator, -⟩ := (shows presentation).mp onShield
          exact ⟨document, rfl, isPresent, isName, isOperator⟩
        · rintro ⟨other, isFound, -, isName, isOperator⟩
          cases isFound
          have isMember := presentEnvelopeTrust_mem (some document)
          have known : ENVELOPE_PRESENTATIONS.all (fun presentation =>
              decide (presentation ∈ PRESENTATIONS ∧
                presentation.badgeLabel ≠
                  NOT_REGISTERED_TRUST.badgeLabel)) = true := by
            decide
          obtain ⟨isPresentation, isRegistered⟩ := of_decide_eq_true
            (List.all_eq_true.mp known _ isMember)
          obtain ⟨painted, isPainted, onBadge⟩ :=
            @paintEnvelope_shows agentId document isName isOperator
          constructor
          · intro onShield
            exact absurd ((shows _).mp onShield).2.2.1 isRegistered
          · intro isFailed
            cases isFailed
          · refine ⟨_, isPresentation,
              (shows _).mpr ⟨isName, isOperator, rfl, rfl⟩, ?_⟩
            rw [getResolve_of_envelope isResolved isFetched isPresent]
            simp only [badgeScript, isPainted, Option.getD_some]
            exact onBadge
      · have isEmpty := Bool.eq_false_of_not_eq_true isPresent
        refine iff_of_false ?_ ?_
        · intro truly
          have fetchedEmpty : isTruthy (some (fetchEnvelope agentId now
              registry).envelope) = false := by
            rw [isFetched]
            exact isEmpty
          have absence := truly.absence
          rw [getShield_of_noEnvelope isParameter isAgentId fetchedEmpty,
            shieldShows_notRegistered] at absence
          cases absence ⟨rfl, rfl⟩
        · rintro ⟨other, isFound, present, -⟩
          cases isFound
          exact isPresent present

/-! ## Keys -/

omit [Platform] in
theorem keyReader_eq (registry : KeyRegistry) (keyId : JsString) :
    keyReader registry keyId =
      match keyAnswer keyId registry with
      | .found document => .ok (some document)
      | .absent => .ok (some .null)
      | .failed => .error () := by
  cases registry with
  | http answer =>
      simp only [keyReader, keyAnswer]
      cases keyResolverPath keyId with
      | error thrown => rfl
      | ok path =>
          dsimp only
          cases answer path with
          | networkError => rfl
          | response status body =>
              unfold HttpAnswer.read
              dsimp only
              by_cases isMissing : status = 404
              · rw [if_pos isMissing, if_pos isMissing]
              rw [if_neg isMissing, if_neg isMissing]
              cases isOkStatus status with
              | false => rfl
              | true =>
                  cases body with
                  | none => rfl
                  | some document => rfl
  | inProcess getKey =>
      simp only [keyReader, keyAnswer]
      cases getKey keyId with
      | none => rfl
      | some found =>
          cases found with
          | none => rfl
          | some document => rfl

/-- A key is answered not to be found when its reference can be read and the
reader has nothing. -/
theorem resolveKeyDocument_keyNotFound_iff
    {reader : KeyReader} {ref : Option JsString}
    {position : KeyReferencePosition} {keyId : JsString} :
    (∃ status message, resolveKeyDocument reader ref position =
        .failed status "key_not_found" message (some keyId)) ↔
      canonicalKeyReference ref position = .ok keyId ∧
        (reader keyId = .ok none ∨ reader keyId = .ok (some .null)) := by
  unfold resolveKeyDocument
  constructor
  · rintro ⟨status, message, isAnswered⟩
    cases isRead : canonicalKeyReference ref position with
    | error message =>
        simp [isRead] at isAnswered
    | ok other =>
        rw [isRead] at isAnswered
        dsimp only at isAnswered
        split at isAnswered
        · simp at isAnswered
        · rename_i isAbsent
          cases isAnswered
          exact ⟨rfl, Or.inl isAbsent⟩
        · rename_i isNull
          cases isAnswered
          exact ⟨rfl, Or.inr isNull⟩
        · split at isAnswered
          · simp at isAnswered
          · split at isAnswered
            · simp at isAnswered
            · cases isAnswered
  · rintro ⟨isRead, isAbsent | isNull⟩
    · exact ⟨_, _, by rw [isRead]; dsimp only; rw [isAbsent]⟩
    · exact ⟨_, _, by rw [isRead]; dsimp only; rw [isNull]⟩

/-- A key is answered truly unless the registry answers with the value
null. -/
theorem keyAnsweredTruly_iff
    {registry : KeyRegistry} {ref : Option JsString}
    {position : KeyReferencePosition} :
    KeyAnsweredTruly registry ref position ↔
      ∀ keyId, canonicalKeyReference ref position = .ok keyId →
        ∀ document, keyAnswer keyId registry = .found document →
          document ≠ .null := by
  constructor
  · rintro truly keyId isRead _ isFound rfl
    have isNull : keyReader registry keyId = .ok (some .null) := by
      rw [keyReader_eq, isFound]
    obtain ⟨status, message, isAnswered⟩ :=
      resolveKeyDocument_keyNotFound_iff.mpr ⟨isRead, Or.inr isNull⟩
    rw [truly status message keyId isAnswered] at isFound
    cases isFound
  · intro notNull status message keyId isAnswered
    obtain ⟨isRead, reads⟩ := resolveKeyDocument_keyNotFound_iff.mp
      ⟨status, message, isAnswered⟩
    rw [keyReader_eq] at reads
    cases isAnswer : keyAnswer keyId registry with
    | absent => rfl
    | failed =>
        rw [isAnswer] at reads
        rcases reads with isNone | isNull
        · cases isNone
        · cases isNull
    | found document =>
        rw [isAnswer] at reads
        rcases reads with isNone | isNull
        · cases isNone
        · cases isNull
          exact absurd rfl (notNull keyId isRead .null isAnswer)

/-- Failure is told from absence, and absence from failure, on the surfaces of
an agent and of a key exactly when the registry answers about the agent with
an envelope that is not falsy and whose names can be written, and does not
answer about the key with the value null. -/
theorem surfaces_truthful_iff
    (isParameter : decodeURIComponent agenid = some agentId)
    (isResolved : decodeURIComponent resolved = some agentId)
    (isAgentId : isValidAgentId agentId = true)
    {keys : KeyRegistry} {ref : Option JsString}
    {position : KeyReferencePosition} :
    AgentShownTruly (agentAnswer agentId now registry)
          (getShield agenid now registry)
          (badgeScript badgeTable agentId
            (getResolve resolved now registry)) ∧
        KeyAnsweredTruly keys ref position ↔
      (∃ document, agentAnswer agentId now registry = .found document ∧
        isTruthy (some document) = true ∧
        Writable (envelopeName document) ∧
        Writable (envelopeOperator document)) ∧
      ∀ keyId, canonicalKeyReference ref position = .ok keyId →
        ∀ document, keyAnswer keyId keys = .found document →
          document ≠ .null :=
  and_congr (agentShownTruly_iff isParameter isResolved isAgentId)
    keyAnsweredTruly_iff

end Resolution

/-! ## A registry over HTTP -/

def sampleAgentId : JsString := units "agenid:01J8Z3K3F2QZ9X6V7R4T8N2W5Y"

theorem decodeURIComponent_sampleAgentId :
    decodeURIComponent sampleAgentId = some sampleAgentId :=
  decodeURIComponent_of_notMem (by decide)

/-- A verified agent is shown truly, and so is a missing key. -/
theorem surfaces_truthful_sample :
    letI := samplePlatform
    AgentShownTruly
        (agentAnswer sampleAgentId []
          (.http (.response 200 (some sampleEnvelope))))
        (getShield sampleAgentId []
          (.http (.response 200 (some sampleEnvelope))))
        (badgeScript badgeTable sampleAgentId (getResolve sampleAgentId []
          (.http (.response 200 (some sampleEnvelope))))) ∧
      KeyAnsweredTruly (.http fun _ => .response 404 none)
        (some (units "01J8Z3K3F2QZ9X6V7R4T8N2W5Y#1")) .query := by
  let := samplePlatform
  have isName : Writable (envelopeName sampleEnvelope) := by
    intro found isFound
    have isAda : envelopeName sampleEnvelope = some (.literal "Ada") := rfl
    rw [isAda] at isFound
    cases isFound
    rfl
  have isOperator : Writable (envelopeOperator sampleEnvelope) := by
    intro found isFound
    cases isFound
  apply (surfaces_truthful_iff decodeURIComponent_sampleAgentId
    decodeURIComponent_sampleAgentId (by decide)).mpr
  refine ⟨⟨sampleEnvelope, rfl, rfl, isName, isOperator⟩, ?_⟩
  intro keyId isRead document isFound
  unfold keyAnswer at isFound
  cases isPath : keyResolverPath keyId with
  | error thrown =>
      rw [isPath] at isFound
      cases isFound
  | ok path =>
      rw [isPath] at isFound
      cases isFound

/-- A registry that cannot be reached is shown as one that answers that there
is no such agent. -/
theorem failure_shown_as_absence :
    letI := samplePlatform
    agentAnswer sampleAgentId [] (.http .networkError) = .failed ∧
      ShieldShows (getShield sampleAgentId [] (.http .networkError))
        NOT_REGISTERED_TRUST ∧
      ¬ AgentShownTruly (agentAnswer sampleAgentId [] (.http .networkError))
        (getShield sampleAgentId [] (.http .networkError))
        (badgeScript badgeTable sampleAgentId
          (getResolve sampleAgentId [] (.http .networkError))) := by
  let := samplePlatform
  have isAgentId : isValidAgentId sampleAgentId = true := by
    decide
  have shows : ShieldShows (getShield sampleAgentId [] (.http .networkError))
      NOT_REGISTERED_TRUST := by
    rw [getShield_of_noEnvelope decodeURIComponent_sampleAgentId isAgentId rfl]
    exact shieldShows_notRegistered.mpr ⟨rfl, rfl⟩
  refine ⟨rfl, shows, ?_⟩
  intro truly
  cases truly.absence shows

end AgenId.Web
