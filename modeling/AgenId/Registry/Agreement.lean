import AgenId.Core.Identified
import AgenId.Registry.Publication

/-!
# The two registries

The application and the web deployment each write the rule of registration
out.  They admit the same registrations and refuse the others with the same
codes, and on equal stores they leave equal stores, but for the identifiers
of the events.
-/

namespace AgenId.Registry

open AgenId.Core
open AgenId.Ecma
open AgenId.Library
open AgenId.Validation
open AgenId.Validation.Schema

section Agreement

variable [Platform]

/-! ## The body -/

theorem readRegistration_eq_ok_iff
    {members : Members} {registration : RegisterBody} :
    readRegistration members = .ok registration ↔
      Manifest.schema.accepts (members.lookup (units "manifest")) =
          some registration.manifest ∧
        ManifestProof.schema.accepts (members.lookup (units "proof")) =
          some registration.proof ∧
        KeyDocument.schema.accepts (members.lookup (units "key_document")) =
          some registration.keyDocument := by
  obtain ⟨manifest, proof, keyDocument⟩ := registration
  unfold readRegistration safeParse
  cases Manifest.schema.accepts (members.lookup (units "manifest")) with
  | none => simp
  | some readManifest =>
      cases ManifestProof.schema.accepts (members.lookup (units "proof")) with
      | none => simp
      | some readProof =>
          cases KeyDocument.schema.accepts
              (members.lookup (units "key_document")) with
          | none => simp
          | some readKey => simp

/-- The scan of the members and the three parses accept what the combined
schema accepts. -/
theorem readBody_eq_ok_iff
    {body : Option Json} {registration : RegisterBody} :
    readBody body = .ok registration ↔
      RegisterBody.schema.accepts body = some registration := by
  have fields (members : Members) :
      ((RegisterBody.mk <$> field "manifest" Manifest.schema members <*>
          field "proof" ManifestProof.schema members <*>
          field "key_document" KeyDocument.schema members).accepted =
        some registration) ↔ readRegistration members = .ok registration := by
    rw [readRegistration_eq_ok_iff]
    simp only [Parse.accepted_seq_eq_some_iff, Parse.accepted_map_eq_some_iff,
      accepted_field]
    constructor
    · intro ⟨keyDocument, isKey, _, ⟨proof, isProof, _,
        ⟨manifest, isManifest, isFirst⟩, isSecond⟩, isThird⟩
      subst isFirst isSecond isThird
      exact ⟨isManifest, isProof, isKey⟩
    · intro ⟨isManifest, isProof, isKey⟩
      exact ⟨_, isKey, _, ⟨_, isProof, _, ⟨_, isManifest, rfl⟩, rfl⟩, rfl⟩
  unfold RegisterBody.schema readBody
  cases body with
  | none => simp [accepts, strictObject]
  | some value =>
      cases value with
      | object members =>
          have scanned : unknownNames ["manifest", "proof", "key_document"]
              members = (members.map Prod.fst).filter
                fun name => name ∉ REGISTER_MEMBERS.map units := rfl
          rw [accepts_strictObject, scanned]
          dsimp only
          by_cases known : ((members.map Prod.fst).filter
              fun name => name ∉ REGISTER_MEMBERS.map units) = []
          · rw [if_pos known, if_pos known, fields]
          · rw [if_neg known, if_neg known]
            simp
      | null | boolean _ | number _ | string _ | array _ =>
          simp [accepts, strictObject]

/-! ## Admission -/

theorem registrationTime_ne_none (proofCreatedAt : JsString) (time : Int) :
    registrationTime proofCreatedAt (some time) ≠ none := by
  unfold registrationTime
  dsimp only
  cases dateParse proofCreatedAt with
  | none => exact Option.some_ne_none _
  | some created =>
      dsimp only
      split <;> exact Option.some_ne_none _

/-- Both registries refuse a body, with one status and one code. -/
def BothRefuse (app : Except Response RegisterBody)
    (web : Except RegisterResult (RegisterBody × JsString)) : Prop :=
  ∃ status code message text issues,
    app = .error (err status code message) ∧
      web = .error (.fail status code text issues)

/-- The two registries refuse a body with the same code or admit the same
registration. -/
theorem admissions_agree (body : Option Json) (clock : Clock) :
    BothRefuse (admitRegistration body (nowIso clock))
        (admitAgent body clock) ∨
      ∃ registration,
        admitRegistration body (nowIso clock) = .ok registration ∧
          admitAgent body clock = .ok (registration, nowIso clock) := by
  unfold admitRegistration admitAgent safeParse
  cases isRead : readBody body with
  | error failure =>
      obtain ⟨text, issues, rfl⟩ := readBody_refuses isRead
      cases isAccepted : RegisterBody.schema.accepts body with
      | none => exact Or.inl ⟨_, _, _, text, issues, rfl, rfl⟩
      | some registration =>
          cases isRead.symm.trans (readBody_eq_ok_iff.mpr isAccepted)
  | ok registration =>
      have isAccepted := readBody_eq_ok_iff.mp isRead
      have accepted := accepted_of_readBody isRead
      have isAgentId := Manifest.agentId_valid accepted.manifest
      rw [isAccepted, dateParse_nowIso]
      dsimp only
      cases mismatch : keyMismatch registration with
      | some failure => exact Or.inl ⟨_, _, _, _, _, rfl, rfl⟩
      | none =>
          dsimp only
          rw [isAgentId, if_neg (by decide)]
          cases isTime : registrationTime registration.proof.createdAt
              (some clock.time) with
          | none => exact absurd isTime (registrationTime_ne_none _ _)
          | some time =>
              cases time with
              | fail message => exact Or.inl ⟨_, _, _, _, _, rfl, rfl⟩
              | ok now registeredAt =>
                  obtain rfl : registeredAt = nowIso clock :=
                    registrationTime_registeredAt isTime
                  obtain ⟨result, isResult⟩ :
                      Returns (verifyRegistration registration now) :=
                    verifyManifestProof_returns _ _ _ _
                  dsimp only
                  rw [isResult]
                  cases result with
                  | fail code message =>
                      exact Or.inl ⟨_, _, _, _, _, rfl, rfl⟩
                  | ok state details =>
                      exact Or.inr ⟨registration, rfl, rfl⟩

/-! ## Publication -/

/-- An event without its identifier. -/
def LedgerEvent.unidentified (event : LedgerEvent) : LedgerEvent :=
  { event with eventId := [] }

/-- Two stores are equal up to the identifiers of their events. -/
structure SameButEventIds (first second : MemoryStore) : Prop where
  agents : first.agents = second.agents
  keys : first.keys = second.keys
  assertions : first.assertions = second.assertions
  events : first.events.map LedgerEvent.unidentified =
    second.events.map LedgerEvent.unidentified

theorem registered_sameButEventIds
    (registration : RegisterBody)
    (ts keyUlid agentUlid otherKeyUlid otherAgentUlid : JsString)
    (store : MemoryStore) :
    SameButEventIds (registered registration ts keyUlid agentUlid store)
      (registered registration ts otherKeyUlid otherAgentUlid store) where
  agents := rfl
  keys := rfl
  assertions := rfl
  events := by
    have events (key agent : JsString) :
        ((registered registration ts key agent store).events.map
            LedgerEvent.unidentified) =
          store.events.map LedgerEvent.unidentified ++
            [(publishedEvent registration ts []).unidentified] ++
            [(registeredEvent registration ts []).unidentified] := by
      have written : (registered registration ts key agent store).events =
          store.events ++ [publishedEvent registration ts key] ++
            [registeredEvent registration ts agent] := rfl
      rw [written, List.map_append, List.map_append]
      rfl
    rw [events, events]

theorem publish_keyConflict
    {registration : RegisterBody} (ts keyUlid agentUlid : JsString)
    {store : MemoryStore}
    (taken : differs (store.getKey registration.keyDocument.keyId)
      registration.keyDocument = true) :
    (publish registration ts keyUlid agentUlid).run MemoryStore.handle
        store = (.ok .keyConflict, store) := by
  rw [publish_eq, Program.run_call]
  simp [MemoryStore.handle, taken]

theorem publicationResponse_published
    {registration : RegisterBody}
    (registrable : Registrable registration) (record : AgentRecord) :
    ∃ keyPath, publicationResponse registration (.ok (.published record)) =
      registeredResponse record keyPath := by
  have isKeyId := ManifestProof.keyId_valid registrable.proof
  obtain ⟨keyPath, isPath⟩ := keyResolverPath_ok isKeyId
  refine ⟨keyPath, ?_⟩
  simp only [publicationResponse, registrable.bound.keyId, isPath]

/-- The two registries decide registration alike: for every body, clock and
store both refuse with the same status and code and leave the store, or both
register the same record and leave the same store, but for the identifiers of
the events. -/
theorem registries_agree
    (body : Option Json) (clock : Clock)
    (keyUlid agentUlid otherKeyUlid otherAgentUlid : JsString)
    (store : MemoryStore) :
    let app := (postAgents body (nowIso clock) (nowIso clock) keyUlid
      agentUlid).run MemoryStore.handle store
    let web := (registerAgent body clock otherKeyUlid otherAgentUlid).run
      MemoryStore.handle store
    (∃ status code message text issues,
        app = (err status code message, store) ∧
          web = (.fail status code text issues, store)) ∨
      ∃ record keyDocument manifest keyPath,
        app.1 = registeredResponse record keyPath ∧
          web.1 = .ok record keyDocument manifest ∧
          SameButEventIds app.2 web.2 := by
  intro app web
  rcases admissions_agree body clock with
    ⟨status, code, message, text, issues, isApp, isWeb⟩ |
      ⟨registration, isApp, isWeb⟩
  · left
    refine ⟨status, code, message, text, issues, ?_, ?_⟩
    · simp only [app]
      rw [postAgents_of_refused isApp]
      rfl
    · simp only [web]
      rw [registerAgent_of_refused isWeb]
      rfl
  have ranApp : app =
      (publicationResponse registration ((publish registration (nowIso clock)
          keyUlid agentUlid).run MemoryStore.handle store).1,
        ((publish registration (nowIso clock) keyUlid agentUlid).run
          MemoryStore.handle store).2) := by
    simp only [app]
    rw [postAgents_of_admitted isApp, Program.run_bind]
    rfl
  have ranWeb : web =
      (publicationResult registration ((publish registration (nowIso clock)
          otherKeyUlid otherAgentUlid).run MemoryStore.handle store).1,
        ((publish registration (nowIso clock) otherKeyUlid
          otherAgentUlid).run MemoryStore.handle store).2) := by
    simp only [web]
    rw [registerAgent_of_admitted isWeb, Program.run_bind]
    rfl
  cases usable : differs (store.getKey registration.keyDocument.keyId)
      registration.keyDocument with
  | true =>
      left
      rw [ranApp, ranWeb, publish_keyConflict _ _ _ usable,
        publish_keyConflict _ _ _ usable]
      exact ⟨_, _, _, _, _, rfl, rfl⟩
  | false =>
      cases found : store.getAgent registration.manifest.agentId with
      | some record =>
          left
          rw [ranApp, ranWeb, publish_agentExists _ _ _ usable found,
            publish_agentExists _ _ _ usable found]
          exact ⟨_, _, _, _, _, rfl, rfl⟩
      | none =>
          right
          rw [ranApp, ranWeb, publish_published _ _ _ usable found,
            publish_published _ _ _ usable found]
          have registrable := registrable_of_admitRegistration isApp
          obtain ⟨keyPath, isResponse⟩ := publicationResponse_published
            registrable (recordOf registration (nowIso clock))
          exact ⟨_, _, _, keyPath, isResponse, rfl,
            registered_sameButEventIds _ _ _ _ _ _ _⟩

end Agreement

end AgenId.Registry
