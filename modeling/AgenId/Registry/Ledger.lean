import AgenId.Library.Embedding
import AgenId.Registry.Recovery
import AgenId.Registry.WriteOnce

/-!
# The ledger under concurrency

The requests run interleaved, one store call at a time, whatever they race
for.  The ledger of an agent that is not registered is empty; that of a
registered agent has, besides the events of its assertions, the two events of
its one registration, in order and with what its record says.
-/

namespace AgenId.Registry

open AgenId.Core
open AgenId.Ecma
open AgenId.Library
open AgenId.Validation
open AgenId.Validation.Schema

/-! ## The events of a registration -/

/-- The events that the registration of a record writes. -/
def registrationEvents (record : AgentRecord) (keyUlid agentUlid : JsString) :
    List LedgerEvent :=
  [{ eventId := units "evt_" ++ keyUlid
     agentId := record.agentId
     type := .keyPublished
     occurredAt := record.registeredAt
     detailRef := [(units "key_id", record.proof.keyId)] },
   { eventId := units "evt_" ++ agentUlid
     agentId := record.agentId
     type := .agentRegistered
     occurredAt := record.registeredAt
     detailRef := [(units "manifest_digest", record.manifestDigest)] }]

theorem agentId_of_registrationEvents
    {record : AgentRecord} {keyUlid agentUlid : JsString}
    {event : LedgerEvent}
    (isMember : event ∈ registrationEvents record keyUlid agentUlid) :
    event.agentId = record.agentId := by
  simp only [registrationEvents, List.mem_cons, List.not_mem_nil,
    or_false] at isMember
  rcases isMember with rfl | rfl
  · rfl
  · rfl

/-- What the calls append. -/
def StoreCall.appended : StoreCall → List LedgerEvent
  | .appendEvent event => [event]
  | _ => []

/-- The events of a ledger that are not those of assertions. -/
def lifecycle (events : List LedgerEvent) : List LedgerEvent :=
  events.filter fun event => event.type ≠ .assertionIssued

@[simp]
theorem lifecycle_nil : lifecycle [] = [] := rfl

@[simp]
theorem lifecycle_append (events more : List LedgerEvent) :
    lifecycle (events ++ more) = lifecycle events ++ lifecycle more :=
  List.filter_append ..

/-- The events of its registration that a request has written. -/
def History.written (history : History) : List LedgerEvent :=
  lifecycle (history.flatMap fun exchange => exchange.1.appended)

@[simp]
theorem written_nil : History.written [] = [] := rfl

@[simp]
theorem written_append
    (history : History) (exchange : Program.Exchange StoreCall.Reply) :
    History.written (history ++ [exchange]) =
      History.written history ++ lifecycle exchange.1.appended := by
  simp [History.written]

/-- A request has created a record. -/
def History.Created (history : History) (record : AgentRecord) : Prop :=
  (Document.agent record).written ∈ history

/-- What a request has seen before it creates an agent or appends an event. -/
def Ledgered (history : History) : StoreCall → Prop
  | .createAgent _ => history.written = [] ∧
      ∀ record, ¬ history.Created record
  | .appendEvent event =>
    (event.type ≠ .assertionIssued ∧ ∃ record keyUlid agentUlid,
      history.Created record ∧
        (history.written ++ [event]) <+:
          registrationEvents record keyUlid agentUlid) ∨
    ∃ agentId record assertion ulid occurredAt,
      (⟨.getAgent agentId, some record⟩ :
          Program.Exchange StoreCall.Reply) ∈ history ∧
        (Document.assertion assertion).written ∈ history ∧
        assertion.subject = record.agentId ∧
        event = issuedEvent record assertion ulid occurredAt
  | _ => True

/-- A request appends events of its own registration only, in order. -/
theorem Ledgered.creator
    {history : History} {request : StoreCall}
    (ledgered : Ledgered history request) {event : LedgerEvent}
    (isAppended : event ∈ lifecycle request.appended) :
    request = .appendEvent event ∧ ∃ record, history.Created record ∧
      event.agentId = record.agentId ∧ ∃ keyUlid agentUlid,
        (history.written ++ [event]) <+:
          registrationEvents record keyUlid agentUlid := by
  obtain ⟨isAppended, isLifecycle⟩ := List.mem_filter.mp isAppended
  have notAssertion := of_decide_eq_true isLifecycle
  cases request with
  | appendEvent appended =>
      obtain rfl := List.mem_singleton.mp isAppended
      rcases ledgered with
        ⟨-, record, keyUlid, agentUlid, created, isPlanned⟩ |
        ⟨agentId, record, assertion, ulid, occurredAt, -, -, -, rfl⟩
      · have isEvent : event ∈ registrationEvents record keyUlid agentUlid :=
          isPlanned.subset (List.mem_append_right _
            (List.mem_singleton.mpr rfl))
        exact ⟨rfl, record, created, agentId_of_registrationEvents isEvent,
          keyUlid, agentUlid, isPlanned⟩
      · exact absurd rfl notAssertion
  | _ => cases isAppended

section Ledger

variable [Platform]

theorem registrationEvents_recordOf
    {registration : RegisterBody}
    (isNamed : registration.keyDocument.keyId = registration.proof.keyId)
    (ts keyUlid agentUlid : JsString) :
    registrationEvents (recordOf registration ts) keyUlid agentUlid =
      [publishedEvent registration ts keyUlid,
        registeredEvent registration ts agentUlid] := by
  simp [registrationEvents, publishedEvent, registeredEvent, recordOf,
    isNamed]

/-! ## What requests promise -/

/-- A registration that is answered with success has written both events. -/
def Told (request : Request) (history : History) (answer : Answer) : Prop :=
  answer.IsCreated → ∀ record, request.Submits (.agent record) →
    history.Created record ∧ ∃ keyUlid agentUlid,
      history.written = registrationEvents record keyUlid agentUlid

theorem publish_ledgered
    {registration : RegisterBody}
    (isNamed : registration.keyDocument.keyId = registration.proof.keyId)
    (ts keyUlid agentUlid : JsString)
    {answer : Except AgenIdError Publication → Answer}
    (isConflict : ¬ (answer (.ok .keyConflict)).IsCreated)
    (isTaken : ¬ (answer (.ok .agentExists)).IsCreated) :
    (publish registration ts keyUlid agentUlid >>= fun publication =>
      pure (answer publication)).Promises Ledgered
        (fun (history : History) sent => sent.IsCreated →
          history.Created (recordOf registration ts) ∧
            ∃ keyUlid agentUlid, history.written = registrationEvents
              (recordOf registration ts) keyUlid agentUlid) [] := by
  have events := registrationEvents_recordOf isNamed ts keyUlid agentUlid
  rw [publish_eq, Program.call_bind]
  refine ⟨trivial, ?_⟩
  intro existing
  dsimp only
  by_cases isOther : differs existing registration.keyDocument = true
  · rw [if_pos isOther]
    exact fun isCreated => absurd isCreated isConflict
  · rw [if_neg isOther, Program.call_bind]
    refine ⟨⟨rfl, fun record => by simp [History.Created,
      Document.written]⟩, ?_⟩
    intro created
    cases created with
    | false => exact fun isCreated => absurd isCreated isTaken
    | true =>
        refine ⟨trivial, fun _ => ⟨?_, fun _ => ⟨?_, fun _ _ => ?_⟩⟩⟩
        · refine Or.inl ⟨by simp [publishedEvent],
            recordOf registration ts, keyUlid, agentUlid, ?_, ?_⟩
          · simp [History.Created, Document.written]
          · rw [events]
            exact ⟨[registeredEvent registration ts agentUlid], rfl⟩
        · refine Or.inl ⟨by simp [registeredEvent],
            recordOf registration ts, keyUlid, agentUlid, ?_, ?_⟩
          · simp [History.Created, Document.written]
          · rw [events]
            exact ⟨[], rfl⟩
        · refine ⟨by simp [History.Created, Document.written], keyUlid,
            agentUlid, ?_⟩
          rw [events]
          rfl

/-- A request that is not answered with success keeps its promise. -/
theorem told_of_not_created
    {request : Request} {history : History} {answer : Answer}
    (notCreated : ¬ answer.IsCreated) : Told request history answer := by
  intro isCreated
  exact absurd isCreated notCreated

theorem agents_ledgered
    (body : Option Json) (clock ts keyUlid agentUlid : JsString)
    (authorityToken : Option JsString) :
    let request := Request.agents body clock ts keyUlid agentUlid
    (request.program authorityToken).Promises Ledgered (Told request) [] := by
  intro request
  cases isAdmitted : admitRegistration body clock with
  | error refused =>
      have isProgram : request.program authorityToken =
          .done (.response refused) := by
        simp only [request, Request.program_agents]
        rw [postAgents_of_refused isAdmitted]
        rfl
      rw [isProgram]
      have status := status_of_admitRegistration isAdmitted
      apply told_of_not_created
      simp only [Answer.IsCreated]
      omega
  | ok registration =>
      have isProgram : request.program authorityToken =
          publish registration ts keyUlid agentUlid >>= fun publication =>
            pure (.response
              (publicationResponse registration publication)) := by
        simp only [request, Request.program_agents]
        rw [postAgents_of_admitted isAdmitted, bind_assoc]
        rfl
      have bound := (registrable_of_admitRegistration isAdmitted).bound
      rw [isProgram]
      apply Program.Promises.weaken (publish_ledgered bound.keyId ts keyUlid
        agentUlid (by simp [publicationResponse, Answer.IsCreated, err])
        (by simp [publicationResponse, Answer.IsCreated, err]))
      intro history answer told isCreated record submits
      obtain ⟨submitted, isSubmitted, isDocument⟩ := submits
      obtain rfl : submitted = registration := Option.some.inj
        (isSubmitted.symm.trans (accepts_of_admitRegistration isAdmitted))
      rcases isDocument with isRecord | isKey
      · obtain rfl := Document.agent.inj isRecord
        exact told isCreated
      · cases isKey

theorem register_ledgered
    (body : Option Json) (clock : Clock) (keyUlid agentUlid : JsString)
    (authorityToken : Option JsString) :
    let request := Request.register body clock keyUlid agentUlid
    (request.program authorityToken).Promises Ledgered (Told request) [] := by
  intro request
  cases isAdmitted : admitAgent body clock with
  | error failure =>
      have isProgram : request.program authorityToken =
          .done (.result failure) := by
        simp only [request, Request.program_register]
        rw [registerAgent_of_refused isAdmitted]
        rfl
      rw [isProgram]
      obtain ⟨_, _, _, _, rfl⟩ := admitAgent_isFailure isAdmitted
      apply told_of_not_created
      rintro ⟨_, _, _, impossible⟩
      cases impossible
  | ok admitted =>
      obtain ⟨registration, registeredAt⟩ := admitted
      have isProgram : request.program authorityToken =
          publish registration registeredAt keyUlid agentUlid >>=
            fun publication => pure (.result
              (publicationResult registration publication)) := by
        simp only [request, Request.program_register]
        rw [registerAgent_of_admitted isAdmitted, bind_assoc]
        rfl
      have admits := admitted_of_admitAgent isAdmitted
      have isRead := readBody_of_admitAgent isAdmitted
      rw [isProgram]
      apply Program.Promises.weaken (publish_ledgered
        admits.registrable.bound.keyId registeredAt keyUlid agentUlid
        (by simp [publicationResult, Answer.IsCreated, refusal])
        (by simp [publicationResult, Answer.IsCreated, refusal]))
      intro history answer told isCreated record submits
      obtain ⟨submitted, isSubmitted, isDocument⟩ := submits
      obtain rfl : submitted = registration :=
        Except.ok.inj (isSubmitted.symm.trans isRead)
      rcases isDocument with isRecord | isKey
      · obtain rfl := Document.agent.inj isRecord
        rw [← admits.recorded]
        exact told isCreated
      · cases isKey

/-- An authority's request registers no agent. -/
theorem told_of_authority
    {request : Request} (registersNone : ∀ record,
      ¬ request.Submits (.agent record))
    {history : History} {answer : Answer} : Told request history answer := by
  intro _ record submits
  exact absurd submits (registersNone record)

theorem authorityKeys_ledgered
    (authorityToken authorization : Option JsString) (body : Option Json) :
    let request := Request.authorityKeys authorization body
    (request.program authorityToken).Promises Ledgered (Told request) [] := by
  intro request
  have told : ∀ history answer, Told request history answer := by
    intro history answer
    apply told_of_authority
    rintro record ⟨doc, -, isKey⟩
    cases isKey
  simp only [request, Request.program_authorityKeys, postAuthorityKeys,
    StoredForm.postAuthorityKeys]
  split
  · exact told _ _
  · split
    · exact told _ _
    · split
      · exact told _ _
      · simp only [call_eq, Program.call_bind, Program.done_bind]
        refine ⟨trivial, ?_⟩
        intro existing
        dsimp only
        split
        · exact told _ _
        · refine ⟨trivial, ?_⟩
          intro reply
          dsimp only
          split
          · exact told _ _
          · exact told _ _

theorem assertions_ledgered
    (authorityToken authorization : Option JsString) (agentId : JsString)
    (body : Option Json) (clock occurredAt ulid : JsString) :
    let request := Request.assertions authorization agentId body clock
      occurredAt ulid
    (request.program authorityToken).Promises Ledgered (Told request) [] := by
  intro request
  have told : ∀ history answer, Told request history answer := by
    intro history answer
    apply told_of_authority
    rintro record ⟨assertion, -, isAssertion⟩
    cases isAssertion
  simp only [request, Request.program_assertions, postAssertions,
    StoredForm.postAssertions]
  split
  · exact told _ _
  · split
    · simp only [call_eq, Program.call_bind, Program.done_bind]
      refine ⟨trivial, ?_⟩
      intro record
      cases record with
      | none => exact told _ _
      | some record =>
          dsimp only
          unfold StoredForm.issueAssertion
          cases isParsed : IssueAssertionBody.safeParse body with
          | error issues => exact told _ _
          | ok issued =>
              dsimp only
              by_cases isSubject : issued.subject = record.agentId
              · rw [if_neg (not_not.mpr isSubject)]
                simp only [call_eq, Program.call_bind, Program.done_bind]
                refine ⟨trivial, ?_⟩
                intro auKey
                cases auKey with
                | none => exact told _ _
                | some key =>
                    dsimp only
                    split
                    · exact told _ _
                    · exact told _ _
                    · refine ⟨trivial, ?_⟩
                      intro existing
                      cases existing with
                      | some found => exact told _ _
                      | none =>
                          refine ⟨trivial, fun _ => ⟨?_, fun _ => told _ _⟩⟩
                          refine Or.inr ⟨agentId, record, issued, ulid,
                            occurredAt, ?_, ?_, isSubject, rfl⟩
                          · simp
                          · simp [Document.written]
              · rw [if_pos isSubject]
                exact told _ _
    · exact told _ _

theorem request_ledgered
    (authorityToken : Option JsString) (request : Request) :
    (request.program authorityToken).Promises Ledgered (Told request)
      [] := by
  cases request with
  | agents body clock ts keyUlid agentUlid =>
      exact agents_ledgered body clock ts keyUlid agentUlid authorityToken
  | register body clock keyUlid agentUlid =>
      exact register_ledgered body clock keyUlid agentUlid authorityToken
  | authorityKeys authorization body =>
      exact authorityKeys_ledgered authorityToken authorization body
  | assertions authorization agentId body clock occurredAt ulid =>
      exact assertions_ledgered authorityToken authorization agentId body
        clock occurredAt ulid

/-! ## What calls do to the ledger -/

/-- What the registry has answered about agents and taken in of assertions
stays so. -/
def Answered (store : MemoryStore) :
    Program.Exchange StoreCall.Reply → Prop
  | ⟨.createAgent record, created⟩ => created = true →
    store.getAgent record.agentId = some record
  | ⟨.getAgent agentId, found⟩ => ∀ record, found = some record →
    store.getAgent agentId = some record
  | ⟨.putAssertion assertion, _⟩ =>
    (store.getAssertion assertion.assertionId).isSome
  | _ => True

theorem events_handle (store : MemoryStore) (request : StoreCall) :
    (MemoryStore.handle request store).2.events =
      store.events ++ request.appended := by
  cases request with
  | createAgent record =>
      rcases store.createAgent_cases record with
        ⟨-, isNew⟩ | ⟨other, -, isTaken⟩
      · simp [MemoryStore.handle, isNew, StoreCall.appended,
          MemoryStore.putAgent]
      · simp [MemoryStore.handle, isTaken, StoreCall.appended]
  | appendEvent event => rfl
  | _ => exact (List.append_nil _).symm

theorem listEvents_handle
    (store : MemoryStore) (request : StoreCall) (agentId : JsString) :
    (MemoryStore.handle request store).2.listEvents agentId =
      store.listEvents agentId ++
        request.appended.filter fun event => event.agentId = agentId := by
  unfold MemoryStore.listEvents
  rw [events_handle, List.filter_append]

/-- An agent is there after a call when it was there, or when the call has
created it. -/
theorem getAgent_handle
    (store : MemoryStore) (request : StoreCall) (agentId : JsString) :
    (MemoryStore.handle request store).2.getAgent agentId =
        store.getAgent agentId ∨
      ∃ record, request = .createAgent record ∧ record.agentId = agentId ∧
        (MemoryStore.handle (.createAgent record) store).1 = true ∧
        store.getAgent agentId = none ∧
        (MemoryStore.handle request store).2.getAgent agentId =
          some record := by
  cases request with
  | createAgent record =>
      rcases store.createAgent_cases record with
        ⟨free, isNew⟩ | ⟨other, -, isTaken⟩
      · by_cases same : agentId = record.agentId
        · subst same
          right
          exact ⟨record, rfl, rfl, by simp [MemoryStore.handle, isNew], free,
            by simp [MemoryStore.handle, isNew]⟩
        · left
          simp [MemoryStore.handle, isNew, same]
      · left
        simp [MemoryStore.handle, isTaken]
  | _ => exact Or.inl rfl

theorem getAgent_stays
    {store : MemoryStore} {agentId : JsString} {record : AgentRecord}
    (found : store.getAgent agentId = some record) (request : StoreCall) :
    (MemoryStore.handle request store).2.getAgent agentId = some record := by
  rcases getAgent_handle store request agentId with
    same | ⟨_, _, _, _, free, _⟩
  · exact same.trans found
  · rw [found] at free
    cases free

theorem free_of_created
    {store : MemoryStore} {record : AgentRecord}
    (isCreated : (MemoryStore.handle (.createAgent record) store).1 = true) :
    store.getAgent record.agentId = none := by
  rcases store.createAgent_cases record with ⟨free, -⟩ | ⟨other, -, isTaken⟩
  · exact free
  · have created : (store.createAgent record).1 = true := isCreated
    rw [isTaken] at created
    cases created

theorem getAssertion_stays
    {store : MemoryStore} {assertionId : JsString}
    (found : (store.getAssertion assertionId).isSome)
    (request : StoreCall) :
    ((MemoryStore.handle request store).2.getAssertion
      assertionId).isSome := by
  cases request with
  | createAgent record =>
      rcases store.createAgent_cases record with
        ⟨-, isNew⟩ | ⟨other, -, isTaken⟩
      · simpa [MemoryStore.handle, isNew] using found
      · simpa [MemoryStore.handle, isTaken] using found
  | putAssertion assertion =>
      simp only [MemoryStore.handle, MemoryStore.getAssertion_putAssertion]
      split
      · rfl
      · exact found
  | _ => exact found

theorem answered_by_handle
    (store : MemoryStore) (request : StoreCall) :
    Answered (MemoryStore.handle request store).2
      ⟨request, (MemoryStore.handle request store).1⟩ := by
  cases request with
  | createAgent record =>
      intro created
      rcases store.createAgent_cases record with
        ⟨-, isNew⟩ | ⟨other, -, isTaken⟩
      · simp [MemoryStore.handle, isNew]
      · have isCreated : (store.createAgent record).1 = true := created
        rw [isTaken] at isCreated
        cases isCreated
  | getAgent agentId => exact fun record found => found
  | putAssertion assertion => simp [Answered, MemoryStore.handle]
  | _ => trivial

theorem answered_stays
    {store : MemoryStore} {exchange : Program.Exchange StoreCall.Reply}
    (isAnswered : Answered store exchange) (request : StoreCall) :
    Answered (MemoryStore.handle request store).2 exchange := by
  obtain ⟨asked, reply⟩ := exchange
  cases asked with
  | createAgent record =>
      exact fun created => getAgent_stays (isAnswered created) request
  | getAgent agentId =>
      exact fun record found =>
        getAgent_stays (isAnswered record found) request
  | putAssertion assertion => exact getAssertion_stays isAnswered request
  | _ => trivial

/-! ## What every run keeps -/

variable {Index : Type*} [DecidableEq Index]

/-- The registered agents are those that one request each has created, and
their ledgers are what these requests have written. -/
structure LedgerKept
    (system : System StoreCall.Reply MemoryStore Answer Index) : Prop where
  answered : ∀ index, ∀ exchange ∈ (system.processes index).history,
    Answered system.state exchange
  agents : ∀ agentId record, system.state.getAgent agentId = some record →
    record.agentId = agentId ∧
      ∃ index, History.Created (system.processes index).history record
  creator : ∀ first second record later,
    History.Created (system.processes first).history record →
      History.Created (system.processes second).history later →
        record.agentId = later.agentId → first = second
  once : ∀ index record later,
    History.Created (system.processes index).history record →
      History.Created (system.processes index).history later → record = later
  silent : ∀ agentId, system.state.getAgent agentId = none →
    system.state.listEvents agentId = []
  ledger : ∀ index record,
    History.Created (system.processes index).history record →
      lifecycle (system.state.listEvents record.agentId) =
        History.written (system.processes index).history
  planned : ∀ index record,
    History.Created (system.processes index).history record →
      ∃ keyUlid agentUlid,
        History.written (system.processes index).history <+:
          registrationEvents record keyUlid agentUlid
  issued : ∀ event ∈ system.state.events, event.type = .assertionIssued →
    ∃ record assertion ulid occurredAt,
      event = issuedEvent record assertion ulid occurredAt ∧
        assertion.subject = record.agentId ∧
        (system.state.getAssertion assertion.assertionId).isSome

/-! ## Every call keeps it -/

section Advance

variable {system : System StoreCall.Reply MemoryStore Answer Index}
  {index : Index} {request : StoreCall}
  {next : request.Reply → StoreProgram Answer}

theorem created_advance_iff {other : Index} {record : AgentRecord} :
    History.Created ((system.advance MemoryStore.handle index request
        next).processes other).history record ↔
      History.Created (system.processes other).history record ∨
        (other = index ∧ request = .createAgent record ∧
          (MemoryStore.handle (.createAgent record) system.state).1 =
            true) := by
  unfold History.Created
  by_cases same : other = index
  · subst same
    simp only [System.advance, Function.update_self, List.mem_append,
      List.mem_singleton, true_and]
    apply or_congr Iff.rfl
    constructor
    · intro isLast
      obtain ⟨rfl, created⟩ := Sigma.mk.inj isLast
      exact ⟨rfl, (eq_of_heq created).symm⟩
    · rintro ⟨rfl, created⟩
      rw [created]
      rfl
  · simp [System.advance, same]

theorem written_advance (other : Index) :
    History.written ((system.advance MemoryStore.handle index request
        next).processes other).history =
      History.written (system.processes other).history ++
        if other = index then lifecycle request.appended else [] := by
  by_cases same : other = index
  · subst same
    simp [System.advance]
  · simp [System.advance, same]

omit [Platform] [DecidableEq Index] in
/-- The agent of an event that is appended is registered. -/
theorem LedgerKept.getAgent_of_appended
    (kept : LedgerKept system)
    (ledgered : Ledgered (system.processes index).history request)
    {event : LedgerEvent} (isAppended : event ∈ request.appended) :
    ∃ record, system.state.getAgent event.agentId = some record := by
  cases request with
  | appendEvent appended =>
      obtain rfl := List.mem_singleton.mp isAppended
      rcases ledgered with
        ⟨-, record, keyUlid, agentUlid, created, isPlanned⟩ |
        ⟨agentId, record, assertion, ulid, occurredAt, wasFound, -, -, rfl⟩
      · have isEvent : event ∈ registrationEvents record keyUlid agentUlid :=
          isPlanned.subset (List.mem_append_right _
            (List.mem_singleton.mpr rfl))
        refine ⟨record, ?_⟩
        rw [agentId_of_registrationEvents isEvent]
        exact kept.answered index _ created rfl
      · have found := kept.answered index _ wasFound record rfl
        refine ⟨record, ?_⟩
        rw [show (issuedEvent record assertion ulid occurredAt).agentId =
          agentId from (kept.agents agentId record found).1]
        exact found
  | _ => cases isAppended

omit [Platform] in
/-- The ledger of an agent grows by what its creator writes. -/
theorem LedgerKept.appended_of_created
    (kept : LedgerKept system)
    (ledgered : Ledgered (system.processes index).history request)
    {other : Index} {record : AgentRecord}
    (wasCreated :
      History.Created (system.processes other).history record) :
    lifecycle (request.appended.filter fun event =>
        event.agentId = record.agentId) =
      if other = index then lifecycle request.appended else [] := by
  have commutes : lifecycle (request.appended.filter fun event =>
      event.agentId = record.agentId) =
        (lifecycle request.appended).filter fun event =>
          event.agentId = record.agentId := by
    unfold lifecycle
    rw [List.filter_filter, List.filter_filter]
    exact List.filter_congr fun event _ => Bool.and_comm _ _
  rw [commutes]
  by_cases same : other = index
  · subst same
    rw [if_pos rfl]
    apply List.filter_eq_self.mpr
    intro event isAppended
    obtain ⟨-, author, wasAuthor, isAgent, -⟩ := ledgered.creator isAppended
    rw [kept.once other record author wasCreated wasAuthor]
    exact decide_eq_true isAgent
  · rw [if_neg same]
    apply List.filter_eq_nil_iff.mpr
    intro event isAppended isAgent
    obtain ⟨-, author, wasAuthor, isAuthor, -⟩ := ledgered.creator isAppended
    exact same (kept.creator other index record author wasCreated wasAuthor
      ((of_decide_eq_true isAgent).symm.trans isAuthor))

/-- An exchange stands after every call. -/
theorem LedgerKept.answered_advance
    (kept : LedgerKept system)
    (other : Index) (exchange : Program.Exchange StoreCall.Reply)
    (isMember : exchange ∈ ((system.advance MemoryStore.handle index request
      next).processes other).history) :
    Answered (system.advance MemoryStore.handle index request next).state
      exchange := by
  by_cases same : other = index
  · subst same
    simp only [System.advance, Function.update_self, List.mem_append,
      List.mem_singleton] at isMember
    rcases isMember with earlier | rfl
    · exact answered_stays (kept.answered other _ earlier) request
    · exact answered_by_handle system.state request
  · simp only [System.advance, Function.update_of_ne same] at isMember
    exact answered_stays (kept.answered other _ isMember) request

theorem LedgerKept.agents_advance
    (kept : LedgerKept system)
    (agentId : JsString) (record : AgentRecord)
    (found : (system.advance MemoryStore.handle index request
      next).state.getAgent agentId = some record) :
    record.agentId = agentId ∧
      ∃ other, History.Created ((system.advance MemoryStore.handle index
        request next).processes other).history record := by
  rcases getAgent_handle system.state request agentId with
    same | ⟨created, rfl, isAgent, isCreated, -, isFound⟩
  · obtain ⟨isAgent, other, wasCreated⟩ :=
      kept.agents agentId record (same.symm.trans found)
    exact ⟨isAgent, other, created_advance_iff.mpr (Or.inl wasCreated)⟩
  · obtain rfl := Option.some.inj (found.symm.trans isFound)
    exact ⟨isAgent, index,
      created_advance_iff.mpr (Or.inr ⟨rfl, rfl, isCreated⟩)⟩

theorem LedgerKept.creator_advance
    (kept : LedgerKept system)
    (first second : Index) (record later : AgentRecord)
    (createdFirst : History.Created ((system.advance MemoryStore.handle index
      request next).processes first).history record)
    (createdSecond : History.Created ((system.advance MemoryStore.handle index
      request next).processes second).history later)
    (sameAgent : record.agentId = later.agentId) : first = second := by
  rcases created_advance_iff.mp createdFirst with
    wasFirst | ⟨isFirst, -, isNew⟩
  · rcases created_advance_iff.mp createdSecond with
      wasSecond | ⟨-, -, isNew⟩
    · exact kept.creator first second record later wasFirst wasSecond
        sameAgent
    · have stored := kept.answered first _ wasFirst rfl
      rw [sameAgent, free_of_created isNew] at stored
      cases stored
  · rcases created_advance_iff.mp createdSecond with
      wasSecond | ⟨isSecond, -, -⟩
    · have stored := kept.answered second _ wasSecond rfl
      rw [← sameAgent, free_of_created isNew] at stored
      cases stored
    · exact isFirst.trans isSecond.symm

theorem LedgerKept.once_advance
    (kept : LedgerKept system)
    (ledgered : Ledgered (system.processes index).history request)
    (other : Index) (record later : AgentRecord)
    (createdFirst : History.Created ((system.advance MemoryStore.handle index
      request next).processes other).history record)
    (createdSecond : History.Created ((system.advance MemoryStore.handle index
      request next).processes other).history later) : record = later := by
  rcases created_advance_iff.mp createdFirst with
    wasFirst | ⟨rfl, rfl, -⟩
  · rcases created_advance_iff.mp createdSecond with
      wasSecond | ⟨rfl, rfl, -⟩
    · exact kept.once other record later wasFirst wasSecond
    · exact absurd wasFirst (ledgered.2 record)
  · rcases created_advance_iff.mp createdSecond with
      wasSecond | ⟨-, isRequest, -⟩
    · exact absurd wasSecond (ledgered.2 later)
    · exact StoreCall.createAgent.inj isRequest

/-- An agent that is not registered has no events. -/
theorem LedgerKept.silent_advance
    (kept : LedgerKept system)
    (ledgered : Ledgered (system.processes index).history request)
    (agentId : JsString)
    (absent : (system.advance MemoryStore.handle index request
      next).state.getAgent agentId = none) :
    (system.advance MemoryStore.handle index request
      next).state.listEvents agentId = [] := by
  have wasAbsent : system.state.getAgent agentId = none := by
    by_contra found
    obtain ⟨record, found⟩ := Option.ne_none_iff_exists'.mp found
    exact absurd ((getAgent_stays found request).symm.trans absent)
      (by simp)
  have noEvents : request.appended.filter
      (fun event => event.agentId = agentId) = [] := by
    apply List.filter_eq_nil_iff.mpr
    intro event isAppended isAgent
    obtain ⟨record, found⟩ := kept.getAgent_of_appended ledgered isAppended
    rw [of_decide_eq_true isAgent, wasAbsent] at found
    cases found
  have events := listEvents_handle system.state request agentId
  rw [noEvents, kept.silent agentId wasAbsent] at events
  exact events

/-- The ledger of an agent is what its creator has written. -/
theorem LedgerKept.ledger_advance
    (kept : LedgerKept system)
    (ledgered : Ledgered (system.processes index).history request)
    (other : Index) (record : AgentRecord)
    (created : History.Created ((system.advance MemoryStore.handle index
      request next).processes other).history record) :
    lifecycle ((system.advance MemoryStore.handle index request
        next).state.listEvents record.agentId) =
      History.written ((system.advance MemoryStore.handle index request
        next).processes other).history := by
  rw [written_advance]
  have events := listEvents_handle system.state request record.agentId
  have isLedger : lifecycle ((system.advance MemoryStore.handle index
      request next).state.listEvents record.agentId) =
        lifecycle (system.state.listEvents record.agentId) ++
          lifecycle (request.appended.filter fun event =>
            event.agentId = record.agentId) := by
    rw [← lifecycle_append, ← events]
    rfl
  rw [isLedger]
  rcases created_advance_iff.mp created with
    wasCreated | ⟨rfl, rfl, isNew⟩
  · rw [kept.ledger other record wasCreated,
      kept.appended_of_created ledgered wasCreated]
  · have free := free_of_created isNew
    rw [kept.silent _ free, ledgered.1]
    simp [StoreCall.appended]

/-- The creator of an agent writes the events of its registration in order. -/
theorem LedgerKept.planned_advance
    (kept : LedgerKept system)
    (ledgered : Ledgered (system.processes index).history request)
    (other : Index) (record : AgentRecord)
    (created : History.Created ((system.advance MemoryStore.handle index
      request next).processes other).history record) :
    ∃ keyUlid agentUlid,
      History.written ((system.advance MemoryStore.handle index request
          next).processes other).history <+:
        registrationEvents record keyUlid agentUlid := by
  rw [written_advance]
  rcases created_advance_iff.mp created with
    wasCreated | ⟨rfl, rfl, isNew⟩
  · obtain ⟨keyUlid, agentUlid, isPlanned⟩ :=
      kept.planned other record wasCreated
    by_cases same : other = index
    · subst same
      rw [if_pos rfl]
      cases isLast : lifecycle request.appended with
      | nil =>
          rw [List.append_nil]
          exact ⟨keyUlid, agentUlid, isPlanned⟩
      | cons event rest =>
          have isAppended : event ∈ lifecycle request.appended := by
            rw [isLast]
            exact List.mem_cons_self
          obtain ⟨rfl, author, wasAuthor, -, isNext⟩ :=
            ledgered.creator isAppended
          have isSingle : lifecycle [event] = [event] := by
            have isKept := (List.mem_filter.mp isAppended).2
            simpa [lifecycle] using isKept
          have isRest : [event] = event :: rest :=
            isSingle.symm.trans isLast
          rw [← isRest, kept.once other record author wasCreated wasAuthor]
          exact isNext
    · rw [if_neg same, List.append_nil]
      exact ⟨keyUlid, agentUlid, isPlanned⟩
  · refine ⟨[], [], ?_⟩
    rw [ledgered.1]
    simp [StoreCall.appended]

/-- The assertion of an event is stored. -/
theorem LedgerKept.issued_advance
    (kept : LedgerKept system)
    (ledgered : Ledgered (system.processes index).history request)
    (event : LedgerEvent)
    (isEvent : event ∈
      (system.advance MemoryStore.handle index request next).state.events)
    (isAssertion : event.type = .assertionIssued) :
    ∃ record assertion ulid occurredAt,
      event = issuedEvent record assertion ulid occurredAt ∧
        assertion.subject = record.agentId ∧
        ((system.advance MemoryStore.handle index request
          next).state.getAssertion assertion.assertionId).isSome := by
  have events := events_handle system.state request
  have isMember : event ∈ system.state.events ++ request.appended := by
    rw [← events]
    exact isEvent
  rcases List.mem_append.mp isMember with earlier | isAppended
  · obtain ⟨record, assertion, ulid, occurredAt, isIssued, isSubject,
      isStored⟩ := kept.issued event earlier isAssertion
    exact ⟨record, assertion, ulid, occurredAt, isIssued, isSubject,
      getAssertion_stays isStored request⟩
  · cases request with
    | appendEvent appended =>
        obtain rfl := List.mem_singleton.mp isAppended
        rcases ledgered with ⟨notAssertion, -⟩ |
          ⟨agentId, record, assertion, ulid, occurredAt, -, wasIssued,
            isSubject, isIssued⟩
        · exact absurd isAssertion notAssertion
        · exact ⟨record, assertion, ulid, occurredAt, isIssued, isSubject,
            kept.answered index _ wasIssued⟩
    | _ => cases isAppended

/-- Every call keeps what the ledger tells. -/
theorem LedgerKept.advance
    (kept : LedgerKept system)
    (ledgered : Ledgered (system.processes index).history request) :
    LedgerKept (system.advance MemoryStore.handle index request next) where
  answered := kept.answered_advance
  agents := kept.agents_advance
  creator := kept.creator_advance
  once := kept.once_advance ledgered
  silent := kept.silent_advance ledgered
  ledger := kept.ledger_advance ledgered
  planned := kept.planned_advance ledgered
  issued := kept.issued_advance ledgered

end Advance

/-! ## In every run -/

omit [DecidableEq Index] in
theorem ledgerKept_begun
    (authorityToken : Option JsString) (requests : Index → Request) :
    LedgerKept (begun authorityToken requests .empty) where
  answered index exchange isMember := by cases isMember
  agents agentId record found := by cases found
  creator first second record later created := by cases created
  once index record later created := by cases created
  silent agentId absent := rfl
  ledger index record created := by cases created
  planned index record created := by cases created
  issued event isMember := by cases isMember

variable {authorityToken : Option JsString} {requests : Index → Request}
  {allowed : MemoryStore → History → StoreCall → Prop}
  {final : System StoreCall.Reply MemoryStore Answer Index}

theorem ledgerKept_of_run
    (interleaves :
      Interleaves allowed (begun authorityToken requests .empty) final) :
    LedgerKept final :=
  @System.Reaches.keeps _ _ _ _ _ _ _ _ (fun _ => Ledgered)
    (fun index => Told (requests index)) LedgerKept _ _ interleaves
    (fun index => request_ledgered authorityToken (requests index))
    (ledgerKept_begun authorityToken requests)
    (fun _ _ _ _ _ ledgered kept => kept.advance ledgered)

theorem told_of_answered
    (interleaves :
      Interleaves allowed (begun authorityToken requests .empty) final)
    {index : Index} {answer : Answer}
    (isAnswered : (final.processes index).rest = .done answer) :
    Told (requests index) (final.processes index).history answer := by
  have promises := @System.Reaches.promises _ _ _ _ _ _ _ _
    (fun _ => Ledgered) (fun index => Told (requests index)) _ _ interleaves
    (fun index => request_ledgered authorityToken (requests index)) index
  rw [isAnswered] at promises
  exact promises

/-- In every run of requests from an empty registry, the ledger of an agent
that is not registered is empty.  That of a registered agent has, besides the
events of assertions, a beginning of the two events of its registration, with
what its record says, and both once its registration is answered with success;
no second registration of an agent is answered so.  An event of an assertion
is about one that is stored, and of the same subject. -/
theorem ledger_of_run
    (interleaves :
      Interleaves allowed (begun authorityToken requests .empty) final) :
    (∀ agentId, final.state.getAgent agentId = none →
      final.state.listEvents agentId = []) ∧
    (∀ agentId record, final.state.getAgent agentId = some record →
      ∃ keyUlid agentUlid,
        lifecycle (final.state.listEvents agentId) <+:
          registrationEvents record keyUlid agentUlid) ∧
    (∀ index answer, (final.processes index).rest = .done answer →
      answer.IsCreated → ∀ record,
        (requests index).Submits (.agent record) →
          (∃ keyUlid agentUlid,
            lifecycle (final.state.listEvents record.agentId) =
              registrationEvents record keyUlid agentUlid) ∧
          ∀ other later, (requests other).Submits (.agent later) →
            later.agentId = record.agentId → ∀ second,
              (final.processes other).rest = .done second →
                second.IsCreated → other = index) ∧
    ∀ event ∈ final.state.events, event.type = .assertionIssued →
      ∃ record assertion ulid occurredAt,
        event = issuedEvent record assertion ulid occurredAt ∧
          assertion.subject = event.agentId ∧
          (final.state.getAssertion assertion.assertionId).isSome := by
  have kept := ledgerKept_of_run interleaves
  refine ⟨kept.silent, ?_, ?_, ?_⟩
  · intro agentId record found
    obtain ⟨rfl, index, created⟩ := kept.agents agentId record found
    rw [kept.ledger index record created]
    exact kept.planned index record created
  · intro index answer isAnswered isCreated record submits
    obtain ⟨created, written⟩ :=
      told_of_answered interleaves isAnswered isCreated record submits
    constructor
    · rw [kept.ledger index record created]
      exact written
    · intro other later submitsLater sameAgent second isSecond alsoCreated
      obtain ⟨createdLater, -⟩ := told_of_answered interleaves isSecond
        alsoCreated later submitsLater
      exact kept.creator other index later record createdLater created
        sameAgent
  · intro event isMember isAssertion
    obtain ⟨record, assertion, ulid, occurredAt, rfl, isSubject, isStored⟩ :=
      kept.issued event isMember isAssertion
    exact ⟨record, assertion, ulid, occurredAt, rfl, isSubject, isStored⟩

end Ledger

/-! ## The ledger of the sample registration -/

/-- Two registrations of the sample agent. -/
def sampleRegistrations (second : Bool) : Request :=
  .register (some sampleRegistration.toJson) sampleClock
    (if second then units "3" else units "1")
    (if second then units "4" else units "2")

/-- When one of two registrations of an agent has run, the ledger has its two
events. -/
theorem ledger_of_run_sample :
    letI := samplePlatform
    ∃ final, Interleaves (fun _ _ _ => True)
        (begun sampleToken sampleRegistrations .empty) final ∧
      ∃ keyUlid agentUlid,
        lifecycle (final.state.listEvents sampleManifest.agentId) =
          registrationEvents
            (recordOf sampleRegistration (nowIso sampleClock))
            keyUlid agentUlid := by
  let := samplePlatform
  let start := begun sampleToken sampleRegistrations .empty
  have published := @registerAgent_published _ _ _ (units "1") (units "2") _ _
    sampleRegistration_admitted .empty rfl rfl
  have runs : (((sampleRegistrations false).program sampleToken).run
      MemoryStore.handle .empty).1 = .result (.ok
        (recordOf sampleRegistration (nowIso sampleClock)) sampleOperatorKey
        sampleManifest) := by
    have isProgram : (sampleRegistrations false).program sampleToken =
        registerAgent (some sampleRegistration.toJson) sampleClock (units "1")
          (units "2") >>= fun result => pure (.result result) := rfl
    rw [isProgram, Program.run_bind, published]
    rfl
  obtain ⟨final, run, -, isAnswered, -⟩ := @System.reaches_alone _ _ _ _ _ _
    MemoryStore.handle (fun _ _ _ => True) _ (fun _ _ _ isCall => isCall) _
    (((sampleRegistrations false).program sampleToken).only_always) start
    false rfl
  rw [show start.state = MemoryStore.empty from rfl, runs] at isAnswered
  have isRead := readBody_toJson sampleRegistration_registrable.toAccepted
  have told := (ledger_of_run run).2.2.1 false _ isAnswered
    ⟨_, _, _, rfl⟩ _ ⟨sampleRegistration, isRead, Or.inl rfl⟩
  exact ⟨final, run, told.1⟩

end AgenId.Registry
