import AgenId.Library.Embedding
import AgenId.Registry.SupabaseStore

/-!
# The database refines the memory store

The tables hold the documents of a memory store.  A run of the registry on the
database, its requests interleaved in any way and its calls failing at any
time, goes along with a run on the memory store: what the one stores the other
stores, and what the one answers the other answers.  There are two exceptions:
a request one of whose calls failed is answered that the registry failed, and
a key document that is published again as it is, which the database may return
with its members in another order, is then refused.
-/

namespace AgenId.Registry

open AgenId.Core
open AgenId.Ecma
open AgenId.Library
open AgenId.Validation
open AgenId.Validation.Schema

/-! ## Documents as values -/

section Stored

variable [Platform]

/-- A stored key document is read as the document is. -/
theorem HoldsAs.schema_eq
    {stored : Json} {doc : KeyDocument} (holds : HoldsAs stored doc) :
    KeyDocument.schema (some stored) =
      KeyDocument.schema (some doc.toJson) :=
  orderFree_KeyDocument doc _ (.some holds.same)

/-- An assertion is verified against a stored key and a returned manifest as
against the documents. -/
theorem HoldsAs.verify_eq
    {stored : Json} {doc : KeyDocument} (holds : HoldsAs stored doc)
    (assertion : Option Json) (now : JsString)
    (manifest : Returned Manifest.toJson) :
    verifyVerificationAssertion assertion (some stored) now
        (some manifest.value) =
      verifyVerificationAssertion assertion (some doc.toJson) now
        (some manifest.document.toJson) :=
  (verifyVerificationAssertion_reordered rfl holds.schema_eq now _).trans
    (verifyVerificationAssertion_manifest_reordered _ _ now
      (orderFree_Manifest _ _ (.some manifest.same)))

omit [Platform] in
/-- A document that was published is told from a submitted one on the
database as on the memory store, unless it is the submitted one. -/
theorem differs_jsonb
    (existing : Option KeyDocument) (doc : KeyDocument) :
    StoredForm.values.differs (existing.map fun key => jsonb key.toJson) doc =
        differs existing doc ∨
      StoredForm.values.differs (existing.map fun key => jsonb key.toJson)
          doc = true ∧ existing = some doc := by
  cases existing with
  | none => exact Or.inl rfl
  | some published =>
      by_cases same : doc = published
      · subst same
        cases isDiffering : StoredForm.values.differs
            ((some doc).map fun key => jsonb key.toJson) doc with
        | true => exact Or.inr ⟨rfl, rfl⟩
        | false =>
            left
            simp [differs, StoredForm.differs]
      · left
        have isOther (stored : Json) (holds : HoldsAs stored published) :
            StoredForm.values.differs (some stored) doc = true := by
          by_contra recognized
          rw [Bool.not_eq_true] at recognized
          exact same ((holds.differs_iff doc).mp recognized).1
        rw [← differs_toJson]
        exact (isOther _ (holdsAs_jsonb published)).trans
          (isOther _ (holdsAs_of_perm rfl (List.Perm.refl _))).symm

end Stored

/-! ## The tables of a store -/

section Tables

variable [Platform] [Postgres]

omit [Platform] in
/-- The tables hold the documents of a memory store. -/
structure HoldsRows (tables : Tables) (store : MemoryStore) : Prop where
  agents : OrderedMap.RowsOf agentRow tables.agents store.agents
  keys : OrderedMap.RowsOf (fun doc : KeyDocument => some (jsonb doc.toJson))
    tables.keys store.keys
  assertions : OrderedMap.RowsOf assertionRow tables.assertions
    store.assertions
  events : store.events.map eventRow = tables.events.values.map some

omit [Platform] in
theorem holds_empty : HoldsRows Tables.empty MemoryStore.empty :=
  ⟨rfl, rfl, rfl, rfl⟩

/-- A record as it is read from its row: its times are spelled anew. -/
def Respells (read : StoredRecord) (record : AgentRecord) : Prop :=
  ∃ row, agentRow record = some row ∧ read = toAgentRecord row

/-- What the database answers, beside what the memory store answers.  No
write lists assertions. -/
def Agrees : (request : StoreCall) → request.JsonReply → request.Reply → Prop
  | .getAgent _, read, found => Option.Rel Respells read found
  | .createAgent _, created, made => created = made
  | .getKey _, stored, found =>
    stored = found.map fun doc => jsonb doc.toJson
  | .getAssertion _, read, found => read = found.map assertionColumn
  | .listAssertionsForSubject _, _, _ => True
  | .putKey _, _, _ | .putAssertion _, _, _ | .appendEvent _, _, _ => True

variable {tables : Tables} {store : MemoryStore}

theorem HoldsRows.getAgent
    (holds : HoldsRows tables store) (agentId : JsString) :
    Option.Rel Respells (tables.getAgent agentId) (store.getAgent agentId) := by
  have isRow := holds.agents.get agentId
  unfold Tables.getAgent MemoryStore.getAgent
  cases isFound : store.agents.get agentId with
  | none =>
      rw [isFound, Option.map_none, eq_comm, Option.map_eq_none_iff] at isRow
      rw [isRow]
      exact .none
  | some record =>
      rw [isFound, Option.map_some, eq_comm, Option.map_eq_some_iff] at isRow
      obtain ⟨row, isRead, made⟩ := isRow
      rw [isRead]
      exact .some ⟨row, made.symm, rfl⟩

omit [Platform] in
theorem HoldsRows.getKey
    (holds : HoldsRows tables store) (keyId : JsString) :
    tables.getKey keyId =
      (store.getKey keyId).map fun doc => jsonb doc.toJson := by
  apply Option.map_injective (Option.some_injective _)
  rw [Option.map_map]
  exact (holds.keys.get keyId).symm

omit [Platform] in
theorem document_of_assertionRow
    {assertion : VerificationAssertion} {row : AssertionRow}
    (isRow : assertionRow assertion = some row) :
    row.document = assertionColumn assertion ∧
      row.subject = assertion.subject := by
  obtain ⟨verifiedAt, -, rfl⟩ := Option.map_eq_some_iff.mp isRow
  exact ⟨rfl, rfl⟩

omit [Platform] in
theorem HoldsRows.getAssertion
    (holds : HoldsRows tables store) (assertionId : JsString) :
    tables.getAssertion assertionId =
      (store.getAssertion assertionId).map assertionColumn := by
  have isRow := holds.assertions.get assertionId
  unfold Tables.getAssertion MemoryStore.getAssertion
  cases isFound : store.assertions.get assertionId with
  | none =>
      rw [isFound, Option.map_none, eq_comm, Option.map_eq_none_iff] at isRow
      rw [isRow]
      rfl
  | some assertion =>
      rw [isFound, Option.map_some, eq_comm, Option.map_eq_some_iff] at isRow
      obtain ⟨row, isRead, made⟩ := isRow
      rw [isRead, Option.map_some, Option.map_some,
        (document_of_assertionRow made.symm).1]

omit [Platform] in
theorem HoldsRows.agentTaken_iff
    (holds : HoldsRows tables store) (agentId : JsString) :
    (tables.agents.get agentId).isSome = (store.agents.get agentId).isSome := by
  have isRow := congrArg Option.isSome (holds.agents.get agentId)
  rw [Option.isSome_map, Option.isSome_map] at isRow
  exact isRow.symm

/-- A call that the database takes is answered as by the memory store, and
the tables hold the documents of the store then. -/
theorem HoldsRows.perform
    (holds : HoldsRows tables store) {request : StoreCall}
    {reply : request.JsonReply} {after : Tables}
    (performed : tables.perform request = some (reply, after)) :
    Agrees request reply (MemoryStore.handle request store).1 ∧
      HoldsRows after (MemoryStore.handle request store).2 := by
  cases request with
  | getAgent agentId =>
      obtain ⟨rfl, rfl⟩ := Prod.mk.inj (Option.some.inj performed)
      exact ⟨holds.getAgent agentId, holds⟩
  | getKey keyId =>
      obtain ⟨rfl, rfl⟩ := Prod.mk.inj (Option.some.inj performed)
      exact ⟨holds.getKey keyId, holds⟩
  | getAssertion assertionId =>
      obtain ⟨rfl, rfl⟩ := Prod.mk.inj (Option.some.inj performed)
      exact ⟨holds.getAssertion assertionId, holds⟩
  | listAssertionsForSubject subject =>
      obtain ⟨rfl, rfl⟩ := Prod.mk.inj (Option.some.inj performed)
      exact ⟨trivial, holds⟩
  | createAgent record =>
      obtain ⟨row, isRow, created⟩ := Option.map_eq_some_iff.mp performed
      have isTaken := holds.agentTaken_iff record.agentId
      rw [show MemoryStore.handle (.createAgent record) store =
        store.createAgent record from rfl]
      unfold MemoryStore.createAgent
      by_cases taken : (store.agents.get record.agentId).isSome = true
      · rw [if_pos (isTaken.trans taken)] at created
        obtain ⟨rfl, rfl⟩ := Prod.mk.inj created
        rw [if_pos taken]
        exact ⟨rfl, holds⟩
      · rw [isTaken, if_neg taken] at created
        obtain ⟨rfl, rfl⟩ := Prod.mk.inj created
        rw [if_neg taken]
        exact ⟨rfl, holds.agents.set _ isRow, holds.keys, holds.assertions,
          holds.events⟩
  | putKey doc =>
      obtain ⟨rfl, rfl⟩ := Prod.mk.inj (Option.some.inj performed)
      exact ⟨trivial, holds.agents, holds.keys.set _ rfl, holds.assertions,
        holds.events⟩
  | putAssertion assertion =>
      obtain ⟨made, isMade, written⟩ := Option.map_eq_some_iff.mp performed
      obtain ⟨row, isRow, rfl⟩ := Option.map_eq_some_iff.mp isMade
      obtain ⟨rfl, rfl⟩ := Prod.mk.inj written
      exact ⟨trivial, holds.agents, holds.keys,
        holds.assertions.set _ isRow, holds.events⟩
  | appendEvent event =>
      obtain ⟨made, isMade, written⟩ := Option.map_eq_some_iff.mp performed
      obtain ⟨rfl, rfl⟩ := Prod.mk.inj written
      obtain ⟨row, isRow, inserted⟩ := Option.bind_eq_some_iff.mp isMade
      cases taken : tables.events.get event.eventId with
      | some found =>
          rw [taken] at inserted
          cases inserted
      | none =>
          rw [taken] at inserted
          obtain rfl := Option.some.inj inserted
          refine ⟨trivial, holds.agents, holds.keys, holds.assertions, ?_⟩
          have isNew := OrderedMap.get_eq_none_iff.mp taken
          unfold MemoryStore.handle MemoryStore.appendEvent
          simp only [OrderedMap.values, OrderedMap.set, assign_new isNew,
            List.map_append, List.map_cons, List.map_nil, isRow]
          rw [holds.events]
          rfl

/-- The database simulates the memory store; a call that fails is void or has
had its effect. -/
theorem database_simulates :
    Simulates (Correspondence.failing Unit Agrees) Database.handle
      MemoryStore.handle fun database store =>
        HoldsRows database.tables store := by
  intro request database store holds
  unfold Database.handle
  cases performed : database.tables.perform request with
  | none =>
      right
      cases database.passages.headD .through <;> exact ⟨⟨(), rfl⟩, holds⟩
  | some made =>
      obtain ⟨reply, after⟩ := made
      obtain ⟨agree, held⟩ := holds.perform performed
      cases database.passages.headD .through with
      | through =>
          left
          refine ⟨?_, held⟩
          intro answer isAnswer
          obtain rfl := Except.ok.inj isAnswer
          exact agree
      | failed => exact Or.inr ⟨⟨(), rfl⟩, holds⟩
      | lost =>
          left
          refine ⟨?_, held⟩
          intro answer isAnswer
          cases isAnswer

/-! ## The requests -/

/-- The replies of the database, when no call fails. -/
def tableReplies : Correspondence StoreCall.JsonReply StoreCall.Reply :=
  ⟨Agrees, fun _ _ => False⟩

/-- A call whose reply is awaited on the database as on the memory store. -/
theorem follows_call
    {First Second : Type} {same : First → Second → Prop}
    {stops : History → First → Prop}
    {history : History} (request : StoreCall)
    {next : request.JsonReply → JsonProgram First}
    {following : request.Reply → StoreProgram Second}
    (agreed : ∀ reply other, Agrees request reply other →
      Shadows tableReplies same stops (history ++ [⟨request, other⟩])
        (next reply) (following other)) :
    Shadows tableReplies same stops history (.call request next)
      (.call request following) :=
  .call request agreed fun _ isVoid => isVoid.elim

/-- A registration finds its own key document published. -/
def FindsItself (doc : KeyDocument)
    (history : History) : Prop :=
  ⟨.getKey doc.keyId, some doc⟩ ∈ history

theorem publish_follows
    (registration : RegisterBody) (ts keyUlid agentUlid : JsString)
    (history : History) :
    Shadows tableReplies Eq
      (fun history ended => ended = .ok .keyConflict ∧
        FindsItself registration.keyDocument history)
      history (StoredForm.values.publish registration ts keyUlid agentUlid)
      (publish registration ts keyUlid agentUlid) := by
  rw [StoredForm.publish_eq, publish_eq]
  apply follows_call
  intro stored existing isStored
  obtain rfl : stored = existing.map fun doc => jsonb doc.toJson := isStored
  rcases differs_jsonb existing registration.keyDocument with
    same | ⟨isDiffering, isItself⟩
  · rw [same]
    by_cases isConflict : differs existing registration.keyDocument = true
    · rw [if_pos isConflict, if_pos isConflict]
      exact .done rfl
    · rw [if_neg isConflict, if_neg isConflict]
      apply follows_call
      intro created made isMade
      obtain rfl : created = made := isMade
      by_cases isTaken : created = false
      · rw [if_pos isTaken, if_pos isTaken]
        exact .done rfl
      · rw [if_neg isTaken, if_neg isTaken]
        apply follows_call
        intro _ _ _
        apply follows_call
        intro _ _ _
        apply follows_call
        intro _ _ _
        exact .done rfl
  · rw [if_pos isDiffering]
    refine .stopped ⟨rfl, ?_⟩
    rw [isItself]
    exact List.mem_append_right _ (List.mem_singleton.mpr rfl)

/-- A request is refused because it publishes a key document again as it
is. -/
def Republishes (request : Request)
    (history : History) (answer : Answer) :
    Prop :=
  answer.IsKeyConflict ∧
    ∃ doc, request.Submits (.key doc) ∧ FindsItself doc history

theorem agents_follows
    (body : Option Json) (clock ts keyUlid agentUlid : JsString) :
    Shadows tableReplies Eq
      (fun history response => Republishes
        (.agents body clock ts keyUlid agentUlid) history (.response response))
      [] (StoredForm.values.postAgents body clock ts keyUlid agentUlid)
      (postAgents body clock ts keyUlid agentUlid) := by
  unfold postAgents StoredForm.postAgents
  cases isAdmitted : admitRegistration body clock with
  | error refusal => exact .done rfl
  | ok registration =>
      apply (publish_follows registration ts keyUlid agentUlid []).bind
      · intro history ended other same
        rw [same]
        exact .done rfl
      · rintro history _ ⟨rfl, isItself⟩
        refine ⟨_, rfl, ⟨_, rfl⟩, registration.keyDocument, ?_, isItself⟩
        exact ⟨registration, accepts_of_admitRegistration isAdmitted,
          Or.inr rfl⟩

theorem register_follows
    (body : Option Json) (clock : Clock) (keyUlid agentUlid : JsString) :
    Shadows tableReplies Eq
      (fun history result => Republishes
        (.register body clock keyUlid agentUlid) history (.result result))
      [] (StoredForm.values.registerAgent body clock keyUlid agentUlid)
      (registerAgent body clock keyUlid agentUlid) := by
  unfold registerAgent StoredForm.registerAgent
  cases isAdmitted : admitAgent body clock with
  | error failure => exact .done rfl
  | ok admitted =>
      obtain ⟨registration, now⟩ := admitted
      apply (publish_follows registration now keyUlid agentUlid []).bind
      · intro history ended other same
        rw [same]
        exact .done rfl
      · rintro history _ ⟨rfl, isItself⟩
        refine ⟨_, rfl, ⟨_, _, rfl⟩, registration.keyDocument, ?_, isItself⟩
        exact ⟨registration, readBody_of_admitAgent isAdmitted, Or.inr rfl⟩

theorem authorityKeys_follows
    (authorityToken authorization : Option JsString) (body : Option Json) :
    Shadows tableReplies Eq
      (fun history response => Republishes
        (.authorityKeys authorization body) history (.response response))
      [] (StoredForm.values.postAuthorityKeys authorityToken authorization body)
      (postAuthorityKeys authorityToken authorization body) := by
  unfold postAuthorityKeys StoredForm.postAuthorityKeys
  cases requireAuthority authorityToken authorization with
  | some refusal => exact .done rfl
  | none =>
      cases isParsed : KeyDocument.schema.safeParse body with
      | error issues => exact .done rfl
      | ok doc =>
          dsimp only
          by_cases isAuthority : doc.role ≠ .authority
          · rw [if_pos isAuthority, if_pos isAuthority]
            exact .done rfl
          · rw [if_neg isAuthority, if_neg isAuthority]
            simp only [call_eq, Program.call_bind, Program.done_bind]
            apply follows_call
            intro stored existing isStored
            obtain rfl : stored = existing.map fun key => jsonb key.toJson :=
              isStored
            rcases differs_jsonb existing doc with
              same | ⟨isDiffering, isItself⟩
            · rw [same]
              by_cases isConflict : differs existing doc = true
              · rw [if_pos isConflict, if_pos isConflict]
                exact .done rfl
              · rw [if_neg isConflict, if_neg isConflict]
                apply follows_call
                intro _ _ _
                cases isPath : keyResolverPath doc.keyId with
                | error thrown => exact .done rfl
                | ok keyPath => exact .done rfl
            · rw [if_pos isDiffering]
              refine .stopped ⟨⟨_, rfl⟩, doc, ?_, ?_⟩
              · exact ⟨doc, safeParse_eq_ok_iff.mp isParsed, rfl⟩
              · rw [isItself]
                exact List.mem_append_right _ (List.mem_singleton.mpr rfl)

/-- A record that is read from its row is used as the record. -/
theorem issueAssertion_follows
    {read : StoredRecord} {record : AgentRecord}
    (respells : Respells read record)
    (body : Option Json) (clock occurredAt ulid : JsString)
    {stops : History → Response → Prop} (history : History) :
    Shadows tableReplies Eq stops history
      (StoredForm.values.issueAssertion read body clock occurredAt ulid)
      (issueAssertion record body clock occurredAt ulid) := by
  obtain ⟨row, isRow, rfl⟩ := respells
  obtain ⟨sameId, sameManifest⟩ :
      (StoredForm.values.record (toAgentRecord row)).agentId =
          record.agentId ∧
        (toAgentRecord row).manifest.document = record.manifest := by
    obtain ⟨registeredAt, -, isMade⟩ := Option.bind_eq_some_iff.mp isRow
    obtain ⟨updatedAt, -, isMade⟩ := Option.bind_eq_some_iff.mp isMade
    obtain rfl := Option.some.inj isMade
    exact ⟨rfl, rfl⟩
  have sameEvent (assertion : VerificationAssertion) :
      issuedEvent (StoredForm.values.record (toAgentRecord row)) assertion
          ulid occurredAt =
        issuedEvent record assertion ulid occurredAt := by
    unfold issuedEvent
    rw [sameId]
  unfold issueAssertion StoredForm.issueAssertion
  cases IssueAssertionBody.safeParse body with
  | error issues => exact .done rfl
  | ok assertion =>
      dsimp only
      rw [sameId]
      by_cases isOther : assertion.subject ≠ record.agentId
      · rw [if_pos isOther, if_pos isOther]
        exact .done rfl
      · rw [if_neg isOther, if_neg isOther]
        simp only [call_eq, Program.call_bind, Program.done_bind]
        apply follows_call
        intro stored existing isStored
        obtain rfl : stored = existing.map fun key => jsonb key.toJson :=
          isStored
        cases existing with
        | none => exact .done rfl
        | some key =>
            simp only [Option.map_some, (holdsAs_jsonb key).verify_eq,
              sameManifest]
            cases verifyVerificationAssertion (some assertion.toJson)
                (some key.toJson) clock (some record.manifest.toJson) with
            | error thrown => exact .done rfl
            | ok result =>
                cases result with
                | fail code message => exact .done rfl
                | ok state details =>
                    apply follows_call
                    intro read found isRead
                    obtain rfl : read = found.map assertionColumn := isRead
                    rw [Option.isSome_map]
                    by_cases isIssued : found.isSome = true
                    · rw [if_pos isIssued, if_pos isIssued]
                      exact .done rfl
                    · rw [if_neg isIssued, if_neg isIssued]
                      apply follows_call
                      intro _ _ _
                      rw [sameEvent]
                      apply follows_call
                      intro _ _ _
                      exact .done rfl

theorem assertions_follows
    (authorityToken authorization : Option JsString) (agentId : JsString)
    (body : Option Json) (clock occurredAt ulid : JsString)
    {stops : History → Response → Prop} :
    Shadows tableReplies Eq stops []
      (StoredForm.values.postAssertions authorityToken authorization agentId
        body clock occurredAt ulid)
      (postAssertions authorityToken authorization agentId body clock
        occurredAt ulid) := by
  unfold postAssertions StoredForm.postAssertions
  cases requireAuthority authorityToken authorization with
  | some refusal => exact .done rfl
  | none =>
      by_cases isAgentId : isValidAgentId agentId = true
      · simp only [if_pos isAgentId]
        apply follows_call
        intro read found respells
        cases respells with
        | none => exact .done rfl
        | some respells =>
            exact issueAssertion_follows respells body clock occurredAt
              ulid _
      · simp only [if_neg isAgentId]
        exact .done rfl

/-- Every request goes along with itself on the memory store. -/
theorem request_follows
    (authorityToken : Option JsString) (request : Request) :
    Shadows tableReplies Eq (Republishes request) []
      (StoredForm.values.program authorityToken request)
      (request.program authorityToken) := by
  have ending {Value : Type} {same : Value → Answer}
      {stops : History → Value → Prop}
      {first : JsonProgram Value} {second : StoreProgram Value}
      (follows : Shadows tableReplies Eq stops [] first second)
      (stopping : ∀ history value, stops history value →
        Republishes request history (same value)) :
      Shadows tableReplies Eq (Republishes request) []
        (first >>= fun value => pure (same value))
        (second >>= fun value => pure (same value)) := by
    apply follows.bind
    · intro history value other isSame
      rw [isSame]
      exact .done rfl
    · intro history value stopped
      exact ⟨_, rfl, stopping history value stopped⟩
  cases request with
  | agents body clock ts keyUlid agentUlid =>
      exact ending (agents_follows body clock ts keyUlid agentUlid)
        fun _ _ stopped => stopped
  | register body clock keyUlid agentUlid =>
      exact ending (register_follows body clock keyUlid agentUlid)
        fun _ _ stopped => stopped
  | authorityKeys authorization body =>
      exact ending (authorityKeys_follows authorityToken authorization body)
        fun _ _ stopped => stopped
  | assertions authorization agentId body clock occurredAt ulid =>
      exact ending (assertions_follows authorityToken authorization agentId
        body clock occurredAt ulid) fun _ _ stopped => stopped

/-! ## Runs -/

section Runs

variable {Index : Type*} [DecidableEq Index]
  {authorityToken : Option JsString} {requests : Index → Request}

/-- The requests on a database, before any of them has begun. -/
def begunOnDatabase (authorityToken : Option JsString)
    (requests : Index → Request) (database : Database) :
    System (fun call : StoreCall => Except Unit call.JsonReply) Database
      Answer Index :=
  System.start database fun index =>
    (requests index).databaseProgram authorityToken

/-- A system is reached from the requests by calls to the database. -/
abbrev InterleavesOnDatabase :
    System (fun call : StoreCall => Except Unit call.JsonReply) Database
      Answer Index →
    System (fun call : StoreCall => Except Unit call.JsonReply) Database
      Answer Index → Prop :=
  System.Reaches Database.handle fun _ _ _ => True

/-- A request has made a call that failed. -/
def SawFailure
    (history : List (Program.Exchange
      fun call : StoreCall => Except Unit call.JsonReply)) : Prop :=
  ∃ exchange ∈ history, exchange.2 = .error ()

/-- How the programs of requests end on the database, beside how they end on
the memory store. -/
theorem ends_refine
    {database : Database} {store : MemoryStore}
    (holds : HoldsRows database.tables store)
    {final : System (fun call : StoreCall => Except Unit call.JsonReply)
      Database (Except Unit Answer) Index}
    (reaches : System.Reaches Database.handle (fun _ _ _ => True)
      (System.start database fun index =>
        (StoredForm.values.program authorityToken
          (requests index)).throwing Unit) final) :
    ∃ along, Interleaves (fun _ _ _ => True)
        (begun authorityToken requests store) along ∧
      HoldsRows final.state.tables along.state ∧
      ∀ index ended, (final.processes index).rest = .done ended →
        (∃ answer, ended = .ok answer ∧
          ((along.processes index).rest = .done answer ∨
            Republishes (requests index) (along.processes index).history
              answer)) ∨
          ended = .error () ∧ SawFailure (final.processes index).history := by
  have accompanies : Accompanies (Correspondence.failing Unit Agrees)
      (fun _ result other => ∃ value, result = .ok value ∧ value = other)
      (fun index history result => (∃ failure, result = .error failure) ∨
        ∃ value, result = .ok value ∧
          Republishes (requests index) history value)
      (fun database store => HoldsRows database.tables store)
      (System.start database fun index =>
        (StoredForm.values.program authorityToken
          (requests index)).throwing Unit)
      (begun authorityToken requests store) :=
    ⟨holds, fun index =>
      (request_follows authorityToken (requests index)).throwing⟩
  obtain ⟨along, reached, goesAlong⟩ := System.Reaches.accompanied
    database_simulates (fun _ _ _ => trivial) accompanies reaches
  have promised := System.Reaches.promises reaches fun index =>
    Program.promises_throwing
      (StoredForm.values.program authorityToken (requests index)) []
  refine ⟨along, reached, goesAlong.states, ?_⟩
  intro index ended isEnded
  cases ended with
  | error failure =>
      have failed := promised index
      rw [isEnded] at failed
      exact Or.inr ⟨rfl, failed failure rfl⟩
  | ok answer =>
      refine Or.inl ⟨answer, rfl, ?_⟩
      have follows := goesAlong.processes index
      rw [isEnded] at follows
      generalize isRest : (along.processes index).rest = rest at follows
      cases follows with
      | done isSame =>
          obtain ⟨value, isValue, rfl⟩ := isSame
          obtain rfl := Except.ok.inj isValue
          exact Or.inl rfl
      | stopped isStopped =>
          rcases isStopped with
            ⟨failure, isFailure⟩ | ⟨value, isValue, republishes⟩
          · cases isFailure
          · obtain rfl := Except.ok.inj isValue
            exact Or.inr republishes

/-- Every run on the database goes along with a run on the memory store, from
tables that hold its documents: the tables hold the documents of the store
then, and a request that is answered has the answer that it has there, unless
it is refused because it publishes a key document again as it is, or a call of
it failed and it is answered that the registry failed. -/
theorem database_refines
    {database : Database} {store : MemoryStore}
    (holds : HoldsRows database.tables store)
    {final : System (fun call : StoreCall => Except Unit call.JsonReply)
      Database Answer Index}
    (interleaves : InterleavesOnDatabase
      (begunOnDatabase authorityToken requests database) final) :
    ∃ along, Interleaves (fun _ _ _ => True)
        (begun authorityToken requests store) along ∧
      HoldsRows final.state.tables along.state ∧
      ∀ index answer, (final.processes index).rest = .done answer →
        (along.processes index).rest = .done answer ∨
        Republishes (requests index) (along.processes index).history
          answer ∨
        answer = (requests index).unavailable ∧
          SawFailure (final.processes index).history := by
  have mapped : System.Reaches Database.handle (fun _ _ _ => True)
      ((System.start database fun index =>
        (StoredForm.values.program authorityToken
          (requests index)).throwing Unit).mapResult
          fun index => (requests index).answered) final := interleaves
  obtain ⟨origin, reaches, rfl⟩ := System.Reaches.of_mapResult mapped
  obtain ⟨along, reached, held, ends⟩ := ends_refine holds reaches
  refine ⟨along, reached, held, ?_⟩
  intro index answer isAnswered
  obtain ⟨ended, isEnded, rfl⟩ := System.eq_done_of_mapResult isAnswered
  rcases ends index ended isEnded with
    ⟨value, rfl, isThere | republishes⟩ | ⟨rfl, failed⟩
  · exact Or.inl isThere
  · exact Or.inr (Or.inl republishes)
  · exact Or.inr (Or.inr ⟨rfl, failed⟩)

end Runs

end Tables

theorem Answer.IsCreated.not_isKeyConflict
    {answer : Answer} (isCreated : answer.IsCreated) :
    ¬ answer.IsKeyConflict := by
  cases answer with
  | response sent =>
      rintro ⟨message, rfl⟩
      have isStatus : (409 : Nat) = 201 := isCreated
      exact absurd isStatus (by decide)
  | result ended =>
      rintro ⟨message, issues, rfl⟩
      obtain ⟨record, keyDocument, manifest, isOk⟩ := isCreated
      cases isOk

theorem Request.unavailable_not_isCreated (request : Request) :
    ¬ request.unavailable.IsCreated := by
  cases request with
  | register =>
      rintro ⟨record, keyDocument, manifest, isOk⟩
      cases isOk
  | agents | authorityKeys | assertions =>
      intro isCreated
      have isStatus : (500 : Nat) = 201 := isCreated
      exact absurd isStatus (by decide)

/-! ## A run of the sample requests -/

/-- A text without its last zeros, and without a point that ends it then. -/
def withoutLastZeros (text : JsString) : JsString :=
  match (text.reverse.dropWhile (· = 0x30)) with
  | 0x2E :: rest => rest.reverse
  | kept => kept.reverse

/-- A database that takes the texts of the interchange format, spells an
instant with the digits it has and its offset, and sorts stably. -/
@[reducible]
def samplePostgres : Postgres where
  readTimestamptz := fun text =>
    (parseDate (fun _ => none) text).map fun time => time * 1000
  showTimestamptz := fun micros =>
    withoutLastZeros (isoString (micros / 1000)).dropLast ++ units "+00:00"
  orderBy := fun column rows =>
    rows.mergeSort fun first second => decide (column first ≤ column second)
  orderBy_perm := fun _ rows => rows.mergeSort_perm _
  orderBy_sorted := fun column rows => by
    have sorted := @List.pairwise_mergeSort _
      (fun first second => decide (column first ≤ column second))
      (fun first second third below above => by
        simp only [decide_eq_true_eq] at below above ⊢
        exact below.trans above)
      (fun first second => by
        simp only [Bool.or_eq_true, decide_eq_true_eq]
        exact le_total _ _) rows
    exact sorted.imp of_decide_eq_true

example : samplePostgres.showTimestamptz 1789447417480000 =
    units "2026-09-15T04:43:37.48+00:00" := by decide +kernel

/-- What the publication of an authority key ends with on a database, given
how its write ends. -/
def publicationWritten (doc : KeyDocument) (keyPath : JsString) :
    Except Unit Unit →
      Program (fun call : StoreCall => Except Unit call.JsonReply) Answer
  | .ok _ => .done (.response (publishedResponse doc keyPath))
  | .error _ => .done (.response internalError)

/-- What the publication of an authority key does with the answer to its
read, on a database. -/
def publishOnDatabase (doc : KeyDocument) (keyPath : JsString) :
    Except Unit (Option Json) →
      Program (fun call : StoreCall => Except Unit call.JsonReply) Answer
  | .error _ => .done (.response internalError)
  | .ok existing =>
    if StoredForm.values.differs existing doc then
      .done (.response (err 409 "key_conflict"
        (units "a different document exists under this key_id")))
    else
      .call (.putKey doc) (publicationWritten doc keyPath)

theorem authorityKeys_databaseProgram
    [Platform] {authorityToken authorization : Option JsString}
    {body : Option Json} {doc : KeyDocument} {keyPath : JsString}
    (isAuthorized : requireAuthority authorityToken authorization = none)
    (accepted : KeyDocument.schema.accepts body = some doc)
    (isAuthority : doc.role = .authority)
    (isPath : keyResolverPath doc.keyId = .ok keyPath) :
    (Request.authorityKeys authorization body).databaseProgram
        authorityToken =
      .call (.getKey doc.keyId) (publishOnDatabase doc keyPath) := by
  have isParsed := safeParse_eq_ok_iff.mpr accepted
  simp only [Request.databaseProgram, StoredForm.program,
    StoredForm.postAuthorityKeys, isAuthorized, isParsed, isAuthority, isPath,
    ne_eq, not_true_eq_false, if_false, call_eq, Program.call_bind,
    Program.done_bind, Program.throwing]
  apply congrArg (Program.call _)
  funext reply
  cases reply with
  | error failure => rfl
  | ok existing =>
      unfold publishOnDatabase
      cases isDiffering : StoredForm.values.differs existing doc with
      | true =>
          simp only [isDiffering, if_true]
          rfl
      | false =>
          simp only [isDiffering, Bool.false_eq_true, if_false,
            Program.call_bind, Program.pure_eq_done, Program.done_bind,
            Program.throwing]
          refine congrArg (Program.call (StoreCall.putKey doc)) ?_
          funext written
          cases written with
          | ok written => rfl
          | error failure => rfl

/-- The record of the sample registration. -/
def registeredRecord [Platform] : AgentRecord :=
  recordOf sampleRegistration (nowIso sampleClock)

/-- Tables that hold the sample agent, its key and an authority key. -/
def registeredTables [Platform] [Postgres] : Tables where
  agents := ((agentRow registeredRecord).map fun row =>
    OrderedMap.empty.set registeredRecord.agentId row).getD .empty
  keys := (OrderedMap.empty.set sampleOperatorKey.keyId
    (jsonb sampleOperatorKey.toJson)).set sampleAuthorityKey.keyId
      (jsonb sampleAuthorityKey.toJson)
  assertions := .empty
  events := .empty

/-- A memory store that holds the same documents. -/
def registeredStore [Platform] : MemoryStore where
  agents := OrderedMap.empty.set registeredRecord.agentId registeredRecord
  keys := (OrderedMap.empty.set sampleOperatorKey.keyId
    sampleOperatorKey).set sampleAuthorityKey.keyId sampleAuthorityKey
  assertions := .empty
  events := []

theorem registeredRecord_row :
    letI := samplePlatform
    letI := samplePostgres
    ∃ row, agentRow registeredRecord = some row ∧
      registeredTables.agents =
        OrderedMap.empty.set registeredRecord.agentId row := by
  let := samplePlatform
  let := samplePostgres
  have isInstant : (Postgres.readTimestamptz
      (nowIso sampleClock)).isSome = true := by
    decide +kernel
  obtain ⟨micros, isMicros⟩ := Option.isSome_iff_exists.mp isInstant
  have isRegistered : Postgres.readTimestamptz
      registeredRecord.registeredAt = some micros := isMicros
  have isUpdated : Postgres.readTimestamptz
      registeredRecord.updatedAt = some micros := isMicros
  obtain ⟨row, isRow⟩ : ∃ row, agentRow registeredRecord = some row := by
    unfold agentRow
    rw [isRegistered, isUpdated]
    exact ⟨_, rfl⟩
  refine ⟨row, isRow, ?_⟩
  unfold registeredTables
  rw [isRow]
  rfl

theorem holds_registered :
    letI := samplePlatform
    letI := samplePostgres
    HoldsRows registeredTables registeredStore := by
  let := samplePlatform
  let := samplePostgres
  obtain ⟨row, isRow, areAgents⟩ := registeredRecord_row
  constructor
  · rw [areAgents]
    exact holds_empty.agents.set _ isRow
  · exact (holds_empty.keys.set _ rfl).set _ rfl
  · exact holds_empty.assertions
  · exact holds_empty.events

/-- Three publishers interleave on these tables.  The first publishes another
key, the second publishes the authority key again, and the first call of the
third fails. -/
theorem registeredTables_run :
    letI := samplePlatform
    letI := samplePostgres
    ∃ final, InterleavesOnDatabase (begunOnDatabase sampleToken
        samplePublication ⟨registeredTables, [.through, .through, .failed]⟩)
        final ∧
      final.state.tables = registeredTables.putKey otherAuthorityKey ∧
      (∃ answer, answer.IsCreated ∧
        (final.processes none).rest = .done answer) ∧
      (∃ answer, answer.IsKeyConflict ∧
        (final.processes (some false)).rest = .done answer) ∧
      (final.processes (some true)).rest =
        .done (samplePublication (some true)).unavailable := by
  let := samplePlatform
  let := samplePostgres
  obtain ⟨keyPath, isPath⟩ := sampleAuthorityKey_path
  obtain ⟨otherPath, isOtherPath⟩ :
      ∃ keyPath, keyResolverPath otherAuthorityKey.keyId = .ok keyPath :=
    keyResolverPath_ok (by decide)
  have program := authorityKeys_databaseProgram sampleRequests_authorized
    sampleAuthorityKey_accepted rfl isPath
  have otherProgram := authorityKeys_databaseProgram sampleRequests_authorized
    otherAuthorityKey_accepted rfl isOtherPath
  let start := begunOnDatabase sampleToken samplePublication
    ⟨registeredTables, [.through, .through, .failed]⟩
  let asked := start.advance Database.handle none
    (.getKey otherAuthorityKey.keyId)
    (publishOnDatabase otherAuthorityKey otherPath)
  let askedAgain := asked.advance Database.handle (some false)
    (.getKey sampleAuthorityKey.keyId)
    (publishOnDatabase sampleAuthorityKey keyPath)
  let failed := askedAgain.advance Database.handle (some true)
    (.getKey sampleAuthorityKey.keyId)
    (publishOnDatabase sampleAuthorityKey keyPath)
  let wrote := failed.advance Database.handle none (.putKey otherAuthorityKey)
    (publicationWritten otherAuthorityKey otherPath)
  have asks : System.Step Database.handle (fun _ _ _ => True) start asked :=
    .call none otherProgram trivial
  have asksAgain : System.Step Database.handle (fun _ _ _ => True) asked
      askedAgain :=
    .call (some false) program trivial
  have fails : System.Step Database.handle (fun _ _ _ => True) askedAgain
      failed :=
    .call (some true) program trivial
  have writes : System.Step Database.handle (fun _ _ _ => True) failed wrote :=
    .call none rfl trivial
  have run : InterleavesOnDatabase start wrote :=
    (((Relation.ReflTransGen.single asks).tail asksAgain).tail fails).tail
      writes
  have isConflict : StoredForm.values.differs
      (some (jsonb sampleAuthorityKey.toJson))
      sampleAuthorityKey = true := by
    by_contra recognized
    rw [Bool.not_eq_true] at recognized
    have ordered := (((holdsAs_jsonb sampleAuthorityKey).differs_iff
      sampleAuthorityKey).mp recognized).2
    exact absurd ordered (by decide)
  have isPublished : (wrote.processes none).rest = .done (.response
      (publishedResponse otherAuthorityKey otherPath)) := rfl
  have isCreated : (Answer.response
      (publishedResponse otherAuthorityKey otherPath)).IsCreated := rfl
  have isRefused : (wrote.processes (some false)).rest =
      publishOnDatabase sampleAuthorityKey keyPath
        (.ok (some (jsonb sampleAuthorityKey.toJson))) := rfl
  rw [publishOnDatabase, if_pos isConflict] at isRefused
  have isKeyConflict : (Answer.response (err 409 "key_conflict"
      (units "a different document exists under this key_id"))).IsKeyConflict :=
    ⟨_, rfl⟩
  exact ⟨wrote, run, rfl, ⟨_, isCreated, isPublished⟩,
    ⟨_, isKeyConflict, isRefused⟩, rfl⟩

/-- The run of three publishers goes along with a run on the memory store, and
the one that published a key has the same answer there. -/
theorem database_refines_sample :
    letI := samplePlatform
    letI := samplePostgres
    ∃ final along, InterleavesOnDatabase (begunOnDatabase sampleToken
        samplePublication ⟨registeredTables, [.through, .through, .failed]⟩)
        final ∧
      Interleaves (fun _ _ _ => True) (begun sampleToken samplePublication
        registeredStore) along ∧
      HoldsRows final.state.tables along.state ∧
      (∃ answer, answer.IsCreated ∧
        (final.processes none).rest = .done answer ∧
        (along.processes none).rest = .done answer) ∧
      (∃ answer, answer.IsKeyConflict ∧
        (final.processes (some false)).rest = .done answer) ∧
      (final.processes (some true)).rest =
        .done (samplePublication (some true)).unavailable := by
  let := samplePlatform
  let := samplePostgres
  obtain ⟨final, run, -, ⟨answer, isCreated, isAnswered⟩, refused, failed⟩ :=
    registeredTables_run
  obtain ⟨along, reached, held, ends⟩ := database_refines holds_registered run
  refine ⟨final, along, run, reached, held,
    ⟨answer, isCreated, isAnswered, ?_⟩, refused, failed⟩
  rcases ends none answer isAnswered with isThere | ⟨isConflict, -⟩ | ⟨rfl, -⟩
  · exact isThere
  · exact absurd isConflict isCreated.not_isKeyConflict
  · exact absurd isCreated (Request.unavailable_not_isCreated _)

end AgenId.Registry
