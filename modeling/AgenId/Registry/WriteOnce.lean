import AgenId.Registry.Request

/-!
# Published documents under concurrency

The requests run interleaved, one store call at a time.  An agent is created
by one call; a key and an assertion are checked by one call and written by
another.  A published document stays as submitted in every run in which no
other document is written under its identifier between the two.
-/

namespace AgenId.Registry

open AgenId.Core
open AgenId.Ecma
open AgenId.Library
open AgenId.Validation
open AgenId.Validation.Schema

/-- The exchanges of a request so far. -/
abbrev History := List (Program.Exchange StoreCall.Reply)

/-- What a request has seen before it writes: the key that it publishes was
not published as another document, the assertion that it issues was not
there. -/
def Checked (history : History) : StoreCall → Prop
  | .putKey doc => ∀ existing : Option KeyDocument,
      ⟨.getKey doc.keyId, existing⟩ ∈ history → differs existing doc = false
  | .putAssertion issued => ∀ existing : Option VerificationAssertion,
      ⟨.getAssertion issued.assertionId, existing⟩ ∈ history →
        existing = none
  | _ => True

/-- A key or an assertion is written while the store still answers as it did
when the request asked, or already answers with the very document. -/
def Unraced (store : MemoryStore) (history : History) : StoreCall → Prop
  | .putKey doc =>
    ⟨.getKey doc.keyId, store.getKey doc.keyId⟩ ∈ history ∨
      store.getKey doc.keyId = some doc
  | .putAssertion issued =>
    ⟨.getAssertion issued.assertionId,
        store.getAssertion issued.assertionId⟩ ∈ history ∨
      store.getAssertion issued.assertionId = some issued
  | _ => True

section WriteOnce

variable [Platform]

/-! ## What requests promise -/

/-- A request that is answered with success has stored what it submits. -/
def Kept (request : Request) (history : History) (answer : Answer) : Prop :=
  answer.IsCreated → ∀ document, request.Submits document →
    document.written ∈ history

theorem publish_promises
    (registration : RegisterBody) (ts keyUlid agentUlid : JsString)
    {answer : Except AgenIdError Publication → Answer}
    (isConflict : ¬ (answer (.ok .keyConflict)).IsCreated)
    (isTaken : ¬ (answer (.ok .agentExists)).IsCreated) :
    (publish registration ts keyUlid agentUlid >>= fun publication =>
      pure (answer publication)).Promises Checked
        (fun history sent => sent.IsCreated →
          (Document.agent (recordOf registration ts)).written ∈ history ∧
            (Document.key registration.keyDocument).written ∈ history) [] := by
  rw [publish_eq, Program.call_bind]
  refine ⟨trivial, ?_⟩
  intro existing
  dsimp only
  by_cases isOther : differs existing registration.keyDocument = true
  · rw [if_pos isOther]
    exact fun isCreated => absurd isCreated isConflict
  · rw [if_neg isOther, Program.call_bind]
    refine ⟨trivial, ?_⟩
    intro created
    cases created with
    | false => exact fun isCreated => absurd isCreated isTaken
    | true =>
        refine ⟨?_, fun _ => ⟨trivial, fun _ => ⟨trivial, fun _ _ => ?_⟩⟩⟩
        · intro found isMember
          have isFound : found = existing := by
            simpa using isMember
          rw [isFound]
          exact Bool.not_eq_true _ ▸ isOther
        · simp [Document.written]

theorem agents_promises
    (body : Option Json) (clock ts keyUlid agentUlid : JsString)
    (authorityToken : Option JsString) :
    let request := Request.agents body clock ts keyUlid agentUlid
    (request.program authorityToken).Promises Checked (Kept request) [] := by
  intro request
  cases isAdmitted : admitRegistration body clock with
  | error refused =>
      have isProgram : request.program authorityToken =
          .done (.response refused) := by
        simp only [request, Request.program_agents]
        rw [postAgents_of_refused isAdmitted]
        rfl
      rw [isProgram]
      intro isCreated
      have status := status_of_admitRegistration isAdmitted
      have success : refused.status = 201 := isCreated
      omega
  | ok registration =>
      have isProgram : request.program authorityToken =
          publish registration ts keyUlid agentUlid >>= fun publication =>
            pure (.response
              (publicationResponse registration publication)) := by
        simp only [request, Request.program_agents]
        rw [postAgents_of_admitted isAdmitted, bind_assoc]
        rfl
      rw [isProgram]
      apply Program.Promises.weaken (publish_promises registration ts keyUlid
        agentUlid (by simp [publicationResponse, Answer.IsCreated, err])
        (by simp [publicationResponse, Answer.IsCreated, err]))
      intro history answer kept isCreated document submits
      obtain ⟨submitted, isSubmitted, isDocument⟩ := submits
      obtain rfl : submitted = registration := Option.some.inj
        (isSubmitted.symm.trans (accepts_of_admitRegistration isAdmitted))
      rcases isDocument with rfl | rfl
      · exact (kept isCreated).1
      · exact (kept isCreated).2

theorem register_promises
    (body : Option Json) (clock : Clock) (keyUlid agentUlid : JsString)
    (authorityToken : Option JsString) :
    let request := Request.register body clock keyUlid agentUlid
    (request.program authorityToken).Promises Checked (Kept request) [] := by
  intro request
  cases isAdmitted : admitAgent body clock with
  | error failure =>
      have isProgram : request.program authorityToken =
          .done (.result failure) := by
        simp only [request, Request.program_register]
        rw [registerAgent_of_refused isAdmitted]
        rfl
      rw [isProgram]
      intro isCreated
      obtain ⟨_, _, _, _, rfl⟩ := admitAgent_isFailure isAdmitted
      obtain ⟨_, _, _, impossible⟩ := isCreated
      cases impossible
  | ok admitted =>
      obtain ⟨registration, registeredAt⟩ := admitted
      have isProgram : request.program authorityToken =
          publish registration registeredAt keyUlid agentUlid >>=
            fun publication => pure (.result
              (publicationResult registration publication)) := by
        simp only [request, Request.program_register]
        rw [registerAgent_of_admitted isAdmitted, bind_assoc]
        rfl
      have recorded := (admitted_of_admitAgent isAdmitted).recorded
      have isRead := readBody_of_admitAgent isAdmitted
      rw [isProgram]
      apply Program.Promises.weaken (publish_promises registration
        registeredAt keyUlid agentUlid
        (by simp [publicationResult, Answer.IsCreated, refusal])
        (by simp [publicationResult, Answer.IsCreated, refusal]))
      intro history answer kept isCreated document submits
      obtain ⟨submitted, isSubmitted, isDocument⟩ := submits
      obtain rfl : submitted = registration :=
        Except.ok.inj (isSubmitted.symm.trans isRead)
      rcases isDocument with rfl | rfl
      · rw [← recorded]
        exact (kept isCreated).1
      · exact (kept isCreated).2

omit [Platform] in
theorem status_of_requireAuthority
    {authorityToken authorization : Option JsString} {refused : Response}
    (isRefused : requireAuthority authorityToken authorization =
      some refused) :
    refused.status = 503 ∨ refused.status = 401 := by
  unfold requireAuthority at isRefused
  split at isRefused
  · cases isRefused
    exact Or.inl rfl
  · split at isRefused
    · cases isRefused
      exact Or.inr rfl
    · cases isRefused

/-- A request that is answered without success keeps its promise. -/
theorem kept_of_not_created
    {request : Request} {history : History} {answer : Answer}
    (notCreated : ¬ answer.IsCreated) : Kept request history answer := by
  intro isCreated
  exact absurd isCreated notCreated

theorem kept_of_refusal
    {request : Request} {history : History} {status : Nat} {code : String}
    {message : JsString} (isRefusal : status ≠ 201) :
    Kept request history (.response (err status code message)) :=
  kept_of_not_created isRefusal

theorem authorityKeys_promises
    (authorityToken authorization : Option JsString) (body : Option Json) :
    let request := Request.authorityKeys authorization body
    (request.program authorityToken).Promises Checked (Kept request) [] := by
  intro request
  simp only [request, Request.program_authorityKeys, postAuthorityKeys,
    StoredForm.postAuthorityKeys]
  cases isRefused : requireAuthority authorityToken authorization with
  | some refused =>
      have status := status_of_requireAuthority isRefused
      apply kept_of_not_created
      simp only [Answer.IsCreated]
      omega
  | none =>
      cases isParsed : KeyDocument.schema.safeParse body with
      | error issues => exact kept_of_refusal (by decide)
      | ok doc =>
          dsimp only
          split
          · exact kept_of_refusal (by decide)
          · simp only [call_eq, Program.call_bind, Program.done_bind]
            refine ⟨trivial, ?_⟩
            intro existing
            dsimp only
            by_cases isOther : differs existing doc = true
            · rw [if_pos isOther]
              exact kept_of_refusal (by decide)
            · rw [if_neg isOther]
              refine ⟨?_, ?_⟩
              · intro found isMember
                have isFound : found = existing := by
                  simpa using isMember
                rw [isFound]
                exact Bool.not_eq_true _ ▸ isOther
              · intro reply
                have kept : ∀ answer, Kept (.authorityKeys authorization body)
                    ([⟨.getKey doc.keyId, existing⟩, ⟨.putKey doc, reply⟩])
                    answer := by
                  intro answer _ document submits
                  obtain ⟨submitted, isSubmitted, rfl⟩ := submits
                  obtain rfl : submitted = doc := Option.some.inj
                    (isSubmitted.symm.trans (safeParse_eq_ok_iff.mp isParsed))
                  simp [Document.written]
                dsimp only
                cases keyResolverPath doc.keyId with
                | error thrown => exact kept _
                | ok path => exact kept _

theorem assertions_promises
    (authorityToken authorization : Option JsString) (agentId : JsString)
    (body : Option Json) (clock occurredAt ulid : JsString) :
    let request := Request.assertions authorization agentId body clock
      occurredAt ulid
    (request.program authorityToken).Promises Checked (Kept request) [] := by
  intro request
  simp only [request, Request.program_assertions, postAssertions,
    StoredForm.postAssertions]
  cases isRefused : requireAuthority authorityToken authorization with
  | some refused =>
      have status := status_of_requireAuthority isRefused
      apply kept_of_not_created
      simp only [Answer.IsCreated]
      omega
  | none =>
      dsimp only
      split
      · simp only [call_eq, Program.call_bind, Program.done_bind]
        refine ⟨trivial, ?_⟩
        intro record
        cases record with
        | none => exact kept_of_refusal (by decide)
        | some record =>
            dsimp only
            unfold StoredForm.issueAssertion
            cases isParsed : IssueAssertionBody.safeParse body with
            | error issues => exact kept_of_refusal (by decide)
            | ok issued =>
                dsimp only
                split
                · exact kept_of_refusal (by decide)
                · simp only [call_eq, Program.call_bind, Program.done_bind]
                  refine ⟨trivial, ?_⟩
                  intro auKey
                  cases auKey with
                  | none => exact kept_of_refusal (by decide)
                  | some key =>
                      dsimp only
                      split
                      · exact kept_of_refusal (by decide)
                      · rename_i code _ _
                        exact kept_of_refusal (by decide)
                      · refine ⟨trivial, ?_⟩
                        intro existing
                        cases existing with
                        | some found => exact kept_of_refusal (by decide)
                        | none =>
                            refine ⟨?_, fun _ => ⟨trivial, fun _ => ?_⟩⟩
                            · intro found isMember
                              simpa using isMember
                            · intro _ document submits
                              obtain ⟨submitted, isSubmitted, rfl⟩ := submits
                              obtain rfl : submitted = issued :=
                                Option.some.inj (isSubmitted.symm.trans
                                  (safeParse_eq_ok_iff.mp isParsed))
                              simp [Document.written]
      · exact kept_of_refusal (by decide)

theorem request_promises
    (authorityToken : Option JsString) (request : Request) :
    (request.program authorityToken).Promises Checked (Kept request) [] := by
  cases request with
  | agents body clock ts keyUlid agentUlid =>
      exact agents_promises body clock ts keyUlid agentUlid authorityToken
  | register body clock keyUlid agentUlid =>
      exact register_promises body clock keyUlid agentUlid authorityToken
  | authorityKeys authorization body =>
      exact authorityKeys_promises authorityToken authorization body
  | assertions authorization agentId body clock occurredAt ulid =>
      exact assertions_promises authorityToken authorization agentId body
        clock occurredAt ulid

/-! ## What calls do to stored documents -/

/-- The document of an exchange that stores one is stored. -/
def Recorded (store : MemoryStore)
    (exchange : Program.Exchange StoreCall.Reply) : Prop :=
  ∀ document : Document, exchange = document.written → document.Stored store

theorem recorded_by_handle
    (store : MemoryStore) (request : StoreCall) :
    Recorded (MemoryStore.handle request store).2
      ⟨request, (MemoryStore.handle request store).1⟩ := by
  intro document isWritten
  cases document with
  | agent record =>
      obtain ⟨rfl, created⟩ := Sigma.mk.inj isWritten
      have isCreated : (store.createAgent record).1 = true :=
        eq_of_heq created
      rcases store.createAgent_cases record with
        ⟨-, isNew⟩ | ⟨other, -, isTaken⟩
      · simp [MemoryStore.handle, isNew, Document.Stored]
      · rw [isTaken] at isCreated
        cases isCreated
  | key doc =>
      obtain ⟨rfl, -⟩ := Sigma.mk.inj isWritten
      simp [MemoryStore.handle, Document.Stored]
  | assertion issued =>
      obtain ⟨rfl, -⟩ := Sigma.mk.inj isWritten
      simp [MemoryStore.handle, Document.Stored]

theorem agent_stays
    {store : MemoryStore} {record : AgentRecord}
    (isStored : (Document.agent record).Stored store) (request : StoreCall) :
    (Document.agent record).Stored (MemoryStore.handle request store).2 := by
  have found : store.getAgent record.agentId = some record := isStored
  cases request with
  | createAgent other =>
      rcases store.createAgent_cases other with
        ⟨free, isNew⟩ | ⟨taken, -, isTaken⟩
      · have distinct : record.agentId ≠ other.agentId := by
          intro same
          rw [same, free] at found
          cases found
        simp [MemoryStore.handle, isNew, Document.Stored, distinct, found]
      · simp [MemoryStore.handle, isTaken, Document.Stored, found]
  | _ => exact isStored

/-- A stored key stays as it is under every call that finds it unraced. -/
theorem key_stays
    {store : MemoryStore} {doc : KeyDocument} {history : History}
    (isStored : (Document.key doc).Stored store) {request : StoreCall}
    (checked : Checked history request)
    (unraced : Unraced store history request) :
    (Document.key doc).Stored (MemoryStore.handle request store).2 := by
  have found : store.getKey doc.keyId = some doc := isStored
  cases request with
  | createAgent other =>
      rcases store.createAgent_cases other with
        ⟨-, isNew⟩ | ⟨taken, -, isTaken⟩
      · simp [MemoryStore.handle, isNew, Document.Stored, found]
      · simp [MemoryStore.handle, isTaken, Document.Stored, found]
  | putKey other =>
      by_cases same : doc.keyId = other.keyId
      · have isOther : store.getKey other.keyId = some other := by
          rcases unraced with asked | isPublished
          · have agrees := differs_eq_false_iff.mp (checked _ asked)
            rw [← same, found] at agrees ⊢
            simpa using agrees
          · exact isPublished
        obtain rfl : doc = other :=
          Option.some.inj (found.symm.trans (same ▸ isOther))
        simp [MemoryStore.handle, Document.Stored]
      · simp [MemoryStore.handle, Document.Stored, same, found]
  | _ => exact isStored

/-- A stored assertion stays as it is under every call that finds it
unraced. -/
theorem assertion_stays
    {store : MemoryStore} {issued : VerificationAssertion}
    {history : History}
    (isStored : (Document.assertion issued).Stored store)
    {request : StoreCall} (checked : Checked history request)
    (unraced : Unraced store history request) :
    (Document.assertion issued).Stored
      (MemoryStore.handle request store).2 := by
  have found : store.getAssertion issued.assertionId = some issued := isStored
  cases request with
  | createAgent other =>
      rcases store.createAgent_cases other with
        ⟨-, isNew⟩ | ⟨taken, -, isTaken⟩
      · simp [MemoryStore.handle, isNew, Document.Stored, found]
      · simp [MemoryStore.handle, isTaken, Document.Stored, found]
  | putAssertion other =>
      by_cases same : issued.assertionId = other.assertionId
      · have isOther :
            store.getAssertion other.assertionId = some other := by
          rcases unraced with asked | isIssued
          · have absent := checked _ asked
            rw [← same, found] at absent
            cases absent
          · exact isIssued
        obtain rfl : issued = other :=
          Option.some.inj (found.symm.trans (same ▸ isOther))
        simp [MemoryStore.handle, Document.Stored]
      · simp [MemoryStore.handle, Document.Stored, same, found]
  | _ => exact isStored

theorem recorded_stays
    {store : MemoryStore} {history : History} {request : StoreCall}
    {exchange : Program.Exchange StoreCall.Reply}
    (unraced : Unraced store history request)
    (checked : Checked history request)
    (isRecorded : Recorded store exchange) :
    Recorded (MemoryStore.handle request store).2 exchange := by
  intro document isWritten
  have isStored := isRecorded document isWritten
  cases document with
  | agent record => exact agent_stays isStored request
  | key doc => exact key_stays isStored checked unraced
  | assertion issued => exact assertion_stays isStored checked unraced

/-! ## Runs -/

variable {Index : Type*} [DecidableEq Index]

/-- The requests before any of them has begun. -/
def begun (authorityToken : Option JsString) (requests : Index → Request)
    (store : MemoryStore) :
    System StoreCall.Reply MemoryStore Answer Index :=
  System.start store fun index => (requests index).program authorityToken

/-- A system is reached from the requests by store calls of which each is of
an allowed kind. -/
abbrev Interleaves
    (allowed : MemoryStore → History → StoreCall → Prop) :
    System StoreCall.Reply MemoryStore Answer Index →
      System StoreCall.Reply MemoryStore Answer Index → Prop :=
  System.Reaches MemoryStore.handle allowed

variable {authorityToken : Option JsString} {requests : Index → Request}
  {store : MemoryStore} {index : Index} {answer : Answer}
  {allowed : MemoryStore → History → StoreCall → Prop}
  {final : System StoreCall.Reply MemoryStore Answer Index}

/-- In every run, what a request was answered to have stored is in its
history. -/
theorem written_of_answered
    (interleaves :
      Interleaves allowed (begun authorityToken requests store) final)
    (isAnswered : (final.processes index).rest = .done answer)
    (isCreated : answer.IsCreated) {document : Document}
    (submits : (requests index).Submits document) :
    document.written ∈ (final.processes index).history := by
  have promises := @System.Reaches.promises _ _ _ _ _ _ _ _
    (fun _ => Checked) (fun index => Kept (requests index)) _ _ interleaves
    (fun index => request_promises authorityToken (requests index)) index
  rw [isAnswered] at promises
  exact promises isCreated document submits

/-- In every run, an agent that was answered to have been created stays. -/
theorem created_agents_stay
    (interleaves :
      Interleaves allowed (begun authorityToken requests store) final)
    (isAnswered : (final.processes index).rest = .done answer)
    (isCreated : answer.IsCreated) {record : AgentRecord}
    (submits : (requests index).Submits (.agent record)) :
    final.state.getAgent record.agentId = some record := by
  have isWritten := written_of_answered interleaves isAnswered isCreated
    submits
  have recorded := @System.Reaches.recorded _ _ _ _ _ _ _ _
    (fun _ => Checked) (fun index => Kept (requests index))
    (fun store exchange => exchange = (Document.agent record).written →
      (Document.agent record).Stored store) _ _ interleaves
    (fun index => request_promises authorityToken (requests index))
    (fun _ _ isMember => absurd isMember (List.not_mem_nil))
    (fun _ state _ request _ _ isWritten =>
      recorded_by_handle state request _ isWritten)
    (fun _ _ _ request _ _ _ isStored isWritten =>
      agent_stays (isStored isWritten) request)
  exact recorded index _ isWritten rfl

/-- In every run whose writes are unraced, every document that a request was
answered to have published stays as submitted. -/
theorem published_documents_stay
    (interleaves :
      Interleaves Unraced (begun authorityToken requests store) final)
    (isAnswered : (final.processes index).rest = .done answer)
    (isCreated : answer.IsCreated) {document : Document}
    (submits : (requests index).Submits document) :
    document.Stored final.state := by
  have isWritten := written_of_answered interleaves isAnswered isCreated
    submits
  have recorded := @System.Reaches.recorded _ _ _ _ _ _ _ _
    (fun _ => Checked) (fun index => Kept (requests index)) Recorded _ _
    interleaves
    (fun index => request_promises authorityToken (requests index))
    (fun _ _ isMember => absurd isMember (List.not_mem_nil))
    (fun _ state _ request _ _ => recorded_by_handle state request)
    (fun _ _ _ _ _ unraced checked isRecorded =>
      recorded_stays unraced checked isRecorded)
  exact recorded index _ isWritten document rfl

end WriteOnce

/-! ## Two publications of one key identifier -/

/-- An authority key. -/
def sampleAuthorityKey : KeyDocument where
  keyId := units "agenid:key:01J8Z3NC5R7YT3W9KM2XQ4VJHB"
  publicKeyB64u := units "gGsTCSTbswlr2XSubZnRSyGM9X4pH_piNzVTZ0rmT-A"
  role := .authority
  controller := units "agenid:authority:node-01"
  createdAt := units "2026-09-13T00:00:00Z"
  status := .active
  retiredAt := none
  revokedAt := none

/-- Another document under the same identifier. -/
def substituteAuthorityKey : KeyDocument where
  keyId := units "agenid:key:01J8Z3NC5R7YT3W9KM2XQ4VJHB"
  publicKeyB64u := units "C2XCaQ41IZoFum-4PbNJ1aUCevSZwClSzjyZ-x85T3g"
  role := .authority
  controller := units "agenid:authority:node-01"
  createdAt := units "2026-09-13T00:00:00Z"
  status := .active
  retiredAt := none
  revokedAt := none

theorem sampleAuthorityKey_accepted :
    letI := samplePlatform
    KeyDocument.schema.accepts (some sampleAuthorityKey.toJson) =
      some sampleAuthorityKey := by
  rfl

theorem substituteAuthorityKey_accepted :
    letI := samplePlatform
    KeyDocument.schema.accepts (some substituteAuthorityKey.toJson) =
      some substituteAuthorityKey := by
  rfl

/-- The response to a published key. -/
def publishedResponse (doc : KeyDocument) (keyPath : JsString) : Response where
  status := 201
  body := .record
    [("key_id", some (.string doc.keyId)),
      ("links", some (.record [("self", some (.string keyPath))]))]

/-- What the publication of an authority key does with the answer to its
read. -/
def publishUnlessOther (doc : KeyDocument) (keyPath : JsString)
    (existing : Option KeyDocument) : StoreProgram Answer :=
  if differs existing doc then
    .done (.response (err 409 "key_conflict"
      (units "a different document exists under this key_id")))
  else
    .call (.putKey doc) fun _ =>
      .done (.response (publishedResponse doc keyPath))

theorem authorityKeys_program
    [Platform] {authorityToken authorization : Option JsString}
    {body : Option Json} {doc : KeyDocument} {keyPath : JsString}
    (isAuthorized : requireAuthority authorityToken authorization = none)
    (accepted : KeyDocument.schema.accepts body = some doc)
    (isAuthority : doc.role = .authority)
    (isPath : keyResolverPath doc.keyId = .ok keyPath) :
    (Request.authorityKeys authorization body).program authorityToken =
      .call (.getKey doc.keyId) (publishUnlessOther doc keyPath) := by
  have isParsed := safeParse_eq_ok_iff.mpr accepted
  simp only [Request.program_authorityKeys, postAuthorityKeys,
    StoredForm.postAuthorityKeys, isAuthorized, isParsed,
    isAuthority, isPath, ne_eq, not_true_eq_false, if_false, call_eq,
    Program.call_bind, Program.done_bind]
  apply congrArg (Program.call _)
  funext existing
  unfold publishUnlessOther differs
  cases StoredForm.documents.differs existing doc with
  | true => rfl
  | false => rfl

/-- A publisher of each of the two documents. -/
def sampleRequests (second : Bool) : Request :=
  .authorityKeys (some (units "Bearer secret"))
    (some (if second then substituteAuthorityKey
      else sampleAuthorityKey).toJson)

/-- The token of the registry. -/
def sampleToken : Option JsString := some (units "secret")

theorem sampleRequests_authorized :
    requireAuthority sampleToken (some (units "Bearer secret")) = none := by
  decide

theorem sampleAuthorityKey_path :
    ∃ keyPath, keyResolverPath sampleAuthorityKey.keyId = .ok keyPath :=
  keyResolverPath_ok (by decide)

/-- A document under an identifier of its own. -/
def otherAuthorityKey : KeyDocument :=
  { substituteAuthorityKey with
    keyId := units "agenid:key:01J8Z3NC5R7YT3W9KM2XQ4VJHC" }

theorem otherAuthorityKey_accepted :
    letI := samplePlatform
    KeyDocument.schema.accepts (some otherAuthorityKey.toJson) =
      some otherAuthorityKey := by
  rfl

/-- Two publishers of one document and a publisher of another. -/
def sampleDocument (publisher : Option Bool) : KeyDocument :=
  if publisher = none then otherAuthorityKey else sampleAuthorityKey

def samplePublication (publisher : Option Bool) : Request :=
  .authorityKeys (some (units "Bearer secret"))
    (some (sampleDocument publisher).toJson)

/-- Three publishers ask before any of them writes, two of them for one key.
Each write is unraced, each publisher is answered that its key was created,
and the documents are stored. -/
theorem published_documents_stay_sample :
    letI := samplePlatform
    ∃ final, Interleaves Unraced
        (begun sampleToken samplePublication .empty) final ∧
      ∀ publisher,
        (∃ answer, (final.processes publisher).rest = .done answer ∧
          answer.IsCreated) ∧
        (Document.key (sampleDocument publisher)).Stored final.state := by
  let := samplePlatform
  obtain ⟨keyPath, isPath⟩ := sampleAuthorityKey_path
  obtain ⟨otherPath, isOtherPath⟩ :
      ∃ keyPath, keyResolverPath otherAuthorityKey.keyId = .ok keyPath :=
    keyResolverPath_ok (by decide)
  have program := authorityKeys_program sampleRequests_authorized
    sampleAuthorityKey_accepted rfl isPath
  have otherProgram := authorityKeys_program sampleRequests_authorized
    otherAuthorityKey_accepted rfl isOtherPath
  let start := begun sampleToken samplePublication .empty
  let asked := start.advance MemoryStore.handle (some false)
    (.getKey sampleAuthorityKey.keyId)
    (publishUnlessOther sampleAuthorityKey keyPath)
  let askedAgain := asked.advance MemoryStore.handle (some true)
    (.getKey sampleAuthorityKey.keyId)
    (publishUnlessOther sampleAuthorityKey keyPath)
  let askedOther := askedAgain.advance MemoryStore.handle none
    (.getKey otherAuthorityKey.keyId)
    (publishUnlessOther otherAuthorityKey otherPath)
  let wrote := askedOther.advance MemoryStore.handle (some false)
    (.putKey sampleAuthorityKey) fun _ =>
      .done (.response (publishedResponse sampleAuthorityKey keyPath))
  let wroteOther := wrote.advance MemoryStore.handle none
    (.putKey otherAuthorityKey) fun _ =>
      .done (.response (publishedResponse otherAuthorityKey otherPath))
  let wroteAgain := wroteOther.advance MemoryStore.handle (some true)
    (.putKey sampleAuthorityKey) fun _ =>
      .done (.response (publishedResponse sampleAuthorityKey keyPath))
  have asks : System.Step MemoryStore.handle Unraced start asked :=
    .call (some false) program trivial
  have asksAgain : System.Step MemoryStore.handle Unraced asked askedAgain :=
    .call (some true) program trivial
  have asksOther : System.Step MemoryStore.handle Unraced askedAgain
      askedOther :=
    .call none otherProgram trivial
  have writes : System.Step MemoryStore.handle Unraced askedOther wrote :=
    .call (some false) rfl (Or.inl (List.mem_singleton.mpr rfl))
  have writesOther : System.Step MemoryStore.handle Unraced wrote
      wroteOther :=
    .call none rfl (Or.inl (List.mem_singleton.mpr rfl))
  -- By now the other publisher of the key has written this very document.
  have writesAgain : System.Step MemoryStore.handle Unraced wroteOther
      wroteAgain :=
    .call (some true) rfl (Or.inr rfl)
  have run : Interleaves Unraced start wroteAgain :=
    (((((Relation.ReflTransGen.single asks).tail asksAgain).tail
      asksOther).tail writes).tail writesOther).tail writesAgain
  have answered : ∀ publisher, ∃ answer,
      (wroteAgain.processes publisher).rest = .done answer ∧
        answer.IsCreated := by
    intro publisher
    cases publisher with
    | none => exact ⟨_, rfl, rfl⟩
    | some second =>
        cases second with
        | false => exact ⟨_, rfl, rfl⟩
        | true => exact ⟨_, rfl, rfl⟩
  have submits : ∀ publisher, (samplePublication publisher).Submits
      (.key (sampleDocument publisher)) := by
    intro publisher
    cases publisher with
    | none => exact ⟨_, otherAuthorityKey_accepted, rfl⟩
    | some second => exact ⟨_, sampleAuthorityKey_accepted, rfl⟩
  refine ⟨wroteAgain, run, ?_⟩
  intro publisher
  obtain ⟨answer, isAnswered, isCreated⟩ := answered publisher
  exact ⟨⟨answer, isAnswered, isCreated⟩,
    published_documents_stay run isAnswered isCreated (submits publisher)⟩

/-- Both publishers ask for the key before either writes it; both are answered
that they published it, and the second document stands. -/
theorem sampleRequests_race :
    letI := samplePlatform
    ∃ final : System StoreCall.Reply MemoryStore Answer Bool,
      Interleaves (fun _ _ _ => True)
        (begun sampleToken sampleRequests .empty) final ∧
      (∀ second, ∃ answer,
        (final.processes second).rest = .done answer ∧ answer.IsCreated) ∧
      final.state.getKey sampleAuthorityKey.keyId =
        some substituteAuthorityKey := by
  let := samplePlatform
  obtain ⟨keyPath, isPath⟩ := sampleAuthorityKey_path
  have first := authorityKeys_program sampleRequests_authorized
    sampleAuthorityKey_accepted rfl isPath
  have second := authorityKeys_program sampleRequests_authorized
    substituteAuthorityKey_accepted rfl isPath
  let start := begun sampleToken sampleRequests .empty
  let asked := start.advance MemoryStore.handle false
    (.getKey sampleAuthorityKey.keyId)
    (publishUnlessOther sampleAuthorityKey keyPath)
  let askedAgain := asked.advance MemoryStore.handle true
    (.getKey substituteAuthorityKey.keyId)
    (publishUnlessOther substituteAuthorityKey keyPath)
  let wrote := askedAgain.advance MemoryStore.handle false
    (.putKey sampleAuthorityKey) fun _ =>
      .done (.response (publishedResponse sampleAuthorityKey keyPath))
  let wroteAgain := wrote.advance MemoryStore.handle true
    (.putKey substituteAuthorityKey) fun _ =>
      .done (.response (publishedResponse substituteAuthorityKey keyPath))
  have asks : System.Step MemoryStore.handle (fun _ _ _ => True) start
      asked :=
    .call false first trivial
  have asksAgain : System.Step MemoryStore.handle (fun _ _ _ => True) asked
      askedAgain :=
    .call true second trivial
  have writes : System.Step MemoryStore.handle (fun _ _ _ => True) askedAgain
      wrote :=
    .call false rfl trivial
  have writesAgain : System.Step MemoryStore.handle (fun _ _ _ => True) wrote
      wroteAgain :=
    .call true rfl trivial
  have run : Interleaves (fun _ _ _ => True) start wroteAgain :=
    (((Relation.ReflTransGen.single asks).tail asksAgain).tail writes).tail
      writesAgain
  refine ⟨wroteAgain, run, ?_, rfl⟩
  intro second
  cases second with
  | false => exact ⟨_, rfl, rfl⟩
  | true => exact ⟨_, rfl, rfl⟩

/-- Published documents do not stay in every run. -/
theorem published_document_substituted :
    letI := samplePlatform
    ¬ ∀ final : System StoreCall.Reply MemoryStore Answer Bool,
      Interleaves (fun _ _ _ => True)
        (begun sampleToken sampleRequests .empty) final →
      ∀ index answer, (final.processes index).rest = .done answer →
        answer.IsCreated → ∀ document,
          (sampleRequests index).Submits document →
            document.Stored final.state := by
  let := samplePlatform
  intro stay
  obtain ⟨final, run, answered, stands⟩ := sampleRequests_race
  obtain ⟨answer, isAnswered, isCreated⟩ := answered false
  have isStored := stay final run false answer isAnswered isCreated
    (.key sampleAuthorityKey) ⟨_, sampleAuthorityKey_accepted, rfl⟩
  have same : sampleAuthorityKey = substituteAuthorityKey :=
    Option.some.inj (isStored.symm.trans stands)
  exact absurd same (by decide)

end AgenId.Registry
