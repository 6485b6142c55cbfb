import AgenId.Registry.Request

/-!
# Requests one at a time

Alone on a memory store, a request leaves it as it is or has one of three
effects: it registers a new agent, publishes an authority key, or issues an
assertion.  What holds of the empty store and survives the effects holds after
every sequence of requests.
-/

namespace AgenId.Registry

open AgenId.Core
open AgenId.Ecma
open AgenId.Library
open AgenId.Validation
open AgenId.Validation.Schema

/-- What the authority routes find of the token in a request. -/
def Request.Authorized (authorityToken : Option JsString) : Request → Prop
  | .authorityKeys authorization _
  | .assertions authorization _ _ _ _ _ =>
    requireAuthority authorityToken authorization = none
  | _ => False

section Sequential

variable [Platform]

/-- The store after a request has run alone. -/
def serve (authorityToken : Option JsString) (store : MemoryStore)
    (request : Request) : MemoryStore :=
  ((request.program authorityToken).run MemoryStore.handle store).2

/-- The store after requests have run one at a time. -/
def serveAll (authorityToken : Option JsString) (requests : List Request)
    (store : MemoryStore) : MemoryStore :=
  requests.foldl (serve authorityToken) store

theorem serveAll_append
    (authorityToken : Option JsString) (earlier later : List Request)
    (store : MemoryStore) :
    serveAll authorityToken (earlier ++ later) store =
      serveAll authorityToken later
        (serveAll authorityToken earlier store) :=
  List.foldl_append

/-- What a request may do to a store. -/
inductive Effect (authorized : Prop) (store : MemoryStore) :
    MemoryStore → Prop
  | nothing : Effect authorized store store
  | register (registration : RegisterBody) (ts keyUlid agentUlid : JsString)
      (registrable : Registrable registration)
      (usable : differs (store.getKey registration.keyDocument.keyId)
        registration.keyDocument = false)
      (free : store.getAgent registration.manifest.agentId = none) :
      Effect authorized store
        (registered registration ts keyUlid agentUlid store)
  | publish (doc : KeyDocument) (isAuthorized : authorized)
      (accepted : KeyDocument.schema.accepts (some doc.toJson) = some doc)
      (isAuthority : doc.role = .authority)
      (usable : differs (store.getKey doc.keyId) doc = false) :
      Effect authorized store (store.putKey doc)
  | issue (record : AgentRecord) (issued : VerificationAssertion)
      (key : KeyDocument) (agentId clock ulid occurredAt : JsString)
      (isAuthorized : authorized)
      (accepted : VerificationAssertion.schema.accepts (some issued.toJson) =
        some issued)
      (found : store.getAgent agentId = some record)
      (isSubject : issued.subject = record.agentId)
      (isKey : store.getKey issued.keyId = some key)
      (verified : Succeeds (verifyVerificationAssertion (some issued.toJson)
        (some key.toJson) clock (some record.manifest.toJson)))
      (fresh : store.getAssertion issued.assertionId = none) :
      Effect authorized store ((store.putAssertion issued).appendEvent
        (issuedEvent record issued ulid occurredAt))

variable {authorityToken : Option JsString} {store : MemoryStore}

/-! ## The effects of the requests -/

theorem rereads_issued
    {body : Option Json} {issued : VerificationAssertion}
    (accepted : IssueAssertionBody.accepts body = some issued) :
    VerificationAssertion.schema.accepts (some issued.toJson) =
      some issued := by
  obtain ⟨members, rfl, -, fields⟩ :=
    accepts_strictObject_eq_some_iff.mp accepted
  rw [accepted_field] at fields
  exact rereads_VerificationAssertion _ _ fields

theorem publish_effect
    {authorized : Prop} {registration : RegisterBody}
    (registrable : Registrable registration)
    (ts keyUlid agentUlid : JsString) (store : MemoryStore) :
    Effect authorized store
      ((publish registration ts keyUlid agentUlid).run MemoryStore.handle
        store).2 := by
  rcases publish_cases registration ts keyUlid agentUlid store with
    ⟨refused, -, isRun⟩ | ⟨usable, free, isRun⟩
  · rw [isRun]
    exact .nothing
  · rw [isRun]
    exact .register registration ts keyUlid agentUlid registrable usable free

theorem postAgents_effect
    {authorized : Prop} (body : Option Json)
    (clock ts keyUlid agentUlid : JsString) (store : MemoryStore) :
    Effect authorized store
      ((postAgents body clock ts keyUlid agentUlid).run MemoryStore.handle
        store).2 := by
  cases isAdmitted : admitRegistration body clock with
  | error refused =>
      rw [postAgents_of_refused isAdmitted]
      exact .nothing
  | ok registration =>
      rw [postAgents_of_admitted isAdmitted, Program.run_bind]
      exact publish_effect (registrable_of_admitRegistration isAdmitted) ts
        keyUlid agentUlid store

theorem registerAgent_effect
    {authorized : Prop} (body : Option Json) (clock : Clock)
    (keyUlid agentUlid : JsString) (store : MemoryStore) :
    Effect authorized store
      ((registerAgent body clock keyUlid agentUlid).run MemoryStore.handle
        store).2 := by
  cases isAdmitted : admitAgent body clock with
  | error failure =>
      rw [registerAgent_of_refused isAdmitted]
      exact .nothing
  | ok admitted =>
      obtain ⟨registration, registeredAt⟩ := admitted
      have registrable := (admitted_of_admitAgent isAdmitted).registrable
      rw [registerAgent_of_admitted isAdmitted, Program.run_bind]
      exact publish_effect registrable registeredAt keyUlid agentUlid store

theorem postAuthorityKeys_effect
    (authorization : Option JsString) (body : Option Json)
    (store : MemoryStore) :
    Effect (requireAuthority authorityToken authorization = none) store
      ((postAuthorityKeys authorityToken authorization body).run
        MemoryStore.handle store).2 := by
  unfold postAuthorityKeys StoredForm.postAuthorityKeys
  cases isAuthorized : requireAuthority authorityToken authorization with
  | some refused => exact .nothing
  | none =>
      cases isParsed : KeyDocument.schema.safeParse body with
      | error issues => exact .nothing
      | ok doc =>
          have accepted := rereads_KeyDocument _ _
            (safeParse_eq_ok_iff.mp isParsed)
          dsimp only
          by_cases isAuthority : doc.role = .authority
          · rw [if_neg (not_not.mpr isAuthority)]
            cases usable : differs (store.getKey doc.keyId) doc with
            | true =>
                simp only [call_eq, Program.call_bind, Program.done_bind,
                  Program.run_call, MemoryStore.handle, usable, if_true]
                exact .nothing
            | false =>
                simp only [call_eq, Program.call_bind, Program.done_bind,
                  Program.run_call, MemoryStore.handle, usable,
                  Bool.false_eq_true, if_false]
                cases keyResolverPath doc.keyId with
                | error thrown =>
                    exact .publish doc trivial accepted isAuthority usable
                | ok path =>
                    exact .publish doc trivial accepted isAuthority usable
          · rw [if_pos isAuthority]
            exact .nothing

theorem issueAssertion_effect
    {authorized : Prop} (isAuthorized : authorized) {record : AgentRecord}
    {agentId : JsString} (found : store.getAgent agentId = some record)
    (body : Option Json) (clock occurredAt ulid : JsString) :
    Effect authorized store
      ((issueAssertion record body clock occurredAt ulid).run
        MemoryStore.handle store).2 := by
  unfold issueAssertion StoredForm.issueAssertion
  cases isParsed : IssueAssertionBody.safeParse body with
  | error issues => exact .nothing
  | ok issued =>
      have accepted := rereads_issued (safeParse_eq_ok_iff.mp isParsed)
      dsimp only
      by_cases isSubject : issued.subject = record.agentId
      · rw [if_neg (not_not.mpr isSubject)]
        simp only [call_eq, Program.call_bind, Program.done_bind,
          Program.run_call, MemoryStore.handle]
        cases isKey : store.getKey issued.keyId with
        | none => exact .nothing
        | some key =>
            dsimp only
            cases isVerified : verifyVerificationAssertion
                (some issued.toJson) (some key.toJson) clock
                (some record.manifest.toJson) with
            | error thrown => exact .nothing
            | ok result =>
                cases result with
                | fail code message => exact .nothing
                | ok state details =>
                    cases fresh : store.getAssertion issued.assertionId with
                    | some other =>
                        simp only [Program.run_call, MemoryStore.handle,
                          fresh]
                        exact .nothing
                    | none =>
                        simp only [Program.run_call, MemoryStore.handle,
                          fresh]
                        exact .issue record issued key agentId clock ulid
                          occurredAt isAuthorized accepted found isSubject
                          isKey ⟨state, details, isVerified⟩ fresh
      · rw [if_pos isSubject]
        exact .nothing

theorem postAssertions_effect
    (authorization : Option JsString) (agentId : JsString)
    (body : Option Json) (clock occurredAt ulid : JsString)
    (store : MemoryStore) :
    Effect (requireAuthority authorityToken authorization = none) store
      ((postAssertions authorityToken authorization agentId body clock
        occurredAt ulid).run MemoryStore.handle store).2 := by
  unfold postAssertions StoredForm.postAssertions
  cases isAuthorized : requireAuthority authorityToken authorization with
  | some refused => exact .nothing
  | none =>
      dsimp only
      split
      · rw [Program.run_bind]
        simp only [call_eq, Program.run_call, Program.run_done,
          MemoryStore.handle]
        cases found : store.getAgent agentId with
        | none => exact .nothing
        | some record =>
            exact issueAssertion_effect trivial found body clock occurredAt ulid
      · exact .nothing

/-- Every request has an effect, the authority ones only when authorized. -/
theorem serve_effect
    (authorityToken : Option JsString) (store : MemoryStore)
    (request : Request) :
    Effect (request.Authorized authorityToken) store
      (serve authorityToken store request) := by
  unfold serve
  cases request with
  | agents body clock ts keyUlid agentUlid =>
      rw [Request.program_agents, Program.run_bind]
      exact postAgents_effect body clock ts keyUlid agentUlid store
  | register body clock keyUlid agentUlid =>
      rw [Request.program_register, Program.run_bind]
      exact registerAgent_effect body clock keyUlid agentUlid store
  | authorityKeys authorization body =>
      rw [Request.program_authorityKeys, Program.run_bind]
      exact postAuthorityKeys_effect authorization body store
  | assertions authorization agentId body clock occurredAt ulid =>
      rw [Request.program_assertions, Program.run_bind]
      exact postAssertions_effect authorization agentId body clock occurredAt
        ulid store

/-- What survives the effects of requests holds after all of them. -/
theorem serveAll_induction
    {holds : MemoryStore → Prop} {requests : List Request}
    (survives : ∀ request ∈ requests, ∀ store next, holds store →
      Effect (request.Authorized authorityToken) store next → holds next)
    (initially : holds store) :
    holds (serveAll authorityToken requests store) := by
  induction requests generalizing store with
  | nil => exact initially
  | cons request rest inductionHypothesis =>
      have next : holds (serve authorityToken store request) :=
        survives request List.mem_cons_self store _ initially
          (serve_effect authorityToken store request)
      apply inductionHypothesis _ next
      intro other isMember
      exact survives other (List.mem_cons_of_mem request isMember)

end Sequential

end AgenId.Registry
