import AgenId.Registry.Publication

/-!
# Requests

The four writing requests of the registry as programs over the store: a
registration at either door, the publication of an authority key, and the
issuing of an assertion.  A request that is answered with success has made the
writes of the documents that it submits.
-/

namespace AgenId.Registry

open AgenId.Core
open AgenId.Ecma
open AgenId.Library
open AgenId.Validation
open AgenId.Validation.Schema

/-- A writing request, with the readings of the clock and the identifiers that
its handler takes. -/
inductive Request where
  | agents (body : Option Json) (clock ts keyUlid agentUlid : JsString)
  | register (body : Option Json) (clock : Clock)
    (keyUlid agentUlid : JsString)
  | authorityKeys (authorization : Option JsString) (body : Option Json)
  | assertions (authorization : Option JsString) (agentId : JsString)
    (body : Option Json) (clock occurredAt ulid : JsString)

/-- What a request is answered. -/
inductive Answer where
  | response (response : Response)
  | result (result : RegisterResult)

/-- An answer with status 201. -/
def Answer.IsCreated : Answer → Prop
  | .response sent => sent.status = 201
  | .result ended => ∃ record keyDocument manifest,
      ended = .ok record keyDocument manifest

/-- A document that a request stores. -/
inductive Document where
  | agent (record : AgentRecord)
  | key (doc : KeyDocument)
  | assertion (assertion : VerificationAssertion)

/-- The exchange that stores a document. -/
def Document.written : Document → Program.Exchange StoreCall.Reply
  | .agent record => ⟨.createAgent record, true⟩
  | .key doc => ⟨.putKey doc, ()⟩
  | .assertion issued => ⟨.putAssertion issued, ()⟩

/-- The store answers with a document under its identifier. -/
def Document.Stored (store : MemoryStore) : Document → Prop
  | .agent record => store.getAgent record.agentId = some record
  | .key doc => store.getKey doc.keyId = some doc
  | .assertion issued =>
    store.getAssertion issued.assertionId = some issued

section Requests

variable [Platform]

/-- The program of a request, under a configured authority token. -/
def StoredForm.program {Record Key Assertion : Type}
    (form : StoredForm Record Key Assertion)
    (authorityToken : Option JsString) :
    Request → Program (StoreCall.ReplyIn Record Key Assertion) Answer
  | .agents body clock ts keyUlid agentUlid =>
    form.postAgents body clock ts keyUlid agentUlid >>= fun response =>
      pure (.response response)
  | .register body clock keyUlid agentUlid =>
    form.registerAgent body clock keyUlid agentUlid >>= fun result =>
      pure (.result result)
  | .authorityKeys authorization body =>
    form.postAuthorityKeys authorityToken authorization body >>=
      fun response => pure (.response response)
  | .assertions authorization agentId body clock occurredAt ulid =>
    form.postAssertions authorityToken authorization agentId body clock
      occurredAt ulid >>= fun response => pure (.response response)

/-- The program of a request on a store of documents. -/
def Request.program (authorityToken : Option JsString) (request : Request) :
    StoreProgram Answer :=
  StoredForm.documents.program authorityToken request

section Doors

variable (authorityToken : Option JsString) (body : Option Json)

theorem Request.program_agents (clock ts keyUlid agentUlid : JsString) :
    (Request.agents body clock ts keyUlid agentUlid).program authorityToken =
      postAgents body clock ts keyUlid agentUlid >>= fun response =>
        pure (.response response) := rfl

theorem Request.program_register
    (clock : Clock) (keyUlid agentUlid : JsString) :
    (Request.register body clock keyUlid agentUlid).program authorityToken =
      registerAgent body clock keyUlid agentUlid >>= fun result =>
        pure (.result result) := rfl

theorem Request.program_authorityKeys (authorization : Option JsString) :
    (Request.authorityKeys authorization body).program authorityToken =
      postAuthorityKeys authorityToken authorization body >>=
        fun response => pure (.response response) := rfl

theorem Request.program_assertions
    (authorization : Option JsString)
    (agentId clock occurredAt ulid : JsString) :
    (Request.assertions authorization agentId body clock occurredAt
        ulid).program authorityToken =
      postAssertions authorityToken authorization agentId body clock
        occurredAt ulid >>= fun response => pure (.response response) := rfl

end Doors

/-- The documents that a request submits: what its body is parsed to, with the
record that the registry makes of a registration. -/
def Request.Submits : Request → Document → Prop
  | .agents body _ ts _ _, document =>
    ∃ registration, RegisterBody.schema.accepts body = some registration ∧
      (document = .agent (recordOf registration ts) ∨
        document = .key registration.keyDocument)
  | .register body clock _ _, document =>
    ∃ registration, readBody body = .ok registration ∧
      (document = .agent (recordOf registration (nowIso clock)) ∨
        document = .key registration.keyDocument)
  | .authorityKeys _ body, document =>
    ∃ doc, KeyDocument.schema.accepts body = some doc ∧ document = .key doc
  | .assertions _ _ body _ _ _, document =>
    ∃ assertion, IssueAssertionBody.accepts body = some assertion ∧
      document = .assertion assertion

end Requests

end AgenId.Registry
