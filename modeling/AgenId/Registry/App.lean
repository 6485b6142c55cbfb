import AgenId.Core.Crypto
import AgenId.Registry.RegistrationTime
import AgenId.Registry.Store

/-!
# The registry application

The writing routes of `app.ts` as programs over a store, in whatever form it
returns its documents.  A request carries what the handler reads besides its
body: the readings of the clock, in the order in which the handler takes them,
and the identifiers that it generates for its events.
-/

namespace AgenId.Registry

open AgenId.Core
open AgenId.Ecma
open AgenId.Library
open AgenId.Validation
open AgenId.Validation.Schema

/-! ## Responses -/

/-- A status and a JSON body. -/
structure Response where
  status : Nat
  body : Json

def err (status : Nat) (code : String) (message : JsString) : Response where
  status := status
  body := .record
    [("error", some (.literal code)), ("message", some (.string message))]

/-- The answer of the error handler to anything thrown out of a handler. -/
def internalError : Response :=
  err 500 "internal_error"
    (units "the registry failed to handle this request")

/-- One step of a path as `join` writes it. -/
def PathKey.text : PathKey → JsString
  | .member name => name
  | .index position => decimal position

/-- The level that a registration gives. -/
def registeredLevel : Json :=
  .record [("level", some (.literal "L1_REGISTERED"))]

section Routes

variable [Platform] {Record Key Assertion : Type}
  (form : StoredForm Record Key Assertion)

def zodMessage (issues : List Issue) : JsString :=
  join (units "; ") (issues.map fun issue =>
    let path := join (units ".") (issue.path.map PathKey.text)
    (if path = [] then units "$" else path) ++ units ": " ++
      issue.render Platform.issueText)

/-- The response to a body that its schema refuses. -/
def schemaRefusal (issues : List Issue) : Response :=
  err 400 "schema_validation_failed" (zodMessage issues)

/-! ## Registration -/

structure RegisterBody where
  manifest : Manifest
  proof : ManifestProof
  keyDocument : KeyDocument

/-- The schema `RegisterBody`. -/
def RegisterBody.schema : Schema RegisterBody :=
  strictObject ["manifest", "proof", "key_document"] fun members =>
    RegisterBody.mk <$> field "manifest" Manifest.schema members <*>
      field "proof" ManifestProof.schema members <*>
      field "key_document" KeyDocument.schema members

/-- How the key document fails to be the operator key that the proof names,
with the code and the text of the failure. -/
def keyMismatch (registration : RegisterBody) : Option (String × String) :=
  if registration.keyDocument.keyId ≠ registration.proof.keyId then
    some ("key_id_mismatch", "key_document.key_id must equal proof.key_id")
  else if registration.keyDocument.role ≠ .operator then
    some ("key_role_mismatch", "registration key must have role=operator")
  else if registration.keyDocument.controller ≠
      registration.manifest.agentId then
    some ("key_controller_mismatch",
      "operator key controller must equal manifest.agent_id")
  else
    none

/-- The verification of a registration at an instant. -/
def verifyRegistration (registration : RegisterBody) (now : JsString) :
    Except AgenIdError VerifyResult :=
  verifyManifestProof (some registration.proof.toJson)
    (some registration.manifest.toJson)
    (some registration.keyDocument.toJson) now

/-- How publishing a registration ends. -/
inductive Publication where
  | keyConflict
  | agentExists
  | published (record : AgentRecord)

/-- Whether a published document is not the one in hand. -/
def StoredForm.differs (existing : Option Key) (doc : KeyDocument) : Bool :=
  existing.any fun published =>
    decide (stringify (form.keyJson published) ≠ stringify doc.toJson)

/-- The store calls of a registration: the key must be free or published as
it is, the agent must be new, and then the record, the key and two events are
written. -/
def StoredForm.publish (registration : RegisterBody) (ts : JsString)
    (keyUlid agentUlid : JsString) :
    Program (StoreCall.ReplyIn Record Key Assertion)
      (Except AgenIdError Publication) := do
  let existingKey : Option Key ←
    call (.getKey registration.keyDocument.keyId)
  if form.differs existingKey registration.keyDocument then
    return .ok .keyConflict
  match manifestDigestHex registration.manifest with
  | .error thrown => return .error thrown
  | .ok digest =>
    let record : AgentRecord := {
      agentId := registration.manifest.agentId
      manifest := registration.manifest
      manifestDigest := digest
      proof := registration.proof
      status := .ACTIVE
      registeredAt := ts
      updatedAt := ts }
    let created : Bool ← call (.createAgent record)
    if created = false then
      return .ok .agentExists
    call (.putKey registration.keyDocument)
    call (.appendEvent {
      eventId := units "evt_" ++ keyUlid
      agentId := record.agentId
      type := .keyPublished
      occurredAt := ts
      detailRef := [(units "key_id", registration.keyDocument.keyId)] })
    call (.appendEvent {
      eventId := units "evt_" ++ agentUlid
      agentId := record.agentId
      type := .agentRegistered
      occurredAt := ts
      detailRef := [(units "manifest_digest", record.manifestDigest)] })
    return .ok (.published record)

/-- The response to a registration. -/
def registeredResponse (record : AgentRecord) (keyPath : JsString) :
    Response where
  status := 201
  body := .record
    [("agent_id", some (.string record.agentId)),
      ("status", some (.literal record.status.text)),
      ("verification", some registeredLevel),
      ("registered_at", some (.string record.registeredAt)),
      ("links", some (.record
        [("self", some (.string (units "/v1/agents/" ++ record.agentId))),
          ("proof", some (.string
            (units "/v1/agents/" ++ record.agentId ++ units "/proof"))),
          ("key", some (.string keyPath))]))]

/-- What `POST /v1/agents` answers once its store calls are made. -/
def publicationResponse (registration : RegisterBody) :
    Except AgenIdError Publication → Response
  | .error _ => internalError
  | .ok .keyConflict => err 409 "key_conflict" (units
      "a different key document is already published under this key_id")
  | .ok .agentExists =>
    err 409 "agent_exists" (units "agent_id is already registered")
  | .ok (.published record) =>
    match keyResolverPath registration.keyDocument.keyId with
    | .error _ => internalError
    | .ok keyPath => registeredResponse record keyPath

/-- The checks of `POST /v1/agents` before it asks the store. -/
def admitRegistration (body : Option Json) (clock : JsString) :
    Except Response RegisterBody :=
  match RegisterBody.schema.safeParse body with
  | .error issues => .error (schemaRefusal issues)
  | .ok registration =>
    match keyMismatch registration with
    | some (code, message) => .error (err 400 code (units message))
    | none =>
      match registrationTime registration.proof.createdAt (dateParse clock) with
      | none => .error internalError
      | some (.fail message) =>
        .error (err 400 "clock_skew_too_large" message)
      | some (.ok now _) =>
        match verifyRegistration registration now with
        | .error _ => .error internalError
        | .ok (.fail code message) => .error (err 400 code.text message)
        | .ok (.ok _ _) => .ok registration

/-- `POST /v1/agents`. -/
def StoredForm.postAgents (body : Option Json)
    (clock ts keyUlid agentUlid : JsString) :
    Program (StoreCall.ReplyIn Record Key Assertion) Response :=
  match admitRegistration body clock with
  | .error refusal => return refusal
  | .ok registration => do
    let publication ← form.publish registration ts keyUlid agentUlid
    return publicationResponse registration publication

/-! ## Authority writes -/

/-- `requireAuthority(req, reply)`: the refusal of a request that does not
carry the configured token.  An empty token counts as none. -/
def requireAuthority (authorityToken authorization : Option JsString) :
    Option Response :=
  match authorityToken.filter fun token => token ≠ [] with
  | none => some (err 503 "authority_writes_disabled"
      (units "No authority token configured on this registry"))
  | some token =>
    if authorization.getD [] ≠ units "Bearer " ++ token then
      some (err 401 "unauthorized"
        (units "Authority bearer token required"))
    else
      none

/-- `POST /v1/authority/keys`. -/
def StoredForm.postAuthorityKeys
    (authorityToken authorization : Option JsString) (body : Option Json) :
    Program (StoreCall.ReplyIn Record Key Assertion) Response :=
  match requireAuthority authorityToken authorization with
  | some refusal => return refusal
  | none =>
    match KeyDocument.schema.safeParse body with
    | .error issues => return schemaRefusal issues
    | .ok doc => do
      if doc.role ≠ .authority then
        return err 400 "key_role_mismatch" (units
          "only authority keys are published via this route; operator " ++
          units "keys are published at registration")
      let existing : Option Key ← call (.getKey doc.keyId)
      if form.differs existing doc then
        return err 409 "key_conflict"
          (units "a different document exists under this key_id")
      call (.putKey doc)
      match keyResolverPath doc.keyId with
      | .error _ => return internalError
      | .ok keyPath => return {
          status := 201
          body := .record
            [("key_id", some (.string doc.keyId)),
              ("links", some (.record
                [("self", some (.string keyPath))]))] }

/-- `IssueAssertionBody`, whose one member is the assertion. -/
def IssueAssertionBody : Schema VerificationAssertion :=
  strictObject ["assertion"] fun members =>
    field "assertion" VerificationAssertion.schema members

/-- The event of an issued assertion. -/
def issuedEvent (record : AgentRecord) (assertion : VerificationAssertion)
    (ulid occurredAt : JsString) : LedgerEvent where
  eventId := units "evt_" ++ ulid
  agentId := record.agentId
  type := .assertionIssued
  occurredAt := occurredAt
  detailRef :=
    [(units "assertion_id", assertion.assertionId),
      (units "level", units assertion.level.text),
      (units "manifest_digest", assertion.manifestDigest)]

/-- The response to an issued assertion. -/
def issuedResponse (assertion : VerificationAssertion) : Response where
  status := 201
  body := .record
    [("assertion_id", some (.string assertion.assertionId)),
      ("level", some (.literal assertion.level.text)),
      ("links", some (.record
        [("self", some (.string (units "/v1/assertions/" ++
          assertion.assertionId.drop (units "assertion:").length)))]))]

/-- Issuing an assertion for a registered agent. -/
def StoredForm.issueAssertion (record : Record) (body : Option Json)
    (clock occurredAt ulid : JsString) :
    Program (StoreCall.ReplyIn Record Key Assertion) Response :=
  match IssueAssertionBody.safeParse body with
  | .error issues => return schemaRefusal issues
  | .ok assertion => do
    if assertion.subject ≠ (form.record record).agentId then
      return err 400 "subject_mismatch"
        (units "assertion.subject must equal the agent_id in the path")
    let auKey : Option Key ← call (.getKey assertion.keyId)
    match auKey with
    | none =>
      return err 400 "authority_key_unknown"
        (units "assertion.key_id is not published in this registry")
    | some key =>
      match verifyVerificationAssertion (some assertion.toJson)
          (some (form.keyJson key)) clock
          (some (form.manifestJson record)) with
      | .error _ => return internalError
      | .ok (.fail code message) => return err 400 code.text message
      | .ok (.ok _ _) => do
        let existing : Option Assertion ←
          call (.getAssertion assertion.assertionId)
        if existing.isSome then
          return err 409 "assertion_exists"
            (units "assertion_id already issued")
        call (.putAssertion assertion)
        call (.appendEvent
          (issuedEvent (form.record record) assertion ulid occurredAt))
        return issuedResponse assertion

/-- The answer for an agent that is not there. -/
def agentNotFound : Response :=
  err 404 "agent_not_found" (units "no such agent")

/-- `POST /v1/agents/:agent_id/assertions`. -/
def StoredForm.postAssertions
    (authorityToken authorization : Option JsString) (agentId : JsString)
    (body : Option Json) (clock occurredAt ulid : JsString) :
    Program (StoreCall.ReplyIn Record Key Assertion) Response :=
  match requireAuthority authorityToken authorization with
  | some refusal => return refusal
  | none =>
    if isValidAgentId agentId then do
      let found : Option Record ← call (.getAgent agentId)
      match found with
      | none => return agentNotFound
      | some record =>
        form.issueAssertion record body clock occurredAt ulid
    else
      return agentNotFound

/-! ## On a store of documents -/

abbrev differs (existing : Option KeyDocument) (doc : KeyDocument) : Bool :=
  StoredForm.documents.differs existing doc

def publish (registration : RegisterBody) (ts keyUlid agentUlid : JsString) :
    StoreProgram (Except AgenIdError Publication) :=
  StoredForm.documents.publish registration ts keyUlid agentUlid

def postAgents (body : Option Json) (clock ts keyUlid agentUlid : JsString) :
    StoreProgram Response :=
  StoredForm.documents.postAgents body clock ts keyUlid agentUlid

def postAuthorityKeys (authorityToken authorization : Option JsString)
    (body : Option Json) : StoreProgram Response :=
  StoredForm.documents.postAuthorityKeys authorityToken authorization body

def issueAssertion (record : AgentRecord) (body : Option Json)
    (clock occurredAt ulid : JsString) : StoreProgram Response :=
  StoredForm.documents.issueAssertion record body clock occurredAt ulid

def postAssertions (authorityToken authorization : Option JsString)
    (agentId : JsString) (body : Option Json)
    (clock occurredAt ulid : JsString) : StoreProgram Response :=
  StoredForm.documents.postAssertions authorityToken authorization agentId body
    clock occurredAt ulid

end Routes

end AgenId.Registry
