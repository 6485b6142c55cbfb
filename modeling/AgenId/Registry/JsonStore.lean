import AgenId.Core.Reordered
import AgenId.Registry.Envelope
import AgenId.Registry.Publication

/-!
# Stores that answer with JSON

A store keeps documents as JSON values and may return their members in another
order than it was given them, as a `jsonb` column does.  What it returns is
passed on as it stands: a key document in hand is compared with the text of
the stored value, and a document is checked and shown as the stored value.
The memory store returns what it was given.
-/

namespace AgenId.Registry

open AgenId.Core
open AgenId.Ecma
open AgenId.Library
open AgenId.Validation
open AgenId.Validation.Schema

/-! ## What a store returns -/

/-- A document as a store returns it: a value that has the members of the
document, in whatever order. -/
structure Returned {Document : Type} (encode : Document → Json) where
  document : Document
  value : Json
  same : SameValue value (encode document)

/-- A document that is returned as it was written. -/
def Returned.written {Document : Type} (encode : Document → Json)
    (document : Document) : Returned encode :=
  ⟨document, encode document, SameValue.refl _⟩

/-- `AgentRecord`, with its documents as they are returned. -/
structure StoredRecord where
  agentId : JsString
  manifest : Returned Manifest.toJson
  manifestDigest : JsString
  proof : Returned ManifestProof.toJson
  status : AgentStatus
  registeredAt : JsString
  updatedAt : JsString

/-- A record whose documents are returned as they were written. -/
def AgentRecord.stored (record : AgentRecord) : StoredRecord where
  agentId := record.agentId
  manifest := .written _ record.manifest
  manifestDigest := record.manifestDigest
  proof := .written _ record.proof
  status := record.status
  registeredAt := record.registeredAt
  updatedAt := record.updatedAt

/-- An assertion as a store returns it. -/
abbrev StoredAssertion := Returned VerificationAssertion.toJson

/-- The record whose documents were written. -/
def StoredRecord.written (record : StoredRecord) : AgentRecord where
  agentId := record.agentId
  manifest := record.manifest.document
  manifestDigest := record.manifestDigest
  proof := record.proof.document
  status := record.status
  registeredAt := record.registeredAt
  updatedAt := record.updatedAt

/-- Documents that are returned as JSON values. -/
@[reducible]
def StoredForm.values : StoredForm StoredRecord Json StoredAssertion where
  record := StoredRecord.written
  assertion := Returned.document
  manifestJson record := record.manifest.value
  proofJson record := record.proof.value
  keyJson key := key
  assertionJson := Returned.value

/-- Documents that are returned and shown as JSON values. -/
@[reducible]
def ShownForm.values :
    ShownForm StoredRecord Json StoredAssertion Json Json Json where
  toStoredForm := .values
  manifest record := record.manifest.value
  proof record := record.proof.value
  shown := Returned.value

/-- What a call resolves to when documents are answered as they are
stored. -/
abbrev StoreCall.JsonReply : StoreCall → Type :=
  StoreCall.ReplyIn StoredRecord Json StoredAssertion

/-- A program over a store that answers documents as JSON values. -/
abbrev JsonProgram (Result : Type) := Program StoreCall.JsonReply Result

/-! ## The memory store as a store of JSON -/

/-- A handler that answers documents, as one that answers their values. -/
def answeringJson {State : Type}
    (handle : Program.Handler StoreCall.Reply State) :
    Program.Handler StoreCall.JsonReply State
  | .getKey keyId, state =>
    ((handle (.getKey keyId) state).1.map KeyDocument.toJson,
      (handle (.getKey keyId) state).2)
  | .getAgent agentId, state =>
    ((handle (.getAgent agentId) state).1.map AgentRecord.stored,
      (handle (.getAgent agentId) state).2)
  | .createAgent record, state => handle (.createAgent record) state
  | .putKey doc, state => handle (.putKey doc) state
  | .getAssertion assertionId, state =>
    ((handle (.getAssertion assertionId) state).1.map (.written _),
      (handle (.getAssertion assertionId) state).2)
  | .putAssertion assertion, state => handle (.putAssertion assertion) state
  | .listAssertionsForSubject subject, state =>
    ((handle (.listAssertionsForSubject subject) state).1.map (.written _),
      (handle (.listAssertionsForSubject subject) state).2)
  | .appendEvent event, state => handle (.appendEvent event) state

theorem differs_toJson (existing : Option KeyDocument) (doc : KeyDocument) :
    StoredForm.values.differs (existing.map KeyDocument.toJson) doc =
      differs existing doc := by
  cases existing with
  | none => rfl
  | some published => rfl

end AgenId.Registry
