import AgenId.Core.Schemas
import AgenId.Library.Entries
import AgenId.Library.Program

/-!
# The registry store

The storage seam of `store.ts`: the calls of `RegistryStore` that the
registry makes, and `MemoryStore`, which answers them.  A call is atomic.  No
write and no envelope calls `putAgent` or `listEvents`, which are methods of
the memory store only.  A store may return a document as it was given it or as
a value, and a program reads what is returned through the form of the store.
-/

namespace AgenId.Registry

open AgenId.Core
open AgenId.Ecma
open AgenId.Library

/-! ## What is stored -/

inductive AgentStatus where
  | ACTIVE | CHANGED | STALE | SUSPENDED | REVOKED
  deriving DecidableEq

/-- The spelling of a status. -/
def AgentStatus.text : AgentStatus → String
  | .ACTIVE => "ACTIVE"
  | .CHANGED => "CHANGED"
  | .STALE => "STALE"
  | .SUSPENDED => "SUSPENDED"
  | .REVOKED => "REVOKED"

structure AgentRecord where
  agentId : JsString
  manifest : Manifest
  manifestDigest : JsString
  proof : ManifestProof
  status : AgentStatus
  registeredAt : JsString
  updatedAt : JsString
  deriving DecidableEq

/-- The types of `LedgerEvent`. -/
inductive EventType where
  | agentRegistered
  | assertionIssued
  | manifestChanged
  | agentStatusChanged
  | keyPublished
  | agentRevoked
  deriving DecidableEq

structure LedgerEvent where
  eventId : JsString
  agentId : JsString
  type : EventType
  occurredAt : JsString
  detailRef : List (JsString × JsString)
  deriving DecidableEq

/-! ## Calls -/

/-- The calls of `RegistryStore`. -/
inductive StoreCall where
  | getAgent (agentId : JsString)
  | createAgent (record : AgentRecord)
  | getKey (keyId : JsString)
  | putKey (doc : KeyDocument)
  | getAssertion (assertionId : JsString)
  | putAssertion (assertion : VerificationAssertion)
  | listAssertionsForSubject (subject : JsString)
  | appendEvent (event : LedgerEvent)

/-- What a call resolves to, on a store that returns records, keys and
assertions in types of its own. -/
@[reducible]
def StoreCall.ReplyIn (Record Key Assertion : Type) : StoreCall → Type
  | .getAgent _ => Option Record
  | .createAgent _ => Bool
  | .getKey _ => Option Key
  | .putKey _ => Unit
  | .getAssertion _ => Option Assertion
  | .putAssertion _ => Unit
  | .listAssertionsForSubject _ => List Assertion
  | .appendEvent _ => Unit

/-- What a call resolves to, on a store that returns what it was given. -/
abbrev StoreCall.Reply : StoreCall → Type :=
  StoreCall.ReplyIn AgentRecord KeyDocument VerificationAssertion

/-- A program over the store. -/
abbrev StoreProgram (Result : Type) := Program StoreCall.Reply Result

section Calling

variable {Record Key Assertion : Type}

/-- A call whose reply the program awaits. -/
def call (request : StoreCall) :
    Program (StoreCall.ReplyIn Record Key Assertion)
      (request.ReplyIn Record Key Assertion) :=
  Program.perform request

@[simp]
theorem call_eq (request : StoreCall) :
    (call request : Program (StoreCall.ReplyIn Record Key Assertion) _) =
      .call request .done := rfl

@[simp]
theorem answered_call
    (answers : (request : StoreCall) → request.ReplyIn Record Key Assertion)
    (request : StoreCall) :
    (call request).answered answers = answers request := rfl

theorem call_only
    {allowed : StoreCall → Prop} {request : StoreCall}
    (isAllowed : allowed request) :
    (call request : Program (StoreCall.ReplyIn Record Key Assertion) _).Only
      allowed :=
  ⟨isAllowed, fun _ => trivial⟩

end Calling

/-! ## What a store returns -/

/-- How a store returns its documents: what is read of them, and the values
that are passed on. -/
structure StoredForm (Record Key Assertion : Type) where
  record : Record → AgentRecord
  assertion : Assertion → VerificationAssertion
  manifestJson : Record → Json
  proofJson : Record → Json
  keyJson : Key → Json
  assertionJson : Assertion → Json

/-- Documents that are returned as they were given. -/
@[reducible]
def StoredForm.documents :
    StoredForm AgentRecord KeyDocument VerificationAssertion where
  record record := record
  assertion assertion := assertion
  manifestJson record := record.manifest.toJson
  proofJson record := record.proof.toJson
  keyJson := KeyDocument.toJson
  assertionJson := VerificationAssertion.toJson

/-! ## The memory store -/

/-- The state of a `MemoryStore`. -/
structure MemoryStore where
  agents : OrderedMap JsString AgentRecord
  keys : OrderedMap JsString KeyDocument
  assertions : OrderedMap JsString VerificationAssertion
  events : List LedgerEvent

/-- `new MemoryStore()`. -/
def MemoryStore.empty : MemoryStore := ⟨.empty, .empty, .empty, []⟩

namespace MemoryStore

variable (store : MemoryStore)

def getAgent (agentId : JsString) : Option AgentRecord :=
  store.agents.get agentId

def putAgent (record : AgentRecord) : MemoryStore :=
  { store with agents := store.agents.set record.agentId record }

/-- `createAgent(record)`: whether the record is new, and the store then. -/
def createAgent (record : AgentRecord) : Bool × MemoryStore :=
  if (store.agents.get record.agentId).isSome then
    (false, store)
  else
    (true, { store with agents := store.agents.set record.agentId record })

def getKey (keyId : JsString) : Option KeyDocument :=
  store.keys.get keyId

def putKey (doc : KeyDocument) : MemoryStore :=
  { store with keys := store.keys.set doc.keyId doc }

def getAssertion (assertionId : JsString) : Option VerificationAssertion :=
  store.assertions.get assertionId

def putAssertion (assertion : VerificationAssertion) : MemoryStore :=
  { store with
    assertions := store.assertions.set assertion.assertionId assertion }

def appendEvent (event : LedgerEvent) : MemoryStore :=
  { store with events := store.events ++ [event] }

def listEvents (agentId : JsString) : List LedgerEvent :=
  store.events.filter fun event => event.agentId = agentId

def listAssertionsForSubject [Platform] (subject : JsString) :
    List VerificationAssertion :=
  (store.assertions.values.filter
    fun assertion => assertion.subject = subject).mergeSort
      fun first second =>
        Platform.localeCompare first.verifiedAt second.verifiedAt != .gt

/-- How a memory store answers a call. -/
def handle [Platform] : Program.Handler StoreCall.Reply MemoryStore
  | .getAgent agentId, store => (store.getAgent agentId, store)
  | .createAgent record, store => store.createAgent record
  | .getKey keyId, store => (store.getKey keyId, store)
  | .putKey doc, store => ((), store.putKey doc)
  | .getAssertion assertionId, store =>
    (store.getAssertion assertionId, store)
  | .putAssertion assertion, store => ((), store.putAssertion assertion)
  | .listAssertionsForSubject subject, store =>
    (store.listAssertionsForSubject subject, store)
  | .appendEvent event, store => ((), store.appendEvent event)

/-- How a memory store answers every call. -/
def answers [Platform] (request : StoreCall) : request.Reply :=
  (handle request store).1

/-! ## What the calls do -/

section Calls

variable {store}

@[simp]
theorem getKey_putKey (doc : KeyDocument) (keyId : JsString) :
    (store.putKey doc).getKey keyId =
      if keyId = doc.keyId then some doc else store.getKey keyId :=
  OrderedMap.get_set _ _ _ _

@[simp]
theorem getKey_putAssertion
    (assertion : VerificationAssertion) (keyId : JsString) :
    (store.putAssertion assertion).getKey keyId = store.getKey keyId := rfl

@[simp]
theorem getKey_appendEvent (event : LedgerEvent) (keyId : JsString) :
    (store.appendEvent event).getKey keyId = store.getKey keyId := rfl

@[simp]
theorem getAgent_putKey (doc : KeyDocument) (agentId : JsString) :
    (store.putKey doc).getAgent agentId = store.getAgent agentId := rfl

@[simp]
theorem getAgent_putAssertion
    (assertion : VerificationAssertion) (agentId : JsString) :
    (store.putAssertion assertion).getAgent agentId =
      store.getAgent agentId := rfl

@[simp]
theorem getAgent_appendEvent (event : LedgerEvent) (agentId : JsString) :
    (store.appendEvent event).getAgent agentId = store.getAgent agentId :=
  rfl

@[simp]
theorem getAssertion_putAssertion
    (assertion : VerificationAssertion) (assertionId : JsString) :
    (store.putAssertion assertion).getAssertion assertionId =
      if assertionId = assertion.assertionId then some assertion
      else store.getAssertion assertionId :=
  OrderedMap.get_set _ _ _ _

@[simp]
theorem getAssertion_putKey (doc : KeyDocument) (assertionId : JsString) :
    (store.putKey doc).getAssertion assertionId =
      store.getAssertion assertionId := rfl

@[simp]
theorem getAssertion_appendEvent
    (event : LedgerEvent) (assertionId : JsString) :
    (store.appendEvent event).getAssertion assertionId =
      store.getAssertion assertionId := rfl

@[simp]
theorem getAgent_putAgent (record : AgentRecord) (agentId : JsString) :
    (store.putAgent record).getAgent agentId =
      if agentId = record.agentId then some record
      else store.getAgent agentId :=
  OrderedMap.get_set _ _ _ _

@[simp]
theorem getKey_putAgent (record : AgentRecord) (keyId : JsString) :
    (store.putAgent record).getKey keyId = store.getKey keyId := rfl

@[simp]
theorem getAssertion_putAgent
    (record : AgentRecord) (assertionId : JsString) :
    (store.putAgent record).getAssertion assertionId =
      store.getAssertion assertionId := rfl

@[simp]
theorem listEvents_putAgent (record : AgentRecord) (agentId : JsString) :
    (store.putAgent record).listEvents agentId = store.listEvents agentId :=
  rfl

@[simp]
theorem listEvents_putKey (doc : KeyDocument) (agentId : JsString) :
    (store.putKey doc).listEvents agentId = store.listEvents agentId := rfl

@[simp]
theorem listEvents_putAssertion
    (assertion : VerificationAssertion) (agentId : JsString) :
    (store.putAssertion assertion).listEvents agentId =
      store.listEvents agentId := rfl

@[simp]
theorem listEvents_appendEvent (event : LedgerEvent) (agentId : JsString) :
    (store.appendEvent event).listEvents agentId =
      store.listEvents agentId ++
        if event.agentId = agentId then [event] else [] := by
  simp only [listEvents, appendEvent, List.filter_append]
  split <;> simp_all

theorem createAgent_of_free
    {record : AgentRecord} (free : store.getAgent record.agentId = none) :
    store.createAgent record = (true, store.putAgent record) := by
  unfold getAgent at free
  simp [createAgent, putAgent, free]

theorem createAgent_of_taken
    {record other : AgentRecord}
    (taken : store.getAgent record.agentId = some other) :
    store.createAgent record = (false, store) := by
  unfold getAgent at taken
  simp [createAgent, taken]

theorem createAgent_cases (record : AgentRecord) :
    (store.getAgent record.agentId = none ∧
        store.createAgent record = (true, store.putAgent record)) ∨
      ∃ other, store.getAgent record.agentId = some other ∧
        store.createAgent record = (false, store) := by
  cases found : store.getAgent record.agentId with
  | none => exact Or.inl ⟨rfl, createAgent_of_free found⟩
  | some other => exact Or.inr ⟨other, rfl, createAgent_of_taken found⟩

end Calls

end MemoryStore

end AgenId.Registry
