import AgenId.Library.Simulation
import AgenId.Registry.Republication

/-!
# The store on a database

`supabase-store.ts`: the calls of `RegistryStore` on the tables of the
migration.  A time is kept as an instant and is spelled anew when its row is
read.  A document is kept as a value, whose members the column puts in its own
order, and is returned so.

A call that the database refuses throws, and so does one whose answer does not
arrive; the latter may have had its effect.  The request that made the call is
then answered with an error of the registry.
-/

namespace AgenId.Registry

open AgenId.Core
open AgenId.Ecma
open AgenId.Library
open AgenId.Validation
open AgenId.Validation.Schema

/-- What the database decides: the instant, in microseconds, of a text for a
`timestamptz` column, if it takes the text, how it spells such an instant, and
the rows of a table in the order of a column, where rows of one instant may
come in any order. -/
class Postgres where
  readTimestamptz : JsString → Option Int
  showTimestamptz : Int → JsString
  orderBy : {Row : Type} → (Row → Int) → List Row → List Row
  orderBy_perm : ∀ {Row : Type} (column : Row → Int) (rows : List Row),
    (orderBy column rows).Perm rows
  orderBy_sorted : ∀ {Row : Type} (column : Row → Int) (rows : List Row),
    (orderBy column rows).Pairwise fun first second =>
      column first ≤ column second

/-! ## Rows -/

/-- A document as a `jsonb` column returns it. -/
def Returned.column {Document : Type} {encode : Document → Json}
    (document : Document) (wellFormed : WellFormed (encode document)) :
    Returned encode :=
  ⟨document, jsonb (encode document), same_jsonb wellFormed⟩

def manifestColumn (manifest : Manifest) : Returned Manifest.toJson :=
  .column manifest (wellFormed_Manifest manifest)

def proofColumn (proof : ManifestProof) : Returned ManifestProof.toJson :=
  .column proof (wellFormed_ManifestProof proof)

def assertionColumn (assertion : VerificationAssertion) : StoredAssertion :=
  .column assertion (wellFormed_VerificationAssertion assertion)

/-- A row of `agents`. -/
structure AgentRow where
  agentId : JsString
  manifest : Returned Manifest.toJson
  manifestDigest : JsString
  proof : Returned ManifestProof.toJson
  status : AgentStatus
  registeredAt : Int
  updatedAt : Int

/-- A row of `assertions`, as far as it is read. -/
structure AssertionRow where
  subject : JsString
  document : StoredAssertion
  verifiedAt : Int

/-- A row of `events`. -/
structure EventRow where
  eventId : JsString
  agentId : JsString
  type : EventType
  occurredAt : Int
  detailRef : List (JsString × JsString)

/-- The tables, each by its primary key. -/
structure Tables where
  agents : OrderedMap JsString AgentRow
  keys : OrderedMap JsString Json
  assertions : OrderedMap JsString AssertionRow
  events : OrderedMap JsString EventRow

/-- The tables of the migration. -/
def Tables.empty : Tables := ⟨.empty, .empty, .empty, .empty⟩

/-- The members of an object of texts, as a `jsonb` column keeps them. -/
def jsonbTexts (members : List (JsString × JsString)) :
    List (JsString × JsString) :=
  members.insertionSort fun first second => jsonbBefore first.1 second.1

section Rows

variable [Platform]

/-- `toUtcZ(ts)`. -/
def toUtcZ (ts : JsString) : JsString :=
  match dateParse ts with
  | none => ts
  | some ms => isoString ms

variable [Postgres]

/-- `toAgentRecord(row)`. -/
def toAgentRecord (row : AgentRow) : StoredRecord where
  agentId := row.agentId
  manifest := row.manifest
  manifestDigest := row.manifestDigest
  proof := row.proof
  status := row.status
  registeredAt := toUtcZ (Postgres.showTimestamptz row.registeredAt)
  updatedAt := toUtcZ (Postgres.showTimestamptz row.updatedAt)

omit [Platform] in
/-- The row that an insertion of `agentRow(record)` makes. -/
def agentRow (record : AgentRecord) : Option AgentRow := do
  let registeredAt ← Postgres.readTimestamptz record.registeredAt
  let updatedAt ← Postgres.readTimestamptz record.updatedAt
  return {
    agentId := record.agentId
    manifest := manifestColumn record.manifest
    manifestDigest := record.manifestDigest
    proof := proofColumn record.proof
    status := record.status
    registeredAt := registeredAt
    updatedAt := updatedAt }

omit [Platform] in
/-- The row that `putAssertion(a)` makes. -/
def assertionRow (assertion : VerificationAssertion) : Option AssertionRow :=
  (Postgres.readTimestamptz assertion.verifiedAt).map fun verifiedAt => {
    subject := assertion.subject
    document := assertionColumn assertion
    verifiedAt := verifiedAt }

omit [Platform] in
/-- The row that `appendEvent(e)` makes. -/
def eventRow (event : LedgerEvent) : Option EventRow :=
  (Postgres.readTimestamptz event.occurredAt).map fun occurredAt => {
    eventId := event.eventId
    agentId := event.agentId
    type := event.type
    occurredAt := occurredAt
    detailRef := jsonbTexts event.detailRef }

/-- The event that `listEvents` returns of a row. -/
def toLedgerEvent (row : EventRow) : LedgerEvent where
  eventId := row.eventId
  agentId := row.agentId
  type := row.type
  occurredAt := toUtcZ (Postgres.showTimestamptz row.occurredAt)
  detailRef := row.detailRef

end Rows

/-! ## Calls -/

namespace Tables

variable [Platform] [Postgres] (tables : Tables)

def getAgent (agentId : JsString) : Option StoredRecord :=
  (tables.agents.get agentId).map toAgentRecord

omit [Platform] in
/-- `createAgent(record)`, which says false on the violation of the primary
key. -/
def createAgent (record : AgentRecord) : Option (Bool × Tables) :=
  (agentRow record).map fun row =>
    if (tables.agents.get record.agentId).isSome then
      (false, tables)
    else
      (true, { tables with agents := tables.agents.set record.agentId row })

omit [Platform] [Postgres] in
def getKey (keyId : JsString) : Option Json :=
  tables.keys.get keyId

omit [Platform] [Postgres] in
def putKey (doc : KeyDocument) : Tables :=
  { tables with keys := tables.keys.set doc.keyId (jsonb doc.toJson) }

omit [Platform] [Postgres] in
def getAssertion (assertionId : JsString) : Option StoredAssertion :=
  (tables.assertions.get assertionId).map AssertionRow.document

omit [Platform] in
def putAssertion (assertion : VerificationAssertion) : Option Tables :=
  (assertionRow assertion).map fun row => { tables with
    assertions := tables.assertions.set assertion.assertionId row }

omit [Platform] in
def listAssertionsForSubject (subject : JsString) : List StoredAssertion :=
  (Postgres.orderBy AssertionRow.verifiedAt
    (tables.assertions.values.filter fun row => row.subject = subject)).map
      AssertionRow.document

omit [Platform] in
/-- `appendEvent(e)`, which throws on the violation of the primary key. -/
def appendEvent (event : LedgerEvent) : Option Tables := do
  let row ← eventRow event
  if (tables.events.get event.eventId).isSome then
    none
  else
    return { tables with events := tables.events.set event.eventId row }

def listEvents (agentId : JsString) : List LedgerEvent :=
  (Postgres.orderBy EventRow.occurredAt
    (tables.events.values.filter fun row => row.agentId = agentId)).map
      toLedgerEvent

/-- What the database makes of a call, unless it refuses it. -/
def perform : (request : StoreCall) → Option (request.JsonReply × Tables)
  | .getAgent agentId => some (tables.getAgent agentId, tables)
  | .createAgent record => tables.createAgent record
  | .getKey keyId => some (tables.getKey keyId, tables)
  | .putKey doc => some ((), tables.putKey doc)
  | .getAssertion assertionId =>
    some (tables.getAssertion assertionId, tables)
  | .putAssertion assertion =>
    (tables.putAssertion assertion).map fun after => ((), after)
  | .listAssertionsForSubject subject =>
    some (tables.listAssertionsForSubject subject, tables)
  | .appendEvent event =>
    (tables.appendEvent event).map fun after => ((), after)

end Tables

/-! ## The database at work -/

/-- What becomes of a call: it goes through, or it fails before it reaches
the tables, or its answer is lost. -/
inductive Passage where
  | through
  | failed
  | lost

/-- The tables, with what becomes of the next calls; all later ones go
through. -/
structure Database where
  tables : Tables
  passages : List Passage

section Handling

variable [Platform] [Postgres]

omit [Platform] [Postgres] in
/-- How a call ends, given what the database makes of it. -/
def Passage.settle {Reply : Type} (tables : Tables) :
    Passage → Option (Reply × Tables) → Except Unit Reply × Tables
  | .failed, _ => (.error (), tables)
  | _, none => (.error (), tables)
  | .lost, some (_, after) => (.error (), after)
  | .through, some (reply, after) => (.ok reply, after)

/-- How `SupabaseStore` answers a call; a failure throws. -/
def Database.handle : Program.Handler
    (fun request : StoreCall => Except Unit request.JsonReply) Database :=
  fun request database =>
    let settled := (database.passages.headD .through).settle database.tables
      (database.tables.perform request)
    (settled.1, ⟨settled.2, database.passages.tail⟩)

/-! ## Requests -/

/-- What a request is answered when one of its calls throws: `registerAgent`
catches what is thrown, and elsewhere the error handler of the application
answers. -/
def Request.unavailable : Request → Answer
  | .register _ _ _ _ => .result registryUnavailable
  | .agents _ _ _ _ _ | .authorityKeys _ _ | .assertions _ _ _ _ _ _ =>
    .response internalError

/-- What a request is answered, given how its program ends. -/
def Request.answered (request : Request) : Except Unit Answer → Answer
  | .ok answer => answer
  | .error _ => request.unavailable

/-- The program of a request on a database whose calls may throw. -/
def Request.databaseProgram (authorityToken : Option JsString)
    (request : Request) :
    Program (fun call : StoreCall => Except Unit call.JsonReply) Answer :=
  request.answered <$>
    (StoredForm.values.program authorityToken request).throwing Unit

end Handling

end AgenId.Registry
