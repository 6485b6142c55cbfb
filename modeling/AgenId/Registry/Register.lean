import AgenId.Registry.App

/-!
# The registration of the web deployment

`register.ts`: the registration behind every door of the web deployment.  It
reads the members of the body one by one, makes the same store calls as the
application, and answers that the registry is unavailable when one of them
throws.
-/

namespace AgenId.Registry

open AgenId.Core
open AgenId.Ecma
open AgenId.Library
open AgenId.Validation
open AgenId.Validation.Schema

inductive RegisterResult where
  | ok (record : AgentRecord) (keyDocument : KeyDocument)
    (manifest : Manifest)
  | fail (status : Nat) (error : String) (message : JsString)
    (issues : Option (List Issue))

/-- `fail(status, error, message, issues)` with texts as source literals. -/
def refusal (status : Nat) (error message : String)
    (issues : Option (List Issue)) : RegisterResult :=
  .fail status error (units message) issues

/-- What is answered when a store call throws. -/
def registryUnavailable : RegisterResult :=
  refusal 503 "registry_unavailable" "the registry could not be written to"
    none

def REGISTER_MEMBERS : List String := ["manifest", "proof", "key_document"]

/-- The issue of a member that is not one of a registration. -/
def unrecognizedMember (name : JsString) : Issue :=
  ⟨[.member name], .unrecognizedKeys [],
    some (units "unrecognized key: " ++ name)⟩

/-- A reading of the clock of the system, which is always a time value. -/
structure Clock where
  time : Int
  valid : time.natAbs ≤ maxTime.natAbs

def nowIso (clock : Clock) : JsString := isoString clock.time

section Register

variable [Platform]

/-- The documents of a registration, each read from its member. -/
def readRegistration (members : Members) :
    Except RegisterResult RegisterBody :=
  match Manifest.schema.safeParse (members.lookup (units "manifest")) with
  | .error issues => .error (refusal 400 "schema_validation_failed"
      "manifest failed schema validation" (some issues))
  | .ok manifest =>
    match ManifestProof.schema.safeParse (members.lookup (units "proof")) with
    | .error issues => .error (refusal 400 "schema_validation_failed"
        "proof failed schema validation" (some issues))
    | .ok proof =>
      match KeyDocument.schema.safeParse
          (members.lookup (units "key_document")) with
      | .error issues => .error (refusal 400 "schema_validation_failed"
          "key_document failed schema validation" (some issues))
      | .ok keyDocument => .ok ⟨manifest, proof, keyDocument⟩

/-- The check of the shape of the body. -/
def readBody : Option Json → Except RegisterResult RegisterBody
  | some (.object members) =>
    let unknown := (members.map Prod.fst).filter
      fun name => name ∉ REGISTER_MEMBERS.map units
    if unknown = [] then
      readRegistration members
    else
      .error (refusal 400 "schema_validation_failed"
        "registration payload has unrecognized members"
        (some (unknown.map unrecognizedMember)))
  | _ => .error (refusal 400 "schema_validation_failed"
      "registration payload must be a JSON object" none)

/-- The checks of `registerAgent` before it asks the store: the registration
and the registry's time. -/
def admitAgent (body : Option Json) (clock : Clock) :
    Except RegisterResult (RegisterBody × JsString) :=
  match readBody body with
  | .error failure => .error failure
  | .ok registration =>
    match keyMismatch registration with
    | some (code, message) => .error (refusal 400 code message none)
    | none =>
      if isValidAgentId registration.manifest.agentId = false then
        .error (refusal 400 "invalid_agent_id" "expected agenid:<ULID>" none)
      else
        match registrationTime registration.proof.createdAt
            (dateParse (nowIso clock)) with
        -- Neither this clock nor a verification ever throws.
        | none => .error registryUnavailable
        | some (.fail message) =>
          .error (.fail 400 "clock_skew_too_large" message none)
        | some (.ok now registeredAt) =>
          match verifyRegistration registration now with
          | .error _ => .error registryUnavailable
          | .ok (.fail code message) =>
            .error (.fail 400 code.text message none)
          | .ok (.ok _ _) => .ok (registration, registeredAt)

/-- What `registerAgent` answers once its store calls are made. -/
def publicationResult (registration : RegisterBody) :
    Except AgenIdError Publication → RegisterResult
  | .error _ => registryUnavailable
  | .ok .keyConflict => refusal 409 "key_conflict"
      "a different key document is already published under this key_id" none
  | .ok .agentExists =>
    refusal 409 "agent_exists" "agent_id is already registered" none
  | .ok (.published record) =>
    .ok record registration.keyDocument registration.manifest

def StoredForm.registerAgent {Record Key Assertion : Type}
    (form : StoredForm Record Key Assertion) (body : Option Json)
    (clock : Clock) (keyUlid agentUlid : JsString) :
    Program (StoreCall.ReplyIn Record Key Assertion) RegisterResult :=
  match admitAgent body clock with
  | .error failure => return failure
  | .ok (registration, now) => do
    let publication ← form.publish registration now keyUlid agentUlid
    return publicationResult registration publication

/-- `registerAgent(body)` on a store of documents. -/
def registerAgent (body : Option Json) (clock : Clock)
    (keyUlid agentUlid : JsString) : StoreProgram RegisterResult :=
  StoredForm.documents.registerAgent body clock keyUlid agentUlid

/-- `registerAgent(body)` on a memory store whose call of a given number
throws, without effect. -/
def registerAgentFaulty (count : Nat) (body : Option Json) (clock : Clock)
    (keyUlid agentUlid : JsString) (store : MemoryStore) :
    RegisterResult × MemoryStore :=
  let ended := (registerAgent body clock keyUlid agentUlid).runFaulty
    MemoryStore.handle count store
  (ended.1.getD registryUnavailable, ended.2)

end Register

end AgenId.Registry
