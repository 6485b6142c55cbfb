import AgenId.Registry.Recovery
import AgenId.Web.TrustSummary

/-!
# Registering a fleet

`api/retell/bind`: the agents of a batch are registered one after another, up
to the first one that is refused.  What the store holds then is what the
registrations of the longest accepted prefix write, and the caller is told of
all of them, unless the element after them is not complete: the answer to it
does not name the agents that were registered before.
-/

namespace AgenId.Web

open AgenId.Core
open AgenId.Ecma
open AgenId.Library
open AgenId.Registry
open AgenId.Validation
open AgenId.Validation.Schema

def MAX_BATCH_SIZE : Nat := 25

def L1_DISCLOSURES : List String := [
  "L1_REGISTERED means this agent is registered here and its operator " ++
    "self-declaration verifies. It is not a third-party verification of " ++
    "the operator, the domain, or the organization.",
  "Levels above L1 require an authority-signed VerificationAssertion. " ++
    "AgenID's root authority key ceremony has not been performed, so none " ++
    "can be issued yet."]

/-! ## Responses -/

/-- An agent as the answer to its batch lists it. -/
structure BoundAgent where
  agentId : JsString
  retellAgentId : JsString
  agentName : JsString
  manifestDigest : JsString
  keyId : JsString
  proofExpiresAt : JsString
  registeredAt : JsString
  card : JsString
  envelope : JsString

/-- The answer to a batch of which every agent was registered. -/
structure BindCreated where
  domain : JsString
  level : String
  agents : List BoundAgent
  persisted : Bool
  disclosures : List String

/-- The answer to a batch that was refused.  A member that an answer leaves
out is none. -/
structure BindRefused where
  status : Nat
  error : String
  message : JsString
  maxBatchSize : Option Nat
  index : Option Nat
  registeredBeforeFailure : Option (List JsString)
  issues : Option (List Issue)

inductive BindResponse where
  | created (answer : BindCreated)
  | refused (answer : BindRefused)

def BindResponse.status : BindResponse → Nat
  | .created _ => 201
  | .refused answer => answer.status

/-- The agents of which an answer tells the caller that they were
registered. -/
def BindResponse.reported : BindResponse → List JsString
  | .created answer => answer.agents.map (·.agentId)
  | .refused answer => answer.registeredBeforeFailure.getD []

/-- A refusal before the agents are looked at. -/
def bindRefusal (error message : String) : BindResponse :=
  .refused
    { status := 400
      error := error
      message := units message
      maxBatchSize := none
      index := none
      registeredBeforeFailure := none
      issues := none }

def batchTooLarge : BindResponse :=
  .refused
    { status := 400
      error := "batch_too_large"
      message := units "a batch may contain at most " ++
        decimal MAX_BATCH_SIZE ++
        units " agents; split the fleet across requests"
      maxBatchSize := some MAX_BATCH_SIZE
      index := none
      registeredBeforeFailure := none
      issues := none }

def incompleteAgent (index : Nat) : BindResponse :=
  .refused
    { status := 400
      error := "incomplete_agent"
      message := units "agents[" ++ decimal index ++
        units "] must include manifest, proof, and key_document"
      maxBatchSize := none
      index := some index
      registeredBeforeFailure := none
      issues := none }

/-- The answer when an agent is refused by its registration. -/
def failedAgent
    (status : Nat) (error : String) (message : JsString)
    (issues : Option (List Issue)) (index : Nat)
    (registered : List BoundAgent) : BindResponse :=
  .refused
    { status := status
      error := error
      message := message
      maxBatchSize := none
      index := some index
      registeredBeforeFailure := some (registered.map (·.agentId))
      issues := issues }

def boundFleet (domain : JsString) (registered : List BoundAgent) :
    BindResponse :=
  .created
    { domain := domain
      level := "L1_REGISTERED"
      agents := registered
      persisted := true
      disclosures := L1_DISCLOSURES }

/-! ## The batch -/

/-- `!a || !a.manifest || !a.proof || !a.key_document`. -/
def isIncomplete (agent : Json) : Bool :=
  !isTruthy (some agent) || !isTruthy (agent.get? (units "manifest")) ||
    !isTruthy (agent.get? (units "proof")) ||
    !isTruthy (agent.get? (units "key_document"))

/-- What is registered of an element of a batch. -/
def submissionOf (agent : Json) : Json :=
  .record
    [("manifest", agent.get? (units "manifest")),
      ("proof", agent.get? (units "proof")),
      ("key_document", agent.get? (units "key_document"))]

/-- `typeof a.name === "string" ? a.name : ""`. -/
def textOrEmpty (name : String) (agent : Json) : JsString :=
  match agent.get? (units name) with
  | some (.string text) => text
  | _ => []

def boundAgent
    (agent : Json) (record : AgentRecord) (keyDocument : KeyDocument) :
    BoundAgent where
  agentId := record.agentId
  retellAgentId := textOrEmpty "retell_agent_id" agent
  agentName := textOrEmpty "agent_name" agent
  manifestDigest := record.manifestDigest
  keyId := keyDocument.keyId
  proofExpiresAt := record.proof.expiresAt
  registeredAt := record.registeredAt
  card := units "/a/" ++ record.agentId
  envelope := units "/api/resolve/" ++ record.agentId

section Bind

variable [Platform]

/-- The clock of a request, and the identifiers that the registration of each
element draws for its two events. -/
structure BatchDraws where
  clock : Clock
  ulids : Nat → JsString × JsString

/-- The registration of the element at an index. -/
def registerElement (draws : BatchDraws) (index : Nat) (agent : Json) :
    StoreProgram RegisterResult :=
  registerAgent (some (submissionOf agent)) draws.clock
    (draws.ulids index).1 (draws.ulids index).2

/-- The loop of `POST` from an index on. -/
def bindAgents (draws : BatchDraws) (domain : JsString) :
    Nat → List BoundAgent → List Json → StoreProgram BindResponse
  | _, registered, [] => return boundFleet domain registered
  | index, registered, agent :: rest =>
    if isIncomplete agent then
      return incompleteAgent index
    else do
      match ← registerElement draws index agent with
      | .fail status error message issues =>
        return failedAgent status error message issues index registered
      | .ok record keyDocument _ =>
        bindAgents draws domain (index + 1)
          (registered ++ [boundAgent agent record keyDocument]) rest

/-- `POST`, once the rate limit admits the request.  The body is none when it
is not JSON. -/
def postBind (body : Option Json) (draws : BatchDraws) :
    StoreProgram BindResponse :=
  match body with
  | none => return bindRefusal "invalid_json" "request body must be JSON"
  | some body =>
    match textOrEmpty "domain" body, body.get? (units "agents") with
    | [], _ => return bindRefusal "invalid_domain" "`domain` is required"
    | domain, some (.array (agent :: rest)) =>
      if MAX_BATCH_SIZE < (agent :: rest).length then
        return batchTooLarge
      else
        bindAgents draws domain 0 [] (agent :: rest)
    | _, _ =>
      return bindRefusal "invalid_agents"
        "`agents` must be a non-empty array of signed agent submissions"

/-! ## One registration -/

variable (draws : BatchDraws)

/-- A registration is a success. -/
def IsAccepted (result : RegisterResult) : Prop :=
  ∃ record keyDocument manifest, result = .ok record keyDocument manifest

omit [Platform] in
theorem not_isAccepted {result : RegisterResult} (failed : result.IsFailure) :
    ¬ IsAccepted result := by
  obtain ⟨_, _, _, _, rfl⟩ := failed
  rintro ⟨_, _, _, impossible⟩
  cases impossible

/-- A registration alone is refused and leaves the store, or its agent is free
and it is written. -/
theorem registerElement_cases
    (index : Nat) (agent : Json) (store : MemoryStore) :
    (∃ failure : RegisterResult, failure.IsFailure ∧
      (registerElement draws index agent).run MemoryStore.handle store =
        (failure, store)) ∨
    ∃ registration registeredAt,
      store.getAgent registration.manifest.agentId = none ∧
      (registerElement draws index agent).run MemoryStore.handle store =
        (.ok (recordOf registration registeredAt) registration.keyDocument
            registration.manifest,
          registered registration registeredAt (draws.ulids index).1
            (draws.ulids index).2 store) := by
  unfold registerElement
  cases isAdmitted : admitAgent (some (submissionOf agent)) draws.clock with
  | error failure =>
      rw [registerAgent_of_refused isAdmitted]
      exact Or.inl ⟨failure, admitAgent_isFailure isAdmitted, rfl⟩
  | ok admitted =>
      obtain ⟨registration, registeredAt⟩ := admitted
      rcases publish_cases registration registeredAt (draws.ulids index).1
          (draws.ulids index).2 store with
        ⟨refused, isRefused, isRun⟩ | ⟨usable, free, -⟩
      · left
        rw [registerAgent_of_admitted isAdmitted, Program.run_bind, isRun]
        cases refused with
        | keyConflict => exact ⟨_, ⟨_, _, _, _, rfl⟩, rfl⟩
        | agentExists => exact ⟨_, ⟨_, _, _, _, rfl⟩, rfl⟩
        | published record => exact absurd rfl (isRefused record)
      · exact Or.inr ⟨registration, registeredAt, free,
          registerAgent_published isAdmitted usable free⟩

/-! ## Complete elements -/

omit [Platform] in
theorem isTruthy_of_strictObject
    {α : Type} {names : List String} {body : Members → Parse α}
    {input : Option Json} {value : α}
    (accepted : (strictObject names body).accepts input = some value) :
    isTruthy input = true := by
  obtain ⟨members, rfl, -⟩ := accepts_strictObject_eq_some_iff.mp accepted
  rfl

theorem isTruthy_of_manifest
    {input : Option Json} {manifest : Manifest}
    (isParsed : Manifest.schema.safeParse input = .ok manifest) :
    isTruthy input = true :=
  isTruthy_of_strictObject (safeParse_eq_ok_iff.mp isParsed)

theorem isTruthy_of_proof
    {input : Option Json} {proof : ManifestProof}
    (isParsed : ManifestProof.schema.safeParse input = .ok proof) :
    isTruthy input = true := by
  have accepted := safeParse_eq_ok_iff.mp isParsed
  exact isTruthy_of_strictObject (accepts_check_eq_some_iff.mp accepted).1

theorem isTruthy_of_keyDocument
    {input : Option Json} {keyDocument : KeyDocument}
    (isParsed : KeyDocument.schema.safeParse input = .ok keyDocument) :
    isTruthy input = true := by
  have accepted := safeParse_eq_ok_iff.mp isParsed
  have withRetirement := (accepts_check_eq_some_iff.mp accepted).1
  have withController := (accepts_check_eq_some_iff.mp withRetirement).1
  have isShape := (accepts_check_eq_some_iff.mp withController).1
  exact isTruthy_of_strictObject isShape

omit [Platform] in
/-- A submission has the members of its element. -/
theorem submissionOf_members (agent : Json) :
    ∃ members, submissionOf agent = .object members ∧
      members.lookup (units "manifest") = agent.get? (units "manifest") ∧
      members.lookup (units "proof") = agent.get? (units "proof") ∧
      members.lookup (units "key_document") =
        agent.get? (units "key_document") := by
  refine ⟨_, rfl, ?_⟩
  cases agent.get? (units "manifest") <;> cases agent.get? (units "proof") <;>
    cases agent.get? (units "key_document") <;> exact ⟨rfl, rfl, rfl⟩

omit [Platform] in
theorem isTruthy_of_hasMember
    {name : JsString} {value : Json}
    (isMember : isTruthy (value.get? name) = true) :
    isTruthy (some value) = true := by
  cases value with
  | object members => rfl
  | _ => cases isMember

/-- The members of a registration that is read are there. -/
theorem complete_of_readBody
    {agent : Json} {registration : RegisterBody}
    (isRead : readBody (some (submissionOf agent)) = .ok registration) :
    isIncomplete agent = false := by
  obtain ⟨members, isObject, isManifest, isProof, isKey⟩ :=
    submissionOf_members agent
  rw [isObject, readBody] at isRead
  split at isRead
  · rw [readRegistration, isManifest, isProof, isKey] at isRead
    split at isRead
    · cases isRead
    · rename_i manifestParsed
      split at isRead
      · cases isRead
      · rename_i proofParsed
        split at isRead
        · cases isRead
        · rename_i keyParsed
          have hasManifest := isTruthy_of_manifest manifestParsed
          rw [isIncomplete, isTruthy_of_hasMember hasManifest, hasManifest,
            isTruthy_of_proof proofParsed, isTruthy_of_keyDocument keyParsed]
          rfl
  · cases isRead

/-- An element that is not complete is refused before the store is asked. -/
theorem registerElement_incomplete
    {agent : Json} (incomplete : isIncomplete agent = true) (index : Nat) :
    ∃ failure : RegisterResult, failure.IsFailure ∧
      registerElement draws index agent = .done failure := by
  cases isAdmitted : admitAgent (some (submissionOf agent)) draws.clock with
  | error failure =>
      exact ⟨failure, admitAgent_isFailure isAdmitted,
        registerAgent_of_refused isAdmitted _ _⟩
  | ok admitted =>
      have complete :=
        complete_of_readBody (readBody_of_admitAgent isAdmitted)
      rw [incomplete] at complete
      cases complete

/-! ## Registrations in order -/

/-- The registrations of the elements from an index on, whatever the results
are. -/
def registerInOrder : Nat → List Json → StoreProgram (List RegisterResult)
  | _, [] => return []
  | index, agent :: rest => do
    let result ← registerElement draws index agent
    let results ← registerInOrder (index + 1) rest
    return result :: results

/-- Elements that are all accepted when they are registered in order. -/
def AllAccepted (index : Nat) (agents : List Json) (store : MemoryStore) :
    Prop :=
  ∀ result ∈ ((registerInOrder draws index agents).run MemoryStore.handle
    store).1, IsAccepted result

/-- The agents that accepted registrations created. -/
def createdIds (results : List RegisterResult) : List JsString :=
  results.filterMap fun
    | .ok record _ _ => some record.agentId
    | .fail _ _ _ _ => none

omit [Platform] in
theorem createdIds_ok
    (record : AgentRecord) (keyDocument : KeyDocument) (manifest : Manifest)
    (results : List RegisterResult) :
    createdIds (.ok record keyDocument manifest :: results) =
      record.agentId :: createdIds results := rfl

/-- An agent is in a store, and was not before. -/
def Created (before after : MemoryStore) (agentId : JsString) : Prop :=
  before.getAgent agentId = none ∧ (after.getAgent agentId).isSome

variable {draws}

theorem registerInOrder_run_cons
    (index : Nat) (agent : Json) (rest : List Json) (store : MemoryStore) :
    (registerInOrder draws index (agent :: rest)).run MemoryStore.handle
        store =
      let first := (registerElement draws index agent).run MemoryStore.handle
        store
      let others := (registerInOrder draws (index + 1) rest).run
        MemoryStore.handle first.2
      (first.1 :: others.1, others.2) := by
  rw [registerInOrder, Program.run_bind, Program.run_bind]
  rfl

theorem registerInOrder_calls_cons
    (index : Nat) (agent : Json) (rest : List Json) (store : MemoryStore) :
    (registerInOrder draws index (agent :: rest)).calls MemoryStore.handle
        store =
      (registerElement draws index agent).calls MemoryStore.handle store ++
        (registerInOrder draws (index + 1) rest).calls MemoryStore.handle
          ((registerElement draws index agent).run MemoryStore.handle
            store).2 := by
  rw [registerInOrder, Program.calls_bind, Program.calls_bind]
  exact congrArg _ (List.append_nil _)

theorem registerInOrder_calls_append
    (index : Nat) (agents more : List Json) (store : MemoryStore) :
    (registerInOrder draws index (agents ++ more)).calls MemoryStore.handle
        store =
      (registerInOrder draws index agents).calls MemoryStore.handle store ++
        (registerInOrder draws (index + agents.length) more).calls
          MemoryStore.handle
          ((registerInOrder draws index agents).run MemoryStore.handle
            store).2 := by
  induction agents generalizing index store with
  | nil => rfl
  | cons agent rest inductionHypothesis =>
      rw [List.cons_append, registerInOrder_calls_cons,
        registerInOrder_calls_cons, registerInOrder_run_cons,
        inductionHypothesis, List.append_assoc, List.length_cons,
        Nat.add_comm rest.length, ← Nat.add_assoc]

theorem allAccepted_cons_iff
    {index : Nat} {agent : Json} {rest : List Json} {store : MemoryStore} :
    AllAccepted draws index (agent :: rest) store ↔
      IsAccepted ((registerElement draws index agent).run MemoryStore.handle
          store).1 ∧
        AllAccepted draws (index + 1) rest
          ((registerElement draws index agent).run MemoryStore.handle
            store).2 := by
  unfold AllAccepted
  rw [registerInOrder_run_cons]
  exact List.forall_mem_cons

theorem allAccepted_append
    {index : Nat} {agents more : List Json} {store : MemoryStore}
    (accepted : AllAccepted draws index (agents ++ more) store) :
    AllAccepted draws index agents store ∧
      AllAccepted draws (index + agents.length) more
        ((registerInOrder draws index agents).run MemoryStore.handle
          store).2 := by
  induction agents generalizing index store with
  | nil =>
      refine ⟨?_, accepted⟩
      intro result isMember
      cases isMember
  | cons agent rest inductionHypothesis =>
      obtain ⟨isFirst, areRest⟩ := allAccepted_cons_iff.mp accepted
      obtain ⟨within, beyond⟩ := inductionHypothesis areRest
      refine ⟨allAccepted_cons_iff.mpr ⟨isFirst, within⟩, ?_⟩
      rw [registerInOrder_run_cons, List.length_cons, Nat.add_comm rest.length,
        ← Nat.add_assoc]
      exact beyond

/-- An accepted registration writes its record, whose agent was free. -/
theorem registered_of_isAccepted
    {index : Nat} {agent : Json} {store : MemoryStore}
    (accepted : IsAccepted ((registerElement draws index agent).run
      MemoryStore.handle store).1) :
    ∃ registration registeredAt,
      store.getAgent registration.manifest.agentId = none ∧
      (registerElement draws index agent).run MemoryStore.handle store =
        (.ok (recordOf registration registeredAt) registration.keyDocument
            registration.manifest,
          registered registration registeredAt (draws.ulids index).1
            (draws.ulids index).2 store) := by
  rcases registerElement_cases draws index agent store with
    ⟨failure, failed, isRun⟩ | isWritten
  · rw [isRun] at accepted
    exact absurd accepted (not_isAccepted failed)
  · exact isWritten

theorem getAgent_registered
    (registration : RegisterBody) (ts keyUlid agentUlid : JsString)
    (store : MemoryStore) (agentId : JsString) :
    (registered registration ts keyUlid agentUlid store).getAgent agentId =
      if agentId = registration.manifest.agentId then
        some (recordOf registration ts)
      else
        store.getAgent agentId := by
  simp [registered, recordOf]

/-- Accepted registrations add the agents of their records, which were
free. -/
theorem agents_of_allAccepted
    {index : Nat} {agents : List Json} {store : MemoryStore}
    (accepted : AllAccepted draws index agents store) :
    let ended := (registerInOrder draws index agents).run MemoryStore.handle
      store
    (∀ agentId, (ended.2.getAgent agentId).isSome ↔
        (store.getAgent agentId).isSome ∨ agentId ∈ createdIds ended.1) ∧
      ∀ agentId ∈ createdIds ended.1, store.getAgent agentId = none := by
  induction agents generalizing index store with
  | nil => simp [registerInOrder, createdIds]
  | cons agent rest inductionHypothesis =>
      obtain ⟨isFirst, areRest⟩ := allAccepted_cons_iff.mp accepted
      obtain ⟨registration, registeredAt, free, isRun⟩ :=
        registered_of_isAccepted isFirst
      rw [isRun] at areRest
      obtain ⟨present, wereFree⟩ := inductionHypothesis areRest
      rw [registerInOrder_run_cons, isRun]
      dsimp only at present wereFree ⊢
      constructor
      · intro agentId
        rw [present, getAgent_registered]
        by_cases same : agentId = registration.manifest.agentId
        · simp [createdIds, same, recordOf]
        · simp [createdIds, same, recordOf]
      · intro agentId isMember
        rcases List.mem_cons.mp isMember with rfl | later
        · exact free
        · have wasFree := wereFree agentId later
          rw [getAgent_registered] at wasFree
          split at wasFree
          · cases wasFree
          · exact wasFree

theorem created_iff_of_allAccepted
    {index : Nat} {agents : List Json} {store : MemoryStore}
    (accepted : AllAccepted draws index agents store) (agentId : JsString) :
    Created store ((registerInOrder draws index agents).run
        MemoryStore.handle store).2 agentId ↔
      agentId ∈ createdIds ((registerInOrder draws index agents).run
        MemoryStore.handle store).1 := by
  obtain ⟨present, wereFree⟩ := agents_of_allAccepted accepted
  unfold Created
  rw [present]
  constructor
  · rintro ⟨wasFree, wasPresent | isCreated⟩
    · rw [wasFree] at wasPresent
      cases wasPresent
    · exact isCreated
  · intro isCreated
    exact ⟨wereFree agentId isCreated, Or.inr isCreated⟩

/-- Every element of accepted ones creates one agent. -/
theorem length_createdIds
    {index : Nat} {agents : List Json} {store : MemoryStore}
    (accepted : AllAccepted draws index agents store) :
    (createdIds ((registerInOrder draws index agents).run
      MemoryStore.handle store).1).length = agents.length := by
  induction agents generalizing index store with
  | nil => rfl
  | cons agent rest inductionHypothesis =>
      obtain ⟨isFirst, areRest⟩ := allAccepted_cons_iff.mp accepted
      obtain ⟨record, keyDocument, manifest, isResult⟩ := isFirst
      have counted := inductionHypothesis areRest
      rw [registerInOrder_run_cons]
      dsimp only
      rw [isResult, createdIds_ok, List.length_cons, counted,
        List.length_cons]

/-! ## The loop -/

theorem complete_of_isAccepted
    {index : Nat} {agent : Json} {store : MemoryStore}
    (accepted : IsAccepted ((registerElement draws index agent).run
      MemoryStore.handle store).1) :
    isIncomplete agent = false := by
  by_contra incomplete
  obtain ⟨failure, failed, isDone⟩ := registerElement_incomplete draws
    (Bool.eq_true_of_not_eq_false incomplete) index
  rw [isDone] at accepted
  exact not_isAccepted failed accepted

theorem complete_of_allAccepted
    {index : Nat} {agents : List Json} {store : MemoryStore}
    (accepted : AllAccepted draws index agents store) :
    ∀ agent ∈ agents, isIncomplete agent = false := by
  induction agents generalizing index store with
  | nil =>
      intro agent isMember
      cases isMember
  | cons first rest inductionHypothesis =>
      obtain ⟨isFirst, areRest⟩ := allAccepted_cons_iff.mp accepted
      exact List.forall_mem_cons.mpr
        ⟨complete_of_isAccepted isFirst, inductionHypothesis areRest⟩

/-- The loop over accepted elements registers them in order, and goes on with
one entry for each. -/
theorem bindAgents_accepted
    {index : Nat} {agents : List Json} {store : MemoryStore}
    (accepted : AllAccepted draws index agents store) :
    let ended := (registerInOrder draws index agents).run MemoryStore.handle
      store
    ∃ entries : List BoundAgent,
      entries.map (·.agentId) = createdIds ended.1 ∧
      ∀ domain registered rest,
        let onward := bindAgents draws domain (index + agents.length)
          (registered ++ entries) rest
        (bindAgents draws domain index registered (agents ++ rest)).run
            MemoryStore.handle store =
          onward.run MemoryStore.handle ended.2 ∧
        (bindAgents draws domain index registered (agents ++ rest)).calls
            MemoryStore.handle store =
          (registerInOrder draws index agents).calls MemoryStore.handle
              store ++
            onward.calls MemoryStore.handle ended.2 := by
  induction agents generalizing index store with
  | nil =>
      refine ⟨[], rfl, ?_⟩
      intro domain registered rest
      rw [List.append_nil]
      exact ⟨rfl, rfl⟩
  | cons agent others inductionHypothesis =>
      obtain ⟨isFirst, areOthers⟩ := allAccepted_cons_iff.mp accepted
      have complete := complete_of_isAccepted isFirst
      obtain ⟨record, keyDocument, manifest, isResult⟩ := isFirst
      obtain ⟨entries, areCreated, onward⟩ := inductionHypothesis areOthers
      refine ⟨boundAgent agent record keyDocument :: entries, ?_, ?_⟩
      · rw [registerInOrder_run_cons]
        dsimp only
        rw [isResult, createdIds_ok, List.map_cons, areCreated]
        rfl
      · intro domain registered rest
        have isIndex : index + (agent :: others).length =
            index + 1 + others.length := by
          rw [List.length_cons]
          omega
        obtain ⟨isRun, areCalls⟩ := onward domain
          (registered ++ [boundAgent agent record keyDocument]) rest
        rw [List.append_assoc, List.singleton_append] at isRun areCalls
        rw [registerInOrder_run_cons, registerInOrder_calls_cons, isIndex,
          List.cons_append, bindAgents, complete]
        dsimp only
        rw [if_neg Bool.false_ne_true, Program.run_bind, Program.calls_bind,
          isResult, List.append_assoc, ← areCalls]
        exact ⟨isRun, rfl⟩

/-- Every list of elements has a longest accepted prefix. -/
theorem exists_accepted_prefix
    (index : Nat) (agents : List Json) (store : MemoryStore) :
    ∃ accepted rest, agents = accepted ++ rest ∧
      AllAccepted draws index accepted store ∧
      ∀ agent others, rest = agent :: others →
        ¬ IsAccepted ((registerElement draws (index + accepted.length)
          agent).run MemoryStore.handle
            ((registerInOrder draws index accepted).run MemoryStore.handle
              store).2).1 := by
  induction agents generalizing index store with
  | nil =>
      refine ⟨[], [], rfl, ?_, ?_⟩
      · intro result isMember
        cases isMember
      · intro agent others impossible
        cases impossible
  | cons agent rest inductionHypothesis =>
      by_cases isFirst : IsAccepted ((registerElement draws index agent).run
        MemoryStore.handle store).1
      · obtain ⟨accepted, refused, rfl, areAccepted, isLongest⟩ :=
          inductionHypothesis (index + 1)
            ((registerElement draws index agent).run MemoryStore.handle
              store).2
        refine ⟨agent :: accepted, refused, rfl,
          allAccepted_cons_iff.mpr ⟨isFirst, areAccepted⟩, ?_⟩
        rw [registerInOrder_run_cons, List.length_cons,
          Nat.add_comm accepted.length, ← Nat.add_assoc]
        exact isLongest
      · refine ⟨[], agent :: rest, rfl, ?_, ?_⟩
        · intro result isMember
          cases isMember
        · intro other others isRest
          cases isRest
          exact isFirst

/-- The loop stops at an element that is refused, and leaves the store.  Only
the answer to an element that is not complete omits what was registered. -/
theorem bindAgents_refused
    {index : Nat} {agent : Json} {store : MemoryStore}
    (refused : ¬ IsAccepted ((registerElement draws index agent).run
      MemoryStore.handle store).1)
    (domain : JsString) (registered : List BoundAgent) (others : List Json) :
    ∃ response,
      (bindAgents draws domain index registered (agent :: others)).run
        MemoryStore.handle store = (response, store) ∧
      (bindAgents draws domain index registered (agent :: others)).calls
          MemoryStore.handle store =
        (registerElement draws index agent).calls MemoryStore.handle store ∧
      ((registerElement draws index agent).run MemoryStore.handle store).2 =
        store ∧
      response.reported =
        if isIncomplete agent then [] else registered.map (·.agentId) := by
  cases incomplete : isIncomplete agent with
  | true =>
      obtain ⟨failure, -, isDone⟩ :=
        registerElement_incomplete draws incomplete index
      rw [bindAgents, incomplete, isDone]
      exact ⟨incompleteAgent index, rfl, rfl, rfl, rfl⟩
  | false =>
      rcases registerElement_cases draws index agent store with
        ⟨failure, failed, isRun⟩ | ⟨registration, registeredAt, -, isRun⟩
      · obtain ⟨status, error, message, issues, rfl⟩ := failed
        rw [bindAgents, incomplete, if_neg Bool.false_ne_true,
          Program.run_bind, Program.calls_bind, isRun]
        exact ⟨failedAgent status error message issues index registered, rfl,
          List.append_nil _, rfl, rfl⟩
      · rw [isRun] at refused
        exact absurd ⟨_, _, _, rfl⟩ refused

/-- How the loop ends after a longest accepted prefix. -/
theorem bindAgents_ends
    {index : Nat} {rest : List Json} {store : MemoryStore}
    (isLongest : ∀ agent others, rest = agent :: others →
      ¬ IsAccepted ((registerElement draws index agent).run
        MemoryStore.handle store).1)
    (domain : JsString) (registered : List BoundAgent) :
    ∃ response,
      (bindAgents draws domain index registered rest).run MemoryStore.handle
        store = (response, store) ∧
      (bindAgents draws domain index registered rest).calls
          MemoryStore.handle store =
        (registerInOrder draws index (rest.take 1)).calls MemoryStore.handle
          store ∧
      response.reported =
        if rest.head?.any isIncomplete then []
        else registered.map (·.agentId) := by
  cases rest with
  | nil => exact ⟨boundFleet domain registered, rfl, rfl, rfl⟩
  | cons agent others =>
      obtain ⟨response, isRun, areCalls, -, isReported⟩ := bindAgents_refused
        (isLongest agent others rfl) domain registered others
      refine ⟨response, isRun, ?_, isReported⟩
      rw [areCalls, List.take_succ_cons, registerInOrder_calls_cons]
      exact (List.append_nil _).symm

/-! ## The request -/

/-- A body of `POST` that passes the checks before the loop. -/
structure PassesChecks
    (body : Json) (domain : JsString) (agents : List Json) : Prop where
  isDomain : body.get? (units "domain") = some (.string domain)
  named : domain ≠ []
  isAgents : body.get? (units "agents") = some (.array agents)
  nonempty : agents ≠ []
  bounded : agents.length ≤ MAX_BATCH_SIZE

theorem postBind_of_passes
    {body : Json} {domain : JsString} {agents : List Json}
    (passes : PassesChecks body domain agents) (draws : BatchDraws) :
    postBind (some body) draws = bindAgents draws domain 0 [] agents := by
  have isDomain : textOrEmpty "domain" body = domain := by
    rw [textOrEmpty, passes.isDomain]
  unfold postBind
  dsimp only
  rw [isDomain, passes.isAgents]
  cases domain with
  | nil => exact absurd rfl passes.named
  | cons unit units =>
      cases agents with
      | nil => exact absurd rfl passes.nonempty
      | cons agent rest => exact if_neg passes.bounded.not_gt

/-- The elements before an index are the longest accepted prefix. -/
def LongestAccepted
    (draws : BatchDraws) (agents : List Json) (store : MemoryStore) :
    Nat → Prop :=
  IsGreatest {count | count ≤ agents.length ∧
    AllAccepted draws 0 (agents.take count) store}

/-- A batch reports what it wrote. -/
structure ReportsWrites
    (draws : BatchDraws) (body : Json) (agents : List Json)
    (store : MemoryStore) : Prop where
  /-- The store is that of the longest accepted prefix, and the calls are
  those up to the first refused element. -/
  written : ∃ count, LongestAccepted draws agents store count ∧
    ((postBind (some body) draws).run MemoryStore.handle store).2 =
      ((registerInOrder draws 0 (agents.take count)).run MemoryStore.handle
        store).2 ∧
    (postBind (some body) draws).calls MemoryStore.handle store =
      (registerInOrder draws 0 (agents.take (count + 1))).calls
        MemoryStore.handle store
  bounded : ∃ created : List JsString, created.length ≤ MAX_BATCH_SIZE ∧
    ∀ agentId, Created store
      ((postBind (some body) draws).run MemoryStore.handle store).2 agentId →
        agentId ∈ created
  reported : ∀ agentId, Created store
      ((postBind (some body) draws).run MemoryStore.handle store).2
        agentId ↔
    agentId ∈ ((postBind (some body) draws).run MemoryStore.handle
      store).1.reported

theorem longestAccepted_of_prefix
    {accepted rest : List Json} {store : MemoryStore}
    (areAccepted : AllAccepted draws 0 accepted store)
    (isLongest : ∀ agent others, rest = agent :: others →
      ¬ IsAccepted ((registerElement draws (0 + accepted.length) agent).run
        MemoryStore.handle
          ((registerInOrder draws 0 accepted).run MemoryStore.handle
            store).2).1) :
    LongestAccepted draws (accepted ++ rest) store accepted.length := by
  refine ⟨⟨by simp, ?_⟩, ?_⟩
  · rwa [List.take_left]
  · rintro count ⟨within, more⟩
    by_contra isMore
    have beyond := not_le.mp isMore
    rw [List.take_append, List.take_of_length_le beyond.le] at more
    have areBeyond := (allAccepted_append more).2
    cases rest with
    | nil =>
        rw [List.append_nil] at within
        exact isMore within
    | cons agent others =>
        obtain ⟨extra, isExtra⟩ := Nat.exists_eq_add_of_lt beyond
        have isFirst : count - accepted.length = extra + 1 := by omega
        rw [isFirst, List.take_succ_cons] at areBeyond
        exact isLongest agent others rfl (allAccepted_cons_iff.mp areBeyond).1

/-- What a batch does with a longest accepted prefix and with what follows
it. -/
theorem postBind_runs
    {body : Json} {domain : JsString} {accepted rest : List Json}
    (passes : PassesChecks body domain (accepted ++ rest))
    {store : MemoryStore}
    (areAccepted : AllAccepted draws 0 accepted store)
    (isLongest : ∀ agent others, rest = agent :: others →
      ¬ IsAccepted ((registerElement draws (0 + accepted.length) agent).run
        MemoryStore.handle
          ((registerInOrder draws 0 accepted).run MemoryStore.handle
            store).2).1) :
    let ended := (registerInOrder draws 0 accepted).run MemoryStore.handle
      store
    ∃ response,
      (postBind (some body) draws).run MemoryStore.handle store =
        (response, ended.2) ∧
      (postBind (some body) draws).calls MemoryStore.handle store =
        (registerInOrder draws 0 (accepted ++ rest.take 1)).calls
          MemoryStore.handle store ∧
      response.reported =
        if rest.head?.any isIncomplete then [] else createdIds ended.1 := by
  obtain ⟨entries, areCreated, onward⟩ := bindAgents_accepted areAccepted
  obtain ⟨isRun, areCalls⟩ := onward domain [] rest
  obtain ⟨response, ends, endCalls, isReported⟩ :=
    bindAgents_ends isLongest domain ([] ++ entries)
  rw [← postBind_of_passes passes draws] at isRun areCalls
  rw [ends] at isRun
  rw [endCalls, ← registerInOrder_calls_append] at areCalls
  rw [List.nil_append, areCreated] at isReported
  exact ⟨response, isRun, areCalls, isReported⟩

/-- What accepted elements created is not reported when an element that is
not complete follows them. -/
theorem not_reportsWrites
    {body : Json} {domain : JsString} {agents : List Json}
    (passes : PassesChecks body domain agents) {store : MemoryStore}
    {count : Nat} (isLater : 0 < count)
    (areTaken : AllAccepted draws 0 (agents.take count) store)
    {agent : Json} (isElement : agents[count]? = some agent)
    (incomplete : isIncomplete agent = true) :
    ¬ ReportsWrites draws body agents store := by
  intro reports
  obtain ⟨accepted, rest, rfl, areAccepted, isLongest⟩ :=
    exists_accepted_prefix 0 agents store
  have created := created_iff_of_allAccepted areAccepted
  have counted := length_createdIds areAccepted
  have isPrefix := longestAccepted_of_prefix areAccepted isLongest
  obtain ⟨response, isRun, -, isReported⟩ :=
    postBind_runs passes areAccepted isLongest
  have within : count < (accepted ++ rest).length :=
    (List.getElem?_eq_some_iff.mp isElement).1
  have atMost := isPrefix.2 ⟨within.le, areTaken⟩
  rcases atMost.lt_or_eq with earlier | rfl
  · rw [List.getElem?_append_left earlier] at isElement
    have complete := complete_of_allAccepted areAccepted agent
      (List.mem_of_getElem? isElement)
    rw [incomplete] at complete
    cases complete
  · rw [List.getElem?_append_right le_rfl, Nat.sub_self,
      ← List.head?_eq_getElem?] at isElement
    rw [isElement, Option.any_some, if_pos incomplete] at isReported
    have reported := reports.reported
    rw [isRun, isReported] at reported
    obtain ⟨agentId, isCreated⟩ :=
      List.exists_mem_of_length_pos (isLater.trans_eq counted.symm)
    have impossible := (reported agentId).mp ((created agentId).mpr isCreated)
    cases impossible

/-- A batch reports what it wrote exactly when no element that is not complete
follows directly after accepted ones. -/
theorem batch_reports_iff
    {body : Json} {domain : JsString} {agents : List Json}
    (passes : PassesChecks body domain agents) (draws : BatchDraws)
    (store : MemoryStore) :
    ReportsWrites draws body agents store ↔
      ∀ count agent, 0 < count →
        AllAccepted draws 0 (agents.take count) store →
        agents[count]? = some agent → isIncomplete agent = false := by
  constructor
  · intro reports count agent isLater areTaken isElement
    by_contra incomplete
    exact not_reportsWrites passes isLater areTaken isElement
      (Bool.eq_true_of_not_eq_false incomplete) reports
  · intro complete
    obtain ⟨accepted, rest, rfl, areAccepted, isLongest⟩ :=
      exists_accepted_prefix 0 agents store
    have created := created_iff_of_allAccepted areAccepted
    have counted := length_createdIds areAccepted
    have isPrefix := longestAccepted_of_prefix areAccepted isLongest
    have isBounded := isPrefix.1.1.trans passes.bounded
    obtain ⟨response, isRun, areCalls, isReported⟩ :=
      postBind_runs passes areAccepted isLongest
    refine ⟨⟨accepted.length, isPrefix, ?_, ?_⟩,
      ⟨_, counted.trans_le isBounded, ?_⟩, ?_⟩
    · rw [isRun, List.take_left]
    · rw [areCalls, List.take_length_add_append]
    · intro agentId isCreated
      rw [isRun] at isCreated
      exact (created agentId).mp isCreated
    · intro agentId
      rw [isRun, created, isReported]
      split
      · rename_i stops
        cases rest with
        | nil => cases stops
        | cons agent others =>
            -- Then nothing was accepted before the element.
            have isEmpty : accepted.length = 0 := by
              by_contra isLater
              have isComplete := complete accepted.length agent
                (Nat.pos_of_ne_zero isLater) isPrefix.1.2 (by simp)
              rw [List.head?_cons, Option.any_some, isComplete] at stops
              cases stops
            rw [List.eq_nil_of_length_eq_zero (counted.trans isEmpty)]
      · exact Iff.rfl

end Bind

/-! ## An agent that is not reported -/

/-- A batch of the sample registration and of what follows it. -/
def sampleBatch (following : List Json) : Json :=
  .record
    [("domain", some (.literal "acmemedical.com")),
      ("agents", some (.array (sampleRegistration.toJson :: following)))]

/-- The draws of the samples. -/
def sampleDraws : BatchDraws where
  clock := sampleClock
  ulids := fun _ => (units "01J8Z3Q7B4MW6XN2VR9TDK5HCE",
    units "01J8Z3Q7B4MW6XN2VR9TDK5HCF")

theorem sampleBatch_passes
    {following : List Json} (few : following.length < MAX_BATCH_SIZE) :
    PassesChecks (sampleBatch following) (units "acmemedical.com")
      (sampleRegistration.toJson :: following) where
  isDomain := rfl
  named := by decide
  isAgents := rfl
  nonempty := List.cons_ne_nil _ _
  bounded := few

/-- The sample registration is accepted by an empty store. -/
theorem sampleRegistration_allAccepted :
    letI := samplePlatform
    AllAccepted sampleDraws 0 [sampleRegistration.toJson] .empty := by
  let := samplePlatform
  refine allAccepted_cons_iff.mpr ⟨?_, ?_⟩
  · have isRun : (registerElement sampleDraws 0
          sampleRegistration.toJson).run MemoryStore.handle .empty = _ :=
      registerAgent_published sampleRegistration_admitted rfl rfl
    rw [isRun]
    exact ⟨_, _, _, rfl⟩
  · intro result isMember
    cases isMember

/-- A registered agent is not reported when an empty object follows it. -/
theorem incomplete_agent_hides_registered :
    letI := samplePlatform
    ¬ ReportsWrites sampleDraws (sampleBatch [.object []])
      [sampleRegistration.toJson, .object []] .empty := by
  let := samplePlatform
  exact not_reportsWrites (sampleBatch_passes (by decide)) Nat.one_pos
    sampleRegistration_allAccepted rfl rfl

/-- A batch that registers the sample agent twice is refused at its second
element, and reports the agent that it wrote. -/
theorem batch_reports_sample :
    letI := samplePlatform
    ¬ AllAccepted sampleDraws 0
        [sampleRegistration.toJson, sampleRegistration.toJson] .empty ∧
      ReportsWrites sampleDraws (sampleBatch [sampleRegistration.toJson])
        [sampleRegistration.toJson, sampleRegistration.toJson] .empty := by
  let := samplePlatform
  have isComplete : isIncomplete sampleRegistration.toJson = false :=
    complete_of_allAccepted sampleRegistration_allAccepted _
      List.mem_cons_self
  constructor
  · intro accepted
    obtain ⟨-, isSecond⟩ := allAccepted_cons_iff.mp accepted
    obtain ⟨⟨record, keyDocument, manifest, isAccepted⟩, -⟩ :=
      allAccepted_cons_iff.mp isSecond
    have isFirstRun : (registerElement sampleDraws 0
        sampleRegistration.toJson).run MemoryStore.handle .empty = _ :=
      registerAgent_published sampleRegistration_admitted rfl rfl
    have isRefused : ∀ store : MemoryStore,
        store.getKey sampleOperatorKey.keyId = some sampleOperatorKey →
        store.getAgent sampleManifest.agentId =
          some (recordOf sampleRegistration (nowIso sampleClock)) →
        ((registerElement sampleDraws 1 sampleRegistration.toJson).run
          MemoryStore.handle store).1 =
            publicationResult sampleRegistration (.ok .agentExists) := by
      intro store isKey isTaken
      have usable : differs (store.getKey
          sampleRegistration.keyDocument.keyId)
            sampleRegistration.keyDocument = false :=
        differs_eq_false_iff.mpr (Or.inr isKey)
      have isExisting := publish_agentExists (nowIso sampleClock)
        (sampleDraws.ulids 1).1 (sampleDraws.ulids 1).2 usable isTaken
      change ((registerAgent (some sampleRegistration.toJson) sampleClock _
        _).run _ _).1 = _
      rw [registerAgent_of_admitted sampleRegistration_admitted,
        Program.run_bind, isExisting]
      rfl
    rw [isFirstRun, isRefused _ rfl rfl] at isAccepted
    cases isAccepted
  · refine (batch_reports_iff (sampleBatch_passes (by decide)) _ _).mpr ?_
    intro count agent _ _ isElement
    have isMember := List.mem_of_getElem? isElement
    simp only [List.mem_cons, List.not_mem_nil, or_false, or_self]
      at isMember
    rw [isMember]
    exact isComplete

end AgenId.Web
