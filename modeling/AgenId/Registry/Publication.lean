import AgenId.Registry.Admission
import Mathlib.Tactic.IntervalCases

/-!
# The store calls of a registration

Both doors of the registry make the same calls for a registration that they
admit.  Alone on a memory store they find another key document, or the agent,
or write the record, the key and two events; under a fault they write a part.
-/

namespace AgenId.Registry

open AgenId.Core
open AgenId.Ecma
open AgenId.Library

section Publication

variable [Platform]

/-- The record of a registration. -/
def recordOf (registration : RegisterBody) (ts : JsString) : AgentRecord where
  agentId := registration.manifest.agentId
  manifest := registration.manifest
  manifestDigest := manifestDigest registration.manifest
  proof := registration.proof
  status := .ACTIVE
  registeredAt := ts
  updatedAt := ts

/-- The event of a published key. -/
def publishedEvent (registration : RegisterBody) (ts keyUlid : JsString) :
    LedgerEvent where
  eventId := units "evt_" ++ keyUlid
  agentId := registration.manifest.agentId
  type := .keyPublished
  occurredAt := ts
  detailRef := [(units "key_id", registration.keyDocument.keyId)]

/-- The event of a registered agent. -/
def registeredEvent (registration : RegisterBody) (ts agentUlid : JsString) :
    LedgerEvent where
  eventId := units "evt_" ++ agentUlid
  agentId := registration.manifest.agentId
  type := .agentRegistered
  occurredAt := ts
  detailRef :=
    [(units "manifest_digest", manifestDigest registration.manifest)]

theorem StoredForm.publish_eq
    {Record Key Assertion : Type} (form : StoredForm Record Key Assertion)
    (registration : RegisterBody) (ts keyUlid agentUlid : JsString) :
    form.publish registration ts keyUlid agentUlid =
      .call (.getKey registration.keyDocument.keyId)
        fun existingKey : Option Key =>
      if form.differs existingKey registration.keyDocument then
        .done (.ok .keyConflict)
      else
        .call (.createAgent (recordOf registration ts))
          fun created : Bool =>
        if created = false then
          .done (.ok .agentExists)
        else
          .call (.putKey registration.keyDocument) fun _ =>
          .call (.appendEvent (publishedEvent registration ts keyUlid))
            fun _ =>
          .call (.appendEvent (registeredEvent registration ts agentUlid))
            fun _ =>
          .done (.ok (.published (recordOf registration ts))) := by
  unfold StoredForm.publish
  rw [manifestDigestHex_eq]
  rfl

theorem publish_eq
    (registration : RegisterBody) (ts keyUlid agentUlid : JsString) :
    publish registration ts keyUlid agentUlid =
      .call (.getKey registration.keyDocument.keyId)
        fun existingKey : Option KeyDocument =>
      if differs existingKey registration.keyDocument then
        .done (.ok .keyConflict)
      else
        .call (.createAgent (recordOf registration ts))
          fun created : Bool =>
        if created = false then
          .done (.ok .agentExists)
        else
          .call (.putKey registration.keyDocument) fun _ =>
          .call (.appendEvent (publishedEvent registration ts keyUlid))
            fun _ =>
          .call (.appendEvent (registeredEvent registration ts agentUlid))
            fun _ =>
          .done (.ok (.published (recordOf registration ts))) :=
  StoredForm.documents.publish_eq registration ts keyUlid agentUlid

/-! ## Both doors -/

section Doors

variable {body : Option Json} {clock : Clock} {now registeredAt : JsString}
  {registration : RegisterBody}

theorem postAgents_of_admitted
    (isAdmitted : admitRegistration body now = .ok registration)
    (ts keyUlid agentUlid : JsString) :
    postAgents body now ts keyUlid agentUlid =
      publish registration ts keyUlid agentUlid >>= fun publication =>
        pure (publicationResponse registration publication) := by
  rw [postAgents, StoredForm.postAgents, isAdmitted]
  rfl

theorem postAgents_of_refused
    {refused : Response} (isRefused : admitRegistration body now =
      .error refused) (ts keyUlid agentUlid : JsString) :
    postAgents body now ts keyUlid agentUlid = .done refused := by
  rw [postAgents, StoredForm.postAgents, isRefused]
  rfl

theorem registerAgent_of_admitted
    (isAdmitted : admitAgent body clock = .ok (registration, registeredAt))
    (keyUlid agentUlid : JsString) :
    registerAgent body clock keyUlid agentUlid =
      publish registration registeredAt keyUlid agentUlid >>= fun publication =>
        pure (publicationResult registration publication) := by
  rw [registerAgent, StoredForm.registerAgent, isAdmitted]
  rfl

theorem registerAgent_of_refused
    {failure : RegisterResult}
    (isRefused : admitAgent body clock = .error failure)
    (keyUlid agentUlid : JsString) :
    registerAgent body clock keyUlid agentUlid = .done failure := by
  rw [registerAgent, StoredForm.registerAgent, isRefused]
  rfl

end Doors

/-! ## Alone on a memory store -/

variable (registration : RegisterBody) (ts keyUlid agentUlid : JsString)

/-- A store after a registration. -/
def registered (store : MemoryStore) : MemoryStore :=
  (((store.putAgent (recordOf registration ts)).putKey
      registration.keyDocument).appendEvent
    (publishedEvent registration ts keyUlid)).appendEvent
      (registeredEvent registration ts agentUlid)

/-! ## Alone on a memory store -/

variable {registration} {store : MemoryStore}

theorem publish_agentExists
    {record : AgentRecord}
    (usable : differs (store.getKey registration.keyDocument.keyId)
      registration.keyDocument = false)
    (taken : store.getAgent registration.manifest.agentId = some record) :
    (publish registration ts keyUlid agentUlid).run MemoryStore.handle
        store =
      (.ok .agentExists, store) := by
  have notCreated :
      store.createAgent (recordOf registration ts) = (false, store) :=
    MemoryStore.createAgent_of_taken taken
  rw [publish_eq, Program.run_call]
  simp [MemoryStore.handle, usable, notCreated]

theorem publish_published
    (usable : differs (store.getKey registration.keyDocument.keyId)
      registration.keyDocument = false)
    (free : store.getAgent registration.manifest.agentId = none) :
    (publish registration ts keyUlid agentUlid).run MemoryStore.handle
        store =
      (.ok (.published (recordOf registration ts)),
        registered registration ts keyUlid agentUlid store) := by
  have isCreated :
      store.createAgent (recordOf registration ts) =
        (true, store.putAgent (recordOf registration ts)) :=
    MemoryStore.createAgent_of_free free
  rw [publish_eq, Program.run_call]
  simp [MemoryStore.handle, usable, isCreated, registered]

/-- A registration alone is refused and leaves the store, or finds its key
usable and its agent free and is written. -/
theorem publish_cases
    (registration : RegisterBody) (ts keyUlid agentUlid : JsString)
    (store : MemoryStore) :
    (∃ refused, (∀ record, refused ≠ .published record) ∧
      (publish registration ts keyUlid agentUlid).run MemoryStore.handle
        store = (.ok refused, store)) ∨
    (differs (store.getKey registration.keyDocument.keyId)
        registration.keyDocument = false ∧
      store.getAgent registration.manifest.agentId = none ∧
      (publish registration ts keyUlid agentUlid).run MemoryStore.handle
          store =
        (.ok (.published (recordOf registration ts)),
          registered registration ts keyUlid agentUlid store)) := by
  cases usable : differs (store.getKey registration.keyDocument.keyId)
      registration.keyDocument with
  | true =>
      left
      refine ⟨.keyConflict, by simp, ?_⟩
      rw [publish_eq, Program.run_call]
      simp [MemoryStore.handle, usable]
  | false =>
      cases found : store.getAgent registration.manifest.agentId with
      | some record =>
          left
          exact ⟨.agentExists, by simp,
            publish_agentExists ts keyUlid agentUlid usable found⟩
      | none =>
          right
          exact ⟨rfl, rfl,
            publish_published ts keyUlid agentUlid usable found⟩

/-! ## Under a fault -/

variable (registration) in
/-- What a registration wrote before its call of a given number threw. -/
def partlyRegistered (count : Nat) (store : MemoryStore) : MemoryStore :=
  let record := recordOf registration ts
  match count with
  | 0 | 1 => store
  | 2 => store.putAgent record
  | 3 => (store.putAgent record).putKey registration.keyDocument
  | _ => ((store.putAgent record).putKey
      registration.keyDocument).appendEvent
        (publishedEvent registration ts keyUlid)

theorem partlyRegistered_early
    {count : Nat} (early : count < 2) :
    partlyRegistered registration ts keyUlid count store = store := by
  interval_cases count <;> rfl

theorem getAgent_partlyRegistered
    {count : Nat} (isCreated : 2 ≤ count) :
    (partlyRegistered registration ts keyUlid count store).getAgent
        registration.manifest.agentId =
      some (recordOf registration ts) := by
  unfold partlyRegistered
  split
  · omega
  · omega
  all_goals simp [recordOf]

theorem getKey_partlyRegistered
    {count : Nat} (isPublished : 3 ≤ count) :
    (partlyRegistered registration ts keyUlid count store).getKey
        registration.keyDocument.keyId =
      some registration.keyDocument := by
  unfold partlyRegistered
  split
  · omega
  · omega
  · omega
  all_goals simp

theorem publish_runFaulty
    (usable : differs (store.getKey registration.keyDocument.keyId)
      registration.keyDocument = false)
    (free : store.getAgent registration.manifest.agentId = none)
    {count : Nat} (isStoreCall : count < 5) :
    (publish registration ts keyUlid agentUlid).runFaulty
        MemoryStore.handle count store =
      (none, partlyRegistered registration ts keyUlid count store) := by
  have isCreated :
      store.createAgent (recordOf registration ts) =
        (true, store.putAgent (recordOf registration ts)) :=
    MemoryStore.createAgent_of_free free
  rw [publish_eq]
  interval_cases count <;>
    simp [Program.runFaulty, MemoryStore.handle, usable, isCreated,
      partlyRegistered]

end Publication

end AgenId.Registry
