import AgenId.Registry.Sequential

/-!
# The registry invariant

After every sequence of requests, the stored agents, keys, assertions and
events belong together, and no document has changed.
-/

namespace AgenId.Registry

open AgenId.Core
open AgenId.Ecma
open AgenId.Library
open AgenId.Validation
open AgenId.Validation.Schema

section Invariant

variable [Platform]

/-! ## Documents stay -/

/-- Every document of one store is in another. -/
structure Extends (store next : MemoryStore) : Prop where
  agents : ∀ agentId record,
    store.getAgent agentId = some record →
      next.getAgent agentId = some record
  keys : ∀ keyId doc,
    store.getKey keyId = some doc → next.getKey keyId = some doc
  assertions : ∀ assertionId issued,
    store.getAssertion assertionId = some issued →
      next.getAssertion assertionId = some issued

omit [Platform] in
theorem Extends.refl (store : MemoryStore) : Extends store store :=
  ⟨fun _ _ found => found, fun _ _ found => found, fun _ _ found => found⟩

omit [Platform] in
theorem Extends.trans
    {first second third : MemoryStore} (left : Extends first second)
    (right : Extends second third) : Extends first third where
  agents agentId record found :=
    right.agents agentId record (left.agents agentId record found)
  keys keyId doc found := right.keys keyId doc (left.keys keyId doc found)
  assertions assertionId issued found :=
    right.assertions assertionId issued
      (left.assertions assertionId issued found)

omit [Platform] in
theorem extends_putAgent
    {store : MemoryStore} {record : AgentRecord}
    (free : store.getAgent record.agentId = none) :
    Extends store (store.putAgent record) where
  agents agentId other found := by
    have distinct : agentId ≠ record.agentId := by
      intro same
      rw [same, free] at found
      cases found
    simp [distinct, found]
  keys _ _ found := found
  assertions _ _ found := found

omit [Platform] in
theorem extends_putKey
    {store : MemoryStore} {doc : KeyDocument}
    (usable : differs (store.getKey doc.keyId) doc = false) :
    Extends store (store.putKey doc) where
  agents _ _ found := found
  keys keyId other found := by
    by_cases same : keyId = doc.keyId
    · have isDoc : store.getKey doc.keyId = some doc := by
        rcases differs_eq_false_iff.mp usable with free | published
        · rw [same, free] at found
          cases found
        · exact published
      rw [same, isDoc] at found
      simp [same, ← found]
    · simp [same, found]
  assertions _ _ found := found

omit [Platform] in
theorem extends_putAssertion
    {store : MemoryStore} {issued : VerificationAssertion}
    (fresh : store.getAssertion issued.assertionId = none) :
    Extends store (store.putAssertion issued) where
  agents _ _ found := found
  keys _ _ found := found
  assertions assertionId other found := by
    have distinct : assertionId ≠ issued.assertionId := by
      intro same
      rw [same, fresh] at found
      cases found
    simp [distinct, found]

omit [Platform] in
theorem extends_appendEvent (store : MemoryStore) (event : LedgerEvent) :
    Extends store (store.appendEvent event) :=
  ⟨fun _ _ found => found, fun _ _ found => found, fun _ _ found => found⟩

theorem extends_registered
    {store : MemoryStore} {registration : RegisterBody}
    (ts keyUlid agentUlid : JsString)
    (usable : differs (store.getKey registration.keyDocument.keyId)
      registration.keyDocument = false)
    (free : store.getAgent registration.manifest.agentId = none) :
    Extends store (registered registration ts keyUlid agentUlid store) := by
  have withAgent := @extends_putAgent store (recordOf registration ts) free
  have withKey := @extends_putKey (store.putAgent (recordOf registration ts))
    registration.keyDocument usable
  have withEvent := extends_appendEvent ((store.putAgent
    (recordOf registration ts)).putKey registration.keyDocument)
      (publishedEvent registration ts keyUlid)
  exact ((withAgent.trans withKey).trans withEvent).trans
    (extends_appendEvent _ _)

theorem Effect.extends
    {authorized : Prop} {store next : MemoryStore}
    (effect : Effect authorized store next) : Extends store next := by
  cases effect with
  | nothing => exact Extends.refl store
  | register registration ts keyUlid agentUlid registrable usable free =>
      exact extends_registered ts keyUlid agentUlid usable free
  | publish doc isAuthorized accepted isAuthority usable =>
      exact extends_putKey usable
  | issue record issued key agentId clock ulid occurredAt isAuthorized
      accepted found isSubject isKey verified fresh =>
      exact (extends_putAssertion fresh).trans (extends_appendEvent _ _)

/-! ## Sound documents -/

/-- A stored key is accepted under its own identifier. -/
structure SoundKey (keyId : JsString) (doc : KeyDocument) : Prop where
  named : doc.keyId = keyId
  accepted : KeyDocument.schema.accepts (some doc.toJson) = some doc

/-- A stored agent has an accepted manifest with its digest, and an accepted
proof that is bound to the manifest and to a stored operator key. -/
structure SoundAgent (store : MemoryStore) (agentId : JsString)
    (record : AgentRecord) : Prop where
  named : record.agentId = agentId
  manifestNamed : record.manifest.agentId = agentId
  manifest : Manifest.schema.accepts (some record.manifest.toJson) =
    some record.manifest
  proof : ManifestProof.schema.accepts (some record.proof.toJson) =
    some record.proof
  digest : record.manifestDigest = manifestDigest record.manifest
  key : ∃ key, store.getKey record.proof.keyId = some key ∧
    ProofBound record.proof record.manifest key

/-- A stored assertion is accepted, and bound to the manifest of a stored agent
and to a stored authority key. -/
structure SoundAssertion (store : MemoryStore) (assertionId : JsString)
    (issued : VerificationAssertion) : Prop where
  named : issued.assertionId = assertionId
  accepted : VerificationAssertion.schema.accepts (some issued.toJson) =
    some issued
  subject : ∃ record, store.getAgent issued.subject = some record ∧
    manifestDigest record.manifest = issued.manifestDigest
  key : ∃ key, store.getKey issued.keyId = some key ∧
    AssertionBound issued key

/-- How many events of a type an agent has. -/
def eventCount (store : MemoryStore) (agentId : JsString)
    (type : EventType) : Nat :=
  (store.listEvents agentId).countP fun event => event.type = type

/-- The types of the events of a registration. -/
def registrationTypes : List EventType := [.agentRegistered, .keyPublished]

/-- All stored documents are sound, and an agent has one event of each type of
a registration. -/
structure Sound (store : MemoryStore) : Prop where
  keys : ∀ keyId doc, store.getKey keyId = some doc → SoundKey keyId doc
  agents : ∀ agentId record, store.getAgent agentId = some record →
    SoundAgent store agentId record
  assertions : ∀ assertionId issued,
    store.getAssertion assertionId = some issued →
      SoundAssertion store assertionId issued
  events : ∀ agentId, ∀ type ∈ registrationTypes,
    eventCount store agentId type =
      if (store.getAgent agentId).isSome then 1 else 0

theorem SoundAgent.mono
    {store next : MemoryStore} {agentId : JsString} {record : AgentRecord}
    (sound : SoundAgent store agentId record) (grows : Extends store next) :
    SoundAgent next agentId record := by
  obtain ⟨key, isKey, bound⟩ := sound.key
  exact { sound with key := ⟨key, grows.keys _ key isKey, bound⟩ }

theorem SoundAssertion.mono
    {store next : MemoryStore} {assertionId : JsString}
    {issued : VerificationAssertion}
    (sound : SoundAssertion store assertionId issued)
    (grows : Extends store next) :
    SoundAssertion next assertionId issued := by
  obtain ⟨record, found, digest⟩ := sound.subject
  obtain ⟨key, isKey, bound⟩ := sound.key
  exact
    { sound with
      subject := ⟨record, grows.agents _ record found, digest⟩
      key := ⟨key, grows.keys _ key isKey, bound⟩ }

theorem sound_empty : Sound .empty where
  keys keyId doc found := by cases found
  agents agentId record found := by cases found
  assertions assertionId issued found := by cases found
  events agentId type _ := rfl

/-! ## Soundness survives -/

theorem Sound.publish
    {store : MemoryStore} (sound : Sound store) {doc : KeyDocument}
    (accepted : KeyDocument.schema.accepts (some doc.toJson) = some doc)
    (usable : differs (store.getKey doc.keyId) doc = false) :
    Sound (store.putKey doc) := by
  have grows := extends_putKey usable
  refine ⟨?_, ?_, ?_, sound.events⟩
  · intro keyId other found
    rw [MemoryStore.getKey_putKey] at found
    split at found
    · rename_i same
      obtain rfl := Option.some.inj found
      exact ⟨same.symm, accepted⟩
    · exact sound.keys keyId other found
  · intro agentId record found
    exact (sound.agents agentId record found).mono grows
  · intro assertionId issued found
    exact (sound.assertions assertionId issued found).mono grows

omit [Platform] in
theorem eventCount_appendEvent
    (store : MemoryStore) (event : LedgerEvent) (agentId : JsString)
    (type : EventType) :
    eventCount (store.appendEvent event) agentId type =
      eventCount store agentId type +
        if event.agentId = agentId ∧ event.type = type then 1 else 0 := by
  unfold eventCount
  rw [MemoryStore.listEvents_appendEvent, List.countP_append]
  by_cases ofAgent : event.agentId = agentId
  · by_cases ofType : event.type = type <;> simp [ofAgent, ofType]
  · simp [ofAgent]

theorem eventCount_registered
    (store : MemoryStore) (registration : RegisterBody)
    (ts keyUlid agentUlid agentId : JsString) {type : EventType}
    (ofRegistration : type ∈ registrationTypes) :
    eventCount (registered registration ts keyUlid agentUlid store) agentId
        type =
      eventCount store agentId type +
        if registration.manifest.agentId = agentId then 1 else 0 := by
  have asBefore : eventCount ((store.putAgent (recordOf registration ts)).putKey
      registration.keyDocument) agentId type =
        eventCount store agentId type := rfl
  rw [registered, eventCount_appendEvent, eventCount_appendEvent, asBefore]
  simp only [registrationTypes, List.mem_cons, List.not_mem_nil, or_false]
    at ofRegistration
  rcases ofRegistration with rfl | rfl
  · simp [publishedEvent, registeredEvent]
  · simp [publishedEvent, registeredEvent]

theorem Sound.register
    {store : MemoryStore} (sound : Sound store)
    {registration : RegisterBody} (registrable : Registrable registration)
    (ts keyUlid agentUlid : JsString)
    (usable : differs (store.getKey registration.keyDocument.keyId)
      registration.keyDocument = false)
    (free : store.getAgent registration.manifest.agentId = none) :
    Sound (registered registration ts keyUlid agentUlid store) := by
  have grows := extends_registered ts keyUlid agentUlid usable free
  have isAgent : ∀ agentId,
      (registered registration ts keyUlid agentUlid store).getAgent agentId =
        if agentId = registration.manifest.agentId then
          some (recordOf registration ts)
        else store.getAgent agentId := by
    intro agentId
    simp [registered, recordOf]
  have isKey : ∀ keyId,
      (registered registration ts keyUlid agentUlid store).getKey keyId =
        if keyId = registration.keyDocument.keyId then
          some registration.keyDocument
        else store.getKey keyId := by
    intro keyId
    simp [registered]
  refine ⟨?_, ?_, ?_, ?_⟩
  · intro keyId doc found
    rw [isKey] at found
    split at found
    · rename_i same
      obtain rfl := Option.some.inj found
      exact ⟨same.symm, registrable.keyDocument⟩
    · exact sound.keys keyId doc found
  · intro agentId record found
    rw [isAgent] at found
    split at found
    · rename_i same
      obtain rfl := Option.some.inj found
      have ownKey := isKey registration.proof.keyId
      rw [if_pos registrable.bound.keyId.symm] at ownKey
      exact
        { named := same.symm
          manifestNamed := same.symm
          manifest := registrable.manifest
          proof := registrable.proof
          digest := rfl
          key := ⟨_, ownKey, registrable.bound⟩ }
    · exact (sound.agents agentId record found).mono grows
  · intro assertionId issued found
    have earlier : store.getAssertion assertionId = some issued := found
    exact (sound.assertions assertionId issued earlier).mono grows
  · intro agentId type ofRegistration
    rw [eventCount_registered store registration ts keyUlid agentUlid agentId
      ofRegistration, sound.events agentId type ofRegistration, isAgent]
    by_cases same : registration.manifest.agentId = agentId
    · subst same
      simp [free]
    · simp [same, Ne.symm same]

theorem Sound.issue
    {store : MemoryStore} (sound : Sound store) {record : AgentRecord}
    {issued : VerificationAssertion} {key : KeyDocument}
    {agentId clock : JsString} (ulid occurredAt : JsString)
    (accepted : VerificationAssertion.schema.accepts (some issued.toJson) =
      some issued)
    (found : store.getAgent agentId = some record)
    (isSubject : issued.subject = record.agentId)
    (isKey : store.getKey issued.keyId = some key)
    (verified : Succeeds (verifyVerificationAssertion (some issued.toJson)
      (some key.toJson) clock (some record.manifest.toJson)))
    (fresh : store.getAssertion issued.assertionId = none) :
    Sound ((store.putAssertion issued).appendEvent
      (issuedEvent record issued ulid occurredAt)) := by
  have grows := (extends_putAssertion fresh).trans
    (extends_appendEvent _ (issuedEvent record issued ulid occurredAt))
  have soundKey := sound.keys _ key isKey
  have soundAgent := sound.agents agentId record found
  have isFound : store.getAgent issued.subject = some record := by
    rw [isSubject, soundAgent.named, found]
  obtain ⟨assertion, doc, isAssertion, isDoc, bound, -, applicable⟩ :=
    (verifyVerificationAssertion_succeeds_iff _ _ _ _).mp verified
  obtain rfl : issued = assertion :=
    Option.some.inj (accepted.symm.trans isAssertion)
  obtain rfl : key = doc :=
    Option.some.inj (soundKey.accepted.symm.trans isDoc)
  have digest : manifestDigest record.manifest = issued.manifestDigest := by
    rcases applicable with absent | ⟨manifest, isManifest, digest⟩
    · cases absent
    · obtain rfl : record.manifest = manifest :=
        Option.some.inj (soundAgent.manifest.symm.trans isManifest)
      exact digest
  refine ⟨sound.keys, ?_, ?_, ?_⟩
  · intro otherId other isOther
    exact (sound.agents otherId other isOther).mono grows
  · intro assertionId other isOther
    rw [MemoryStore.getAssertion_appendEvent,
      MemoryStore.getAssertion_putAssertion] at isOther
    split at isOther
    · rename_i same
      obtain rfl := Option.some.inj isOther
      exact
        { named := same.symm
          accepted := accepted
          subject := ⟨record, isFound, digest⟩
          key := ⟨key, isKey, bound⟩ }
    · exact (sound.assertions assertionId other isOther).mono grows
  · intro otherId type ofRegistration
    have notIssued :
        (issuedEvent record issued ulid occurredAt).type ≠ type := by
      intro same
      subst same
      simp [registrationTypes, issuedEvent] at ofRegistration
    rw [eventCount_appendEvent, if_neg fun both => notIssued both.2]
    exact sound.events otherId type ofRegistration

theorem Sound.effect
    {authorized : Prop} {store next : MemoryStore} (sound : Sound store)
    (effect : Effect authorized store next) : Sound next := by
  cases effect with
  | nothing => exact sound
  | register registration ts keyUlid agentUlid registrable usable free =>
      exact sound.register registrable ts keyUlid agentUlid usable free
  | publish doc isAuthorized accepted isAuthority usable =>
      exact sound.publish accepted usable
  | issue record issued key agentId clock ulid occurredAt isAuthorized
      accepted found isSubject isKey verified fresh =>
      exact sound.issue ulid occurredAt accepted found isSubject isKey verified
        fresh

/-! ## Every sequence of requests -/

variable (authorityToken : Option JsString)

theorem sound_serveAll (requests : List Request) :
    Sound (serveAll authorityToken requests .empty) :=
  serveAll_induction (fun _ _ _ _ sound effect => sound.effect effect)
    sound_empty

theorem extends_serveAll (requests : List Request) (store : MemoryStore) :
    Extends store (serveAll authorityToken requests store) :=
  @serveAll_induction _ authorityToken store (Extends store) requests
    (fun _ _ _ _ grows effect => grows.trans effect.extends)
    (Extends.refl store)

/-- After every sequence of requests on an empty store, each stored agent has
the digest of its manifest and a proof that binds both and verifies under its
stored operator key; each stored assertion has a stored subject with the digest
it names and verifies under a stored authority key; no document has changed
since any earlier request; and each agent has one event of its registration
and one of its key. -/
theorem registry_invariant (earlier later : List Request) :
    let before := serveAll authorityToken earlier .empty
    let store := serveAll authorityToken (earlier ++ later) .empty
    (∀ agentId record, store.getAgent agentId = some record →
      manifestDigestHex record.manifest = .ok record.manifestDigest ∧
        record.proof.agentId = agentId ∧
        record.proof.manifestDigest = record.manifestDigest ∧
        ∃ key, store.getKey record.proof.keyId = some key ∧
          key.keyId = record.proof.keyId ∧ key.role = .operator ∧
          key.controller = agentId ∧
          Signed key record.proof.toJson record.proof.signature) ∧
    (∀ assertionId issued,
      store.getAssertion assertionId = some issued →
        (∃ record, store.getAgent issued.subject = some record ∧
          manifestDigestHex record.manifest = .ok issued.manifestDigest) ∧
        ∃ key, store.getKey issued.keyId = some key ∧
          key.role = .authority ∧
          Signed key issued.toJson issued.signature) ∧
    Extends before store ∧
    (∀ agentId record, store.getAgent agentId = some record →
      eventCount store agentId .agentRegistered = 1 ∧
        eventCount store agentId .keyPublished = 1) := by
  intro before store
  have sound : Sound store := sound_serveAll authorityToken _
  refine ⟨?_, ?_, ?_, ?_⟩
  · intro agentId record found
    have soundAgent := sound.agents agentId record found
    obtain ⟨key, isKey, bound⟩ := soundAgent.key
    have sameAgent : record.proof.agentId = agentId :=
      bound.agentId.symm.trans soundAgent.manifestNamed
    refine ⟨?_, sameAgent, ?_, key, isKey, bound.keyId, bound.role, ?_,
      bound.signed⟩
    · rw [manifestDigestHex_eq, soundAgent.digest]
    · rw [soundAgent.digest, bound.digest]
    · rw [bound.controller, sameAgent]
  · intro assertionId issued found
    have soundAssertion := sound.assertions assertionId issued found
    obtain ⟨record, isAgent, digest⟩ := soundAssertion.subject
    obtain ⟨key, isKey, bound⟩ := soundAssertion.key
    refine ⟨⟨record, isAgent, ?_⟩, key, isKey, bound.role, bound.signed⟩
    rw [manifestDigestHex_eq, digest]
  · have isLater : store = serveAll authorityToken later before :=
      serveAll_append authorityToken earlier later .empty
    rw [isLater]
    exact extends_serveAll authorityToken later before
  · intro agentId record found
    have counts := sound.events agentId
    simp only [registrationTypes, found, Option.isSome_some, if_true,
      List.forall_mem_cons, List.not_mem_nil, false_implies, implies_true,
      and_true] at counts
    exact counts

end Invariant

end AgenId.Registry
