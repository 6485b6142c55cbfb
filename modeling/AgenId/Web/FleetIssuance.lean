import AgenId.Registry.Invariant
import AgenId.Web.Issuance
import AgenId.Web.RetellBind

/-!
# A fleet from the browser to the registry

The onboarding page signs one agent of a fleet after another in the browser
and posts what was signed to `api/retell/bind`.  A fleet that is signed is
registered as a whole, and the proof of each of its agents checks for ninety
days.
-/

namespace AgenId.Web

open AgenId.Core
open AgenId.Ecma
open AgenId.Library
open AgenId.Registry
open AgenId.Validation
open AgenId.Validation.Schema
open ClientCrypto (ManifestInput SignedAgent AgentBinding FleetAgent bindingOf
  manifestOf generateUlid generateKeyPair signAgent signAgentFleet)

/-! ## What the page posts -/

/-- The element of a batch that the page makes of a signed agent. -/
def fleetEntry (binding : AgentBinding) : Json :=
  .record
    [("manifest", some binding.manifest),
      ("proof", some binding.proof),
      ("key_document", some binding.keyDocument),
      ("retell_agent_id", some (.string binding.retellAgentId)),
      ("agent_name", some (.string binding.agentName))]

/-- The body that the page posts. -/
def fleetBody (domain : JsString) (bindings : List AgentBinding) : Json :=
  .record
    [("domain", some (.string domain)),
      ("agents", some (.array (bindings.map fleetEntry)))]

/-- The identifier that an agent of a fleet draws. -/
def issuedAgentId (agent : FleetAgent) : JsString :=
  units "agenid:" ++ generateUlid agent.agentDraw

/-- The key identifier that an agent of a fleet draws. -/
def issuedKeyId (agent : FleetAgent) : JsString :=
  units "agenid:key:" ++ generateUlid agent.keyDraw

section Registration

variable [Platform]

/-- A body whose documents are accepted is read, however they are spelled. -/
theorem readBody_submissionOf
    {agent : Json} {registration : RegisterBody}
    (isManifest : Manifest.schema.accepts (agent.get? (units "manifest")) =
      some registration.manifest)
    (isProof : ManifestProof.schema.accepts (agent.get? (units "proof")) =
      some registration.proof)
    (isKey : KeyDocument.schema.accepts (agent.get? (units "key_document")) =
      some registration.keyDocument) :
    readBody (some (submissionOf agent)) = .ok registration := by
  have known : ∀ members, submissionOf agent = .object members →
      ((members.map Prod.fst).filter
        fun name => name ∉ REGISTER_MEMBERS.map units) = [] := by
    intro members isObject
    unfold submissionOf at isObject
    obtain rfl := Json.object.inj isObject
    cases agent.get? (units "manifest") <;> cases agent.get? (units "proof") <;>
      cases agent.get? (units "key_document") <;> rfl
  obtain ⟨members, isObject, manifestMember, proofMember, keyMember⟩ :=
    submissionOf_members agent
  have isRead : readBody (some (submissionOf agent)) =
      readRegistration members := by
    rw [isObject, readBody]
    exact if_pos (known members isObject)
  rw [isRead]
  simp only [readRegistration, manifestMember, proofMember, keyMember,
    safeParse_of_accepts isManifest, safeParse_of_accepts isProof,
    safeParse_of_accepts isKey]

/-- A proof that was made at most two minutes after the clock, and ends after
it, is evaluated within its window. -/
theorem registrationTime_admits
    {createdAt expiresAt : JsString} {created expires : Int}
    (isCreated : dateParse createdAt = some created)
    (isExpires : dateParse expiresAt = some expires)
    (ordered : created ≤ expires) {clock : Clock}
    (notAhead : created - clock.time ≤ MAX_FORWARD_SKEW_MS)
    (notOver : clock.time ≤ expires) :
    ∃ now, registrationTime createdAt (dateParse (nowIso clock)) =
        some (.ok now (nowIso clock)) ∧
      windowAdmits now createdAt expiresAt := by
  rw [dateParse_nowIso]
  unfold registrationTime windowAdmits
  simp only [isCreated, isExpires, if_neg (not_lt.mpr notAhead)]
  refine ⟨_, rfl, ?_⟩
  by_cases isAhead : 0 < created - clock.time
  · rw [if_pos isAhead, isCreated]
    simp only [dateLess_some, decide_eq_false_iff_not]
    omega
  · have isNow : dateParse (isoString clock.time) = some clock.time :=
      dateParse_nowIso clock
    rw [if_neg isAhead, isNow]
    simp only [dateLess_some, decide_eq_false_iff_not]
    omega

theorem events_registered
    (registration : RegisterBody) (ts keyUlid agentUlid : JsString)
    (store : MemoryStore) :
    store.events <+:
      (registered registration ts keyUlid agentUlid store).events :=
  ⟨_, (List.append_assoc _ _ _).symm⟩

theorem getKey_registered
    (registration : RegisterBody) (ts keyUlid agentUlid : JsString)
    (store : MemoryStore) (keyId : JsString) :
    (registered registration ts keyUlid agentUlid store).getKey keyId =
      if keyId = registration.keyDocument.keyId then
        some registration.keyDocument
      else
        store.getKey keyId := by
  simp [registered]

end Registration

section Fleet

variable [SigningPlatform]

/-! ## One agent -/

/-- An agent whose manifest is accepted, at dates of four-digit years. -/
structure Issuable (input : ManifestInput) (agent : FleetAgent)
    (manifest : Manifest) : Prop where
  accepted : Manifest.schema.accepts (some (manifestOf (issuedAgentId agent)
    agent.nameOr input)) = some manifest
  year : FourDigitYear agent.now
  later : FourDigitYear (agent.now + NINETY_DAYS)
  keyYear : FourDigitYear agent.keyDraw.time

/-- The registration that is issued for an agent. -/
def issuedRegistration (seed : List UInt8) (input : ManifestInput)
    (agent : FleetAgent) (manifest : Manifest) : RegisterBody where
  manifest := manifest
  proof := issuedProof seed (issuedAgentId agent) (issuedKeyId agent)
    (hex (Platform.sha256 (canonicalBytes (manifestOf (issuedAgentId agent)
      agent.nameOr input)))) agent.now
  keyDocument := issuedKey seed (issuedAgentId agent) (issuedKeyId agent)
    agent.now

variable {seed : List UInt8} {input : ManifestInput} {agent : FleetAgent}
  {manifest : Manifest}

theorem Issuable.agentId (issuable : Issuable input agent manifest) :
    manifest.agentId = issuedAgentId agent := by
  have same := faithful_Manifest.encoded
    (wellFormed_manifestOf (issuedAgentId agent) agent.nameOr input)
    issuable.accepted
  exact (same.text "agent_id" rfl rfl).symm

theorem Issuable.accepts_keyDocument
    (correct : Ed25519Correct) (seedLength : seed.length = 32)
    (issuable : Issuable input agent manifest) :
    KeyDocument.schema.accepts (some (issuedRegistration seed input agent
      manifest).keyDocument.toJson) =
        some (issuedRegistration seed input agent manifest).keyDocument := by
  have bounds := issuable.keyYear.bounds
  have isAgentId : isValidAgentId (issuedAgentId agent) = true := by
    rw [← issuable.agentId]
    exact Manifest.agentId_valid issuable.accepted
  have isUlid : isValidUlid (generateUlid agent.keyDraw) = true :=
    isValidUlid_encodeUlid (by omega) agent.keyDraw.isDrawn
  exact accepts_issuedKey correct seedLength isAgentId isUlid issuable.year

theorem Issuable.accepts_proof
    (correct : Ed25519Correct)
    (hashLength : ∀ bytes, (Platform.sha256 bytes).length = 32)
    (seedLength : seed.length = 32)
    (issuable : Issuable input agent manifest) :
    ManifestProof.schema.accepts (some (issuedRegistration seed input agent
      manifest).proof.toJson) =
        some (issuedRegistration seed input agent manifest).proof := by
  have bounds := issuable.keyYear.bounds
  have isAgentId : isValidAgentId (issuedAgentId agent) = true := by
    rw [← issuable.agentId]
    exact Manifest.agentId_valid issuable.accepted
  have isUlid : isValidUlid (generateUlid agent.keyDraw) = true :=
    isValidUlid_encodeUlid (by omega) agent.keyDraw.isDrawn
  exact accepts_issuedProof correct seedLength (hashLength _) isAgentId isUlid
    issuable.year issuable.later

/-- What is issued may be registered. -/
theorem Issuable.registrable
    (correct : Ed25519Correct)
    (hashLength : ∀ bytes, (Platform.sha256 bytes).length = 32)
    (seedLength : seed.length = 32)
    (issuable : Issuable input agent manifest) :
    Registrable (issuedRegistration seed input agent manifest) := by
  have isDigest : manifestDigest manifest = hex (Platform.sha256
      (canonicalBytes (manifestOf (issuedAgentId agent) agent.nameOr
        input))) := by
    unfold manifestDigest
    rw [← (canonicalBytes_of_accepts (wellFormed_manifestOf _ _ _)
      issuable.accepted).2]
  have bound : ProofBound (issuedRegistration seed input agent manifest).proof
      manifest (issuedRegistration seed input agent manifest).keyDocument :=
    { digest := isDigest
      agentId := issuable.agentId
      keyId := rfl
      role := rfl
      controller := rfl
      active := rfl
      signed := issued_signed correct seedLength _ _ _ _ }
  exact
    { manifest := rereads_Manifest _ _ issuable.accepted
      proof := issuable.accepts_proof correct hashLength seedLength
      keyDocument := issuable.accepts_keyDocument correct seedLength
      bound := bound }

/-- The signing of an agent, as the fleet keeps it. -/
theorem Issuable.signs
    (seedLength : seed.length = 32)
    (issuable : Issuable input agent manifest) :
    ∃ signed, signAgent (generateKeyPair seed) agent.nameOr input
        (some agent.now) agent.agentDraw agent.keyDraw = .ok signed ∧
      signed.manifest = manifestOf (issuedAgentId agent) agent.nameOr input ∧
      signed.proof =
        (issuedRegistration seed input agent manifest).proof.toJson ∧
      signed.keyDocument =
        (issuedRegistration seed input agent manifest).keyDocument.toJson :=
  ⟨_, signAgent_eq seedLength issuable.later, rfl, rfl, rfl⟩

/-- The registry admits what is issued. -/
theorem Issuable.admitted
    (correct : Ed25519Correct)
    (hashLength : ∀ bytes, (Platform.sha256 bytes).length = 32)
    (seedLength : seed.length = 32)
    (issuable : Issuable input agent manifest) {signed : SignedAgent}
    (isManifest : signed.manifest =
      manifestOf (issuedAgentId agent) agent.nameOr input)
    (isProof : signed.proof =
      (issuedRegistration seed input agent manifest).proof.toJson)
    (isKey : signed.keyDocument =
      (issuedRegistration seed input agent manifest).keyDocument.toJson)
    {clock : Clock}
    (notAhead : agent.now - clock.time ≤ MAX_FORWARD_SKEW_MS)
    (notOver : clock.time ≤ agent.now + NINETY_DAYS) :
    admitAgent (some (submissionOf (fleetEntry (bindingOf agent signed))))
        clock =
      .ok (issuedRegistration seed input agent manifest, nowIso clock) := by
  have registrable := issuable.registrable correct hashLength seedLength
  have isRead : readBody (some (submissionOf (fleetEntry
      (bindingOf agent signed)))) =
        .ok (issuedRegistration seed input agent manifest) := by
    apply readBody_submissionOf
    · refine Eq.trans ?_ issuable.accepted
      rw [← isManifest]
      rfl
    · refine Eq.trans ?_ registrable.proof
      rw [← isProof]
      rfl
    · refine Eq.trans ?_ registrable.keyDocument
      rw [← isKey]
      rfl
  obtain ⟨now, isTime, admits⟩ := registrationTime_admits
    (dateParse_isoString issuable.year) (dateParse_isoString issuable.later)
    (by unfold NINETY_DAYS; omega) notAhead notOver
  exact admitAgent_of_registrable isRead registrable isTime admits

/-! ## The fleet -/

/-- A fleet of agents that may each be issued, under identifiers of which none
is in the store or drawn twice, at dates that the clock admits. -/
structure FleetReady (input : ManifestInput) (clock : Clock)
    (store : MemoryStore) (fleet : List FleetAgent) : Prop where
  issuable : ∀ agent ∈ fleet, ∃ manifest, Issuable input agent manifest
  notAhead : ∀ agent ∈ fleet, agent.now - clock.time ≤ MAX_FORWARD_SKEW_MS
  notOver : ∀ agent ∈ fleet, clock.time ≤ agent.now + NINETY_DAYS
  freeAgents : ∀ agent ∈ fleet, store.getAgent (issuedAgentId agent) = none
  freeKeys : ∀ agent ∈ fleet, store.getKey (issuedKeyId agent) = none
  agentIds : (fleet.map issuedAgentId).Nodup
  keyIds : (fleet.map issuedKeyId).Nodup

/-- An agent is stored as it was issued, with its key. -/
def StoredAsIssued (seed : List UInt8) (input : ManifestInput) (clock : Clock)
    (store : MemoryStore) (agent : FleetAgent) : Prop :=
  ∃ manifest, Issuable input agent manifest ∧
    (Document.agent (recordOf (issuedRegistration seed input agent manifest)
      (nowIso clock))).Stored store ∧
    (Document.key (issuedRegistration seed input agent
      manifest).keyDocument).Stored store

theorem StoredAsIssued.mono
    {clock : Clock} {store next : MemoryStore}
    (stored : StoredAsIssued seed input clock store agent)
    (grows : Extends store next) :
    StoredAsIssued seed input clock next agent := by
  obtain ⟨manifest, issuable, isAgent, isKey⟩ := stored
  exact ⟨manifest, issuable, grows.agents _ _ isAgent, grows.keys _ _ isKey⟩

/-- The rest of a fleet is ready after its first agent is registered. -/
theorem FleetReady.rest
    {clock : Clock} {store : MemoryStore} {rest : List FleetAgent}
    (ready : FleetReady input clock store (agent :: rest))
    (issuable : Issuable input agent manifest) (keyUlid agentUlid : JsString) :
    FleetReady input clock (registered (issuedRegistration seed input agent
      manifest) (nowIso clock) keyUlid agentUlid store) rest := by
  obtain ⟨newAgent, agentIds⟩ := List.nodup_cons.mp ready.agentIds
  obtain ⟨newKey, keyIds⟩ := List.nodup_cons.mp ready.keyIds
  refine
    { issuable := fun other isMember =>
        ready.issuable other (List.mem_cons_of_mem _ isMember)
      notAhead := fun other isMember =>
        ready.notAhead other (List.mem_cons_of_mem _ isMember)
      notOver := fun other isMember =>
        ready.notOver other (List.mem_cons_of_mem _ isMember)
      freeAgents := ?_
      freeKeys := ?_
      agentIds := agentIds
      keyIds := keyIds }
  · intro other isMember
    have distinct : issuedAgentId other ≠ (issuedRegistration seed input agent
        manifest).manifest.agentId := by
      intro same
      exact newAgent (List.mem_map.mpr
        ⟨other, isMember, same.trans issuable.agentId⟩)
    rw [getAgent_registered, if_neg distinct]
    exact ready.freeAgents other (List.mem_cons_of_mem _ isMember)
  · intro other isMember
    have distinct : issuedKeyId other ≠ (issuedRegistration seed input agent
        manifest).keyDocument.keyId := by
      intro same
      exact newKey (List.mem_map.mpr ⟨other, isMember, same⟩)
    rw [getKey_registered, if_neg distinct]
    exact ready.freeKeys other (List.mem_cons_of_mem _ isMember)

/-- A fleet that is ready is signed, and its registrations in order are all
accepted. -/
theorem FleetReady.registers
    (correct : Ed25519Correct)
    (hashLength : ∀ bytes, (Platform.sha256 bytes).length = 32)
    (seedLength : seed.length = 32) {draws : BatchDraws} {index : Nat}
    {store : MemoryStore} {fleet : List FleetAgent}
    (ready : FleetReady input draws.clock store fleet) :
    ∃ bindings,
      signAgentFleet (generateKeyPair seed) input fleet = .ok bindings ∧
      bindings.length = fleet.length ∧
      AllAccepted draws index (bindings.map fleetEntry) store ∧
      createdIds ((registerInOrder draws index (bindings.map fleetEntry)).run
        MemoryStore.handle store).1 = fleet.map issuedAgentId ∧
      Extends store ((registerInOrder draws index
        (bindings.map fleetEntry)).run MemoryStore.handle store).2 ∧
      store.events <+: ((registerInOrder draws index
        (bindings.map fleetEntry)).run MemoryStore.handle store).2.events ∧
      ∀ agent ∈ fleet, StoredAsIssued seed input draws.clock
        ((registerInOrder draws index (bindings.map fleetEntry)).run
          MemoryStore.handle store).2 agent := by
  induction fleet generalizing index store with
  | nil =>
      refine ⟨[], rfl, rfl, ?_, rfl, Extends.refl store,
        List.prefix_rfl, ?_⟩
      · intro result isMember
        cases isMember
      · intro agent isMember
        cases isMember
  | cons agent rest inductionHypothesis =>
      obtain ⟨manifest, issuable⟩ :=
        ready.issuable agent List.mem_cons_self
      obtain ⟨signed, signs, isManifest, isProof, isKey⟩ :=
        @Issuable.signs _ seed _ _ _ seedLength issuable
      have isAdmitted := issuable.admitted correct hashLength seedLength
        isManifest isProof isKey (ready.notAhead agent List.mem_cons_self)
        (ready.notOver agent List.mem_cons_self)
      let registration := issuedRegistration seed input agent manifest
      have free : store.getAgent registration.manifest.agentId = none := by
        rw [show registration.manifest.agentId = issuedAgentId agent from
          issuable.agentId]
        exact ready.freeAgents agent List.mem_cons_self
      have freeKey : store.getKey registration.keyDocument.keyId = none :=
        ready.freeKeys agent List.mem_cons_self
      have usable : differs (store.getKey registration.keyDocument.keyId)
          registration.keyDocument = false := by
        rw [freeKey]
        rfl
      let next := registered registration (nowIso draws.clock)
        (draws.ulids index).1 (draws.ulids index).2 store
      have isRun : (registerElement draws index
          (fleetEntry (bindingOf agent signed))).run MemoryStore.handle
            store =
          (.ok (recordOf registration (nowIso draws.clock))
            registration.keyDocument registration.manifest, next) :=
        registerAgent_published isAdmitted usable free
      have grows : Extends store next :=
        extends_registered _ _ _ usable free
      have keepsEvents : store.events <+: next.events :=
        events_registered registration _ _ _ store
      have readyRest : FleetReady input draws.clock next rest :=
        ready.rest issuable _ _
      obtain ⟨bindings, signsRest, sameLength, areAccepted, areCreated,
        growsRest, keepsRest, areStored⟩ :=
          @inductionHypothesis (index + 1) _ readyRest
      refine
        ⟨bindingOf agent signed :: bindings, ?_, ?_, ?_, ?_, ?_, ?_, ?_⟩
      · simp only [signAgentFleet, except_bind_eq_ok_iff]
        exact ⟨signed, signs, bindings, signsRest, rfl⟩
      · rw [List.length_cons, sameLength, List.length_cons]
      · refine allAccepted_cons_iff.mpr ⟨?_, ?_⟩
        · rw [isRun]
          exact ⟨_, _, _, rfl⟩
        · rw [isRun]
          exact areAccepted
      · rw [List.map_cons, registerInOrder_run_cons, isRun]
        dsimp only
        rw [createdIds_ok, areCreated, List.map_cons]
        exact congrArg (· :: _) issuable.agentId
      · rw [List.map_cons, registerInOrder_run_cons, isRun]
        exact grows.trans growsRest
      · rw [List.map_cons, registerInOrder_run_cons, isRun]
        exact keepsEvents.trans keepsRest
      · rw [List.map_cons, registerInOrder_run_cons, isRun]
        refine List.forall_mem_cons.mpr ⟨?_, areStored⟩
        refine StoredAsIssued.mono ⟨manifest, issuable, ?_, ?_⟩ growsRest
        · refine (getAgent_registered _ _ _ _ _ _).trans (if_pos rfl)
        · refine (getKey_registered _ _ _ _ _ _).trans (if_pos rfl)

/-- A fleet of at most twenty-five agents that is ready is signed in the
browser, and what the page then posts is registered as a whole: the answer
lists each agent, the documents and the events that were stored stay, and the
envelope of each agent has a proof that checks for the ninety days from its
signing. -/
theorem fleet_bound
    (correct : Ed25519Correct)
    (hashLength : ∀ bytes, (Platform.sha256 bytes).length = 32)
    (seedLength : seed.length = 32) {draws : BatchDraws}
    {store : MemoryStore} {fleet : List FleetAgent}
    (ready : FleetReady input draws.clock store fleet)
    (nonempty : fleet ≠ []) (bounded : fleet.length ≤ MAX_BATCH_SIZE)
    {domain : JsString} (named : domain ≠ []) :
    ∃ bindings answer final,
      signAgentFleet (generateKeyPair seed) input fleet = .ok bindings ∧
      (postBind (some (fleetBody domain bindings)) draws).run
          MemoryStore.handle store = (.created answer, final) ∧
      answer.agents.map (·.agentId) = fleet.map issuedAgentId ∧
      Extends store final ∧
      store.events <+: final.events ∧
      ∀ agent ∈ fleet, ∀ now instant, dateParse now = some instant →
        agent.now ≤ instant → instant ≤ agent.now + NINETY_DAYS →
          ProofChecks final (issuedAgentId agent) now := by
  obtain ⟨bindings, signs, sameLength, areAccepted, areCreated, grows,
    keepsEvents, areStored⟩ := @FleetReady.registers _ _ _ correct hashLength seedLength
      draws 0 _ _ ready
  have passes : PassesChecks (fleetBody domain bindings) domain
      (bindings.map fleetEntry) :=
    { isDomain := rfl
      named := named
      isAgents := rfl
      nonempty := by
        intro isEmpty
        have noBindings := List.map_eq_nil_iff.mp isEmpty
        rw [noBindings] at sameLength
        exact nonempty (List.eq_nil_of_length_eq_zero sameLength.symm)
      bounded := by
        rw [List.length_map, sameLength]
        exact bounded }
  obtain ⟨entries, areEntries, onward⟩ := bindAgents_accepted areAccepted
  obtain ⟨isRun, -⟩ := onward domain [] []
  rw [List.append_nil] at isRun
  let answer : BindCreated := {
    domain := domain
    level := "L1_REGISTERED"
    agents := entries
    persisted := true
    disclosures := L1_DISCLOSURES }
  refine ⟨bindings, answer, _, signs, ?_, ?_, grows, keepsEvents, ?_⟩
  · rw [postBind_of_passes passes, isRun]
    rfl
  · exact areEntries.trans areCreated
  · intro agent isMember now instant isNow notBefore notAfter
    obtain ⟨manifest, issuable, isAgent, isKey⟩ := areStored agent isMember
    have registrable := issuable.registrable correct hashLength seedLength
    have isId : (issuedRegistration seed input agent
        manifest).manifest.agentId = issuedAgentId agent :=
      issuable.agentId
    rw [← isId, proofChecks_iff registrable isAgent]
    have keyFound : ((registerInOrder draws 0 (bindings.map fleetEntry)).run
        MemoryStore.handle store).2.getKey (issuedRegistration seed input
          agent manifest).proof.keyId = some (issuedRegistration seed input
            agent manifest).keyDocument :=
      isKey
    rw [keyFound, checkProof_recordOf_iff registrable]
    have isCreated := dateParse_isoString issuable.year
    have isExpires := dateParse_isoString issuable.later
    have admits : windowAdmits now (isoString agent.now)
        (isoString (agent.now + NINETY_DAYS)) := by
      unfold windowAdmits
      rw [isNow, isCreated, isExpires]
      simp only [dateLess_some, decide_eq_false_iff_not]
      omega
    exact admits

end Fleet

/-! ## The sample fleet -/

theorem forall_mem_pair
    {Element : Type*} {property : Element → Prop} {first second : Element} :
    (∀ element ∈ [first, second], property element) ↔
      property first ∧ property second := by
  rw [List.forall_mem_cons, List.forall_mem_singleton]

/-- Agents of the sample operator, signed a minute apart. -/
def firstAgent : FleetAgent where
  agentId := units "agent_1"
  agentName := units "Sarah"
  now := 1789257600000
  agentDraw := { sampleAgentDraw with time := 1789257600000 }
  keyDraw := { sampleKeyDraw with time := 1789257600000 }

def secondAgent : FleetAgent where
  agentId := units "agent_2"
  agentName := units "Sunny"
  now := 1789257660000
  agentDraw := { sampleKeyDraw with time := 1789257660000 }
  keyDraw := { sampleAgentDraw with time := 1789257660000 }

def firstAgentId : JsString := units "agenid:01M2C10K00QZ9X6V7R4T8N2W5Y"

def secondAgentId : JsString := units "agenid:01M2C12DK0XK2P7VBN6TDR8HWE"

def firstKeyId : JsString := units "agenid:key:01M2C10K00XK2P7VBN6TDR8HWE"

def secondKeyId : JsString := units "agenid:key:01M2C12DK0QZ9X6V7R4T8N2W5Y"

theorem issuedAgentId_firstAgent :
    issuedAgentId firstAgent = firstAgentId := by
  decide

theorem issuedAgentId_secondAgent :
    issuedAgentId secondAgent = secondAgentId := by
  decide

theorem issuedKeyId_firstAgent : issuedKeyId firstAgent = firstKeyId := by
  decide

theorem issuedKeyId_secondAgent : issuedKeyId secondAgent = secondKeyId := by
  decide

/-- The digest of the manifest of an agent, and the signature of its proof. -/
def firstDigest : List UInt8 :=
  [0x86, 0xb1, 0x69, 0x0f, 0x43, 0xbf, 0x40, 0x4e,
    0x7a, 0x7e, 0x98, 0x59, 0xef, 0x24, 0x31, 0x25,
    0x11, 0x01, 0x7b, 0x43, 0x62, 0x8f, 0x70, 0x56,
    0x69, 0xee, 0xc5, 0x41, 0x05, 0x8d, 0x0e, 0xc3]

def secondDigest : List UInt8 :=
  [0x70, 0xd6, 0xb3, 0x97, 0xdd, 0x1d, 0xfc, 0x4b,
    0xac, 0x5e, 0x8f, 0x92, 0xaf, 0xe6, 0x3b, 0x08,
    0x90, 0x70, 0xdb, 0x97, 0x06, 0xfc, 0xf2, 0x99,
    0xc8, 0x42, 0x25, 0x68, 0x60, 0xf3, 0x9c, 0x68]

def firstSignature : List UInt8 :=
  b64uDecode (units <|
    "YHfoYHqao6ATwO1gjve3BR5PCGgK0ZDPd1iXh5rMHKKjPQoNTodRTfW4JB9qiepa" ++
      "tK4RzdMUd5czgyaZekj0BQ")

def secondSignature : List UInt8 :=
  b64uDecode (units <|
    "u5Cqed-4qMBlFIxGUK2yecHmEm7sbWE-GGNKAQJRDtQ00kw387hzmcZhBBfkQnKY" ++
      "Dj35JICzmlBTRySG9mChAQ")

theorem length_firstDigest : firstDigest.length = 32 :=
  rfl

theorem length_secondDigest : secondDigest.length = 32 :=
  rfl

theorem length_firstSignature : firstSignature.length = 64 := by
  decide

theorem length_secondSignature : secondSignature.length = 64 := by
  decide

/-- The runtime on the sample fleet. -/
@[reducible]
def fleetPlatform : SigningPlatform :=
  recordedPlatform
    [⟨manifestOf firstAgentId (units "Sarah") sampleInput, firstDigest,
        length_firstDigest⟩,
      ⟨manifestOf secondAgentId (units "Sunny") sampleInput, secondDigest,
        length_secondDigest⟩]
    [⟨(issuedPayload firstAgentId firstKeyId (hex firstDigest)
          1789257600000).toJson, firstSignature, length_firstSignature⟩,
      ⟨(issuedPayload secondAgentId secondKeyId (hex secondDigest)
          1789257660000).toJson, secondSignature, length_secondSignature⟩]

def fleetDraws : BatchDraws where
  clock := sampleClock
  ulids index := (generateUlid ⟨1789344000000 + index, sampleKeyDraw.random,
      sampleKeyDraw.isDrawn⟩,
    generateUlid ⟨1789344000000 + index, sampleAgentDraw.random,
      sampleAgentDraw.isDrawn⟩)

/-- A registry that holds an agent of the operator, its key and two events. -/
def fleetStore [Platform] : MemoryStore :=
  registered sampleRegistration (nowIso sampleClock)
    (units "01J8Z3Q7B4MW6XN2VR9TDK5HCE")
    (units "01J8Z3Q7B4MW6XN2VR9TDK5HCF") .empty

/-- The sample manifest under another identifier and name. -/
def renamedManifest (agentId name : JsString) : Manifest :=
  { sampleManifest with
    agentId := agentId
    identity := { sampleManifest.identity with name := name } }

theorem fleetReady :
    letI := fleetPlatform
    FleetReady sampleInput fleetDraws.clock fleetStore
      [firstAgent, secondAgent] := by
  let := fleetPlatform
  have isFirst : Manifest.schema.accepts (some (manifestOf
      (issuedAgentId firstAgent) firstAgent.nameOr sampleInput)) =
        some (renamedManifest firstAgentId (units "Sarah")) := by
    rw [issuedAgentId_firstAgent]
    rfl
  have isSecond : Manifest.schema.accepts (some (manifestOf
      (issuedAgentId secondAgent) secondAgent.nameOr sampleInput)) =
        some (renamedManifest secondAgentId (units "Sunny")) := by
    rw [issuedAgentId_secondAgent]
    rfl
  have year : ∀ agent ∈ [firstAgent, secondAgent],
      FourDigitYear agent.now ∧ FourDigitYear (agent.now + NINETY_DAYS) ∧
        FourDigitYear agent.keyDraw.time := by
    unfold FourDigitYear
    decide
  have freeAgent : ∀ agentId, agentId ≠ sampleManifest.agentId →
      fleetStore.getAgent agentId = none := by
    intro agentId distinct
    exact (getAgent_registered _ _ _ _ _ _).trans (if_neg distinct)
  have freeKey : ∀ keyId, keyId ≠ sampleOperatorKey.keyId →
      fleetStore.getKey keyId = none := by
    intro keyId distinct
    exact (getKey_registered _ _ _ _ _ _).trans (if_neg distinct)
  obtain ⟨firstYear, secondYear⟩ := forall_mem_pair.mp year
  refine
    { issuable := forall_mem_pair.mpr
        ⟨⟨_, isFirst, firstYear.1, firstYear.2.1, firstYear.2.2⟩,
          ⟨_, isSecond, secondYear.1, secondYear.2.1, secondYear.2.2⟩⟩
      notAhead := forall_mem_pair.mpr (by decide)
      notOver := forall_mem_pair.mpr (by decide)
      freeAgents := forall_mem_pair.mpr ⟨freeAgent _ ?_, freeAgent _ ?_⟩
      freeKeys := forall_mem_pair.mpr ⟨freeKey _ ?_, freeKey _ ?_⟩
      agentIds := ?_
      keyIds := ?_ }
  · rw [issuedAgentId_firstAgent]
    decide
  · rw [issuedAgentId_secondAgent]
    decide
  · rw [issuedKeyId_firstAgent]
    decide
  · rw [issuedKeyId_secondAgent]
    decide
  · rw [List.map_cons, List.map_cons, issuedAgentId_firstAgent,
      issuedAgentId_secondAgent]
    decide
  · rw [List.map_cons, List.map_cons, issuedKeyId_firstAgent,
      issuedKeyId_secondAgent]
    decide

/-- The two agents are signed and registered in their order beside the agent
that is there, and both proofs still check ninety days later. -/
theorem fleet_bound_sample :
    letI := fleetPlatform
    ∃ bindings answer final,
      signAgentFleet (generateKeyPair sampleSigningKey.privateKey)
          sampleInput [firstAgent, secondAgent] = .ok bindings ∧
      (postBind (some (fleetBody (units "acmemedical.com") bindings))
          fleetDraws).run MemoryStore.handle fleetStore =
        (.created answer, final) ∧
      answer.agents.map (·.agentId) = [firstAgentId, secondAgentId] ∧
      final.getAgent sampleManifest.agentId =
        some (recordOf sampleRegistration (nowIso sampleClock)) ∧
      fleetStore.events <+: final.events ∧
      ∀ agentId ∈ [firstAgentId, secondAgentId],
        ProofChecks final agentId (units "2026-12-12T00:00:00.000Z") := by
  let := fleetPlatform
  have isNow : dateParse (units "2026-12-12T00:00:00.000Z") =
      some 1797033600000 := by
    decide
  have seedLength : sampleSigningKey.privateKey.length = 32 := rfl
  obtain ⟨bindings, answer, final, signs, isRun, areListed, grows,
    keepsEvents, checks⟩ := @fleet_bound _ _ _ (recorded_correct _ _)
      (length_recordedResult _) seedLength fleetDraws _ _ fleetReady
        (List.cons_ne_nil _ _) (by decide) (units "acmemedical.com")
          (by decide)
  obtain ⟨checksFirst, checksSecond⟩ := forall_mem_pair.mp checks
  have isHeld : fleetStore.getAgent sampleManifest.agentId =
      some (recordOf sampleRegistration (nowIso sampleClock)) :=
    (getAgent_registered _ _ _ _ _ _).trans (if_pos rfl)
  refine ⟨bindings, answer, final, signs, isRun, ?_, grows.agents _ _ isHeld,
    keepsEvents, forall_mem_pair.mpr ⟨?_, ?_⟩⟩
  · rw [areListed, List.map_cons, List.map_cons, issuedAgentId_firstAgent,
      issuedAgentId_secondAgent, List.map_nil]
  · rw [← issuedAgentId_firstAgent]
    exact checksFirst _ _ isNow (by decide) (by decide)
  · rw [← issuedAgentId_secondAgent]
    exact checksSecond _ _ isNow (by decide) (by decide)

end AgenId.Web
