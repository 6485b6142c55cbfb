import AgenId.Library.Embedding
import AgenId.Registry.Levels
import AgenId.Registry.Recovery
import AgenId.Registry.Republication
import AgenId.Registry.Submission
import AgenId.Web.DirectoryRace
import AgenId.Web.SigningLog

/-!
# Authenticity of what is accepted

Holders of keys sign, and clients send registrations, keys, assertions and
consents, in any order and with their store calls interleaved.  A client may
send anything that it has no signature to forge for.  Whatever the registry
then shows as verified under a key that is held, and whatever the directory
holds that was accepted under one, the holder of the key has signed before.
-/

namespace AgenId.Web

open AgenId.Core
open AgenId.Ecma
open AgenId.Library
open AgenId.Registry
open AgenId.Validation
open AgenId.Validation.Schema

/-! ## Parties and their calls -/

/-- What a party does: it signs, a body arrives, or it calls the stores. -/
inductive WorldCall where
  | sign (act : Act)
  | receive (body : Option Json)
  | store (request : StoreCall)
  | directory (request : DirectoryCall)

/-- What a call of a party resolves to. -/
@[reducible]
def WorldCall.Reply : WorldCall → Type
  | .sign _ => Unit
  | .receive _ => Unit
  | .store request => request.Reply
  | .directory request => request.Reply

/-- What was signed, and the two stores. -/
structure World where
  acts : List Act
  registry : MemoryStore
  directory : MemoryDirectoryStore

/-- Nothing is signed or stored. -/
def World.empty : World := ⟨[], .empty, .empty⟩

/-- The exchanges of a party so far. -/
abbrev WorldHistory := List (Program.Exchange WorldCall.Reply)

/-- A body has arrived. -/
def Arrived (history : WorldHistory) (body : Option Json) : Prop :=
  ⟨.receive body, ()⟩ ∈ history

/-- The calls to the registry are calls of a party. -/
def storeCalls : Embedding StoreCall.Reply WorldCall.Reply where
  wrap := .store
  read := fun _ reply => reply

/-- The calls of a decision on a consent are calls of a party. -/
def directoryCalls : Embedding DirectoryCall.Reply WorldCall.Reply where
  wrap := .directory
  read := fun _ reply => reply

/-- What a party does, from its beginning. -/
inductive Party where
  | holder (acts : List Act)
  | client (request : Request)
  | applicant (posted : Posted)

/-- How a party ends. -/
inductive Ending where
  | signed
  | answered (answer : Answer)
  | decided (result : Except JsString ConsentResult)

/-- A program of a party. -/
abbrev WorldProgram := Program WorldCall.Reply Ending

/-- The program that signs objects one after another. -/
def signAll : List Act → WorldProgram
  | [] => .done .signed
  | act :: rest => .call (.sign act) fun _ => signAll rest

section Parties

variable [Platform]

/-- The program of a party, with the token of the registry. -/
def Party.program (authorityToken : Option JsString) :
    Party → WorldProgram
  | .holder acts => signAll acts
  | .client request =>
    .call (.receive request.body) fun _ =>
      (request.program authorityToken).embed storeCalls >>= fun answer =>
        pure (.answered answer)
  | .applicant posted =>
    .call (.receive posted.body) fun _ =>
      (applyDirectoryConsent posted.body posted.now).embed
        directoryCalls >>= fun result => pure (.decided result)

/-- How a world answers a call.  A call that throws ends the writes of its
party, which may also stop before it. -/
def World.handle : Program.Handler WorldCall.Reply World
  | .sign act, world => ((), { world with acts := act :: world.acts })
  | .receive _, world => ((), world)
  | .store request, world =>
    let (reply, registry) := MemoryStore.handle request world.registry
    (reply, { world with registry := registry })
  | .directory (.getAgent agentId), world =>
    (.fulfilled (world.registry.getAgent agentId), world)
  | .directory (.getKey keyId), world =>
    (.fulfilled (world.registry.getKey keyId), world)
  | .directory (.get agentId), world =>
    (.fulfilled (world.directory.get agentId), world)
  | .directory (.put record), world =>
    (.fulfilled (), { world with directory := world.directory.put record })

end Parties

/-- The calls that may be made: held keys sign only with the signers, and what
arrives may be sent. -/
def Allowed [SigningPlatform] (held : List UInt8 → Prop) (world : World)
    (_ : WorldHistory) : WorldCall → Prop
  | .sign act => act.Made
  | .receive body => Sendable held world.acts body
  | _ => True

section Authentic

variable [Platform]

/-! ## What a party has before it writes -/

/-- A consent was read from a body, and the agent and the key that it names
were read from the registry and have signed it. -/
structure Approved (body : Option Json) (history : DirectoryExchanges)
    (record : DirectoryRecord) : Prop where
  isParsed : parseConsent body = .ok record.consent
  agentId_eq : record.agentId = record.consent.agentId
  isSigned : ∃ agent key,
    ⟨.getAgent record.consent.agentId, .fulfilled (some agent)⟩ ∈ history ∧
      ⟨.getKey record.consent.keyId, .fulfilled (some key)⟩ ∈ history ∧
      SignedByOperator record.consent agent key

theorem Approved.append
    {body : Option Json} {history : DirectoryExchanges}
    {record : DirectoryRecord} (approved : Approved body history record)
    (exchange : Program.Exchange DirectoryCall.Reply) :
    Approved body (history ++ [exchange]) record := by
  obtain ⟨agent, key, isAgent, isKey, signed⟩ := approved.isSigned
  exact ⟨approved.isParsed, approved.agentId_eq, agent, key,
    List.mem_append_left _ isAgent, List.mem_append_left _ isKey, signed⟩

/-- A record is written only when its consent is approved. -/
def WritesApproved (body : Option Json) (history : DirectoryExchanges) :
    DirectoryCall → Prop
  | .put record => Approved body history record
  | _ => True

/-- What was read of an operator was answered by the registry. -/
def OperatorRead (consent : DirectoryConsent) (history : DirectoryExchanges) :
    Settled (Option (AgentRecord × Option KeyDocument)) → Prop
  | .fulfilled (some (agent, some key)) =>
    ⟨.getAgent consent.agentId, .fulfilled (some agent)⟩ ∈ history ∧
      ⟨.getKey consent.keyId, .fulfilled (some key)⟩ ∈ history
  | _ => True

theorem readOperator_reads (body : Option Json) (consent : DirectoryConsent) :
    (readOperator consent).Promises (WritesApproved body)
      (OperatorRead consent) [] := by
  unfold readOperator directoryCall
  simp only [Program.perform_bind]
  refine ⟨trivial, ?_⟩
  intro agent
  cases agent with
  | rejected => trivial
  | fulfilled found =>
      cases found with
      | none => trivial
      | some agent =>
          refine ⟨trivial, ?_⟩
          intro key
          cases key with
          | rejected => trivial
          | fulfilled key =>
              cases key with
              | none => trivial
              | some key =>
                  constructor
                  · simp
                  · simp

theorem recordConsent_approved
    {body : Option Json} {consent : DirectoryConsent} {agent : AgentRecord}
    {key : KeyDocument} {history : DirectoryExchanges}
    (isParsed : parseConsent body = .ok consent)
    (isRead : OperatorRead consent history
      (.fulfilled (some (agent, some key))))
    (signed : SignedByOperator consent agent key) (now : Option Int) :
    (recordConsent consent now).Promises (WritesApproved body)
      (fun _ _ => True) history := by
  unfold recordConsent directoryCall
  simp only [Program.perform_bind]
  refine ⟨trivial, ?_⟩
  intro read
  cases read with
  | rejected => trivial
  | fulfilled previous =>
      dsimp only
      split
      · trivial
      · cases isRecord : consentRecord consent now with
        | error thrown => trivial
        | ok record =>
            obtain ⟨-, sameAgent, -, rfl, -, -⟩ :=
              consentRecord_eq_ok isRecord
            have approved : Approved body history record :=
              ⟨isParsed, sameAgent, agent, key, isRead.1, isRead.2, signed⟩
            refine ⟨approved.append _, ?_⟩
            intro written
            cases written with
            | rejected => trivial
            | fulfilled => trivial

/-- A decision writes the record of an approved consent only. -/
theorem applyDirectoryConsent_approved
    (body : Option Json) (now : Option Int) :
    (applyDirectoryConsent body now).Promises (WritesApproved body)
      (fun _ _ => True) [] := by
  unfold applyDirectoryConsent
  cases isParsed : parseConsent body with
  | error message => trivial
  | ok consent =>
      dsimp only
      split
      · trivial
      · apply Program.Promises.bind (readOperator_reads body consent)
        intro history operator isRead
        cases operator with
        | rejected => trivial
        | fulfilled operator =>
            dsimp only
            cases isChecked : checkOperator consent operator with
            | error refused => trivial
            | ok passed =>
                obtain ⟨agent, key, rfl, signed⟩ :=
                  checkOperator_eq_ok_iff.mp isChecked
                exact recordConsent_approved isParsed isRead signed now

/-- The body of a request that submits a document has arrived. -/
def Submitted (history : WorldHistory) (document : Document) : Prop :=
  ∃ request : Request, Arrived history request.body ∧
    request.Submits document

/-- What has arrived before a party writes: a body that submits what is
written, or whose consent was approved. -/
def Backed (history : WorldHistory) : WorldCall → Prop
  | .store request => request.WritesOnly (Submitted history)
  | .directory (.put record) => ∃ body inner, Arrived history body ∧
    Program.Reads directoryCalls history inner ∧ Approved body inner record
  | _ => True

omit [Platform] in
theorem Arrived.append
    {history : WorldHistory} {body : Option Json}
    (arrived : Arrived history body)
    (exchange : Program.Exchange WorldCall.Reply) :
    Arrived (history ++ [exchange]) body :=
  List.mem_append_left _ arrived

theorem signAll_backed (acts : List Act) (history : WorldHistory) :
    (signAll acts).Promises Backed (fun _ _ => True) history := by
  induction acts generalizing history with
  | nil => trivial
  | cons act rest inductionHypothesis =>
      exact ⟨trivial, fun _ => inductionHypothesis _⟩

/-- A body arrives, and the program that follows keeps its promises. -/
theorem arriving_backed
    {Call : Type} {Reply : Call → Type} {Result : Type}
    {into : Embedding Reply WorldCall.Reply} {body : Option Json}
    {program : Program Reply Result}
    {before : List (Program.Exchange Reply) → Call → Prop}
    (promises : program.Promises before (fun _ _ => True) [])
    (isBacked : ∀ outer inner call, Arrived outer body →
      Program.Reads into outer inner → before inner call →
        Backed outer (into.wrap call))
    (ending : Result → Ending) :
    Program.Promises Backed (fun _ _ => True)
      (.call (.receive body) fun _ =>
        program.embed into >>= fun result => pure (ending result)) [] := by
  refine ⟨trivial, fun reply => ?_⟩
  have reads : Program.Reads into [⟨.receive body, reply⟩] [] :=
    .other .nil _
  have arrived : Arrived [⟨.receive body, reply⟩] body :=
    List.mem_singleton.mpr rfl
  have embedded := promises.embed
    (fun _ exchange arrived => Arrived.append arrived exchange) isBacked
    arrived reads
  exact embedded.bind fun _ _ _ => trivial

/-- Whatever a party writes is backed by what has arrived. -/
theorem Party.backed (authorityToken : Option JsString) (party : Party) :
    (party.program authorityToken).Promises Backed (fun _ _ => True) [] := by
  cases party with
  | holder acts => exact signAll_backed acts []
  | client request =>
      have writes := (request_writes authorityToken request).promises []
      apply arriving_backed writes
      intro outer inner call arrived _ writesOnly
      have backed : call.WritesOnly (Submitted outer) :=
        writesOnly.mono fun document submits => ⟨request, arrived, submits⟩
      exact backed
  | applicant posted =>
      apply arriving_backed
        (applyDirectoryConsent_approved posted.body posted.now)
      intro outer inner call arrived reads isApproved
      cases call with
      | put record => exact ⟨posted.body, inner, arrived, reads, isApproved⟩
      | getAgent | getKey | get => trivial

/-! ## Authentic documents -/

/-- A document is read back as it is, and what is signed in it is genuine. -/
def DocumentAuthentic (held : List UInt8 → Prop) (acts : List Act) :
    Document → Prop
  | .agent record =>
    ManifestProof.schema.accepts (some record.proof.toJson) =
        some record.proof ∧
      Genuine held acts .manifestProof record.proof.toJson
        record.proof.signature
  | .key doc => KeyDocument.schema.accepts (some doc.toJson) = some doc
  | .assertion issued =>
    VerificationAssertion.schema.accepts (some issued.toJson) =
        some issued ∧
      Genuine held acts .verificationAssertion issued.toJson issued.signature

variable {held : List UInt8 → Prop} {acts later : List Act}

theorem DocumentAuthentic.mono
    {document : Document}
    (authentic : DocumentAuthentic held acts document)
    (grows : acts ⊆ later) : DocumentAuthentic held later document := by
  cases document with
  | agent record => exact ⟨authentic.1, authentic.2.mono grows⟩
  | key doc => exact authentic
  | assertion issued => exact ⟨authentic.1, authentic.2.mono grows⟩

/-- The text of a document that was read from a member of a body is inside the
body. -/
theorem within_body
    {α : Type} {schema : Schema α} {encode : α → Json}
    (faithful : Core.Faithful schema fun value => some (encode value))
    {body : Option Json} (sendable : Sendable held acts body) {name : String}
    {document : α}
    (accepted : schema.accepts (body.bind (Json.get? (units name))) =
      some document) {member : String} {text : JsString}
    (isText : (encode document).get? (units member) = some (.string text)) :
    ∃ value ∈ body, Within (.string text) value := by
  have wellFormed : ∀ found ∈ body.bind (Json.get? (units name)),
      WellFormed found := by
    intro found isFound
    obtain ⟨value, isBody, isMember⟩ := Option.bind_eq_some_iff.mp isFound
    exact wellFormed_of_get (sendable value isBody).1 isMember
  have related := faithful _ document wellFormed accepted
  cases isFound : body.bind (Json.get? (units name)) with
  | none =>
      rw [isFound] at related
      cases related
  | some found =>
      rw [isFound] at related
      obtain ⟨value, isBody, isMember⟩ := Option.bind_eq_some_iff.mp isFound
      cases related with
      | some same =>
          exact ⟨value, isBody, within_trans (within_text same isText)
            (within_of_get isMember)⟩

end Authentic

section Runs

variable [SigningPlatform] {held : List UInt8 → Prop} {acts : List Act}

/-- Whatever a body that may be sent submits is authentic. -/
theorem submits_authentic
    (made : ∀ act ∈ acts, act.Made) {request : Request}
    (sendable : Sendable held acts request.body) {document : Document}
    (submits : request.Submits document) :
    DocumentAuthentic held acts document := by
  have ofRegistration : ∀ registration ts,
      Registers request.body registration →
        DocumentAuthentic held acts (.agent (recordOf registration ts)) ∧
          DocumentAuthentic held acts (.key registration.keyDocument) := by
    intro registration ts registers
    obtain ⟨value, isBody, within⟩ := @within_body _ _ _ _ _ _
      faithful_ManifestProof _ sendable _ _ registers.proof "signature" _ rfl
    have shaped : Shaped .manifestProof registration.proof.toJson :=
      ⟨wellFormed_ManifestProof _, inDomain_ManifestProof _, _, rfl, rfl⟩
    exact ⟨⟨rereads_ManifestProof _ _ registers.proof,
      genuine_of_unforged made (sendable value isBody).2 shaped within⟩,
      rereads_KeyDocument _ _ registers.keyDocument⟩
  cases request with
  | agents body clock ts keyUlid agentUlid =>
      obtain ⟨registration, accepted, rfl | rfl⟩ := submits
      · exact (ofRegistration _ ts (registers_of_accepts accepted)).1
      · exact (ofRegistration _ ts (registers_of_accepts accepted)).2
  | register body clock keyUlid agentUlid =>
      obtain ⟨registration, isRead, rfl | rfl⟩ := submits
      · exact (ofRegistration _ _ (registers_of_readBody isRead)).1
      · exact (ofRegistration _ (nowIso clock)
          (registers_of_readBody isRead)).2
  | authorityKeys authorization body =>
      obtain ⟨doc, accepted, rfl⟩ := submits
      exact rereads_KeyDocument _ _ accepted
  | assertions authorization agentId body clock occurredAt ulid =>
      obtain ⟨issued, accepted, rfl⟩ := submits
      have isMember := accepts_of_IssueAssertionBody accepted
      obtain ⟨value, isBody, within⟩ := @within_body _ _ _ _ _ _
        faithful_VerificationAssertion _ sendable _ _ isMember "signature" _
        rfl
      have shaped : Shaped .verificationAssertion issued.toJson :=
        ⟨wellFormed_VerificationAssertion _,
          inDomain_VerificationAssertion _, _, rfl, rfl⟩
      exact ⟨rereads_VerificationAssertion _ _ isMember,
        genuine_of_unforged made (sendable value isBody).2 shaped within⟩

/-- A parsed consent of a body that may be sent is genuine. -/
theorem consent_genuine
    (made : ∀ act ∈ acts, act.Made) {body : Option Json}
    (sendable : Sendable held acts body) {consent : DirectoryConsent}
    (isParsed : parseConsent body = .ok consent) :
    InDomain (.object consent.object) ∧
      Genuine held acts .directoryConsent (.object consent.object)
        consent.signature := by
  obtain ⟨rfl, isConsent⟩ := isConsent_of_parseConsent isParsed
  obtain ⟨wellFormed, unforged⟩ := sendable _ rfl
  have shaped : Shaped .directoryConsent (.object consent.object) :=
    shaped_of_accepts wellFormed ⟨consent, isParsed⟩
  exact ⟨shaped.inDomain, genuine_of_unforged made unforged shaped
    (.member (mem_of_lookup isConsent.isSignature) .itself)⟩

/-! ## The invariant of a world -/

/-- Parties in a world. -/
abbrev WorldSystem (Index : Type*) :=
  System WorldCall.Reply World Ending Index

variable {Index : Type*} [DecidableEq Index]

/-- The parties before any of them has begun. -/
def worldOf (authorityToken : Option JsString) (parties : Index → Party) :
    WorldSystem Index :=
  System.start .empty fun index => (parties index).program authorityToken

/-- A record was accepted: the registry answered with the agent and the key
that its consent names, and they have signed it. -/
def AcceptedRow (system : WorldSystem Index) (row : DirectoryRecord) : Prop :=
  ∃ agent key,
    system.Made ⟨.directory (.getAgent row.consent.agentId),
      .fulfilled (some agent)⟩ ∧
      system.Made ⟨.directory (.getKey row.consent.keyId),
        .fulfilled (some key)⟩ ∧
      SignedByOperator row.consent agent key

/-- Only signers have signed, what arrived might be sent, and what is stored
is authentic. -/
structure AuthenticWorld (held : List UInt8 → Prop)
    (system : WorldSystem Index) : Prop where
  made : ∀ act ∈ system.state.acts, act.Made
  arrived : ∀ index body, Arrived (system.processes index).history body →
    Sendable held system.state.acts body
  documents : ∀ document, Holds system.state.registry document →
    DocumentAuthentic held system.state.acts document
  rows : ∀ agentId row, system.state.directory.get agentId = some row →
    row.agentId = agentId ∧ row.consent.agentId = agentId ∧
      AcceptedRow system row ∧ InDomain (.object row.consent.object) ∧
      Genuine held system.state.acts .directoryConsent
        (.object row.consent.object) row.consent.signature

omit [SigningPlatform] [DecidableEq Index] in
theorem authenticWorld_start
    [SigningPlatform] (authorityToken : Option JsString)
    (parties : Index → Party) :
    AuthenticWorld held (worldOf authorityToken parties) where
  made act isAct := by cases isAct
  arrived index body arrived := by cases arrived
  documents document isHeld := by
    cases document <;>
    · obtain ⟨_, isFound⟩ := isHeld
      cases isFound
  rows agentId row isHeld := by cases isHeld

/-- What a call has made stays made. -/
theorem AcceptedRow.advance
    {system : WorldSystem Index} {row : DirectoryRecord}
    (accepted : AcceptedRow system row) (index : Index)
    (request : WorldCall) (next : request.Reply → WorldProgram) :
    AcceptedRow (system.advance World.handle index request next) row := by
  obtain ⟨agent, key, isAgent, isKey, signed⟩ := accepted
  exact ⟨agent, key, System.made_advance_iff.mpr (Or.inl isAgent),
    System.made_advance_iff.mpr (Or.inl isKey), signed⟩

theorem acts_grow (request : WorldCall) (world : World) :
    world.acts ⊆ (World.handle request world).2.acts := by
  cases request with
  | sign act => exact List.subset_cons_self act world.acts
  | receive body => exact List.Subset.refl _
  | store request => exact List.Subset.refl _
  | directory request => cases request <;> exact List.Subset.refl _

theorem arrived_advance
    {system : WorldSystem Index} {index : Index} {request : WorldCall}
    {next : request.Reply → WorldProgram} {other : Index}
    {body : Option Json}
    (arrived : Arrived ((system.advance World.handle index request
      next).processes other).history body) :
    Arrived (system.processes other).history body ∨
      request = .receive body := by
  by_cases same : other = index
  · subst same
    simp only [System.advance, Function.update_self, Arrived,
      List.mem_append, List.mem_singleton] at arrived
    rcases arrived with earlier | isLast
    · exact Or.inl earlier
    · exact Or.inr (congrArg Sigma.fst isLast).symm
  · simp only [System.advance, Function.update_of_ne same] at arrived
    exact Or.inl arrived

section Step

variable {system : WorldSystem Index} {index : Index} {request : WorldCall}
  (authentic : AuthenticWorld held system)
  (isAllowed : Allowed held system.state
    (system.processes index).history request)
  (backed : Backed (system.processes index).history request)

include authentic isAllowed

omit [DecidableEq Index] in
theorem AuthenticWorld.made_step :
    ∀ act ∈ (World.handle request system.state).2.acts, act.Made := by
  cases request with
  | sign act => exact List.forall_mem_cons.mpr ⟨isAllowed, authentic.made⟩
  | receive body => exact authentic.made
  | store request => exact authentic.made
  | directory request => cases request <;> exact authentic.made

include backed

omit [DecidableEq Index] in
theorem AuthenticWorld.documents_step :
    ∀ document, Holds (World.handle request system.state).2.registry
        document →
      DocumentAuthentic held (World.handle request system.state).2.acts
        document := by
  intro document isHeld
  cases request with
  | sign act =>
      exact (authentic.documents document isHeld).mono
        (List.subset_cons_self act _)
  | receive body => exact authentic.documents document isHeld
  | store request =>
      have writes : request.WritesOnly
          (DocumentAuthentic held system.state.acts) := by
        apply StoreCall.WritesOnly.mono backed
        rintro submitted ⟨sent, arrived, submits⟩
        exact submits_authentic authentic.made
          (authentic.arrived index _ arrived) submits
      exact holds_handle authentic.documents writes document isHeld
  | directory request =>
      cases request <;> exact authentic.documents document isHeld

theorem AuthenticWorld.rows_step (next : request.Reply → WorldProgram) :
    ∀ agentId row,
      (World.handle request system.state).2.directory.get agentId =
          some row →
        row.agentId = agentId ∧ row.consent.agentId = agentId ∧
          AcceptedRow (system.advance World.handle index request next) row ∧
          InDomain (.object row.consent.object) ∧
          Genuine held (World.handle request system.state).2.acts
            .directoryConsent (.object row.consent.object)
            row.consent.signature := by
  intro agentId row isHeld
  have earlier : system.state.directory.get agentId = some row →
      row.agentId = agentId ∧ row.consent.agentId = agentId ∧
        AcceptedRow (system.advance World.handle index request next) row ∧
        InDomain (.object row.consent.object) ∧
        Genuine held (World.handle request system.state).2.acts
          .directoryConsent (.object row.consent.object)
          row.consent.signature := by
    intro isFound
    obtain ⟨isAgent, isConsent, accepted, inDomain, genuine⟩ :=
      authentic.rows agentId row isFound
    exact ⟨isAgent, isConsent, accepted.advance index request next, inDomain,
      genuine.mono (acts_grow request system.state)⟩
  cases request with
  | sign act => exact earlier isHeld
  | receive body => exact earlier isHeld
  | store request => exact earlier isHeld
  | directory request =>
      cases request with
      | getAgent | getKey | get => exact earlier isHeld
      | put record =>
          by_cases same : agentId = record.agentId
          · subst same
            have isRow : record = row := by
              simpa [World.handle] using isHeld
            subst isRow
            obtain ⟨body, inner, arrived, reads, approved⟩ := backed
            obtain ⟨agent, key, isAgent, isKey, signed⟩ := approved.isSigned
            obtain ⟨agentReply, readsAgent, agentMade⟩ := reads.made isAgent
            obtain ⟨keyReply, readsKey, keyMade⟩ := reads.made isKey
            obtain rfl : agentReply = .fulfilled (some agent) := readsAgent
            obtain rfl : keyReply = .fulfilled (some key) := readsKey
            have accepted : AcceptedRow system record :=
              ⟨agent, key, ⟨index, agentMade⟩, ⟨index, keyMade⟩, signed⟩
            exact ⟨rfl, approved.agentId_eq.symm,
              accepted.advance index _ next,
              consent_genuine authentic.made
                (authentic.arrived index body arrived) approved.isParsed⟩
          · have asBefore := system.state.directory.get_put_of_ne same
            exact earlier (asBefore ▸ isHeld)

/-- A world stays authentic under every call that is allowed and backed. -/
theorem AuthenticWorld.advance (next : request.Reply → WorldProgram) :
    AuthenticWorld held
      (system.advance World.handle index request next) where
  made := authentic.made_step isAllowed
  arrived := by
    intro other body arrived
    rcases arrived_advance arrived with earlier | rfl
    · exact (authentic.arrived other body earlier).mono
        (acts_grow request system.state)
    · exact isAllowed
  documents := authentic.documents_step isAllowed backed
  rows := authentic.rows_step isAllowed backed next

end Step

/-- A world that is reached from parties is authentic. -/
theorem authenticWorld_of_reaches
    {authorityToken : Option JsString} {parties : Index → Party}
    {final : WorldSystem Index}
    (reaches : System.Reaches World.handle (Allowed held)
      (worldOf authorityToken parties) final) :
    AuthenticWorld held final :=
  reaches.keeps (fun index => (parties index).backed authorityToken)
    (authenticWorld_start authorityToken parties)
    fun _ _ _ next isAllowed backed authentic =>
      authentic.advance isAllowed backed next

/-! ## What verifies was made -/

theorem DocumentAuthentic.authored_proof
    {record : AgentRecord} {manifest : Manifest} {key : KeyDocument}
    (authentic : DocumentAuthentic held acts (.agent record))
    (keyAuthentic : DocumentAuthentic held acts (.key key))
    {now : JsString}
    (verifies : Succeeds (verifyManifestProof (some record.proof.toJson)
      (some manifest.toJson) (some key.toJson) now))
    (isHeld : held (b64uDecode key.publicKeyB64u)) :
    Authored acts (b64uDecode key.publicKeyB64u) .manifestProof
      record.proof.toJson := by
  obtain ⟨proof, read, doc, isProof, -, isDoc, bound, -⟩ :=
    (verifyManifestProof_succeeds_iff _ _ _ _).mp verifies
  obtain rfl : record.proof = proof :=
    Option.some.inj (authentic.1.symm.trans isProof)
  obtain rfl : key = doc :=
    Option.some.inj (keyAuthentic.symm.trans isDoc)
  exact authentic.2 _ isHeld bound.signed

theorem DocumentAuthentic.authored_assertion
    {issued : VerificationAssertion} {key : KeyDocument}
    {currentManifest : Option Json}
    (authentic : DocumentAuthentic held acts (.assertion issued))
    (keyAuthentic : DocumentAuthentic held acts (.key key))
    {now : JsString}
    (verifies : Succeeds (verifyVerificationAssertion (some issued.toJson)
      (some key.toJson) now currentManifest)) :
    key.role = .authority ∧ (held (b64uDecode key.publicKeyB64u) →
      Authored acts (b64uDecode key.publicKeyB64u) .verificationAssertion
        issued.toJson) := by
  obtain ⟨assertion, doc, isAssertion, isDoc, bound, -, -⟩ :=
    (verifyVerificationAssertion_succeeds_iff _ _ _ _).mp verifies
  obtain rfl : issued = assertion :=
    Option.some.inj (authentic.1.symm.trans isAssertion)
  obtain rfl : key = doc :=
    Option.some.inj (keyAuthentic.symm.trans isDoc)
  exact ⟨bound.role, fun isHeld => authentic.2 _ isHeld bound.signed⟩

omit [SigningPlatform] in
theorem buildEnvelope_proof
    [Platform] {answers : (request : StoreCall) → request.Reply}
    {record : AgentRecord} {now : JsString} {envelope : ResolutionEnvelope}
    (isEnvelope :
      (buildEnvelope record now).answered answers = .ok envelope) :
    envelope.proof = record.proof ∧
      envelope.operatorKeyDocument = keysOf answers record.proof.keyId ∧
      checkProof record (keysOf answers record.proof.keyId) now =
        .ok envelope.proofCheck := by
  obtain ⟨proofCheck, views, isCheck, -, isAnswered⟩ :=
    buildEnvelope_answered answers record now
  rw [isEnvelope] at isAnswered
  obtain ⟨path, -, rest⟩ := except_bind_eq_ok_iff.mp isAnswered.symm
  obtain ⟨url, -, isLast⟩ := except_bind_eq_ok_iff.mp rest
  obtain rfl := pure_eq_ok_iff.mp isLast
  exact ⟨rfl, rfl, isCheck⟩

/-- Whatever parties do, in any order and with their calls interleaved: an
envelope shows a proof as verified under a key that is held only if the holder
has made the proof; it shows a level above the first only by an assertion of
that level under an authority key, which the holder has made when the key is
held; and the directory holds only consents that were accepted under an
operator key, and that the holder has made when the key is held. -/
theorem accepted_documents_authored
    {authorityToken : Option JsString} {parties : Index → Party}
    {final : WorldSystem Index}
    (reaches : System.Reaches World.handle (Allowed held)
      (worldOf authorityToken parties) final) :
    (∀ agentId record now envelope,
      final.state.registry.getAgent agentId = some record →
      ((buildEnvelope record now).run MemoryStore.handle
        final.state.registry).1 = .ok envelope →
      (∀ key, envelope.proofCheck = .ok →
        envelope.operatorKeyDocument = some key →
        held (b64uDecode key.publicKeyB64u) →
          Authored final.state.acts (b64uDecode key.publicKeyB64u)
            .manifestProof envelope.proof.toJson) ∧
      (.L1_REGISTERED < envelope.level →
        ∃ (issued : VerificationAssertion) (key : KeyDocument),
          issued.level = envelope.level ∧ issued.subject = record.agentId ∧
          final.state.registry.getKey issued.keyId = some key ∧
          key.role = .authority ∧
          (held (b64uDecode key.publicKeyB64u) →
            Authored final.state.acts (b64uDecode key.publicKeyB64u)
              .verificationAssertion issued.toJson))) ∧
    ∀ agentId row, final.state.directory.get agentId = some row →
      row.consent.agentId = agentId ∧ ∃ agent key,
        final.Made ⟨.directory (.getAgent agentId),
          .fulfilled (some agent)⟩ ∧
        final.Made ⟨.directory (.getKey row.consent.keyId),
          .fulfilled (some key)⟩ ∧
        SignedByOperator row.consent agent key ∧
        (held (b64uDecode key.publicKeyB64u) →
          Authored final.state.acts (b64uDecode key.publicKeyB64u)
            .directoryConsent (.object row.consent.object)) := by
  have authentic := authenticWorld_of_reaches reaches
  refine ⟨?_, ?_⟩
  · intro agentId record now envelope isAgent isRun
    rw [buildEnvelope_run] at isRun
    have recordAuthentic := authentic.documents (.agent record)
      ⟨agentId, isAgent⟩
    constructor
    · intro key isOk isKey isHeld
      obtain ⟨sameProof, sameKey, isCheck⟩ := buildEnvelope_proof isRun
      have found : final.state.registry.getKey record.proof.keyId =
          some key := sameKey.symm.trans isKey
      rw [← sameKey, isKey, isOk] at isCheck
      have verifies := (map_ofResult_eq_ok_iff _).mp isCheck
      rw [sameProof]
      exact recordAuthentic.authored_proof
        (authentic.documents (.key key) ⟨_, found⟩) verifies isHeld
    · intro isHigher
      rcases (level_isGreatest isRun).2 with ⟨-, isFirst⟩ | isAttained
      · exact absurd isHigher (isFirst ▸ lt_irrefl _)
      · obtain ⟨issued, isPassing, sameLevel⟩ := isAttained
        obtain ⟨isListed, passes⟩ := List.mem_filter.mp isPassing
        obtain ⟨isSubject, assertionId, isStored⟩ :=
          mem_listAssertionsForSubject_iff.mp isListed
        obtain ⟨key, isKey, verifies⟩ := of_decide_eq_true passes
        have keyAuthentic := authentic.documents (.key key) ⟨_, isKey⟩
        have issuedAuthentic := authentic.documents (.assertion issued)
          ⟨assertionId, isStored⟩
        obtain ⟨isAuthority, authored⟩ :=
          issuedAuthentic.authored_assertion keyAuthentic verifies
        exact ⟨issued, key, sameLevel, isSubject, isKey, isAuthority,
          authored⟩
  · intro agentId row isHeld
    obtain ⟨-, isAgent, ⟨agent, key, agentMade, keyMade, signed⟩, inDomain,
      genuine⟩ := authentic.rows agentId row isHeld
    refine ⟨isAgent, agent, key, isAgent ▸ agentMade, keyMade, signed, ?_⟩
    intro keyHeld
    obtain ⟨signingInput, isInput, verifies⟩ := signed.verifies
    rw [signingInputOf_eq inDomain] at isInput
    obtain rfl := Except.ok.inj isInput
    exact genuine _ keyHeld verifies

end Runs

/-! ## The operator of the sample agent -/

/-- The runtime on the operator of the sample agent, which signs the sample
proof. -/
@[reducible]
def authoringPlatform : SigningPlatform :=
  holderPlatform sampleProof.toJson
    (b64uDecode sampleOperatorKey.publicKeyB64u)
    (b64uDecode sampleProof.signature)

/-- The signing of the sample proof. -/
def sampleAct : Act where
  publicKey := b64uDecode sampleOperatorKey.publicKeyB64u
  kind := .manifestProof
  object := sampleProof.toJson

/-- The operator key is held. -/
def operatorHeld : List UInt8 → Prop :=
  (· = b64uDecode sampleOperatorKey.publicKeyB64u)

/-- The request of the sample registration. -/
def sampleRegister : Request :=
  .register (some sampleRegistration.toJson) sampleClock
    (units "01J8Z3PKEY0000000000000000") (units "01J8Z3PAGENT00000000000000")

/-- The operator signs, and a client registers the agent. -/
def sampleParties (isClient : Bool) : Party :=
  if isClient then .client sampleRegister else .holder [sampleAct]

theorem sampleAct_made :
    letI := authoringPlatform
    sampleAct.Made := by
  let := authoringPlatform
  have isSignature : ∀ seed message : List UInt8,
      b64uEncode (SigningPlatform.ed25519Sign seed message) =
        sampleProof.signature := fun _ _ =>
    (by decide : b64uEncode (b64uDecode sampleProof.signature) =
      sampleProof.signature)
  let payload : ManifestProofPayload := {
    agentId := sampleProof.agentId
    manifestDigest := sampleProof.manifestDigest
    keyId := sampleProof.keyId
    createdAt := sampleProof.createdAt
    expiresAt := sampleProof.expiresAt }
  have signsPayload : signPayload sampleSigningKey.privateKey payload.toJson =
      .ok sampleProof.toJson := by
    refine (signPayload_eq_ok_iff
      (inDomain_ManifestProofPayload payload)).mpr ⟨rfl, ?_⟩
    rw [withSignature_proof, isSignature]
    rfl
  have signs : signManifestProof (some sampleManifest.toJson)
      sampleSigningKey sampleProof.createdAt sampleProof.expiresAt =
        .ok sampleProof := by
    simp only [signManifestProof, manifestDigestHex_eq, except_ok_bind,
      except_bind_eq_ok_iff, parseOrThrow_eq_ok_iff, throw_guard_eq_ok_iff]
    refine ⟨sampleManifest, sampleManifest_accepted, sampleOperatorKey,
      sampleOperatorKey_accepted, not_not.mpr rfl, not_not.mpr rfl, payload,
      ?_, _, signsPayload, sampleProof_accepted⟩
    have isDigest : manifestDigest sampleManifest =
        sampleProof.manifestDigest := by
      decide
    rw [isDigest]
    rfl
  exact ⟨sampleSigningKey.privateKey, rfl, .proof signs⟩

theorem sampleRegistration_wellFormed :
    WellFormed sampleRegistration.toJson := by
  apply wellFormed_record (of_decide_eq_true rfl)
  simp only [List.forall_mem_cons, Option.mem_def, Option.some.injEq,
    forall_eq', List.not_mem_nil, false_implies, implies_true, and_true]
  exact ⟨wellFormed_Manifest _, wellFormed_ManifestProof _,
    wellFormed_KeyDocument _⟩

theorem sampleRegistration_sendable :
    letI := authoringPlatform
    Sendable operatorHeld [sampleAct] sampleRegister.body := by
  let := authoringPlatform
  have isAct : sampleAct ∈ [sampleAct] := List.mem_singleton.mpr rfl
  exact @sendable_holder sampleProof.toJson _ _ _ sampleAct isAct rfl rfl _
    sampleRegistration_wellFormed

theorem sampleRegistration_registrable_authoring :
    letI := authoringPlatform
    Registrable sampleRegistration := by
  let := authoringPlatform
  have signed : Signed sampleOperatorKey sampleProof.toJson
      sampleProof.signature :=
    verifyBytes_holder.mpr ⟨by decide, by decide, rfl⟩
  have bound : ProofBound sampleProof sampleManifest sampleOperatorKey :=
    { digest := by decide
      agentId := rfl
      keyId := rfl
      role := rfl
      controller := rfl
      active := rfl
      signed := signed }
  exact
    { manifest := sampleManifest_accepted
      proof := sampleProof_accepted
      keyDocument := sampleOperatorKey_accepted
      bound := bound }

/-- What the registry holds once the sample registration is served. -/
def sampleRegistered [Platform] : MemoryStore :=
  registered sampleRegistration (nowIso sampleClock)
    (units "01J8Z3PKEY0000000000000000") (units "01J8Z3PAGENT00000000000000")
    .empty

theorem sampleRegister_run (authorityToken : Option JsString) :
    letI := authoringPlatform
    ((sampleRegister.program authorityToken).run MemoryStore.handle
      .empty).2 = sampleRegistered := by
  let := authoringPlatform
  have registrable := sampleRegistration_registrable_authoring
  have isTime : registrationTime sampleProof.createdAt
      (dateParse (nowIso sampleClock)) =
        some (.ok (nowIso sampleClock) (nowIso sampleClock)) := by
    rw [dateParse_nowIso]
    decide
  have admits : windowAdmits (nowIso sampleClock) sampleProof.createdAt
      sampleProof.expiresAt := by
    unfold windowAdmits
    rw [dateParse_nowIso]
    decide
  have isAdmitted := admitAgent_of_registrable
    (readBody_toJson registrable.toAccepted) registrable isTime admits
  unfold sampleRegister
  rw [Request.program_register, Program.run_bind,
    registerAgent_published isAdmitted rfl rfl]
  rfl

theorem client_only
    [Platform] (authorityToken : Option JsString) (request : Request) :
    ((request.program authorityToken).embed storeCalls >>= fun answer =>
      pure (Ending.answered answer)).Only
        fun call => ∃ inner, call = .store inner := by
  have writes := request_writes authorityToken request
  have embedded : ((request.program authorityToken).embed storeCalls).Only
      fun call => ∃ inner, call = .store inner :=
    writes.embed fun inner _ => ⟨inner, rfl⟩
  exact embedded.bind fun _ => trivial

/-- A client may be served alone. -/
theorem client_served
    [SigningPlatform] {held : List UInt8 → Prop} {Index : Type*}
    [DecidableEq Index] {authorityToken : Option JsString}
    {request : Request} (system : WorldSystem Index) {index : Index}
    (isRest : (system.processes index).rest =
      (Party.client request).program authorityToken)
    (sendable : Sendable held system.state.acts request.body) :
    ∃ final, System.Reaches World.handle (Allowed held) system final ∧
      final.state.registry =
        ((request.program authorityToken).run MemoryStore.handle
          system.state.registry).2 := by
  let rest : WorldProgram :=
    (request.program authorityToken).embed storeCalls >>= fun answer =>
      pure (.answered answer)
  let received := system.advance World.handle index (.receive request.body)
    fun _ => rest
  have arrives : System.Step World.handle (Allowed held) system received :=
    .call index isRest sendable
  have isNext : (received.processes index).rest = rest := by
    simp [received, System.advance]
  obtain ⟨final, runs, isState, -⟩ := @System.reaches_alone _ _ _ _ _ _ _
    (Allowed held) _ (by
      rintro world history _ ⟨inner, rfl⟩
      trivial) _ (client_only authorityToken request) received index isNext
  refine ⟨final, Relation.ReflTransGen.head arrives runs, ?_⟩
  rw [isState, Program.run_bind]
  exact (Program.run_embed World.registry (fun _ _ => ⟨rfl, rfl⟩)
    (request.program authorityToken) received.state).2

/-- The envelope of the sample agent, once it is registered, shows the proof
as verified under the operator key. -/
theorem sampleRegistered_envelope :
    letI := authoringPlatform
    ∃ record envelope,
      sampleRegistered.getAgent sampleManifest.agentId = some record ∧
        ((buildEnvelope record (nowIso sampleClock)).run MemoryStore.handle
          sampleRegistered).1 = .ok envelope ∧
        envelope.proofCheck = .ok ∧
        envelope.operatorKeyDocument = some sampleOperatorKey := by
  let := authoringPlatform
  have registrable := sampleRegistration_registrable_authoring
  have sound : Sound sampleRegistered :=
    sound_empty.register registrable _ _ _ rfl rfl
  have isAgent : sampleRegistered.getAgent sampleManifest.agentId =
      some (recordOf sampleRegistration (nowIso sampleClock)) := by
    simp [sampleRegistered, registered, recordOf, sampleRegistration]
  have isKey : keysOf sampleRegistered.answers sampleProof.keyId =
      some sampleOperatorKey := by
    rfl
  obtain ⟨envelope, isRun, isEnvelope⟩ := buildEnvelope_of_sound
    (sound.agents _ _ isAgent) (nowIso sampleClock)
  obtain ⟨-, sameKey, isCheck⟩ := buildEnvelope_proof isEnvelope
  have admits : windowAdmits (nowIso sampleClock) sampleProof.createdAt
      sampleProof.expiresAt := by
    unfold windowAdmits
    rw [dateParse_nowIso]
    decide
  have verifies : Succeeds (verifyManifestProof (some sampleProof.toJson)
      (some sampleManifest.toJson) (some sampleOperatorKey.toJson)
        (nowIso sampleClock)) :=
    (verifyManifestProof_succeeds_iff _ _ _ _).mpr
      ⟨_, _, _, registrable.proof, registrable.manifest,
        registrable.keyDocument, registrable.bound, admits⟩
  refine ⟨_, envelope, isAgent, congrArg Prod.fst isRun, ?_,
    sameKey.trans isKey⟩
  have passes := (map_ofResult_eq_ok_iff _).mpr verifies
  simp only [recordOf, sampleRegistration] at isCheck
  rw [isKey] at isCheck
  simp only [checkProof, StoredForm.checkProof] at isCheck
  rw [passes] at isCheck
  exact (Except.ok.inj isCheck).symm

/-- The operator signs, a client registers the agent, and the envelope shows a
proof that the operator has made. -/
theorem accepted_documents_authored_sample :
    letI := authoringPlatform
    ∃ (final : WorldSystem Bool) (envelope : ResolutionEnvelope),
      System.Reaches World.handle (Allowed operatorHeld)
        (worldOf none sampleParties) final ∧
      envelope.proofCheck = .ok ∧
      Authored final.state.acts (b64uDecode sampleOperatorKey.publicKeyB64u)
        .manifestProof envelope.proof.toJson := by
  let := authoringPlatform
  let start : WorldSystem Bool := worldOf none sampleParties
  let signed := start.advance World.handle false (.sign sampleAct)
    fun _ => .done .signed
  have signs : System.Step World.handle (Allowed operatorHeld) start signed :=
    .call false rfl sampleAct_made
  obtain ⟨final, serves, isServed⟩ := @client_served _ operatorHeld _ _ none
    sampleRegister signed true rfl sampleRegistration_sendable
  have reaches : System.Reaches World.handle (Allowed operatorHeld) start
      final :=
    Relation.ReflTransGen.head signs serves
  have isRegistry : final.state.registry = sampleRegistered :=
    isServed.trans (sampleRegister_run none)
  obtain ⟨record, envelope, isAgent, isRun, isOk, isKey⟩ :=
    sampleRegistered_envelope
  rw [← isRegistry] at isAgent isRun
  have authored := (accepted_documents_authored reaches).1
    sampleManifest.agentId record (nowIso sampleClock) envelope isAgent isRun
  exact ⟨final, envelope, reaches, isOk,
    authored.1 sampleOperatorKey isOk isKey rfl⟩

end AgenId.Web
