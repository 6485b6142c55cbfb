import AgenId.Registry.Request

/-!
# What requests write

Whatever the store answers, a request writes only documents that it submits:
what its body is parsed to, with the record that the registry makes of a
registration.
-/

namespace AgenId.Registry

open AgenId.Core
open AgenId.Ecma
open AgenId.Library
open AgenId.Validation
open AgenId.Validation.Schema

/-- The body of a request. -/
def Request.body : Request → Option Json
  | .agents body _ _ _ _ => body
  | .register body _ _ _ => body
  | .authorityKeys _ body => body
  | .assertions _ _ body _ _ _ => body

section Submission

variable [Platform]

/-! ## What is submitted -/

/-- The proof and the key of a registration are read from members of a
body. -/
structure Registers (body : Option Json) (registration : RegisterBody) :
    Prop where
  proof : ManifestProof.schema.accepts
      (body.bind (Json.get? (units "proof"))) = some registration.proof
  keyDocument : KeyDocument.schema.accepts
      (body.bind (Json.get? (units "key_document"))) =
    some registration.keyDocument

theorem registers_of_accepts
    {body : Option Json} {registration : RegisterBody}
    (accepted : RegisterBody.schema.accepts body = some registration) :
    Registers body registration := by
  obtain ⟨members, rfl, -, fields⟩ :=
    accepts_strictObject_eq_some_iff.mp accepted
  simp only [Parse.accepted_seq_eq_some_iff,
    Parse.accepted_map_eq_some_iff, accepted_field] at fields
  obtain ⟨keyDocument, isKey, _, ⟨proof, isProof, _, ⟨manifest, -, rfl⟩,
    rfl⟩, rfl⟩ := fields
  exact ⟨isProof, isKey⟩

theorem registers_of_readBody
    {body : Option Json} {registration : RegisterBody}
    (isRead : readBody body = .ok registration) :
    Registers body registration := by
  unfold readBody at isRead
  split at isRead
  · dsimp only at isRead
    split at isRead
    · unfold readRegistration at isRead
      split at isRead
      · cases isRead
      · split at isRead
        · cases isRead
        · rename_i proof isProof
          split at isRead
          · cases isRead
          · rename_i keyDocument isKey
            cases isRead
            exact ⟨safeParse_eq_ok_iff.mp isProof,
              safeParse_eq_ok_iff.mp isKey⟩
    · cases isRead
  · cases isRead

theorem accepts_of_IssueAssertionBody
    {body : Option Json} {issued : VerificationAssertion}
    (accepted : IssueAssertionBody.accepts body = some issued) :
    VerificationAssertion.schema.accepts
        (body.bind (Json.get? (units "assertion"))) = some issued := by
  obtain ⟨members, rfl, -, fields⟩ :=
    accepts_strictObject_eq_some_iff.mp accepted
  rw [accepted_field] at fields
  exact fields

/-! ## What is written -/

/-- The documents that a call writes are all of one sort. -/
def StoreCall.WritesOnly (isWritten : Document → Prop) : StoreCall → Prop
  | .createAgent record => isWritten (.agent record)
  | .putKey doc => isWritten (.key doc)
  | .putAssertion issued => isWritten (.assertion issued)
  | _ => True

omit [Platform] in
theorem StoreCall.WritesOnly.mono
    {isWritten others : Document → Prop} {request : StoreCall}
    (writes : request.WritesOnly isWritten)
    (weakens : ∀ document, isWritten document → others document) :
    request.WritesOnly others := by
  cases request with
  | createAgent | putKey | putAssertion => exact weakens _ writes
  | getAgent | getKey | getAssertion | listAssertionsForSubject
  | appendEvent => trivial

theorem publish_writes
    {isWritten : Document → Prop} {registration : RegisterBody}
    {ts : JsString} (isAgent : isWritten (.agent (recordOf registration ts)))
    (isKey : isWritten (.key registration.keyDocument))
    (keyUlid agentUlid : JsString) :
    (publish registration ts keyUlid agentUlid).Only
      (StoreCall.WritesOnly isWritten) := by
  rw [publish_eq]
  refine ⟨trivial, ?_⟩
  intro existing
  dsimp only
  by_cases isOther : differs existing registration.keyDocument = true
  · rw [if_pos isOther]
    trivial
  · rw [if_neg isOther]
    refine ⟨isAgent, ?_⟩
    intro created
    cases created with
    | false => trivial
    | true => exact ⟨isKey, fun _ => ⟨trivial, fun _ => ⟨trivial,
        fun _ => trivial⟩⟩⟩

theorem postAgents_writes
    (body : Option Json) (clock ts keyUlid agentUlid : JsString) :
    (postAgents body clock ts keyUlid agentUlid).Only
      (StoreCall.WritesOnly
        (Request.agents body clock ts keyUlid agentUlid).Submits) := by
  cases isAdmitted : admitRegistration body clock with
  | error refused =>
      rw [postAgents_of_refused isAdmitted]
      trivial
  | ok registration =>
      have accepted := accepts_of_admitRegistration isAdmitted
      rw [postAgents_of_admitted isAdmitted]
      refine Program.Only.bind ?_ fun _ => trivial
      exact publish_writes ⟨registration, accepted, Or.inl rfl⟩
        ⟨registration, accepted, Or.inr rfl⟩ keyUlid agentUlid

theorem registerAgent_writes
    (body : Option Json) (clock : Clock) (keyUlid agentUlid : JsString) :
    (registerAgent body clock keyUlid agentUlid).Only (StoreCall.WritesOnly
      (Request.register body clock keyUlid agentUlid).Submits) := by
  cases isAdmitted : admitAgent body clock with
  | error failure =>
      rw [registerAgent_of_refused isAdmitted]
      trivial
  | ok admitted =>
      obtain ⟨registration, registeredAt⟩ := admitted
      have isRead := readBody_of_admitAgent isAdmitted
      have recorded := (admitted_of_admitAgent isAdmitted).recorded
      rw [registerAgent_of_admitted isAdmitted]
      refine Program.Only.bind ?_ fun _ => trivial
      exact publish_writes ⟨registration, isRead, Or.inl (recorded ▸ rfl)⟩
        ⟨registration, isRead, Or.inr rfl⟩ keyUlid agentUlid

theorem postAuthorityKeys_writes
    (authorityToken authorization : Option JsString) (body : Option Json) :
    (postAuthorityKeys authorityToken authorization body).Only
      (StoreCall.WritesOnly
        (Request.authorityKeys authorization body).Submits) := by
  unfold postAuthorityKeys StoredForm.postAuthorityKeys
  cases requireAuthority authorityToken authorization with
  | some refused => trivial
  | none =>
      cases isParsed : KeyDocument.schema.safeParse body with
      | error issues => trivial
      | ok doc =>
          dsimp only
          split
          · trivial
          · simp only [call_eq, Program.call_bind, Program.done_bind]
            refine ⟨trivial, ?_⟩
            intro existing
            dsimp only
            split
            · trivial
            · refine ⟨⟨doc, safeParse_eq_ok_iff.mp isParsed, rfl⟩, ?_⟩
              intro reply
              dsimp only
              cases keyResolverPath doc.keyId with
              | error thrown => trivial
              | ok path => trivial

theorem issueAssertion_writes
    {isWritten : Document → Prop} {body : Option Json}
    (submits : ∀ issued, IssueAssertionBody.accepts body = some issued →
      isWritten (.assertion issued))
    (record : AgentRecord) (clock occurredAt ulid : JsString) :
    (issueAssertion record body clock occurredAt ulid).Only
      (StoreCall.WritesOnly isWritten) := by
  unfold issueAssertion StoredForm.issueAssertion
  cases isParsed : IssueAssertionBody.safeParse body with
  | error issues => trivial
  | ok issued =>
      dsimp only
      split
      · trivial
      · simp only [call_eq, Program.call_bind, Program.done_bind]
        refine ⟨trivial, ?_⟩
        intro auKey
        cases auKey with
        | none => trivial
        | some key =>
            dsimp only
            split
            · trivial
            · trivial
            · refine ⟨trivial, ?_⟩
              intro existing
              cases existing with
              | some found => trivial
              | none =>
                  exact ⟨submits issued (safeParse_eq_ok_iff.mp isParsed),
                    fun _ => ⟨trivial, fun _ => trivial⟩⟩

theorem postAssertions_writes
    (authorityToken authorization : Option JsString) (agentId : JsString)
    (body : Option Json) (clock occurredAt ulid : JsString) :
    (postAssertions authorityToken authorization agentId body clock occurredAt
      ulid).Only (StoreCall.WritesOnly (Request.assertions authorization
        agentId body clock occurredAt ulid).Submits) := by
  unfold postAssertions StoredForm.postAssertions
  cases requireAuthority authorityToken authorization with
  | some refused => trivial
  | none =>
      dsimp only
      split
      · simp only [call_eq, Program.call_bind, Program.done_bind]
        refine ⟨trivial, ?_⟩
        intro found
        cases found with
        | none => trivial
        | some record =>
            exact issueAssertion_writes
              (fun issued accepted => ⟨issued, accepted, rfl⟩) record clock
              occurredAt ulid
      · trivial

/-- A request writes only what it submits. -/
theorem request_writes
    (authorityToken : Option JsString) (request : Request) :
    (request.program authorityToken).Only
      (StoreCall.WritesOnly request.Submits) := by
  cases request with
  | agents body clock ts keyUlid agentUlid =>
      exact Program.Only.bind
        (postAgents_writes body clock ts keyUlid agentUlid) fun _ => trivial
  | register body clock keyUlid agentUlid =>
      exact Program.Only.bind
        (registerAgent_writes body clock keyUlid agentUlid) fun _ => trivial
  | authorityKeys authorization body =>
      exact Program.Only.bind
        (postAuthorityKeys_writes authorityToken authorization body)
        fun _ => trivial
  | assertions authorization agentId body clock occurredAt ulid =>
      exact Program.Only.bind
        (postAssertions_writes authorityToken authorization agentId body clock
          occurredAt ulid) fun _ => trivial

/-! ## What is stored -/

/-- A store holds a document under some identifier. -/
def Holds (store : MemoryStore) : Document → Prop
  | .agent record => ∃ agentId, store.getAgent agentId = some record
  | .key doc => ∃ keyId, store.getKey keyId = some doc
  | .assertion issued =>
    ∃ assertionId, store.getAssertion assertionId = some issued

/-- What a store holds after a call it held before, or the call wrote it. -/
theorem holds_handle
    {store : MemoryStore} {isHeld : Document → Prop} {request : StoreCall}
    (holds : ∀ document, Holds store document → isHeld document)
    (writes : request.WritesOnly isHeld) :
    ∀ document, Holds (MemoryStore.handle request store).2 document →
      isHeld document := by
  intro document isStored
  cases request with
  | createAgent record =>
      rcases store.createAgent_cases record with
        ⟨-, isNew⟩ | ⟨other, -, isTaken⟩
      · simp only [MemoryStore.handle, isNew] at isStored
        cases document with
        | agent found =>
            obtain ⟨agentId, isFound⟩ := isStored
            rw [MemoryStore.getAgent_putAgent] at isFound
            split at isFound
            · obtain rfl := Option.some.inj isFound
              exact writes
            · exact holds _ ⟨agentId, isFound⟩
        | key | assertion => exact holds _ isStored
      · simp only [MemoryStore.handle, isTaken] at isStored
        exact holds _ isStored
  | putKey doc =>
      cases document with
      | key found =>
          obtain ⟨keyId, isFound⟩ := isStored
          simp only [MemoryStore.handle, MemoryStore.getKey_putKey]
            at isFound
          split at isFound
          · obtain rfl := Option.some.inj isFound
            exact writes
          · exact holds _ ⟨keyId, isFound⟩
      | agent | assertion => exact holds _ isStored
  | putAssertion issued =>
      cases document with
      | assertion found =>
          obtain ⟨assertionId, isFound⟩ := isStored
          simp only [MemoryStore.handle,
            MemoryStore.getAssertion_putAssertion] at isFound
          split at isFound
          · obtain rfl := Option.some.inj isFound
            exact writes
          · exact holds _ ⟨assertionId, isFound⟩
      | agent | key => exact holds _ isStored
  | getAgent | getKey | getAssertion | listAssertionsForSubject
  | appendEvent =>
      cases document <;> exact holds _ isStored

end Submission

end AgenId.Registry
