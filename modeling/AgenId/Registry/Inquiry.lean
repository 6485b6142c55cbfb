import AgenId.Registry.Issuing
import AgenId.Registry.Refinement
import AgenId.Registry.ServeKey

/-!
# Reading what is stored

The read routes of `app.ts` over a store that returns its documents as values.
A route checks a value as it was returned and passes it on so, and the check
finds what it finds of the document that was written.  On a memory store the
envelope is the one that is built of documents.
-/

namespace AgenId.Registry

open AgenId.Core
open AgenId.Ecma
open AgenId.Library
open AgenId.Validation
open AgenId.Validation.Schema

/-- `AssertionView` with the assertion as it is stored. -/
abbrev StoredView := ViewOf Json

/-- `ResolutionEnvelope` with its documents as they are stored. -/
abbrev StoredEnvelope := EnvelopeOf Json Json Json Json

/-- The tally of an envelope with its documents as they are stored. -/
abbrev StoredTally := TallyOf Json

/-- What a reader asks: the envelope of an agent, the proof in it, the
assertions in it, or the page of one assertion. -/
inductive Inquiry where
  | agent (agentId now : JsString)
  | proof (agentId : JsString)
  | assertions (agentId now : JsString)
  | assertion (assertionUlid now : JsString)

/-- What a reader is told. -/
inductive Report where
  | refused (response : Response)
  | envelope (envelope : StoredEnvelope)
  | proof (proof : Json)
  | listed (agentId : JsString) (level : VerificationLevel)
    (valid total : Nat) (assertions : List StoredView)
  | page (view : StoredView)

/-- What a reader of an assertion's page is told. -/
def Report.ofPage : Except Response StoredView → Report
  | .error response => .refused response
  | .ok view => .page view

section Routes

variable [Platform]

/-! ## The routes -/

/-- `GET /v1/agents/:agent_id`. -/
def getAgentById (agentId now : JsString) :
    JsonProgram Report :=
  if !isValidAgentId agentId then
    return .refused (err 400 "invalid_agent_id"
      (units "expected agenid:<ULID>"))
  else do
    let found : Option StoredRecord ← call (.getAgent agentId)
    match found with
    | none => return .refused agentNotFound
    | some record =>
      match ← ShownForm.values.buildEnvelope record now with
      | .error _ => return .refused internalError
      | .ok envelope => return .envelope envelope

/-- `GET /v1/agents/:agent_id/proof`. -/
def getAgentProof (agentId : JsString) :
    JsonProgram Report :=
  if isValidAgentId agentId then do
    let found : Option StoredRecord ← call (.getAgent agentId)
    match found with
    | none => return .refused agentNotFound
    | some record => return .proof record.proof.value
  else
    return .refused agentNotFound

/-- `GET /v1/agents/:agent_id/assertions`. -/
def getAgentAssertions (agentId now : JsString) :
    JsonProgram Report :=
  if isValidAgentId agentId then do
    let found : Option StoredRecord ← call (.getAgent agentId)
    match found with
    | none => return .refused agentNotFound
    | some record =>
      match ← ShownForm.values.buildEnvelope record now with
      | .error _ => return .refused internalError
      | .ok envelope => return (.listed record.agentId envelope.level
        envelope.validAssertions envelope.totalAssertions
        envelope.assertions)
  else
    return .refused agentNotFound

/-- The route that answers an inquiry. -/
def Inquiry.program : Inquiry → JsonProgram Report
  | .agent agentId now => getAgentById agentId now
  | .proof agentId => getAgentProof agentId
  | .assertions agentId now => getAgentAssertions agentId now
  | .assertion assertionUlid now => do
    let page ← ShownForm.values.getAssertionByUlid assertionUlid now
    return .ofPage page

omit [Platform] in
/-- What a reader is told, given how the route ends; the error handler of the
application answers when a call throws. -/
def Report.ofEnded : Except Unit Report → Report
  | .ok report => report
  | .error _ => .refused internalError

/-- The route that answers an inquiry from a database whose calls may
throw. -/
def Inquiry.databaseProgram (inquiry : Inquiry) :
    Program (fun call : StoreCall => Except Unit call.JsonReply) Report :=
  Report.ofEnded <$> inquiry.program.throwing Unit

/-! ## Checks of stored documents -/

/-- A key as its column returns it is read as the key that was written. -/
theorem schema_jsonb (doc : KeyDocument) :
    KeyDocument.schema (some (jsonb doc.toJson)) =
      KeyDocument.schema (some doc.toJson) :=
  (holdsAs_jsonb doc).schema_eq

/-- A proof is checked, all as the tables return it, as what was written. -/
theorem checkProof_column
    {read record : StoredRecord}
    (sameManifest : read.manifest.document = record.manifest.document)
    (sameProof : read.proof.document = record.proof.document)
    (opKey : Option KeyDocument) (now : JsString) :
    StoredForm.values.checkProof read
        (opKey.map fun doc => jsonb doc.toJson) now =
      StoredForm.values.checkProof record (opKey.map KeyDocument.toJson)
        now := by
  cases opKey with
  | none => rfl
  | some key =>
      have readProof := orderFree_ManifestProof read.proof.document _
        (.some read.proof.same)
      have recordProof := orderFree_ManifestProof record.proof.document _
        (.some record.proof.same)
      have readManifest := orderFree_Manifest read.manifest.document _
        (.some read.manifest.same)
      have recordManifest := orderFree_Manifest record.manifest.document _
        (.some record.manifest.same)
      rw [sameProof] at readProof
      rw [sameManifest] at readManifest
      simp only [Option.map_some, StoredForm.checkProof]
      rw [verifyManifestProof_reordered (readProof.trans recordProof.symm)
        (readManifest.trans recordManifest.symm) (schema_jsonb key)]

/-- An assertion is checked, all as the tables return it, as what was
written. -/
theorem checkAssertion_column
    (manifest : Option Json) (now : JsString)
    {read assertion : StoredAssertion}
    (same : read.document = assertion.document)
    (auKey : Option KeyDocument) :
    StoredForm.values.checkAssertion manifest now read
        (auKey.map fun doc => jsonb doc.toJson) =
      StoredForm.values.checkAssertion manifest now assertion
        (auKey.map KeyDocument.toJson) := by
  cases auKey with
  | none => rfl
  | some key =>
      have readAssertion := orderFree_VerificationAssertion read.document _
        (.some read.same)
      have written := orderFree_VerificationAssertion assertion.document _
        (.some assertion.same)
      rw [same] at readAssertion
      simp only [Option.map_some, StoredForm.checkAssertion]
      rw [verifyVerificationAssertion_reordered
        (readAssertion.trans written.symm) (schema_jsonb key)]

/-- An assertion is checked against a manifest in whatever order. -/
theorem checkAssertion_manifest
    {read manifest : Returned Manifest.toJson}
    (same : read.document = manifest.document) (now : JsString)
    (assertion : StoredAssertion) (auKey : Option Json) :
    StoredForm.values.checkAssertion (some read.value) now assertion auKey =
      StoredForm.values.checkAssertion (some manifest.value) now assertion
        auKey := by
  have readManifest := orderFree_Manifest read.document _ (.some read.same)
  have written := orderFree_Manifest manifest.document _ (.some manifest.same)
  rw [same] at readManifest
  unfold StoredForm.checkAssertion
  cases auKey with
  | none => rfl
  | some key =>
      dsimp only
      rw [verifyVerificationAssertion_manifest_reordered _ _ now
        (readManifest.trans written.symm)]

/-! ## Stored assertions as documents -/

section Kept

omit [Platform] in
/-- A tally of documents, with its views as they are kept. -/
def Tally.shown (kept : VerificationAssertion → StoredAssertion)
    (tally : Tally) : StoredTally where
  views := tally.views.map fun view =>
    ⟨(kept view.assertion).value, view.check⟩
  level := tally.level
  valid := tally.valid

variable {kept : VerificationAssertion → StoredAssertion}

omit [Platform] in
theorem Tally.shown_add
    (tally : Tally) (assertion : VerificationAssertion) (check : Check) :
    (tally.add assertion check).shown kept =
      (tally.shown kept).count (kept assertion).value assertion.level
        check := by
  unfold Tally.shown Tally.add TallyOf.count
  rw [List.map_append]
  rfl

/-- The loop counts the documents, when their checks are known. -/
theorem values_tallyAssertions_answered
    (keeps : ∀ assertion, (kept assertion).document = assertion)
    {replies : (request : StoreCall) → request.JsonReply}
    {record : StoredRecord} {now : JsString}
    {checks : VerificationAssertion → Check}
    (areChecks : ∀ assertion : VerificationAssertion,
      StoredForm.values.checkAssertion (some record.manifest.value) now
        (kept assertion) (replies (.getKey assertion.keyId)) =
          .ok (checks assertion))
    (assertions : List VerificationAssertion) (tally : Tally) :
    (ShownForm.values.tallyAssertions record now (assertions.map kept)
        (tally.shown kept)).answered replies =
      .ok ((assertions.foldl
        (fun tally assertion => tally.add assertion (checks assertion))
        tally).shown kept) := by
  induction assertions generalizing tally with
  | nil => rfl
  | cons assertion rest inductionHypothesis =>
      have isCheck : StoredForm.values.checkAssertion
          (some record.manifest.value) now (kept assertion)
          (replies (.getKey (kept assertion).document.keyId)) =
            .ok (checks assertion) := by
        rw [keeps]
        exact areChecks assertion
      have isShown : (tally.shown kept).count (kept assertion).value
            (kept assertion).document.level (checks assertion) =
          (tally.add assertion (checks assertion)).shown kept := by
        rw [keeps, Tally.shown_add]
      rw [List.map_cons, ShownForm.values.tallyAssertions_cons isCheck,
        List.foldl_cons, ← inductionHypothesis, ← isShown]

end Kept

/-! ## The routes on documents -/

omit [Platform] in
/-- An envelope with its documents as values. -/
def ResolutionEnvelope.stored (envelope : ResolutionEnvelope) :
    StoredEnvelope where
  agentId := envelope.agentId
  status := envelope.status
  registeredAt := envelope.registeredAt
  manifest := envelope.manifest.toJson
  manifestDigest := envelope.manifestDigest
  proof := envelope.proof.toJson
  proofCheck := envelope.proofCheck
  operatorKeyId := envelope.operatorKeyId
  operatorKeyDocument := envelope.operatorKeyDocument.map KeyDocument.toJson
  registryPath := envelope.registryPath
  wellKnownUrl := envelope.wellKnownUrl
  level := envelope.level
  validAssertions := envelope.validAssertions
  totalAssertions := envelope.totalAssertions
  assertions := envelope.assertions.map fun view =>
    ⟨view.assertion.toJson, view.check⟩

/-- What a memory store answers, its documents as values. -/
def MemoryStore.replies (store : MemoryStore) (request : StoreCall) :
    request.JsonReply :=
  (answeringJson MemoryStore.handle request store).1

theorem replies_getKey (store : MemoryStore) (keyId : JsString) :
    store.replies (.getKey keyId) =
      (store.getKey keyId).map KeyDocument.toJson := rfl

theorem replies_listAssertions (store : MemoryStore) (subject : JsString) :
    store.replies (.listAssertionsForSubject subject) =
      (store.listAssertionsForSubject subject).map (.written _) := rfl

theorem checkProof_toJson
    (record : AgentRecord) (opKey : Option KeyDocument) (now : JsString) :
    StoredForm.values.checkProof record.stored
        (opKey.map KeyDocument.toJson) now =
      checkProof record opKey now := by
  cases opKey <;> rfl

theorem checkAssertion_toJson
    (record : AgentRecord) (now : JsString)
    (assertion : VerificationAssertion) (auKey : Option KeyDocument) :
    StoredForm.values.checkAssertion (some record.stored.manifest.value) now
        (.written _ assertion) (auKey.map KeyDocument.toJson) =
      checkAssertion record now assertion auKey := by
  cases auKey <;> rfl

theorem tallyAssertions_toJson
    (store : MemoryStore) (record : AgentRecord) (now : JsString)
    (assertions : List VerificationAssertion) (tally : Tally) :
    (ShownForm.values.tallyAssertions record.stored now
        (assertions.map (.written _))
        (tally.shown (.written _))).answered store.replies =
      ((tallyAssertions record now assertions tally).answered
        store.answers).map (Tally.shown (.written _)) := by
  induction assertions generalizing tally with
  | nil => rfl
  | cons assertion rest inductionHypothesis =>
      have isKey : store.replies (.getKey (Returned.written
            VerificationAssertion.toJson assertion).document.keyId) =
          (store.getKey assertion.keyId).map KeyDocument.toJson := rfl
      obtain ⟨check, isCheck⟩ := checkAssertion_returns record now assertion
        (store.getKey assertion.keyId)
      have isCheckThere : StoredForm.values.checkAssertion
          (some record.stored.manifest.value) now (.written _ assertion)
          (store.replies (.getKey (Returned.written
            VerificationAssertion.toJson assertion).document.keyId)) =
              .ok check := by
        rw [isKey, checkAssertion_toJson, isCheck]
      rw [tallyAssertions_cons record now assertion rest tally isCheck rfl,
        List.map_cons, ShownForm.values.tallyAssertions_cons isCheckThere,
        ← inductionHypothesis, Tally.shown_add]
      rfl

/-- On a memory store the envelope is the one that is built of documents. -/
theorem buildEnvelope_toJson
    (store : MemoryStore) (record : AgentRecord) (now : JsString) :
    (ShownForm.values.buildEnvelope record.stored now).answered
        store.replies =
      ((buildEnvelope record now).answered store.answers).map
        ResolutionEnvelope.stored := by
  obtain ⟨proofCheck, isProofCheck⟩ :=
    checkProof_returns record (store.getKey record.proof.keyId) now
  obtain ⟨views, isTally, -⟩ := tallyAssertions_answered store.answers record
    now (store.answers (.listAssertionsForSubject record.agentId))
    ⟨[], .L1_REGISTERED, 0⟩
  have isProofCheckThere := (checkProof_toJson record
    (store.getKey record.proof.keyId) now).trans isProofCheck
  have isTallyThere := (tallyAssertions_toJson store record now
    (store.answers (.listAssertionsForSubject record.agentId))
    ⟨[], .L1_REGISTERED, 0⟩).trans (congrArg _ isTally)
  have isBuilt : (buildEnvelope record now).answered store.answers = _ :=
    ShownForm.documents.buildEnvelope_answered isProofCheck isTally
  rw [ShownForm.values.buildEnvelope_answered isProofCheckThere isTallyThere,
    isBuilt]
  dsimp only [AgentRecord.stored, StoredRecord.written, Returned.written]
  cases keyResolverPath record.proof.keyId with
  | error thrown => rfl
  | ok path =>
      cases wellKnownKeysUrl record.manifest.ownership.operatorDomain with
      | error thrown => rfl
      | ok url =>
          rw [replies_listAssertions, List.length_map]
          rfl

/-! ## Inquiries only read -/

theorem ShownForm.values_page_only (assertionUlid now : JsString) :
    (ShownForm.values.getAssertionByUlid assertionUlid now).Only
      StoreCall.Reads := by
  unfold ShownForm.getAssertionByUlid
  by_cases isUlid : (!isValidUlid assertionUlid) = true
  · rw [if_pos isUlid]
    trivial
  · rw [if_neg isUlid]
    refine (call_only ?_).bind ?_
    · trivial
    rintro (_ | assertion)
    · trivial
    · refine (call_only ?_).bind ?_
      · trivial
      intro auKey
      cases StoredForm.values.checkAssertion none now assertion auKey with
      | error thrown => trivial
      | ok check => trivial

theorem Inquiry.reads (inquiry : Inquiry) :
    inquiry.program.Only StoreCall.Reads := by
  cases inquiry with
  | agent agentId now =>
      unfold Inquiry.program getAgentById
      dsimp only
      by_cases isAgentId : (!isValidAgentId agentId) = true
      · rw [if_pos isAgentId]
        trivial
      · rw [if_neg isAgentId]
        refine (call_only ?_).bind ?_
        · trivial
        rintro (_ | record)
        · trivial
        · apply (ShownForm.values.buildEnvelope_only record now).bind
          rintro (thrown | envelope) <;> trivial
  | proof agentId =>
      unfold Inquiry.program getAgentProof
      dsimp only
      by_cases isAgentId : isValidAgentId agentId = true
      · rw [if_pos isAgentId]
        refine (call_only ?_).bind ?_
        · trivial
        rintro (_ | record) <;> trivial
      · rw [if_neg isAgentId]
        trivial
  | assertions agentId now =>
      unfold Inquiry.program getAgentAssertions
      dsimp only
      by_cases isAgentId : isValidAgentId agentId = true
      · rw [if_pos isAgentId]
        refine (call_only ?_).bind ?_
        · trivial
        rintro (_ | record)
        · trivial
        · apply (ShownForm.values.buildEnvelope_only record now).bind
          rintro (thrown | envelope) <;> trivial
      · rw [if_neg isAgentId]
        trivial
  | assertion assertionUlid now =>
      apply (ShownForm.values_page_only assertionUlid now).bind
      intro page
      trivial

theorem Inquiry.run_memory (inquiry : Inquiry) (store : MemoryStore) :
    inquiry.program.run (answeringJson MemoryStore.handle) store =
      (inquiry.program.answered store.replies, store) := by
  refine Program.run_of_only ?_ inquiry.reads
  intro request isRead
  cases request with
  | getAgent | getKey | getAssertion | listAssertionsForSubject => rfl
  | createAgent | putKey | putAssertion | appendEvent => exact isRead.elim

end Routes

end AgenId.Registry
