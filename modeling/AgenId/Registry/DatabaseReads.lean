import AgenId.Registry.Inquiry

/-!
# Reading from the database

The read routes of `app.ts` on the tables and on a memory store.  The tables
list the assertions of an agent in another order than the memory store, return
documents with their members in another order, and spell the times of their
rows anew.  For all that the readers are told the same, unless a call of theirs
fails and they are told that the registry failed.
-/

namespace AgenId.Registry

open AgenId.Core
open AgenId.Ecma
open AgenId.Library
open AgenId.Validation
open AgenId.Validation.Schema

/-! ## The loop, in any order -/

/-- Two tallies of the same assertions, in whatever order. -/
structure Tally.SameAs (first second : Tally) : Prop where
  views : first.views.Perm second.views
  level : first.level = second.level
  valid : first.valid = second.valid

theorem Tally.SameAs.add
    {first second : Tally} (same : first.SameAs second)
    (assertion : VerificationAssertion) (check : Check) :
    (first.add assertion check).SameAs (second.add assertion check) where
  views := same.views.append (List.Perm.refl _)
  level := by simp only [Tally.add, TallyOf.count, same.level]
  valid := by simp only [Tally.add, TallyOf.count, same.valid]

theorem Tally.level_add
    (tally : Tally) (assertion : VerificationAssertion) (check : Check) :
    (tally.add assertion check).level =
      if check = .ok then max tally.level assertion.level
      else tally.level := by
  by_cases passed : check = .ok
  · rw [passed, Tally.add_level, if_pos rfl]
  · simp [Tally.add, TallyOf.count, passed]

theorem Tally.SameAs.swap
    {first second : Tally} (same : first.SameAs second)
    (assertion other : VerificationAssertion) (check otherCheck : Check) :
    ((first.add assertion check).add other otherCheck).SameAs
      ((second.add other otherCheck).add assertion check) where
  views := by
    simp only [Tally.add, TallyOf.count, List.append_assoc]
    exact same.views.append (List.Perm.swap _ _ _)
  level := by
    simp only [Tally.level_add, same.level]
    split <;> split <;> first | rfl | exact max_right_comm _ _ _
  valid := by
    simp only [Tally.add, TallyOf.count, same.valid]
    split <;> split <;> rfl

/-- The order of the assertions has no part in the tally. -/
theorem Tally.SameAs.foldl
    (checks : VerificationAssertion → Check)
    {assertions others : List VerificationAssertion}
    (reordered : assertions.Perm others) {first second : Tally}
    (same : first.SameAs second) :
    (assertions.foldl
        (fun tally assertion => tally.add assertion (checks assertion))
        first).SameAs
      (others.foldl
        (fun tally assertion => tally.add assertion (checks assertion))
        second) := by
  have alike (list : List VerificationAssertion) {first second : Tally}
      (same : first.SameAs second) :
      (list.foldl (fun tally assertion =>
          tally.add assertion (checks assertion)) first).SameAs
        (list.foldl (fun tally assertion =>
          tally.add assertion (checks assertion)) second) := by
    induction list generalizing first second with
    | nil => exact same
    | cons assertion rest inductionHypothesis =>
        exact inductionHypothesis (same.add assertion _)
  induction reordered generalizing first second with
  | nil => exact same
  | cons assertion _ inductionHypothesis =>
      exact inductionHypothesis (same.add assertion _)
  | swap assertion other rest =>
      exact alike rest (same.swap other assertion _ _)
  | trans _ _ firstHypothesis secondHypothesis =>
      have self : second.SameAs second := ⟨List.Perm.refl _, rfl, rfl⟩
      have left := firstHypothesis same
      have right := secondHypothesis self
      exact ⟨left.views.trans right.views, left.level.trans right.level,
        left.valid.trans right.valid⟩

/-! ## What the readers are told -/

section Reading

variable [Platform] [Postgres]

/-- A time as the database spells it. -/
def Respelled (read written : JsString) : Prop :=
  ∃ micros, Postgres.readTimestamptz written = some micros ∧
    read = toUtcZ (Postgres.showTimestamptz micros)

omit [Platform] [Postgres] in
/-- A view with its assertion as its column returns it. -/
def StoredView.column (view : StoredView) : StoredView :=
  ⟨jsonb view.assertion, view.check⟩

/-- An envelope that is read from the tables, beside that of the memory
store: the documents come as their columns return them. -/
structure StoredEnvelope.Retells (read told : StoredEnvelope) : Prop where
  registeredAt : Respelled read.registeredAt told.registeredAt
  manifest : read.manifest = jsonb told.manifest
  proof : read.proof = jsonb told.proof
  operatorKeyDocument :
    read.operatorKeyDocument = told.operatorKeyDocument.map jsonb
  assertions : read.assertions.Perm (told.assertions.map StoredView.column)
  others : { read with
    registeredAt := told.registeredAt
    manifest := told.manifest
    proof := told.proof
    operatorKeyDocument := told.operatorKeyDocument
    assertions := told.assertions } = told

/-- A reader is told the same, but for the spelling of a time, the order of
assertions, and the order of the members of the documents. -/
inductive Report.Retells : Report → Report → Prop
  | refused (response : Response) :
      Report.Retells (.refused response) (.refused response)
  | envelope {read told : StoredEnvelope} (retells : read.Retells told) :
      Report.Retells (.envelope read) (.envelope told)
  | proof (proof : Json) : Report.Retells (.proof (jsonb proof)) (.proof proof)
  | listed (agentId : JsString) (level : VerificationLevel)
      (valid total : Nat) {read told : List StoredView}
      (reordered : read.Perm (told.map StoredView.column)) :
      Report.Retells (.listed agentId level valid total read)
        (.listed agentId level valid total told)
  | page (view : StoredView) :
      Report.Retells (.page view.column) (.page view)

/-- What the tables answer to a call that reads them. -/
def Tables.replies (tables : Tables) :
    (request : StoreCall) → request.JsonReply
  | .getAgent agentId => tables.getAgent agentId
  | .createAgent _ => false
  | .getKey keyId => tables.getKey keyId
  | .putKey _ => ()
  | .getAssertion assertionId => tables.getAssertion assertionId
  | .putAssertion _ => ()
  | .listAssertionsForSubject subject =>
    tables.listAssertionsForSubject subject
  | .appendEvent _ => ()

variable {tables : Tables} {store : MemoryStore}

/-! ## Lists -/

theorem HoldsRows.listAssertionsForSubject
    (holds : HoldsRows tables store) (subject : JsString) :
    ∃ told : List VerificationAssertion,
      told.Perm (store.listAssertionsForSubject subject) ∧
        tables.listAssertionsForSubject subject =
          told.map assertionColumn := by
  have beside := OrderedMap.forall₂_of_rows holds.assertions.values
  have alike (row : AssertionRow) (assertion : VerificationAssertion)
      (isRow : assertionRow assertion = some row) :
      decide (row.subject = subject) =
        decide (assertion.subject = subject) := by
    rw [(document_of_assertionRow isRow).2]
  obtain ⟨told, isTold, reordered⟩ := OrderedMap.forall₂_reordered beside alike
    (Postgres.orderBy_perm AssertionRow.verifiedAt _)
  refine ⟨told, reordered.trans (List.mergeSort_perm _ _).symm, ?_⟩
  rw [← List.forall₂_eq_eq_eq]
  apply List.forall₂_map_left_iff.mpr
  apply List.forall₂_map_right_iff.mpr
  exact isTold.imp fun _ _ isRow => (document_of_assertionRow isRow).1

/-- An event as it is read from its row. -/
structure Retold (read event : LedgerEvent) : Prop where
  occurredAt : Respelled read.occurredAt event.occurredAt
  others : read = { event with
    occurredAt := read.occurredAt
    detailRef := jsonbTexts event.detailRef }

theorem retold_of_eventRow
    {event : LedgerEvent} {row : EventRow}
    (isRow : eventRow event = some row) : Retold (toLedgerEvent row) event := by
  obtain ⟨occurredAt, isInstant, rfl⟩ := Option.map_eq_some_iff.mp isRow
  exact ⟨⟨occurredAt, isInstant, rfl⟩, rfl⟩

/-- The tables list the events of an agent in the order of their instants. -/
theorem HoldsRows.listEvents
    (holds : HoldsRows tables store) (agentId : JsString) :
    ∃ (told : List LedgerEvent) (instants : List Int),
      told.Perm (store.listEvents agentId) ∧
      List.Forall₂ Retold (tables.listEvents agentId) told ∧
      told.map (fun event => Postgres.readTimestamptz event.occurredAt) =
        instants.map some ∧ instants.Pairwise (· ≤ ·) := by
  have beside := OrderedMap.forall₂_of_rows holds.events
  have alike (row : EventRow) (event : LedgerEvent)
      (isRow : eventRow event = some row) :
      decide (row.agentId = agentId) = decide (event.agentId = agentId) := by
    obtain ⟨occurredAt, -, rfl⟩ := Option.map_eq_some_iff.mp isRow
    rfl
  obtain ⟨told, isTold, reordered⟩ := OrderedMap.forall₂_reordered beside alike
    (Postgres.orderBy_perm EventRow.occurredAt _)
  refine ⟨told, (Postgres.orderBy EventRow.occurredAt
    (tables.events.values.filter fun row => row.agentId = agentId)).map
      EventRow.occurredAt, reordered, ?_, ?_, ?_⟩
  · apply List.forall₂_map_left_iff.mpr
    exact isTold.imp fun _ _ isRow => retold_of_eventRow isRow
  · rw [← List.forall₂_eq_eq_eq, List.map_map]
    apply List.forall₂_map_left_iff.mpr
    apply List.forall₂_map_right_iff.mpr
    refine List.Forall₂.flip (isTold.imp ?_)
    intro row event isRow
    obtain ⟨occurredAt, isInstant, rfl⟩ := Option.map_eq_some_iff.mp isRow
    exact isInstant
  · exact List.pairwise_map.mpr (Postgres.orderBy_sorted _ _)

/-! ## Answers -/

omit [Platform] [Postgres] in
/-- A record as its columns return it, with times in some spelling. -/
def AgentRecord.columns (record : AgentRecord)
    (registeredAt updatedAt : JsString) : StoredRecord where
  agentId := record.agentId
  manifest := manifestColumn record.manifest
  manifestDigest := record.manifestDigest
  proof := proofColumn record.proof
  status := record.status
  registeredAt := registeredAt
  updatedAt := updatedAt

/-- A record is read from its row but for its times. -/
theorem Respells.times
    {read : StoredRecord} {record : AgentRecord}
    (respells : Respells read record) :
    ∃ registeredAt updatedAt,
      Respelled registeredAt record.registeredAt ∧
        read = record.columns registeredAt updatedAt := by
  obtain ⟨row, isRow, rfl⟩ := respells
  obtain ⟨registeredAt, isInstant, isMade⟩ := Option.bind_eq_some_iff.mp isRow
  obtain ⟨updatedAt, -, isMade⟩ := Option.bind_eq_some_iff.mp isMade
  obtain rfl := Option.some.inj isMade
  exact ⟨_, _, ⟨registeredAt, isInstant, rfl⟩, rfl⟩

omit [Platform] [Postgres] in
theorem Tally.views_shown_column (tally : Tally) :
    (tally.shown assertionColumn).views =
      (tally.shown (.written _)).views.map StoredView.column := by
  unfold Tally.shown
  rw [List.map_map]
  rfl

/-- The envelope that is built from the tables retells the one that is built
from the memory store, or both fail alike. -/
theorem HoldsRows.buildEnvelope
    (holds : HoldsRows tables store) {read : StoredRecord}
    {record : AgentRecord} (respells : Respells read record)
    (now : JsString) :
    (∃ thrown,
      (ShownForm.values.buildEnvelope read now).answered tables.replies =
          .error thrown ∧
        (ShownForm.values.buildEnvelope record.stored now).answered
            store.replies =
          .error thrown) ∨
      ∃ first second,
        (ShownForm.values.buildEnvelope read now).answered tables.replies =
            .ok first ∧
          (ShownForm.values.buildEnvelope record.stored now).answered
              store.replies =
            .ok second ∧
          StoredEnvelope.Retells first second := by
  obtain ⟨registeredAt, updatedAt, isRespelled, rfl⟩ := respells.times
  have isKey (keyId : JsString) : tables.replies (.getKey keyId) =
      (store.getKey keyId).map fun doc => jsonb doc.toJson :=
    holds.getKey keyId
  have areChecks (assertion : VerificationAssertion) :=
    StoredForm.values.checkAssertion_returns
      (some record.stored.manifest.value) now
      (.written _ assertion)
      ((store.getKey assertion.keyId).map KeyDocument.toJson)
  choose checks isCheck using areChecks
  obtain ⟨proofCheck, isProofCheck⟩ :=
    StoredForm.values.checkProof_returns record.stored
      ((store.getKey record.proof.keyId).map KeyDocument.toJson) now
  have onStore := ShownForm.values.buildEnvelope_answered
    (show StoredForm.values.checkProof record.stored
      (store.replies (.getKey record.proof.keyId)) now = .ok proofCheck from
        isProofCheck)
    (values_tallyAssertions_answered (fun _ => rfl) isCheck
      (store.listAssertionsForSubject record.agentId)
      ⟨[], .L1_REGISTERED, 0⟩)
  obtain ⟨told, reordered, areTold⟩ :=
    holds.listAssertionsForSubject record.agentId
  have isCheckThere (assertion : VerificationAssertion) :
      StoredForm.values.checkAssertion
        (some (record.columns registeredAt updatedAt).manifest.value) now
        (assertionColumn assertion)
        (tables.replies (.getKey assertion.keyId)) =
          .ok (checks assertion) := by
    have sameAssertion : (assertionColumn assertion).document =
        (Returned.written VerificationAssertion.toJson assertion).document :=
      rfl
    have sameManifest :
        (record.columns registeredAt updatedAt).manifest.document =
          record.stored.manifest.document := rfl
    rw [isKey, checkAssertion_column _ _ sameAssertion,
      checkAssertion_manifest sameManifest]
    exact isCheck assertion
  have isProofCheckThere :
      StoredForm.values.checkProof (record.columns registeredAt updatedAt)
        (tables.replies (.getKey record.proof.keyId)) now =
          .ok proofCheck := by
    have sameManifest :
        (record.columns registeredAt updatedAt).manifest.document =
          record.stored.manifest.document := rfl
    have sameProof : (record.columns registeredAt updatedAt).proof.document =
        record.stored.proof.document := rfl
    rw [isKey, checkProof_column sameManifest sameProof]
    exact isProofCheck
  have isEmpty : (⟨[], .L1_REGISTERED, 0⟩ : StoredTally) =
      Tally.shown assertionColumn ⟨[], .L1_REGISTERED, 0⟩ := rfl
  have areThere : tables.replies (.listAssertionsForSubject
      (record.columns registeredAt updatedAt).agentId) =
        told.map assertionColumn := areTold
  have isTallyThere := @values_tallyAssertions_answered _ assertionColumn
    (fun _ => rfl) tables.replies (record.columns registeredAt updatedAt) now
    checks isCheckThere told ⟨[], .L1_REGISTERED, 0⟩
  rw [← isEmpty, ← areThere] at isTallyThere
  have onTables := ShownForm.values.buildEnvelope_answered isProofCheckThere
    isTallyThere
  have sameTally := Tally.SameAs.foldl checks reordered
    (show Tally.SameAs ⟨[], .L1_REGISTERED, 0⟩ ⟨[], .L1_REGISTERED, 0⟩ from
      ⟨List.Perm.refl _, rfl, rfl⟩)
  rw [onStore, onTables]
  dsimp only [AgentRecord.columns, AgentRecord.stored, StoredRecord.written,
    manifestColumn, proofColumn, Returned.column, Returned.written]
  cases isPath : keyResolverPath record.proof.keyId with
  | error thrown => exact Or.inl ⟨thrown, rfl, rfl⟩
  | ok path =>
      cases isUrl : wellKnownKeysUrl
          record.manifest.ownership.operatorDomain with
      | error thrown => exact Or.inl ⟨thrown, rfl, rfl⟩
      | ok url =>
          refine Or.inr ⟨_, _, rfl, rfl, isRespelled, rfl, rfl, ?_, ?_, ?_⟩
          · dsimp only
            rw [isKey, replies_getKey, Option.map_map]
            rfl
          · dsimp only
            rw [Tally.views_shown_column]
            exact (sameTally.views.map _).map _
          · have sameTotal : (tables.replies
                (.listAssertionsForSubject record.agentId)).length =
                  (store.replies
                    (.listAssertionsForSubject record.agentId)).length := by
              have isList : tables.replies
                  (.listAssertionsForSubject record.agentId) =
                    told.map assertionColumn := areTold
              rw [isList, replies_listAssertions, List.length_map,
                List.length_map]
              exact reordered.length_eq
            simp only [EnvelopeOf.mk.injEq, true_and, and_true]
            exact ⟨sameTally.level, sameTally.valid, sameTotal⟩

/-- A route that reads a record answers alike on the tables, when it does so
for every record that is found. -/
theorem HoldsRows.foundAgent
    (holds : HoldsRows tables store) (agentId : JsString)
    {next : Option StoredRecord → JsonProgram Report}
    (isMissing : (next none).answered tables.replies =
      .refused agentNotFound)
    (isMissingThere : (next none).answered store.replies =
      .refused agentNotFound)
    (retells : ∀ read record, Respells read record →
      Report.Retells ((next (some read)).answered tables.replies)
        ((next (some record.stored)).answered store.replies)) :
    Report.Retells
      ((call (.getAgent agentId) >>= next).answered tables.replies)
      ((call (.getAgent agentId) >>= next).answered store.replies) := by
  rw [Program.answered_bind, Program.answered_bind, answered_call,
    answered_call]
  have found : Option.Rel Respells (tables.replies (.getAgent agentId))
      (store.getAgent agentId) := holds.getAgent agentId
  have isStored : store.replies (.getAgent agentId) =
      (store.getAgent agentId).map AgentRecord.stored := rfl
  rw [isStored]
  generalize tables.replies (.getAgent agentId) = read at found
  generalize store.getAgent agentId = record at found
  cases found with
  | none =>
      rw [Option.map_none, isMissing, isMissingThere]
      exact .refused _
  | some respells => exact retells _ _ respells

theorem HoldsRows.agent
    (holds : HoldsRows tables store) (agentId now : JsString) :
    Report.Retells ((getAgentById agentId now).answered tables.replies)
      ((getAgentById agentId now).answered store.replies) := by
  unfold getAgentById
  by_cases isAgentId : (!isValidAgentId agentId) = true
  · rw [if_pos isAgentId]
    exact .refused _
  · rw [if_neg isAgentId]
    apply holds.foundAgent agentId rfl rfl
    intro read record respells
    dsimp only
    rw [Program.answered_bind, Program.answered_bind]
    rcases holds.buildEnvelope respells now with
      ⟨thrown, fails, failsThere⟩ | ⟨first, second, isFirst, isSecond,
        retells⟩
    · rw [fails, failsThere]
      exact .refused _
    · rw [isFirst, isSecond]
      exact .envelope retells

theorem HoldsRows.proof
    (holds : HoldsRows tables store) (agentId : JsString) :
    Report.Retells ((getAgentProof agentId).answered tables.replies)
      ((getAgentProof agentId).answered store.replies) := by
  unfold getAgentProof
  by_cases isAgentId : isValidAgentId agentId = true
  · rw [if_pos isAgentId]
    apply holds.foundAgent agentId rfl rfl
    intro read record respells
    obtain ⟨registeredAt, updatedAt, -, rfl⟩ := respells.times
    exact .proof record.proof.toJson
  · rw [if_neg isAgentId]
    exact .refused _

theorem HoldsRows.assertionsOf
    (holds : HoldsRows tables store) (agentId now : JsString) :
    Report.Retells ((getAgentAssertions agentId now).answered tables.replies)
      ((getAgentAssertions agentId now).answered store.replies) := by
  unfold getAgentAssertions
  by_cases isAgentId : isValidAgentId agentId = true
  · rw [if_pos isAgentId]
    apply holds.foundAgent agentId rfl rfl
    intro read record respells
    dsimp only
    rw [Program.answered_bind, Program.answered_bind]
    rcases holds.buildEnvelope respells now with
      ⟨thrown, fails, failsThere⟩ | ⟨first, second, isFirst, isSecond,
        retells⟩
    · rw [fails, failsThere]
      exact .refused _
    · rw [isFirst, isSecond]
      obtain ⟨registeredAt, updatedAt, -, rfl⟩ := respells.times
      have sameLevel := congrArg (·.level) retells.others
      have sameValid :=
        congrArg (·.validAssertions) retells.others
      have sameTotal :=
        congrArg (·.totalAssertions) retells.others
      dsimp only at sameLevel sameValid sameTotal ⊢
      rw [sameLevel, sameValid, sameTotal]
      exact .listed _ _ _ _ retells.assertions
  · rw [if_neg isAgentId]
    exact .refused _

theorem HoldsRows.assertion
    (holds : HoldsRows tables store) (assertionUlid now : JsString) :
    Report.Retells
      ((Inquiry.assertion assertionUlid now).program.answered tables.replies)
      ((Inquiry.assertion assertionUlid now).program.answered
        store.replies) := by
  unfold Inquiry.program
  dsimp only
  rw [Program.answered_bind, Program.answered_bind]
  unfold ShownForm.getAssertionByUlid
  by_cases isUlid : (!isValidUlid assertionUlid) = true
  · rw [if_pos isUlid]
    exact .refused _
  · rw [if_neg isUlid, Program.answered_bind, Program.answered_bind,
      answered_call, answered_call]
    have found : tables.replies (.getAssertion
          (units "assertion:" ++ assertionUlid)) =
        (store.getAssertion (units "assertion:" ++ assertionUlid)).map
          assertionColumn := holds.getAssertion _
    have foundThere : store.replies (.getAssertion
          (units "assertion:" ++ assertionUlid)) =
        (store.getAssertion (units "assertion:" ++ assertionUlid)).map
          (.written _) := rfl
    rw [found, foundThere]
    cases store.getAssertion (units "assertion:" ++ assertionUlid) with
    | none => exact .refused _
    | some assertion =>
        have sameAssertion : (assertionColumn assertion).document =
            (Returned.written VerificationAssertion.toJson
              assertion).document := rfl
        have isKey : tables.replies
              (.getKey (assertionColumn assertion).document.keyId) =
            (store.getKey assertion.keyId).map fun doc => jsonb doc.toJson :=
          holds.getKey _
        have isKeyThere : store.replies (.getKey (Returned.written
              VerificationAssertion.toJson assertion).document.keyId) =
            (store.getKey assertion.keyId).map KeyDocument.toJson := rfl
        dsimp only [Option.map_some]
        rw [Program.answered_bind, Program.answered_bind,
          answered_call, answered_call, isKey, isKeyThere,
          checkAssertion_column _ _ sameAssertion]
        cases StoredForm.values.checkAssertion none now (.written _ assertion)
            ((store.getKey assertion.keyId).map KeyDocument.toJson) with
        | error thrown => exact .refused _
        | ok check => exact .page ⟨assertion.toJson, check⟩

/-- Every inquiry is answered on the tables as on the memory store. -/
theorem HoldsRows.inquiry
    (holds : HoldsRows tables store) (inquiry : Inquiry) :
    Report.Retells (inquiry.program.answered tables.replies)
      (inquiry.program.answered store.replies) := by
  cases inquiry with
  | agent agentId now => exact holds.agent agentId now
  | proof agentId => exact holds.proof agentId
  | assertions agentId now => exact holds.assertionsOf agentId now
  | assertion assertionUlid now => exact holds.assertion assertionUlid now

/-! ## Calls that fail -/

/-- Some call of a reader may fail. -/
def MayFail (passages : List Passage) : Prop :=
  ∃ passage ∈ passages, passage ≠ .through

/-- A call that reads the tables leaves them as they are; it is answered from
them, or it fails where a call may. -/
theorem Database.handle_reads
    {request : StoreCall} (isRead : request.Reads) (tables : Tables)
    (passages : List Passage) :
    (Database.handle request ⟨tables, passages⟩).2.tables = tables ∧
      (MayFail passages ∧
          (Database.handle request ⟨tables, passages⟩).1 = .error () ∨
        (Database.handle request ⟨tables, passages⟩).1 =
          .ok (tables.replies request)) := by
  have isPerformed : tables.perform request =
      some (tables.replies request, tables) := by
    cases request with
    | getAgent | getKey | getAssertion | listAssertionsForSubject => rfl
    | createAgent | putKey | putAssertion | appendEvent =>
        exact isRead.elim
  unfold Database.handle
  rw [isPerformed]
  cases passages with
  | nil => exact ⟨rfl, Or.inr rfl⟩
  | cons passage rest =>
      have isFirst : passage ∈ passage :: rest := List.mem_cons_self
      cases passage with
      | through => exact ⟨rfl, Or.inr rfl⟩
      | failed => exact ⟨rfl, Or.inl ⟨⟨_, isFirst, by simp⟩, rfl⟩⟩
      | lost => exact ⟨rfl, Or.inl ⟨⟨_, isFirst, by simp⟩, rfl⟩⟩

/-- An inquiry leaves the tables as they are.  It is answered from them, or
with an error of the registry where a call may fail. -/
theorem Inquiry.run_database
    (inquiry : Inquiry) (tables : Tables) (passages : List Passage) :
    (inquiry.databaseProgram.run Database.handle
        ⟨tables, passages⟩).2.tables = tables ∧
      (MayFail passages ∧ (inquiry.databaseProgram.run Database.handle
          ⟨tables, passages⟩).1 = .refused internalError ∨
        (inquiry.databaseProgram.run Database.handle
          ⟨tables, passages⟩).1 =
            inquiry.program.answered tables.replies) := by
  have isRun : inquiry.databaseProgram.run Database.handle
        ⟨tables, passages⟩ =
      (Report.ofEnded ((inquiry.program.throwing Unit).run Database.handle
          ⟨tables, passages⟩).1,
        ((inquiry.program.throwing Unit).run Database.handle
          ⟨tables, passages⟩).2) :=
    Program.run_bind Database.handle _ _ _
  have ran := @Program.run_throwing _ _ _ Unit _ (MayFail passages)
    Database.handle StoreCall.Reads
    (fun database => database.tables = tables ∧
      ∀ passage ∈ database.passages, passage ∈ passages)
    tables.replies ?_ _ inquiry.reads ⟨tables, passages⟩
    ⟨rfl, fun _ isPassage => isPassage⟩
  · obtain ⟨⟨held, -⟩, ended⟩ := ran
    rw [isRun]
    refine ⟨held, ?_⟩
    rcases ended with ⟨mayFail, failure, isFailure⟩ | isAnswer
    · rw [isFailure]
      exact Or.inl ⟨mayFail, rfl⟩
    · rw [isAnswer]
      exact Or.inr rfl
  · rintro request isRead ⟨held, rest⟩ ⟨isHeld, areRest⟩
    obtain rfl : held = tables := isHeld
    obtain ⟨isKept, replied⟩ := Database.handle_reads isRead held rest
    refine ⟨⟨isKept, ?_⟩, ?_⟩
    · intro passage isPassage
      exact areRest passage (List.mem_of_mem_tail isPassage)
    · rcases replied with ⟨⟨passage, isPassage, fails⟩, isFailure⟩ | isAnswer
      · exact Or.inl ⟨⟨passage, areRest passage isPassage, fails⟩, (),
          isFailure⟩
      · exact Or.inr isAnswer

/-! ## Key discovery -/

/-- How `resolveKeyDocument` reads a key from the database. -/
def Tables.keyReader (tables : Tables) (passages : List Passage) : KeyReader :=
  fun keyId => (Database.handle (.getKey keyId) ⟨tables, passages⟩).1

/-- How `resolveKeyDocument` reads the keys of a memory store. -/
def MemoryStore.keyReader (store : MemoryStore) : KeyReader :=
  fun keyId => .ok ((store.getKey keyId).map KeyDocument.toJson)

omit [Postgres] in
/-- A key that is stored is told as it was published. -/
theorem resolveKeyDocument_jsonb
    {reader other : KeyReader} {reference : Option JsString}
    {position : KeyReferencePosition} {keyId : JsString}
    {existing : Option KeyDocument}
    (isReference : canonicalKeyReference reference position = .ok keyId)
    (isRead : reader keyId = .ok (existing.map fun doc => jsonb doc.toJson))
    (isReadThere : other keyId = .ok (existing.map KeyDocument.toJson)) :
    resolveKeyDocument reader reference position =
      resolveKeyDocument other reference position := by
  unfold resolveKeyDocument
  rw [isReference]
  dsimp only
  rw [isRead, isReadThere]
  cases existing with
  | none => rfl
  | some doc =>
      have sameParse : KeyDocument.schema.safeParse
            (some (jsonb doc.toJson)) =
          KeyDocument.schema.safeParse (some doc.toJson) := by
        unfold Schema.safeParse Schema.accepts
        rw [schema_jsonb]
      obtain ⟨members, isObject⟩ :
          ∃ members, jsonb doc.toJson = .object members := ⟨_, rfl⟩
      obtain ⟨written, isWritten⟩ :
          ∃ written, doc.toJson = .object written := ⟨_, rfl⟩
      rw [isObject, isWritten] at sameParse
      simp only [Option.map_some]
      rw [isObject, isWritten]
      dsimp only
      rw [sameParse]

theorem HoldsRows.resolvesKey
    (holds : HoldsRows tables store) (passages : List Passage)
    (reference : Option JsString) (position : KeyReferencePosition) :
    resolveKeyDocument (tables.keyReader passages) reference position =
        resolveKeyDocument store.keyReader reference position ∨
      MayFail passages ∧
        resolveKeyDocument (tables.keyReader passages) reference position =
          .failed .unavailable "registry_unavailable"
            KEY_ERROR_MESSAGES.registry_unavailable none := by
  cases isReference : canonicalKeyReference reference position with
  | error message =>
      left
      unfold resolveKeyDocument
      rw [isReference]
  | ok keyId =>
      have isRead : (StoreCall.getKey keyId).Reads := trivial
      rcases (Database.handle_reads isRead tables passages).2 with
        ⟨mayFail, isFailure⟩ | isAnswer
      · right
        refine ⟨mayFail, ?_⟩
        unfold resolveKeyDocument Tables.keyReader
        rw [isReference]
        dsimp only
        rw [isFailure]
      · left
        have isKey : tables.keyReader passages keyId =
            .ok ((store.getKey keyId).map fun doc => jsonb doc.toJson) :=
          isAnswer.trans (congrArg Except.ok (holds.getKey keyId))
        exact resolveKeyDocument_jsonb isReference isKey rfl

/-! ## Readers of a run -/

/-- The readers of the tables are told what those of the memory store are
told, unless a call of theirs fails and they are told so. -/
structure ReadsAlike (tables : Tables) (store : MemoryStore) : Prop where
  inquiries : ∀ (inquiry : Inquiry) (passages : List Passage),
    (inquiry.databaseProgram.run Database.handle
        ⟨tables, passages⟩).1.Retells
      (inquiry.program.run (answeringJson MemoryStore.handle) store).1 ∨
    MayFail passages ∧
      (inquiry.databaseProgram.run Database.handle ⟨tables, passages⟩).1 =
        .refused internalError
  keys : ∀ (passages : List Passage) (reference : Option JsString)
      (position : KeyReferencePosition),
    resolveKeyDocument (tables.keyReader passages) reference position =
        resolveKeyDocument store.keyReader reference position ∨
      MayFail passages ∧
        resolveKeyDocument (tables.keyReader passages) reference position =
          .failed .unavailable "registry_unavailable"
            KEY_ERROR_MESSAGES.registry_unavailable none
  events : ∀ agentId : JsString,
    ∃ (told : List LedgerEvent) (instants : List Int),
      told.Perm (store.listEvents agentId) ∧
        List.Forall₂ Retold (tables.listEvents agentId) told ∧
        told.map (fun event => Postgres.readTimestamptz event.occurredAt) =
          instants.map some ∧ instants.Pairwise (· ≤ ·)

theorem HoldsRows.readsAlike
    (holds : HoldsRows tables store) : ReadsAlike tables store where
  inquiries inquiry passages := by
    rw [inquiry.run_memory]
    rcases (inquiry.run_database tables passages).2 with failed | isAnswer
    · exact Or.inr failed
    · rw [isAnswer]
      exact Or.inl (holds.inquiry inquiry)
  keys := holds.resolvesKey
  events := holds.listEvents

/-- An agent without assertions is told of, when its record names a key and a
domain. -/
theorem Tables.tells_agent
    {tables : Tables} {agentId now path url : JsString}
    {record : StoredRecord} (isAgentId : isValidAgentId agentId = true)
    (isRead : tables.getAgent agentId = some record)
    (areNone : tables.listAssertionsForSubject record.agentId = [])
    (isPath : keyResolverPath record.proof.document.keyId = .ok path)
    (isUrl : wellKnownKeysUrl
      record.manifest.document.ownership.operatorDomain = .ok url) :
    ∃ envelope, ((Inquiry.agent agentId now).databaseProgram.run
      Database.handle ⟨tables, []⟩).1 = .envelope envelope := by
  obtain ⟨proofCheck, isProofCheck⟩ :=
    StoredForm.values.checkProof_returns record
      (tables.replies (.getKey record.proof.document.keyId)) now
  have isTally : (ShownForm.values.tallyAssertions record now
      (tables.replies (.listAssertionsForSubject record.agentId))
      ⟨[], .L1_REGISTERED, 0⟩).answered tables.replies =
        .ok ⟨[], .L1_REGISTERED, 0⟩ := by
    have areListed : tables.replies
        (.listAssertionsForSubject record.agentId) = [] := areNone
    rw [areListed]
    rfl
  have isBuilt := ShownForm.values.buildEnvelope_answered isProofCheck isTally
  dsimp only [StoredRecord.written] at isBuilt
  rw [isPath, isUrl] at isBuilt
  have isFound : tables.replies (.getAgent agentId) = some record := isRead
  have isTold : ∃ envelope, (Inquiry.agent agentId now).program.answered
      tables.replies = .envelope envelope := by
    unfold Inquiry.program getAgentById
    dsimp only
    rw [isAgentId, if_neg (by decide), Program.answered_bind,
      answered_call, isFound]
    dsimp only
    rw [Program.answered_bind, isBuilt]
    exact ⟨_, rfl⟩
  obtain ⟨envelope, isEnvelope⟩ := isTold
  refine ⟨envelope, ?_⟩
  rcases ((Inquiry.agent agentId now).run_database tables []).2 with
    ⟨⟨passage, isPassage, -⟩, -⟩ | isAnswer
  · cases isPassage
  · rw [isAnswer, isEnvelope]

end Reading

end AgenId.Registry
