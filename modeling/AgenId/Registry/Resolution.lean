import AgenId.Registry.Envelope
import Mathlib.Order.Basic
import Mathlib.Data.List.MinMax

/-!
# What an envelope reports

An envelope only reads the store.  Its loop keeps a summary of the assertions
that it has passed: a view of each, the number of those that verify, and the
highest of their levels.
-/

namespace AgenId.Registry

open AgenId.Core
open AgenId.Ecma
open AgenId.Library

/-! ## Reading -/

/-- A call that does not write. -/
def StoreCall.Reads : StoreCall → Prop
  | .createAgent _ | .putKey _ | .putAssertion _ | .appendEvent _ => False
  | _ => True

/-! ## Checks return -/

section Checks

variable [Platform]

section Stored

variable {Record Key Assertion : Type}
  (form : StoredForm Record Key Assertion)

theorem StoredForm.checkProof_returns
    (record : Record) (opKey : Option Key) (now : JsString) :
    Returns (form.checkProof record opKey now) := by
  cases opKey with
  | none => exact returns_pure _
  | some key =>
      obtain ⟨result, isResult⟩ := verifyManifestProof_returns
        (some (form.proofJson record)) (some (form.manifestJson record))
        (some (form.keyJson key)) now
      exact ⟨Check.ofResult result,
        by simp only [StoredForm.checkProof, isResult]; rfl⟩

theorem StoredForm.checkAssertion_returns
    (manifest : Option Json) (now : JsString) (assertion : Assertion)
    (auKey : Option Key) :
    Returns (form.checkAssertion manifest now assertion auKey) := by
  cases auKey with
  | none => exact returns_pure _
  | some key =>
      obtain ⟨result, isResult⟩ := verifyVerificationAssertion_returns
        (some (form.assertionJson assertion)) (some (form.keyJson key)) now
        manifest
      exact ⟨Check.ofResult result,
        by simp only [StoredForm.checkAssertion, isResult]; rfl⟩

end Stored

theorem checkProof_returns
    (record : AgentRecord) (opKey : Option KeyDocument) (now : JsString) :
    Returns (checkProof record opKey now) :=
  StoredForm.documents.checkProof_returns record opKey now

theorem checkAssertion_returns
    (record : AgentRecord) (now : JsString)
    (assertion : VerificationAssertion) (auKey : Option KeyDocument) :
    Returns (checkAssertion record now assertion auKey) :=
  StoredForm.documents.checkAssertion_returns _ now assertion auKey

omit [Platform] in
theorem ofResult_eq_ok_iff (result : VerifyResult) :
    Check.ofResult result = .ok ↔
      ∃ state details, result = .ok state details := by
  cases result <;> simp [Check.ofResult]

omit [Platform] in
/-- A check of an outcome is shown as passed exactly when it succeeded. -/
theorem map_ofResult_eq_ok_iff
    (outcome : Except AgenIdError VerifyResult) :
    outcome.map Check.ofResult = .ok .ok ↔ Succeeds outcome := by
  cases outcome with
  | error thrown => simp [Except.map, Succeeds]
  | ok result => simp [Except.map, Succeeds, ofResult_eq_ok_iff]

end Checks

/-! ## The loop -/

theorem LEVEL_RANK_injective : Function.Injective LEVEL_RANK := by
  intro first second sameRank
  revert sameRank
  cases first <;> cases second <;> decide

/-- Levels in the order of their ranks. -/
instance : LinearOrder VerificationLevel :=
  LinearOrder.lift' LEVEL_RANK LEVEL_RANK_injective

theorem Tally.add_level
    (tally : Tally) (assertion : VerificationAssertion) :
    (tally.add assertion .ok).level = max tally.level assertion.level := by
  unfold Tally.add TallyOf.count
  by_cases higher : LEVEL_RANK tally.level < LEVEL_RANK assertion.level
  · have isLess : tally.level < assertion.level := higher
    rw [if_pos ⟨rfl, higher⟩, max_eq_right isLess.le]
  · have notLess : ¬ tally.level < assertion.level := higher
    rw [if_neg fun both => higher both.2, max_eq_left (not_lt.mp notLess)]

section Steps

variable [Platform]
  {Record Key Assertion ShownManifest ShownProof ShownAssertion : Type}
  (form : ShownForm Record Key Assertion ShownManifest ShownProof
    ShownAssertion)
  {replies : (request : StoreCall) → request.ReplyIn Record Key Assertion}
  {record : Record} {now : JsString}

theorem ShownForm.tallyAssertions_cons
    {assertion : Assertion} {check : Check}
    (isCheck : form.checkAssertion (some (form.manifestJson record)) now
      assertion (replies (.getKey (form.assertion assertion).keyId)) =
        .ok check)
    (rest : List Assertion) (tally : TallyOf ShownAssertion) :
    (form.tallyAssertions record now (assertion :: rest) tally).answered
        replies =
      (form.tallyAssertions record now rest
        (tally.count (form.shown assertion) (form.assertion assertion).level
          check)).answered replies := by
  rw [ShownForm.tallyAssertions, Program.answered_bind, answered_call,
    isCheck]

/-- An envelope says what its checks found. -/
theorem ShownForm.buildEnvelope_answered
    {proofCheck : Check} {tally : TallyOf ShownAssertion}
    (isProofCheck : form.checkProof record
      (replies (.getKey (form.record record).proof.keyId)) now =
        .ok proofCheck)
    (isTally : (form.tallyAssertions record now
      (replies (.listAssertionsForSubject (form.record record).agentId))
      ⟨[], .L1_REGISTERED, 0⟩).answered replies = .ok tally) :
    (form.buildEnvelope record now).answered replies = do
      let registryPath ← keyResolverPath (form.record record).proof.keyId
      let wellKnownUrl ← wellKnownKeysUrl
        (form.record record).manifest.ownership.operatorDomain
      return {
        agentId := (form.record record).agentId
        status := (form.record record).status
        registeredAt := (form.record record).registeredAt
        manifest := form.manifest record
        manifestDigest := (form.record record).manifestDigest
        proof := form.proof record
        proofCheck := proofCheck
        operatorKeyId := (form.record record).proof.keyId
        operatorKeyDocument :=
          replies (.getKey (form.record record).proof.keyId)
        registryPath := registryPath
        wellKnownUrl := wellKnownUrl
        level := tally.level
        validAssertions := tally.valid
        totalAssertions := (replies
          (.listAssertionsForSubject (form.record record).agentId)).length
        assertions := tally.views } := by
  rw [ShownForm.buildEnvelope, Program.answered_bind, answered_call,
    isProofCheck]
  dsimp only
  rw [Program.answered_bind, answered_call, Program.answered_bind, isTally]
  rfl

end Steps

section Resolution

variable [Platform]

/-- The keys that a store answers with. -/
def keysOf (answers : (request : StoreCall) → request.Reply) :
    JsString → Option KeyDocument :=
  fun keyId => answers (.getKey keyId)

/-- A stored assertion passes: its key is published, and it verifies against
that key, the clock and the current manifest. -/
def Passes (getKey : JsString → Option KeyDocument) (record : AgentRecord)
    (now : JsString) (assertion : VerificationAssertion) : Prop :=
  ∃ key, getKey assertion.keyId = some key ∧
    Succeeds (verifyVerificationAssertion (some assertion.toJson)
      (some key.toJson) now (some record.manifest.toJson))

theorem passes_iff
    (getKey : JsString → Option KeyDocument) (record : AgentRecord)
    (now : JsString) (assertion : VerificationAssertion) :
    Passes getKey record now assertion ↔
      checkAssertion record now assertion (getKey assertion.keyId) =
        .ok .ok := by
  unfold Passes
  cases getKey assertion.keyId with
  | none => simp [checkAssertion, StoredForm.checkAssertion]
  | some key =>
      simp [checkAssertion, StoredForm.checkAssertion, map_ofResult_eq_ok_iff]

instance (getKey : JsString → Option KeyDocument) (record : AgentRecord)
    (now : JsString) :
    DecidablePred (Passes getKey record now) :=
  fun assertion => decidable_of_iff _
    (passes_iff getKey record now assertion).symm

/-- The assertions of a list that pass. -/
def passing (getKey : JsString → Option KeyDocument) (record : AgentRecord)
    (now : JsString) (assertions : List VerificationAssertion) :
    List VerificationAssertion :=
  assertions.filter fun assertion => Passes getKey record now assertion

theorem tallyAssertions_cons
    (record : AgentRecord) (now : JsString)
    (assertion : VerificationAssertion)
    (rest : List VerificationAssertion) (tally : Tally)
    {auKey : Option KeyDocument} {check : Check}
    (isCheck : checkAssertion record now assertion auKey = .ok check)
    {answers : (request : StoreCall) → request.Reply}
    (isKey : answers (.getKey assertion.keyId) = auKey) :
    (tallyAssertions record now (assertion :: rest) tally).answered answers =
      (tallyAssertions record now rest (tally.add assertion check)).answered
        answers := by
  subst isKey
  exact ShownForm.documents.tallyAssertions_cons isCheck rest tally

/-- The loop goes through, counts what passes, and keeps the highest level. -/
theorem tallyAssertions_answered
    (answers : (request : StoreCall) → request.Reply)
    (record : AgentRecord) (now : JsString)
    (assertions : List VerificationAssertion) (tally : Tally) :
    ∃ views,
      (tallyAssertions record now assertions tally).answered answers =
        .ok
          { views := tally.views ++ views
            level := ((passing (keysOf answers) record now assertions).map
              VerificationAssertion.level).foldl max tally.level
            valid := tally.valid +
              (passing (keysOf answers) record now assertions).length } ∧
      views.map ViewOf.assertion = assertions := by
  induction assertions generalizing tally with
  | nil =>
      refine ⟨[], ?_, rfl⟩
      simp [tallyAssertions, ShownForm.tallyAssertions, passing,
        Program.answered]
  | cons assertion rest inductionHypothesis =>
      obtain ⟨check, isCheck⟩ := checkAssertion_returns record now assertion
        (keysOf answers assertion.keyId)
      obtain ⟨views, isTally, areViews⟩ :=
        inductionHypothesis (tally.add assertion check)
      refine ⟨⟨assertion, check⟩ :: views, ?_, by simp [areViews]⟩
      rw [tallyAssertions_cons record now assertion rest tally isCheck rfl,
        isTally]
      have isPassing :=
        passes_iff (keysOf answers) record now assertion
      rw [isCheck] at isPassing
      by_cases passed : check = .ok
      · subst passed
        have passes := isPassing.mpr rfl
        have counted :
            passing (keysOf answers) record now (assertion :: rest) =
              assertion :: passing (keysOf answers) record now rest :=
          List.filter_cons_of_pos (decide_eq_true passes)
        rw [counted, Tally.add_level]
        simp only [Tally.add, TallyOf.count, if_true, List.append_assoc,
          List.singleton_append, List.map_cons, List.foldl_cons,
          List.length_cons, Except.ok.injEq, TallyOf.mk.injEq, true_and]
        omega
      · have fails : ¬ Passes (keysOf answers) record now assertion := by
          simpa [passed] using isPassing
        simp [passing, fails, Tally.add, TallyOf.count, passed]

/-! ## The envelope -/

variable (answers : (request : StoreCall) → request.Reply)
  (record : AgentRecord) (now : JsString)

/-- The assertions that a store lists for an agent and that pass. -/
def passingAssertions : List VerificationAssertion :=
  passing (keysOf answers) record now
    (answers (.listAssertionsForSubject record.agentId))

/-- The envelope of an agent: whether it can be written depends on the record
alone, and what it reports on the stored assertions that pass. -/
theorem buildEnvelope_answered :
    ∃ proofCheck views,
      checkProof record (keysOf answers record.proof.keyId) now =
        .ok proofCheck ∧
      views.map ViewOf.assertion =
        answers (.listAssertionsForSubject record.agentId) ∧
      (buildEnvelope record now).answered answers = do
        let registryPath ← keyResolverPath record.proof.keyId
        let wellKnownUrl ←
          wellKnownKeysUrl record.manifest.ownership.operatorDomain
        return {
          agentId := record.agentId
          status := record.status
          registeredAt := record.registeredAt
          manifest := record.manifest
          manifestDigest := record.manifestDigest
          proof := record.proof
          proofCheck := proofCheck
          operatorKeyId := record.proof.keyId
          operatorKeyDocument := keysOf answers record.proof.keyId
          registryPath := registryPath
          wellKnownUrl := wellKnownUrl
          level := ((passingAssertions answers record now).map
            VerificationAssertion.level).foldl max .L1_REGISTERED
          validAssertions := (passingAssertions answers record now).length
          totalAssertions := (answers
            (.listAssertionsForSubject record.agentId)).length
          assertions := views } := by
  obtain ⟨proofCheck, isProofCheck⟩ :=
    checkProof_returns record (keysOf answers record.proof.keyId) now
  obtain ⟨views, isTally, areViews⟩ :=
    tallyAssertions_answered answers record now
    (answers (.listAssertionsForSubject record.agentId))
    ⟨[], .L1_REGISTERED, 0⟩
  simp only [List.nil_append, Nat.zero_add] at isTally
  refine ⟨proofCheck, views, isProofCheck, areViews, ?_⟩
  exact ShownForm.documents.buildEnvelope_answered isProofCheck isTally

/-! ## On a memory store -/

section Only

variable
  {Record Key Assertion ShownManifest ShownProof ShownAssertion : Type}
  (form : ShownForm Record Key Assertion ShownManifest ShownProof
    ShownAssertion)

omit answers record now in
theorem ShownForm.tallyAssertions_only
    (record : Record) (now : JsString) (assertions : List Assertion)
    (tally : TallyOf ShownAssertion) :
    (form.tallyAssertions record now assertions tally).Only
      StoreCall.Reads := by
  induction assertions generalizing tally with
  | nil => trivial
  | cons assertion rest inductionHypothesis =>
      unfold ShownForm.tallyAssertions
      apply Program.Only.bind (call_only trivial)
      intro auKey
      split
      · trivial
      · exact inductionHypothesis _

omit answers record now in
theorem ShownForm.buildEnvelope_only (record : Record) (now : JsString) :
    (form.buildEnvelope record now).Only StoreCall.Reads := by
  unfold ShownForm.buildEnvelope
  apply Program.Only.bind (call_only trivial)
  intro opKey
  split
  · trivial
  · apply Program.Only.bind (call_only trivial)
    intro stored
    apply Program.Only.bind (form.tallyAssertions_only _ _ _ _)
    intro tally
    split <;> trivial

end Only

omit answers in
theorem buildEnvelope_only :
    (buildEnvelope record now).Only StoreCall.Reads :=
  ShownForm.documents.buildEnvelope_only record now

omit answers in
theorem buildEnvelope_run (store : MemoryStore) :
    (buildEnvelope record now).run MemoryStore.handle store =
      ((buildEnvelope record now).answered store.answers, store) := by
  apply Program.run_of_only _ (buildEnvelope_only record now)
  intro request isRead
  cases request with
  | getAgent | getKey | getAssertion | listAssertionsForSubject => rfl
  | createAgent | putKey | putAssertion | appendEvent => cases isRead

end Resolution

end AgenId.Registry
