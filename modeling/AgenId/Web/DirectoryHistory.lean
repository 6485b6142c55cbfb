import AgenId.Web.Directory

/-!
# The history of a directory

Consents decided one after another, from an empty directory.  Whatever is
sent, and whatever the clock, the registry and the stores do meanwhile, the
directory holds for each agent the accepted consent of the greatest instant,
and each accepted consent is later than the ones accepted before it for its
agent.
-/

namespace AgenId.Web

open AgenId.Core
open AgenId.Ecma
open AgenId.Library
open AgenId.Registry

section History

variable [Platform]

/-- The directory after attempts one after another. -/
def applyAll (attempts : List Attempt) (directory : MemoryDirectoryStore) :
    MemoryDirectoryStore :=
  attempts.foldl (fun directory attempt => (attempt.apply directory).2)
    directory

/-- The attempt with the record it was answered, when it was accepted. -/
def acceptance (attempt : Attempt) :
    Except JsString ConsentResult → List (Attempt × DirectoryRecord)
  | .ok (.ok record) => [(attempt, record)]
  | _ => []

/-- The accepted ones of attempts one after another. -/
def acceptances :
    List Attempt → MemoryDirectoryStore → List (Attempt × DirectoryRecord)
  | [], _ => []
  | attempt :: rest, directory =>
    acceptance attempt (attempt.apply directory).1 ++
      acceptances rest (attempt.apply directory).2

/-- The consent of a record was made before that of another. -/
def MadeBefore (earlier later : DirectoryRecord) : Prop :=
  dateLess (dateParse earlier.consent.createdAt)
    (dateParse later.consent.createdAt) = true

/-- The stored instant of a record is before that of another. -/
def StoredBefore (earlier later : DirectoryRecord) : Prop :=
  dateLess (dateParse earlier.consentCreatedAt)
    (dateParse later.consentCreatedAt) = true

/-! ## What one attempt preserves -/

instance : IsStrictOrder DirectoryRecord MadeBefore where
  irrefl := by
    intro record isBefore
    obtain ⟨first, second, isFirst, isSecond, less⟩ :=
      dateLess_eq_true_iff.mp isBefore
    rw [isFirst] at isSecond
    cases isSecond
    exact absurd less (lt_irrefl _)
  trans := by
    intro first second third isBefore isAfter
    obtain ⟨one, two, isOne, isTwo, less⟩ := dateLess_eq_true_iff.mp isBefore
    obtain ⟨other, three, isOther, isThree, also⟩ :=
      dateLess_eq_true_iff.mp isAfter
    rw [isTwo] at isOther
    cases isOther
    exact dateLess_eq_true_iff.mpr
      ⟨one, three, isOne, isThree, less.trans also⟩

/-- Records that were attested are stored in the order of their consents. -/
theorem storedBefore_iff
    {attempt other : Attempt} {earlier later : DirectoryRecord}
    (first : Attested attempt earlier) (second : Attested other later) :
    StoredBefore earlier later ↔ MadeBefore earlier later := by
  unfold StoredBefore MadeBefore
  rw [first.created_eq, second.created_eq]

/-- A consent that a held record does not supersede is later. -/
theorem madeBefore_of_not_superseded
    {attempt other : Attempt} {previous record : DirectoryRecord}
    {held : Option DirectoryRecord}
    (first : Attested attempt previous) (second : Attested other record)
    (isHeld : held = some previous)
    (isNewer : superseded record.consent held = false) :
    MadeBefore previous record := by
  obtain ⟨_, earlier, -, isEarlier, -⟩ := first.inWindow
  obtain ⟨_, later, -, isLater, -⟩ := second.inWindow
  rw [isHeld, superseded, Option.any_some, first.created_eq, isEarlier,
    isLater, dateAtLeast_some] at isNewer
  have less : earlier < later := not_le.mp (of_decide_eq_false isNewer)
  exact dateLess_eq_true_iff.mpr ⟨earlier, later, isEarlier, isLater, less⟩

/-- A directory follows the accepted attempts of its history. -/
structure Tracks (directory : MemoryDirectoryStore)
    (log : List (Attempt × DirectoryRecord)) : Prop where
  attested : ∀ accepted ∈ log, Attested accepted.1 accepted.2
  holds : HoldsNewest DirectoryRecord.agentId MadeBefore directory.get
    (log.map Prod.snd)

theorem tracks_empty : Tracks .empty [] where
  attested := by
    intro accepted isMember
    cases isMember
  holds := holdsNewest_nil _ _

variable {directory : MemoryDirectoryStore}
  {log : List (Attempt × DirectoryRecord)}

theorem Tracks.attested_of_get
    (tracks : Tracks directory log) {agentId : JsString}
    {record : DirectoryRecord} (isHeld : directory.get agentId = some record) :
    ∃ attempt, Attested attempt record := by
  obtain ⟨-, isNewest⟩ := tracks.holds.newest _ _ isHeld
  obtain ⟨⟨attempt, _⟩, isMember, rfl⟩ := List.mem_map.mp isNewest.isLogged
  exact ⟨attempt, tracks.attested _ isMember⟩

/-- An accepted consent is later than the one held. -/
theorem Tracks.madeBefore
    (tracks : Tracks directory log) {attempt : Attempt}
    {previous record : DirectoryRecord} (attested : Attested attempt record)
    (isHeld : directory.get record.agentId = some previous)
    (isNewer : superseded record.consent (directory.get record.agentId) =
      false) :
    MadeBefore previous record := by
  obtain ⟨_, previousAttested⟩ := tracks.attested_of_get isHeld
  exact madeBefore_of_not_superseded previousAttested attested isHeld isNewer

/-- A directory follows its history through one more attempt. -/
theorem Tracks.step
    (tracks : Tracks directory log) {attempt : Attempt}
    {result : Except JsString ConsentResult} {next : MemoryDirectoryStore}
    (outcome : Outcome attempt directory (result, next)) :
    Tracks next (log ++ acceptance attempt result) := by
  cases outcome with
  | @accepted record attested isNewer =>
      constructor
      · intro accepted isMember
        rcases List.mem_append.mp isMember with inLog | isLast
        · exact tracks.attested accepted inLog
        · rw [List.mem_singleton.mp isLast]
          exact attested
      · rw [List.map_append]
        apply tracks.holds.take
        · intro previous isHeld
          exact tracks.madeBefore attested isHeld isNewer
        · exact directory.get_put_self record
        · intro agentId different
          exact directory.get_put_of_ne different
  | refused notOk =>
      have nothing : acceptance attempt result = [] := by
        unfold acceptance
        split
        · exact absurd rfl (notOk _)
        · rfl
      rw [nothing, List.append_nil]
      exact tracks

/-- A directory follows its history through any attempts. -/
theorem Tracks.applyAll
    (tracks : Tracks directory log) (attempts : List Attempt) :
    Tracks (applyAll attempts directory)
      (log ++ acceptances attempts directory) := by
  induction attempts generalizing directory log with
  | nil =>
      rw [acceptances, List.append_nil]
      exact tracks
  | cons attempt rest inductionHypothesis =>
      have next := tracks.step (attempt.apply_outcome directory)
      have last := inductionHypothesis next
      rw [List.append_assoc] at last
      exact last

/-! ## Newest consents -/

theorem Tracks.advancing_stored (tracks : Tracks directory log) :
    Advancing DirectoryRecord.agentId StoredBefore (log.map Prod.snd) := by
  have advancing := List.pairwise_map.mp tracks.holds.advancing
  apply List.pairwise_map.mpr
  apply List.Pairwise.imp_of_mem _ advancing
  intro earlier later isEarlier isLater madeBefore sameAgent
  exact (storedBefore_iff (tracks.attested _ isEarlier)
    (tracks.attested _ isLater)).mpr (madeBefore sameAgent)

theorem Outcome.unchanged
    {attempt : Attempt}
    {result : Except JsString ConsentResult × MemoryDirectoryStore}
    (outcome : Outcome attempt directory result)
    (notOk : ∀ record, result.1 ≠ .ok (.ok record)) :
    result.2 = directory := by
  cases outcome with
  | accepted attested isNewer => exact absurd rfl (notOk _)
  | refused _ => rfl

/-- An accepted consent is stored, later than the one stored before. -/
theorem Tracks.stored_later
    (tracks : Tracks directory log) {attempt : Attempt}
    {result : Except JsString ConsentResult × MemoryDirectoryStore}
    (outcome : Outcome attempt directory result) {record : DirectoryRecord}
    (isOk : result.1 = .ok (.ok record)) :
    result.2.get record.agentId = some record ∧
      ∀ previous, directory.get record.agentId = some previous →
        StoredBefore previous record := by
  cases outcome with
  | accepted attested isNewer =>
      cases isOk
      refine ⟨directory.get_put_self record, ?_⟩
      intro previous isHeld
      obtain ⟨_, previousAttested⟩ := tracks.attested_of_get isHeld
      exact (storedBefore_iff previousAttested attested).mpr
        (tracks.madeBefore attested isHeld isNewer)
  | refused notOk => exact absurd isOk (notOk record)

theorem Tracks.listed
    (tracks : Tracks directory log) {record : DirectoryRecord} :
    (∃ limit, record ∈ directory.listListed limit) ↔
      Newest DirectoryRecord.agentId MadeBefore (log.map Prod.snd) record ∧
        record.consent.listed = true := by
  rw [directory.mem_listListed_iff]
  constructor
  · rintro ⟨isListed, agentId, isHeld⟩
    obtain ⟨attempt, attested⟩ := tracks.attested_of_get isHeld
    obtain ⟨-, isNewest⟩ := tracks.holds.newest _ _ isHeld
    exact ⟨isNewest, attested.listed_eq ▸ isListed⟩
  · rintro ⟨isNewest, isListed⟩
    have isHeld := tracks.holds.held_iff.mpr ⟨rfl, isNewest⟩
    obtain ⟨attempt, attested⟩ := tracks.attested_of_get isHeld
    exact ⟨attested.listed_eq ▸ isListed, record.agentId, isHeld⟩

/-- A consent is not made before one that is the same value. -/
theorem not_sameValue_of_madeBefore
    {attempt other : Attempt} {earlier later : DirectoryRecord}
    (first : Attested attempt earlier) (second : Attested other later)
    (madeBefore : earlier.agentId = later.agentId →
      MadeBefore earlier later) :
    ¬ SameValue (.object earlier.consent.object)
      (.object later.consent.object) := by
  intro same
  have isFirst := (isConsent_of_parseConsent first.isParsed).2
  have isSecond := (isConsent_of_parseConsent second.isParsed).2
  have sameAgent : earlier.consent.agentId = later.consent.agentId :=
    same.text "agent_id" isFirst.isAgentId isSecond.isAgentId
  have sameInstant : earlier.consent.createdAt = later.consent.createdAt :=
    same.text "created_at" isFirst.isCreatedAt isSecond.isCreatedAt
  have before : MadeBefore earlier later := by
    apply madeBefore
    rw [first.agentId_eq, second.agentId_eq]
    exact sameAgent
  unfold MadeBefore at before
  rw [sameInstant] at before
  obtain ⟨one, two, isOne, isTwo, less⟩ := dateLess_eq_true_iff.mp before
  rw [isOne] at isTwo
  cases isTwo
  exact absurd less (lt_irrefl _)

/-- No consent is accepted twice. -/
theorem Tracks.pairwise_not_sameValue (tracks : Tracks directory log) :
    log.Pairwise fun earlier later =>
      ¬ SameValue (.object earlier.2.consent.object)
        (.object later.2.consent.object) := by
  have advancing := List.pairwise_map.mp tracks.holds.advancing
  apply List.Pairwise.imp_of_mem _ advancing
  intro earlier later isEarlier isLater madeBefore
  exact not_sameValue_of_madeBefore (tracks.attested _ isEarlier)
    (tracks.attested _ isLater) madeBefore

/-- From an empty directory, whatever attempts are made: the directory holds
for each agent the accepted consent of the greatest instant and nothing for
an agent without one, and lists the agents whose newest consent asks for it;
no consent is accepted twice; each accepted one is attested; and a further
attempt either leaves the directory or is accepted and later than the consent
held. -/
theorem directory_follows_newest (attempts : List Attempt) :
    let directory := applyAll attempts .empty
    let accepted := acceptances attempts .empty
    let records := accepted.map Prod.snd
    (∀ agentId record, directory.get agentId = some record →
      record.agentId = agentId ∧
        record.listed = record.consent.listed ∧
        Newest DirectoryRecord.agentId MadeBefore records record) ∧
      (∀ agentId, directory.get agentId = none →
        ∀ record ∈ records, record.agentId ≠ agentId) ∧
      (∀ record, (∃ limit, record ∈ directory.listListed limit) ↔
        Newest DirectoryRecord.agentId MadeBefore records record ∧
          record.consent.listed = true) ∧
      Advancing DirectoryRecord.agentId StoredBefore records ∧
      (accepted.Pairwise fun earlier later =>
        ¬ SameValue (.object earlier.2.consent.object)
          (.object later.2.consent.object)) ∧
      (∀ pair ∈ accepted, Attested pair.1 pair.2) ∧
      ∀ attempt : Attempt,
        ((∀ record, (attempt.apply directory).1 ≠ .ok (.ok record)) →
          (attempt.apply directory).2 = directory) ∧
        ∀ record, (attempt.apply directory).1 = .ok (.ok record) →
          (attempt.apply directory).2.get record.agentId = some record ∧
            ∀ previous, directory.get record.agentId = some previous →
              StoredBefore previous record := by
  have tracks := tracks_empty.applyAll attempts
  rw [List.nil_append] at tracks
  refine ⟨?_, tracks.holds.absent, fun record => tracks.listed,
    tracks.advancing_stored, tracks.pairwise_not_sameValue,
    tracks.attested, ?_⟩
  · intro agentId record isHeld
    obtain ⟨attempt, attested⟩ := tracks.attested_of_get isHeld
    obtain ⟨isAgent, isNewest⟩ := tracks.holds.newest _ _ isHeld
    exact ⟨isAgent, attested.listed_eq, isNewest⟩
  · intro attempt
    exact ⟨(attempt.apply_outcome _).unchanged,
      fun record => tracks.stored_later (attempt.apply_outcome _)⟩

end History

/-! ## A replay -/

/-- The sample consent, posted at an instant to a registry that has its agent
and its key. -/
def sampleAttempt (now : Int) : Attempt where
  body := some (.object sampleConsent.object)
  now := some now
  getAgent := fun agentId => .fulfilled (some
    { agentId := agentId
      manifest := sampleManifest
      manifestDigest := sampleProof.manifestDigest
      proof := sampleProof
      status := .ACTIVE
      registeredAt := sampleProof.createdAt
      updatedAt := sampleProof.createdAt })
  getKey := fun _ => .fulfilled (some sampleOperatorKey)
  readFails := false
  writeFails := false

/-- Of a consent and its replay a minute later, the first is accepted. -/
example :
    letI := samplePlatform
    (acceptances [sampleAttempt 1789344000000, sampleAttempt 1789344060000]
      .empty).map (fun pair => pair.1.now) = [some 1789344000000] := by
  rfl

end AgenId.Web
