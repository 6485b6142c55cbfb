import AgenId.Web.DirectoryHistory

/-!
# The directory under concurrency

Calls of `applyDirectoryConsent` run interleaved, one registry read or one
directory call at a time.  A consent is compared with the record that the call
read and written over the one that is there when it writes.  The directory
ends with the accepted consent of the greatest instant in every run in which
no newer consent is written between the two.
-/

namespace AgenId.Web

open AgenId.Core
open AgenId.Ecma
open AgenId.Library
open AgenId.Registry

/-! ## Calls that share a directory -/

/-- What one call to the stores meets: how the registry answers, and whether
the directory throws. -/
structure Circumstance where
  getAgent : JsString → Settled (Option AgentRecord)
  getKey : JsString → Settled (Option KeyDocument)
  throws : Bool

/-- A directory, and what the calls to come will meet. -/
structure SharedDirectory where
  directory : MemoryDirectoryStore
  upcoming : Nat → Circumstance

/-- The directory after a call. -/
def SharedDirectory.after (shared : SharedDirectory)
    (directory : MemoryDirectoryStore) : SharedDirectory :=
  ⟨directory, fun count => shared.upcoming (count + 1)⟩

/-- How a call settles; one that throws has no effect. -/
def SharedDirectory.handle :
    Program.Handler DirectoryCall.Reply SharedDirectory
  | .getAgent agentId, shared =>
    ((shared.upcoming 0).getAgent agentId, shared.after shared.directory)
  | .getKey keyId, shared =>
    ((shared.upcoming 0).getKey keyId, shared.after shared.directory)
  | .get agentId, shared =>
    (if (shared.upcoming 0).throws then .rejected
      else .fulfilled (shared.directory.get agentId),
      shared.after shared.directory)
  | .put record, shared =>
    if (shared.upcoming 0).throws then
      (.rejected, shared.after shared.directory)
    else (.fulfilled (), shared.after (shared.directory.put record))

/-- A consent that was posted, and the clock of the call that decides on
it. -/
structure Posted where
  body : Option Json
  now : Option Int

/-- The exchanges of a call so far. -/
abbrev DirectoryExchanges := List (Program.Exchange DirectoryCall.Reply)

/-- The exchange that writes a record. -/
def DirectoryRecord.written (record : DirectoryRecord) :
    Program.Exchange DirectoryCall.Reply :=
  ⟨.put record, .fulfilled ()⟩

section Race

variable [Platform]

/-- Calls that share a directory. -/
abbrev DirectorySystem (Index : Type*) :=
  System DirectoryCall.Reply SharedDirectory
    (Except JsString ConsentResult) Index

/-- The calls before any of them has begun. -/
def decidingOn {Index : Type*} (posted : Index → Posted)
    (shared : SharedDirectory) : DirectorySystem Index :=
  System.start shared fun index =>
    applyDirectoryConsent (posted index).body (posted index).now

/-- A record is written while the directory still answers as it did when the
call asked, or while it holds no consent made after that of the record. -/
def NotOvertaken (shared : SharedDirectory)
    (history : DirectoryExchanges) : DirectoryCall → Prop
  | .put record =>
    ⟨.get record.agentId,
        .fulfilled (shared.directory.get record.agentId)⟩ ∈ history ∨
      ∀ previous ∈ shared.directory.get record.agentId,
        ¬ MadeBefore record previous
  | _ => True

/-! ## What a call promises -/

/-- A record says what its consent says. -/
structure Faithful (record : DirectoryRecord) : Prop where
  isDated : (dateParse record.consent.createdAt).isSome
  listed_eq : record.listed = record.consent.listed
  created_eq :
    dateParse record.consentCreatedAt = dateParse record.consent.createdAt

/-- What a call has seen before it writes a record, which it does once: what
it read does not supersede the consent. -/
def Compared (history : DirectoryExchanges) : DirectoryCall → Prop
  | .put record => Faithful record ∧ ∀ previous,
      ⟨.get record.agentId, .fulfilled previous⟩ ∈ history →
        superseded record.consent previous = false
  | _ => True

/-- A call has written nothing. -/
def NothingWritten (history : DirectoryExchanges) : Prop :=
  ∀ record : DirectoryRecord, record.written ∉ history

/-- A call is answered ok with the record that it has written. -/
def AnswersWritten (history : DirectoryExchanges)
    (result : Except JsString ConsentResult) : Prop :=
  ∀ record : DirectoryRecord,
    record.written ∈ history ↔ result = .ok (.ok record)

/-- A call has not asked the directory. -/
def NotAsked (history : DirectoryExchanges) : Prop :=
  NothingWritten history ∧ ∀ agentId previous,
    ⟨.get agentId, previous⟩ ∉ history

omit [Platform] in
theorem answersWritten_of_nothing
    {history : DirectoryExchanges} (nothing : NothingWritten history)
    {result : Except JsString ConsentResult}
    (notOk : ∀ record, result ≠ .ok (.ok record)) :
    AnswersWritten history result := by
  intro record
  constructor
  · intro isWritten
    exact absurd isWritten (nothing record)
  · intro isOk
    exact absurd isOk (notOk record)

omit [Platform] in
theorem answersWritten_of_fail
    {history : DirectoryExchanges} (nothing : NothingWritten history)
    (failure : ConsentFailure) :
    AnswersWritten history (.ok (.fail failure)) := by
  apply answersWritten_of_nothing nothing
  intro record isOk
  cases isOk

omit [Platform] in
/-- An exchange that writes nothing leaves nothing written. -/
theorem NothingWritten.append
    {history : DirectoryExchanges} (nothing : NothingWritten history)
    {exchange : Program.Exchange DirectoryCall.Reply}
    (isOther : ∀ record : DirectoryRecord, record.written ≠ exchange) :
    NothingWritten (history ++ [exchange]) := by
  intro record isWritten
  rcases List.mem_append.mp isWritten with earlier | isLast
  · exact nothing record earlier
  · exact isOther record (List.mem_singleton.mp isLast)

theorem readOperator_promises (consent : DirectoryConsent) :
    (readOperator consent).Promises
      (fun history request => Compared history request ∧
        NothingWritten history)
      (fun history _ => NotAsked history) [] := by
  have nothing : NothingWritten [] := by
    intro record isWritten
    cases isWritten
  unfold readOperator directoryCall
  simp only [Program.perform_bind]
  refine ⟨⟨trivial, nothing⟩, ?_⟩
  intro agent
  have first : NotAsked ([] ++ [⟨.getAgent consent.agentId, agent⟩]) := by
    constructor
    · apply nothing.append
      intro record isWritten
      cases isWritten
    · intro agentId previous isMember
      simp at isMember
  cases agent with
  | rejected => exact first
  | fulfilled found =>
      cases found with
      | none => exact first
      | some agent =>
          refine ⟨⟨trivial, first.1⟩, ?_⟩
          intro key
          have second : NotAsked ([] ++
              [⟨.getAgent consent.agentId, .fulfilled (some agent)⟩] ++
              [⟨.getKey consent.keyId, key⟩]) := by
            constructor
            · apply first.1.append
              intro record isWritten
              cases isWritten
            · intro agentId previous isMember
              simp at isMember
          cases key with
          | rejected => exact second
          | fulfilled key => exact second

theorem faithful_of_consentRecord
    {consent : DirectoryConsent} {now : Option Int} {record : DirectoryRecord}
    (isDated : (dateParse consent.createdAt).isSome)
    (isRecord : consentRecord consent now = .ok record) :
    Faithful record := by
  obtain ⟨-, -, isListed, isConsent, created, -⟩ :=
    consentRecord_eq_ok isRecord
  constructor
  · rw [isConsent]
    exact isDated
  · rw [isConsent]
    exact isListed
  · rw [isConsent]
    exact created

theorem recordConsent_promises
    {consent : DirectoryConsent} (now : Option Int)
    {history : DirectoryExchanges} (notAsked : NotAsked history)
    (isDated : (dateParse consent.createdAt).isSome) :
    (recordConsent consent now).Promises
      (fun history request => Compared history request ∧
        NothingWritten history)
      AnswersWritten history := by
  obtain ⟨nothing, noAnswer⟩ := notAsked
  unfold recordConsent directoryCall
  simp only [Program.perform_bind]
  refine ⟨⟨trivial, nothing⟩, ?_⟩
  intro read
  have afterRead :
      NothingWritten (history ++ [⟨.get consent.agentId, read⟩]) := by
    apply nothing.append
    intro record isWritten
    cases isWritten
  cases read with
  | rejected => exact answersWritten_of_fail afterRead _
  | fulfilled previous =>
      by_cases isSuperseded : superseded consent previous = true
      · simp only [isSuperseded, if_true]
        exact answersWritten_of_fail afterRead _
      · simp only [isSuperseded]
        cases isRecord : consentRecord consent now with
        | error thrown =>
            apply answersWritten_of_nothing afterRead
            intro record isOk
            cases isOk
        | ok record =>
            obtain ⟨-, sameAgent, -, sameConsent, -, -⟩ :=
              consentRecord_eq_ok isRecord
            refine ⟨⟨⟨faithful_of_consentRecord isDated isRecord, ?_⟩,
              afterRead⟩, ?_⟩
            · intro other isMember
              rw [sameConsent]
              rw [sameAgent] at isMember
              rcases List.mem_append.mp isMember with earlier | isLast
              · exact absurd earlier (noAnswer _ _)
              · have same : other = previous := by
                  simpa using isLast
                rw [same]
                exact Bool.not_eq_true _ ▸ isSuperseded
            · intro wrote
              cases wrote with
              | rejected =>
                  apply answersWritten_of_fail
                  apply afterRead.append
                  intro other isWritten
                  cases isWritten
              | fulfilled done =>
                  intro other
                  constructor
                  · intro isWritten
                    rcases List.mem_append.mp isWritten with earlier | isLast
                    · exact absurd earlier (afterRead other)
                    · have same : other = record := by
                        simpa [DirectoryRecord.written] using isLast
                      rw [same]
                  · intro isOk
                    cases isOk
                    exact List.mem_append_right _ (List.mem_singleton.mpr rfl)

/-- A call writes only what it has compared, and is answered ok exactly with
the record that it has written. -/
theorem applyDirectoryConsent_promises
    (body : Option Json) (now : Option Int) :
    (applyDirectoryConsent body now).Promises
      (fun history request => Compared history request ∧
        NothingWritten history)
      AnswersWritten [] := by
  have nothing : NothingWritten [] := by
    intro record isWritten
    cases isWritten
  unfold applyDirectoryConsent
  cases isParsed : parseConsent body with
  | error message => exact answersWritten_of_fail nothing _
  | ok consent =>
      have isDated := (isConsent_of_parseConsent isParsed).2.dated
      dsimp only
      by_cases isOutside :
          outsideWindow now (dateParse consent.createdAt) = true
      · rw [if_pos isOutside]
        exact answersWritten_of_fail nothing _
      · rw [if_neg isOutside]
        apply Program.Promises.bind (readOperator_promises consent)
        intro history operator notAsked
        cases operator with
        | rejected => exact answersWritten_of_fail notAsked.1 _
        | fulfilled operator =>
            dsimp only
            cases checkOperator consent operator with
            | error refused => exact answersWritten_of_fail notAsked.1 _
            | ok passed =>
                exact recordConsent_promises now notAsked isDated

/-! ## What each call keeps -/

/-- What is compared passes on to later consents. -/
theorem not_madeBefore_trans
    {first second third : DirectoryRecord}
    (isDated : (dateParse second.consent.createdAt).isSome)
    (notBefore : ¬ MadeBefore second first)
    (notAfter : ¬ MadeBefore third second) :
    ¬ MadeBefore third first := by
  intro isBefore
  obtain ⟨last, earlier, isLast, isEarlier, less⟩ :=
    dateLess_eq_true_iff.mp isBefore
  obtain ⟨middle, isMiddle⟩ := Option.isSome_iff_exists.mp isDated
  by_cases isLess : middle < earlier
  · exact notBefore (dateLess_eq_true_iff.mpr
      ⟨middle, earlier, isMiddle, isEarlier, isLess⟩)
  · have other : last < middle := by omega
    exact notAfter (dateLess_eq_true_iff.mpr
      ⟨last, middle, isLast, isMiddle, other⟩)

/-- A consent that a faithful record does not supersede was made after it. -/
theorem Faithful.madeBefore
    {previous record : DirectoryRecord} (first : Faithful previous)
    (second : Faithful record)
    (isNewer : superseded record.consent (some previous) = false) :
    MadeBefore previous record := by
  obtain ⟨earlier, isEarlier⟩ := Option.isSome_iff_exists.mp first.isDated
  obtain ⟨later, isLater⟩ := Option.isSome_iff_exists.mp second.isDated
  rw [superseded, Option.any_some, first.created_eq, isEarlier, isLater,
    dateAtLeast_some] at isNewer
  have less : earlier < later := not_le.mp (of_decide_eq_false isNewer)
  exact dateLess_eq_true_iff.mpr ⟨earlier, later, isEarlier, isLater, less⟩

/-- A directory holds the last made of the records written for an agent, and
what it held before when none was. -/
structure HoldsLast (initial directory : MemoryDirectoryStore)
    (written : DirectoryRecord → Prop) (agentId : JsString) : Prop where
  unchanged : (∀ record, written record → record.agentId ≠ agentId) →
    directory.get agentId = initial.get agentId
  last : (∃ record, written record ∧ record.agentId = agentId) →
    ∃ stored, directory.get agentId = some stored ∧ written stored ∧
      stored.agentId = agentId ∧
      ∀ record, written record → record.agentId = agentId →
        ¬ MadeBefore stored record

/-- A record that is not overtaken is the last one made once it is
written. -/
theorem HoldsLast.put
    {initial directory : MemoryDirectoryStore}
    {written : DirectoryRecord → Prop} {record : DirectoryRecord}
    (faithful : ∀ earlier, written earlier → Faithful earlier)
    (newer : ∀ previous, directory.get record.agentId = some previous →
      Faithful previous → ¬ MadeBefore record previous)
    {agentId : JsString}
    (holds : HoldsLast initial directory written agentId) :
    HoldsLast initial (directory.put record)
      (fun other => written other ∨ other = record) agentId := by
  by_cases isAgent : agentId = record.agentId
  · subst isAgent
    constructor
    · intro none
      exact absurd rfl (none record (Or.inr rfl))
    · intro _
      refine ⟨record, directory.get_put_self record, Or.inr rfl, rfl, ?_⟩
      intro other isWritten sameAgent
      rcases isWritten with earlier | rfl
      · obtain ⟨stored, isHeld, isStored, -, isLast⟩ :=
          holds.last ⟨other, earlier, sameAgent⟩
        have isFaithful := faithful stored isStored
        exact not_madeBefore_trans isFaithful.isDated
          (isLast other earlier sameAgent)
          (newer stored isHeld isFaithful)
      · exact irrefl other
  · have kept := directory.get_put_of_ne isAgent
    constructor
    · intro none
      rw [kept]
      apply holds.unchanged
      intro other earlier
      exact none other (Or.inl earlier)
    · rintro ⟨other, isWritten, sameAgent⟩
      rcases isWritten with earlier | rfl
      · obtain ⟨stored, isHeld, isStored, isKey, isLast⟩ :=
          holds.last ⟨other, earlier, sameAgent⟩
        refine ⟨stored, kept.trans isHeld, Or.inl isStored, isKey, ?_⟩
        intro third isThird thirdAgent
        rcases isThird with before | rfl
        · exact isLast third before thirdAgent
        · exact absurd thirdAgent.symm isAgent
      · exact absurd sameAgent.symm isAgent

variable {Index : Type*} [DecidableEq Index]

/-- A directory follows what the calls have written. -/
structure FollowsWritten (initial : MemoryDirectoryStore)
    (system : DirectorySystem Index) : Prop where
  faithful : ∀ record, system.Made record.written → Faithful record
  holds : ∀ agentId, HoldsLast initial system.state.directory
    (fun record => system.Made record.written) agentId

omit [DecidableEq Index] in
theorem followsWritten_decidingOn
    (posted : Index → Posted) (shared : SharedDirectory) :
    FollowsWritten shared.directory (decidingOn posted shared) := by
  have nothing : ∀ exchange, ¬ (decidingOn posted shared).Made exchange := by
    rintro exchange ⟨index, isMember⟩
    cases isMember
  constructor
  · intro record isWritten
    exact absurd isWritten (nothing _)
  · intro agentId
    constructor
    · intro _
      rfl
    · rintro ⟨record, isWritten, -⟩
      exact absurd isWritten (nothing _)

/-- What is written is not before what the directory holds, when the call has
compared it and was not overtaken. -/
theorem newer_of_notOvertaken
    {shared : SharedDirectory} {history : DirectoryExchanges}
    {record : DirectoryRecord}
    (notOvertaken : NotOvertaken shared history (.put record))
    (compared : Compared history (.put record))
    {previous : DirectoryRecord}
    (isHeld : shared.directory.get record.agentId = some previous)
    (isFaithful : Faithful previous) :
    ¬ MadeBefore record previous := by
  rcases notOvertaken with asked | notLater
  · have isNewer := compared.2 _ asked
    rw [isHeld] at isNewer
    exact asymm (isFaithful.madeBefore compared.1 isNewer)
  · exact notLater previous isHeld

omit [DecidableEq Index] in
/-- A call that writes nothing leaves what a directory follows. -/
theorem FollowsWritten.other
    {initial : MemoryDirectoryStore} {system next : DirectorySystem Index}
    (follows : FollowsWritten initial system)
    (sameWritten : ∀ record : DirectoryRecord,
      next.Made record.written ↔ system.Made record.written)
    (sameDirectory : next.state.directory = system.state.directory) :
    FollowsWritten initial next := by
  constructor
  · intro record isWritten
    exact follows.faithful record ((sameWritten record).mp isWritten)
  · intro agentId
    rw [sameDirectory]
    simp only [sameWritten]
    exact follows.holds agentId

theorem FollowsWritten.advance
    {initial : MemoryDirectoryStore} {system : DirectorySystem Index}
    (follows : FollowsWritten initial system) (index : Index)
    {request : DirectoryCall}
    (next : request.Reply →
      DirectoryProgram (Except JsString ConsentResult))
    (notOvertaken : NotOvertaken system.state
      (system.processes index).history request)
    (compared : Compared (system.processes index).history request) :
    FollowsWritten initial
      (system.advance SharedDirectory.handle index request next) := by
  cases request with
  | put record =>
      cases throws : (system.state.upcoming 0).throws with
      | true =>
          apply follows.other
          · intro other
            rw [System.made_advance_iff]
            simp [DirectoryRecord.written, SharedDirectory.handle, throws]
          · simp [System.advance, SharedDirectory.handle, throws,
              SharedDirectory.after]
      | false =>
          have isMade : ∀ other : DirectoryRecord,
              (system.advance SharedDirectory.handle index (.put record)
                next).Made other.written ↔
                system.Made other.written ∨ other = record := by
            intro other
            rw [System.made_advance_iff]
            simp [DirectoryRecord.written, SharedDirectory.handle, throws]
          have isPut : (system.advance SharedDirectory.handle index
              (.put record) next).state.directory =
                system.state.directory.put record := by
            simp [System.advance, SharedDirectory.handle, throws,
              SharedDirectory.after]
          constructor
          · intro other isWritten
            rcases (isMade other).mp isWritten with earlier | rfl
            · exact follows.faithful other earlier
            · exact compared.1
          · intro agentId
            rw [isPut]
            simp only [isMade]
            apply (follows.holds agentId).put follows.faithful
            intro previous isHeld isFaithful
            exact newer_of_notOvertaken notOvertaken compared isHeld
              isFaithful
  | _ =>
      apply follows.other
      · intro other
        rw [System.made_advance_iff]
        simp [DirectoryRecord.written]
      · rfl

/-! ## Runs -/

/-- A call was answered ok with a record. -/
def Accepted (system : DirectorySystem Index) (index : Index)
    (record : DirectoryRecord) : Prop :=
  (system.processes index).rest = .done (.ok (.ok record))

variable {posted : Index → Posted} {shared : SharedDirectory}
  {allowed : SharedDirectory → DirectoryExchanges → DirectoryCall → Prop}
  {final : DirectorySystem Index}

/-- In every run, the records written are those that calls were answered. -/
theorem made_iff_accepted
    (reaches : System.Reaches SharedDirectory.handle allowed
      (decidingOn posted shared) final)
    (record : DirectoryRecord) :
    final.Made record.written ↔ ∃ index, Accepted final index record := by
  have promises := @System.Reaches.promises _ _ _ _ _ _ _ _
    (fun _ history request => Compared history request ∧
      NothingWritten history)
    (fun _ => AnswersWritten) _ _ reaches
    (fun index => applyDirectoryConsent_promises _ _)
  constructor
  · rintro ⟨index, isWritten⟩
    refine ⟨index, ?_⟩
    have promise := promises index
    unfold Accepted
    cases isRest : (final.processes index).rest with
    | done result =>
        rw [isRest] at promise
        rw [(promise record).mp isWritten]
    | call request next =>
        rw [isRest] at promise
        exact absurd isWritten (promise.1.2 record)
  · rintro ⟨index, isAccepted⟩
    have promise := promises index
    rw [isAccepted] at promise
    exact ⟨index, (promise record).mpr rfl⟩

/-- In every run in which no write is overtaken, the directory holds for each
agent the accepted consent of the greatest instant, and what it held before
when none was accepted. -/
theorem newer_consents_stand
    (reaches : System.Reaches SharedDirectory.handle NotOvertaken
      (decidingOn posted shared) final) (agentId : JsString) :
    ((∀ index record, Accepted final index record →
        record.agentId ≠ agentId) →
      final.state.directory.get agentId = shared.directory.get agentId) ∧
    ∀ index record, Accepted final index record → record.agentId = agentId →
      ∃ stored, final.state.directory.get agentId = some stored ∧
        stored.listed = stored.consent.listed ∧
        (∃ writer, Accepted final writer stored) ∧
        ∀ other accepted, Accepted final other accepted →
          accepted.agentId = agentId → ¬ MadeBefore stored accepted := by
  have follows : FollowsWritten shared.directory final := by
    apply @System.Reaches.keeps _ _ _ _ _ _ _ _
      (fun _ history request => Compared history request ∧
        NothingWritten history)
      (fun _ => AnswersWritten) _ _ _ reaches
    · intro index
      exact applyDirectoryConsent_promises _ _
    · exact followsWritten_decidingOn posted shared
    · intro system index request next notOvertaken compared inductionHypothesis
      exact inductionHypothesis.advance index next notOvertaken compared.1
  have holds := follows.holds agentId
  have isMade := made_iff_accepted reaches
  constructor
  · intro none
    apply holds.unchanged
    intro record isWritten
    obtain ⟨index, isAccepted⟩ := (isMade record).mp isWritten
    exact none index record isAccepted
  · intro index record isAccepted isAgent
    obtain ⟨stored, isHeld, isWritten, -, isLast⟩ :=
      holds.last ⟨record, (isMade record).mpr ⟨index, isAccepted⟩, isAgent⟩
    refine ⟨stored, isHeld, (follows.faithful stored isWritten).listed_eq,
      (isMade stored).mp isWritten, ?_⟩
    intro other accepted alsoAccepted sameAgent
    exact isLast accepted ((isMade accepted).mpr ⟨other, alsoAccepted⟩)
      sameAgent

end Race

/-! ## A listing that outlives a newer delisting -/

/-- The consent of the sample agent, a minute later, to be delisted. -/
def sampleDelisting : Json :=
  .object
    [(units "type", .string (units "agenid.directory.consent.v1")),
      (units "agent_id",
        .string (units "agenid:01J8Z3K3F2QZ9X6V7R4T8N2W5Y")),
      (units "key_id",
        .string (units "agenid:key:01J8Z3M9Q4XK2P7VBN6TDR8HWE")),
      (units "listed", .boolean false),
      (units "created_at", .string (units "2026-09-14T00:01:00Z")),
      (units "signature", .string (units <|
        "wq_CxlQiE-Is8-76FzYeBVqDinbrG3GxcWq4bUAOS0qChN4pF0CiPNQCkTH4r6DI" ++
          "YiHfakD_8EdeSmLtwL2SCQ"))]

/-- The two consents of the sample agent, decided on at one instant. -/
def samplePosted (delisting : Bool) : Posted where
  body := some <|
    if delisting then sampleDelisting else .object sampleConsent.object
  now := some 1789344060000

/-- An empty directory, and a registry that has the sample agent and its
key. -/
def sampleShared : SharedDirectory where
  directory := .empty
  upcoming := fun _ =>
    { getAgent := (sampleAttempt 0).getAgent
      getKey := (sampleAttempt 0).getKey
      throws := false }

/-- What a call was answered ok with satisfies a test. -/
def answeredOk (test : DirectoryRecord → Bool) :
    DirectoryProgram (Except JsString ConsentResult) → Bool
  | .done (.ok (.ok record)) => test record
  | _ => false

theorem exists_of_answeredOk
    {test : DirectoryRecord → Bool}
    {rest : DirectoryProgram (Except JsString ConsentResult)}
    (isOk : answeredOk test rest = true) :
    ∃ record, rest = .done (.ok (.ok record)) ∧ test record = true := by
  unfold answeredOk at isOk
  split at isOk
  · exact ⟨_, rfl, isOk⟩
  · cases isOk

/-- The sample consents, decided on in turns. -/
def sampleRace (order : List Bool) : DirectorySystem Bool :=
  let := samplePlatform
  (decidingOn samplePosted sampleShared).turns SharedDirectory.handle order

/-- The newer consent is written between the other's read and write, and both
are answered ok. -/
def overtakingOrder : List Bool :=
  [true, true, false, false, false, true, true, false]

/-- What a record of the sample agent says of its consent. -/
def saysOf (listed : Bool) (created : Int) (record : DirectoryRecord) : Bool :=
  let := samplePlatform
  decide (record.agentId = units "agenid:01J8Z3K3F2QZ9X6V7R4T8N2W5Y" ∧
    record.consent.listed = listed ∧
    dateParse record.consent.createdAt = some created)

theorem overtaken_accepted :
    let final := sampleRace overtakingOrder
    answeredOk (saysOf false 1789344060000) (final.processes true).rest ∧
      answeredOk (saysOf true 1789344000000) (final.processes false).rest := by
  exact ⟨rfl, rfl⟩

theorem overtaken_listed :
    let final := sampleRace overtakingOrder
    (final.state.directory.get
      (units "agenid:01J8Z3K3F2QZ9X6V7R4T8N2W5Y")).any fun stored =>
        stored.listed && saysOf true 1789344000000 stored := by
  rfl

/-- A delisting consent is answered ok, and an older listing consent that was
decided on meanwhile leaves the agent listed. -/
theorem newer_consent_overwritten :
    letI := samplePlatform
    ¬ ∀ final : DirectorySystem Bool,
      System.Reaches SharedDirectory.handle (fun _ _ _ => True)
        (decidingOn samplePosted sampleShared) final →
      ∀ index record, Accepted final index record →
        ∃ stored, final.state.directory.get record.agentId = some stored ∧
          ∀ other accepted, Accepted final other accepted →
            accepted.agentId = record.agentId →
              ¬ MadeBefore stored accepted := by
  let := samplePlatform
  intro stands
  have reaches : System.Reaches SharedDirectory.handle (fun _ _ _ => True)
      (decidingOn samplePosted sampleShared) (sampleRace overtakingOrder) :=
    System.reaches_turns (System.turnsAllowed_of_always _
      fun _ _ _ => trivial)
  obtain ⟨delisted, isAccepted, isDelisting⟩ :=
    exists_of_answeredOk overtaken_accepted.1
  obtain ⟨isAgent, -, isNewer⟩ := of_decide_eq_true isDelisting
  obtain ⟨stored, isHeld, isLast⟩ :=
    stands _ reaches true delisted isAccepted
  have isListed := overtaken_listed
  rw [isAgent] at isHeld
  simp only [isHeld, Option.any_some, Bool.and_eq_true] at isListed
  obtain ⟨-, -, isOlder⟩ := of_decide_eq_true isListed.2
  exact isLast true delisted isAccepted rfl
    (dateLess_eq_true_iff.mpr ⟨_, _, isOlder, isNewer, by decide⟩)

/-- What a call writes. -/
def DirectoryCall.writes : DirectoryCall → Option DirectoryRecord
  | .put record => some record
  | _ => none

instance [Platform] (earlier later : DirectoryRecord) :
    Decidable (MadeBefore earlier later) :=
  inferInstanceAs (Decidable (_ = true))

/-- Each consent is decided on alone. -/
def oneByOne : List Bool :=
  [false, false, false, false, true, true, true, true]

theorem oneByOne_accepted :
    answeredOk (saysOf false 1789344060000)
      ((sampleRace oneByOne).processes true).rest := by
  rfl

theorem oneByOne_allowed :
    letI := samplePlatform
    (decidingOn samplePosted sampleShared).TurnsAllowed SharedDirectory.handle
      (fun shared _ request => ∀ record ∈ request.writes,
        ∀ previous ∈ shared.directory.get record.agentId,
          ¬ MadeBefore record previous)
      oneByOne := by
  exact of_decide_eq_true rfl

/-- Decided on one after the other, the newer consent stands. -/
theorem newer_consents_stand_sample :
    letI := samplePlatform
    ∃ final : DirectorySystem Bool,
      System.Reaches SharedDirectory.handle NotOvertaken
        (decidingOn samplePosted sampleShared) final ∧
      ∃ record, Accepted final true record ∧
        ∃ stored, final.state.directory.get record.agentId = some stored ∧
          ¬ MadeBefore stored record := by
  let := samplePlatform
  have reaches : System.Reaches SharedDirectory.handle NotOvertaken
      (decidingOn samplePosted sampleShared) (sampleRace oneByOne) := by
    apply (System.reaches_turns oneByOne_allowed).mono
    intro shared history request nothingNewer
    cases request with
    | put record => exact Or.inr (nothingNewer record rfl)
    | _ => trivial
  obtain ⟨record, isAccepted, -⟩ := exists_of_answeredOk oneByOne_accepted
  obtain ⟨stored, isHeld, -, -, isLast⟩ :=
    (newer_consents_stand reaches record.agentId).2 true record isAccepted rfl
  exact ⟨_, reaches, record, isAccepted, stored, isHeld,
    isLast true record isAccepted rfl⟩

end AgenId.Web
