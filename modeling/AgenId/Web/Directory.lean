import AgenId.Library.Newest
import AgenId.Registry.Consent
import AgenId.Registry.Store

/-!
# The agent directory

`directory.ts`: an operator lists or delists its agent by a signed consent.
The decision on a consent is a program over the registry, which it reads, and
the directory, which it reads and writes; any of these calls may throw, and
the program catches what they throw.
-/

namespace AgenId.Web

open AgenId.Core
open AgenId.Ecma
open AgenId.Library
open AgenId.Registry

/-! ## Records and calls -/

structure DirectoryRecord where
  agentId : JsString
  listed : Bool
  consent : DirectoryConsent
  consentCreatedAt : JsString
  updatedAt : JsString

/-- What becomes of a call that may throw. -/
inductive Settled (α : Type) where
  | fulfilled (value : α)
  | rejected

/-- The calls of `RegistryStore` and `DirectoryStore` that decide on a
consent. -/
inductive DirectoryCall where
  | getAgent (agentId : JsString)
  | getKey (keyId : JsString)
  | get (agentId : JsString)
  | put (record : DirectoryRecord)

/-- How a call settles. -/
@[reducible]
def DirectoryCall.Reply : DirectoryCall → Type
  | .getAgent _ => Settled (Option AgentRecord)
  | .getKey _ => Settled (Option KeyDocument)
  | .get _ => Settled (Option DirectoryRecord)
  | .put _ => Settled Unit

/-- A program over the registry and the directory. -/
abbrev DirectoryProgram (Result : Type) := Program DirectoryCall.Reply Result

/-- A call whose outcome the program awaits. -/
def directoryCall (request : DirectoryCall) : DirectoryProgram request.Reply :=
  Program.perform request

/-- What a `ConsentResult` that is not ok says. -/
structure ConsentFailure where
  status : Nat
  error : String
  message : JsString

inductive ConsentResult where
  | ok (record : DirectoryRecord)
  | fail (failure : ConsentFailure)

/-- `fail(status, error, message)` with texts as source literals. -/
def consentFailure (status : Nat) (error message : String) : ConsentFailure :=
  ⟨status, error, units message⟩

/-- What is answered when a call throws. -/
def directoryUnavailable (message : String) : ConsentFailure :=
  consentFailure 503 "registry_unavailable" message

/-- `new Date(time).toISOString()`, which throws on an invalid date. -/
def toISOString : Option Int → Except JsString JsString
  | some time =>
    if time.natAbs ≤ maxTime.natAbs then
      .ok (isoString time)
    else
      .error (units "Invalid time value")
  | none => .error (units "Invalid time value")

/-! ## Deciding on a consent -/

section Decision

variable [Platform]

/-- `skew > CONSENT_WINDOW_MS`, which is false of `NaN`. -/
def outsideWindow (now created : Option Int) : Bool :=
  match now, created with
  | some now, some created =>
    decide (CONSENT_WINDOW_MS < ((now - created).natAbs : Int))
  | _, _ => false

/-- The agent of a consent and, when there is one, the key that the consent
names. -/
def readOperator (consent : DirectoryConsent) :
    DirectoryProgram (Settled (Option (AgentRecord × Option KeyDocument))) := do
  match ← directoryCall (.getAgent consent.agentId) with
  | .rejected => return .rejected
  | .fulfilled none => return .fulfilled none
  | .fulfilled (some agent) =>
    match ← directoryCall (.getKey consent.keyId) with
    | .rejected => return .rejected
    | .fulfilled key => return .fulfilled (some (agent, key))

/-- Whether the signature of a consent verifies; what throws does not. -/
def consentVerifies (consent : DirectoryConsent) (key : KeyDocument) : Bool :=
  match signingInputOf (.object consent.object) with
  | .ok signingInput =>
    verifyBytes (b64uDecode key.publicKeyB64u) signingInput
      (b64uDecode consent.signature)
  | .error _ => false

/-- The checks of a consent against its agent and the key it names. -/
def checkOperator (consent : DirectoryConsent) :
    Option (AgentRecord × Option KeyDocument) → Except ConsentFailure Unit
  | none => .error (consentFailure 404 "agent_not_found"
      "no agent is registered under this identifier")
  | some (agent, key) =>
    if agent.status ≠ .ACTIVE then
      .error (consentFailure 409 "agent_not_active"
        "only an ACTIVE agent can be listed")
    else if agent.proof.keyId ≠ consent.keyId then
      .error (consentFailure 403 "key_not_operator" <|
        "key_id is not the operator key that signed this agent's " ++
          "manifest proof")
    else
      match key with
      | none => .error (consentFailure 403 "key_not_operator"
          "key_id does not resolve to this agent's operator key")
      | some key =>
        if key.role ≠ .operator ∨ key.controller ≠ consent.agentId then
          .error (consentFailure 403 "key_not_operator"
            "key_id does not resolve to this agent's operator key")
        else if key.status ≠ .active then
          .error (consentFailure 403 "key_not_active"
            "the operator key is not active")
        else if consentVerifies consent key then
          .ok ()
        else
          .error (consentFailure 403 "signature_invalid"
            "the signature does not verify against the operator key")

/-- Whether the directory holds a consent that is not older. -/
def superseded (consent : DirectoryConsent)
    (previous : Option DirectoryRecord) : Bool :=
  previous.any fun record =>
    dateAtLeast (dateParse record.consentCreatedAt)
      (dateParse consent.createdAt)

/-- The record of a consent; either date may throw. -/
def consentRecord (consent : DirectoryConsent) (now : Option Int) :
    Except JsString DirectoryRecord := do
  let consentCreatedAt ← toISOString (dateParse consent.createdAt)
  let updatedAt ← toISOString now
  return ⟨consent.agentId, consent.listed, consent, consentCreatedAt,
    updatedAt⟩

/-- What follows the checks: the directory is read, compared and written.
What is thrown between the calls is not caught. -/
def recordConsent (consent : DirectoryConsent) (now : Option Int) :
    DirectoryProgram (Except JsString ConsentResult) := do
  match ← directoryCall (.get consent.agentId) with
  | .rejected => return .ok (.fail (directoryUnavailable
      "the directory could not be read; nothing was changed"))
  | .fulfilled previous =>
    if superseded consent previous then
      return .ok (.fail (consentFailure 409 "consent_superseded"
        "a newer consent is already recorded for this agent"))
    else
      match consentRecord consent now with
      | .error thrown => return .error thrown
      | .ok record =>
        match ← directoryCall (.put record) with
        | .rejected => return .ok (.fail (directoryUnavailable
            "the directory could not be written; nothing was changed"))
        | .fulfilled () => return .ok (.ok record)

/-- `applyDirectoryConsent(body, { now, store, directory })`, on the time
value of `now`; an error is thrown out of it. -/
def applyDirectoryConsent (body : Option Json) (now : Option Int) :
    DirectoryProgram (Except JsString ConsentResult) := do
  match parseConsent body with
  | .error message => return .ok (.fail ⟨400, "invalid_consent", message⟩)
  | .ok consent =>
    if outsideWindow now (dateParse consent.createdAt) then
      return .ok (.fail (consentFailure 400 "consent_expired" <|
        "created_at must be within five minutes of the registry clock; " ++
          "sign a fresh consent"))
    else
      match ← readOperator consent with
      | .rejected => return .ok (.fail (directoryUnavailable
          "the registry could not be read; nothing was changed"))
      | .fulfilled operator =>
        match checkOperator consent operator with
        | .error refused => return .ok (.fail refused)
        | .ok () => recordConsent consent now

end Decision

/-! ## The memory directory -/

/-- The state of a `MemoryDirectoryStore`. -/
structure MemoryDirectoryStore where
  rows : OrderedMap JsString DirectoryRecord

namespace MemoryDirectoryStore

/-- `new MemoryDirectoryStore()`. -/
def empty : MemoryDirectoryStore := ⟨.empty⟩

variable (directory : MemoryDirectoryStore)

def get (agentId : JsString) : Option DirectoryRecord :=
  directory.rows.get agentId

def put (record : DirectoryRecord) : MemoryDirectoryStore :=
  ⟨directory.rows.set record.agentId record⟩

def listListed [Platform] (limit : Nat) : List DirectoryRecord :=
  ((directory.rows.values.filter (·.listed)).mergeSort fun first second =>
    Platform.localeCompare second.updatedAt first.updatedAt != .gt).take limit

@[simp]
theorem get_empty (agentId : JsString) : empty.get agentId = none := rfl

@[simp]
theorem get_put_self (record : DirectoryRecord) :
    (directory.put record).get record.agentId = some record := by
  rw [get, put, OrderedMap.get_set, if_pos rfl]

theorem get_put_of_ne {record : DirectoryRecord} {agentId : JsString}
    (different : agentId ≠ record.agentId) :
    (directory.put record).get agentId = directory.get agentId := by
  rw [get, put, OrderedMap.get_set, if_neg different, get]

theorem mem_listListed_iff [Platform] {record : DirectoryRecord} :
    (∃ limit, record ∈ directory.listListed limit) ↔
      record.listed = true ∧
        ∃ agentId, directory.get agentId = some record := by
  have isListed : record ∈ directory.rows.values.filter (·.listed) ↔
      record.listed = true ∧
        ∃ agentId, directory.get agentId = some record := by
    rw [List.mem_filter, OrderedMap.mem_values_iff]
    exact and_comm
  rw [← isListed]
  constructor
  · rintro ⟨limit, isMember⟩
    exact List.mem_mergeSort.mp (List.mem_of_mem_take isMember)
  · intro isMember
    refine ⟨(directory.rows.values.filter (·.listed)).length, ?_⟩
    rw [listListed, List.take_of_length_le (List.length_mergeSort _).le]
    exact List.mem_mergeSort.mpr isMember

end MemoryDirectoryStore

/-! ## One consent at a time -/

/-- One call of `applyDirectoryConsent` and what it meets: the clock, the
registry, and whether the directory can be read and written. -/
structure Attempt where
  body : Option Json
  now : Option Int
  getAgent : JsString → Settled (Option AgentRecord)
  getKey : JsString → Settled (Option KeyDocument)
  readFails : Bool
  writeFails : Bool

/-- How the calls of an attempt settle; one that throws has no effect. -/
def Attempt.handle (attempt : Attempt) :
    Program.Handler DirectoryCall.Reply MemoryDirectoryStore
  | .getAgent agentId, directory => (attempt.getAgent agentId, directory)
  | .getKey keyId, directory => (attempt.getKey keyId, directory)
  | .get agentId, directory =>
    (if attempt.readFails then .rejected
      else .fulfilled (directory.get agentId), directory)
  | .put record, directory =>
    if attempt.writeFails then (.rejected, directory)
    else (.fulfilled (), directory.put record)

section Attempts

variable [Platform]

/-- The outcome of an attempt and the directory after it. -/
def Attempt.apply (attempt : Attempt) (directory : MemoryDirectoryStore) :
    Except JsString ConsentResult × MemoryDirectoryStore :=
  (applyDirectoryConsent attempt.body attempt.now).run attempt.handle
    directory

/-- A consent is signed by the active operator key that the proof of its
agent names. -/
structure SignedByOperator (consent : DirectoryConsent) (agent : AgentRecord)
    (key : KeyDocument) : Prop where
  isActive : agent.status = .ACTIVE
  isNamed : agent.proof.keyId = consent.keyId
  isOperator : key.role = .operator
  controls : key.controller = consent.agentId
  keyActive : key.status = .active
  verifies : ∃ signingInput,
    signingInputOf (.object consent.object) = .ok signingInput ∧
      verifyBytes (b64uDecode key.publicKeyB64u) signingInput
        (b64uDecode consent.signature) = true

/-- What an attempt shows of a record. -/
structure Attested (attempt : Attempt) (record : DirectoryRecord) : Prop where
  isParsed : parseConsent attempt.body = .ok record.consent
  agentId_eq : record.agentId = record.consent.agentId
  listed_eq : record.listed = record.consent.listed
  inWindow : ∃ now created, attempt.now = some now ∧
    dateParse record.consent.createdAt = some created ∧
    ((now - created).natAbs : Int) ≤ CONSENT_WINDOW_MS
  created_eq :
    dateParse record.consentCreatedAt = dateParse record.consent.createdAt
  updated_eq : dateParse record.updatedAt = attempt.now
  isSigned : ∃ agent key,
    attempt.getAgent record.agentId = .fulfilled (some agent) ∧
      attempt.getKey record.consent.keyId = .fulfilled (some key) ∧
      SignedByOperator record.consent agent key

/-- What an attempt may do to a directory. -/
inductive Outcome (attempt : Attempt) (directory : MemoryDirectoryStore) :
    Except JsString ConsentResult × MemoryDirectoryStore → Prop
  | accepted {record : DirectoryRecord} (attested : Attested attempt record)
      (isNewer : superseded record.consent (directory.get record.agentId) =
        false) :
      Outcome attempt directory (.ok (.ok record), directory.put record)
  | refused {result : Except JsString ConsentResult}
      (notOk : ∀ record, result ≠ .ok (.ok record)) :
      Outcome attempt directory (result, directory)

/-! ## The outcome of each step -/

omit [Platform] in
theorem toISOString_eq_ok_iff {time : Option Int} {text : JsString} :
    toISOString time = .ok text ↔
      ∃ value, time = some value ∧ value.natAbs ≤ maxTime.natAbs ∧
        isoString value = text := by
  cases time with
  | none => simp [toISOString]
  | some value =>
      unfold toISOString
      by_cases inRange : value.natAbs ≤ maxTime.natAbs
      · simp [inRange]
      · simp [inRange]

theorem dateParse_of_toISOString
    {time : Option Int} {text : JsString} (isOk : toISOString time = .ok text) :
    dateParse text = time := by
  obtain ⟨value, rfl, inRange, rfl⟩ := toISOString_eq_ok_iff.mp isOk
  exact parseDate_isoString _ inRange

omit [Platform] in
theorem within_of_outsideWindow
    {now created : Int} (inside : outsideWindow (some now) (some created) =
      false) :
    ((now - created).natAbs : Int) ≤ CONSENT_WINDOW_MS := by
  unfold outsideWindow at inside
  exact not_lt.mp (of_decide_eq_false inside)

theorem consentVerifies_iff
    {consent : DirectoryConsent} {key : KeyDocument} :
    consentVerifies consent key = true ↔ ∃ signingInput,
      signingInputOf (.object consent.object) = .ok signingInput ∧
        verifyBytes (b64uDecode key.publicKeyB64u) signingInput
          (b64uDecode consent.signature) = true := by
  unfold consentVerifies
  cases signingInputOf (.object consent.object) with
  | error thrown => simp
  | ok signingInput => simp

theorem checkOperator_eq_ok_iff
    {consent : DirectoryConsent}
    {found : Option (AgentRecord × Option KeyDocument)} :
    checkOperator consent found = .ok () ↔
      ∃ agent key, found = some (agent, some key) ∧
        SignedByOperator consent agent key := by
  constructor
  · intro isOk
    unfold checkOperator at isOk
    match found, isOk with
    | some (agent, key), isOk =>
        dsimp only at isOk
        split at isOk
        · cases isOk
        rename_i isActive
        split at isOk
        · cases isOk
        rename_i isNamed
        match key, isOk with
        | some key, isOk =>
            dsimp only at isOk
            split at isOk
            · cases isOk
            rename_i isOperator
            split at isOk
            · cases isOk
            rename_i keyActive
            split at isOk
            · rename_i verifies
              obtain ⟨isRole, controls⟩ := not_or.mp isOperator
              exact ⟨agent, key, rfl, not_not.mp isActive,
                not_not.mp isNamed, not_not.mp isRole, not_not.mp controls,
                not_not.mp keyActive, consentVerifies_iff.mp verifies⟩
            · cases isOk
  · rintro ⟨agent, key, rfl, signed⟩
    have verifies : consentVerifies consent key = true :=
      consentVerifies_iff.mpr signed.verifies
    simp [checkOperator, signed.isActive, signed.isNamed, signed.isOperator,
      signed.controls, signed.keyActive, verifies]

omit [Platform] in
/-- The registry is only read, and the directory is not touched by it. -/
theorem readOperator_run
    (attempt : Attempt) (consent : DirectoryConsent)
    (directory : MemoryDirectoryStore) :
    ((readOperator consent).run attempt.handle directory).2 = directory ∧
      ∀ agent key,
        ((readOperator consent).run attempt.handle directory).1 =
            .fulfilled (some (agent, some key)) →
          attempt.getAgent consent.agentId = .fulfilled (some agent) ∧
            attempt.getKey consent.keyId = .fulfilled (some key) := by
  unfold readOperator directoryCall
  simp only [Program.perform_bind, Program.run_call, Attempt.handle]
  cases isAgent : attempt.getAgent consent.agentId with
  | rejected => simp
  | fulfilled found =>
      cases found with
      | none => simp
      | some agent =>
          simp only [Program.run_call, Attempt.handle]
          cases isKey : attempt.getKey consent.keyId with
          | rejected => simp
          | fulfilled key => simp

/-- What is recorded of a consent at a time. -/
theorem consentRecord_eq_ok
    {consent : DirectoryConsent} {now : Option Int} {record : DirectoryRecord}
    (isOk : consentRecord consent now = .ok record) :
    now.isSome = true ∧ record.agentId = consent.agentId ∧
      record.listed = consent.listed ∧ record.consent = consent ∧
      dateParse record.consentCreatedAt = dateParse consent.createdAt ∧
      dateParse record.updatedAt = now := by
  unfold consentRecord at isOk
  obtain ⟨consentCreatedAt, isCreated, isOk⟩ :=
    except_bind_eq_ok_iff.mp isOk
  obtain ⟨updatedAt, isUpdated, isOk⟩ := except_bind_eq_ok_iff.mp isOk
  cases isOk
  have created := dateParse_of_toISOString isCreated
  have updated := dateParse_of_toISOString isUpdated
  obtain ⟨value, rfl, -, -⟩ := toISOString_eq_ok_iff.mp isUpdated
  exact ⟨rfl, rfl, rfl, rfl, created, updated⟩

theorem Outcome.fail
    (attempt : Attempt) (directory : MemoryDirectoryStore)
    (failure : ConsentFailure) :
    Outcome attempt directory (.ok (.fail failure), directory) := by
  apply Outcome.refused
  intro record isOk
  cases isOk

/-- What an attempt shows of the record of its consent. -/
theorem attested_of_consentRecord
    {attempt : Attempt} {consent : DirectoryConsent} {agent : AgentRecord}
    {key : KeyDocument} {record : DirectoryRecord}
    (isParsed : parseConsent attempt.body = .ok consent)
    (isInside : outsideWindow attempt.now (dateParse consent.createdAt) =
      false)
    (isAgent : attempt.getAgent consent.agentId = .fulfilled (some agent))
    (isKey : attempt.getKey consent.keyId = .fulfilled (some key))
    (signed : SignedByOperator consent agent key)
    (isRecord : consentRecord consent attempt.now = .ok record) :
    Attested attempt record := by
  obtain ⟨isTime, agentId_eq, listed_eq, rfl, created_eq, updated_eq⟩ :=
    consentRecord_eq_ok isRecord
  have isConsent := (isConsent_of_parseConsent isParsed).2
  obtain ⟨now, isNow⟩ := Option.isSome_iff_exists.mp isTime
  obtain ⟨created, isCreated⟩ := Option.isSome_iff_exists.mp isConsent.dated
  rw [isNow, isCreated] at isInside
  have inWindow := within_of_outsideWindow isInside
  exact ⟨isParsed, agentId_eq, listed_eq, ⟨now, created, isNow, isCreated,
    inWindow⟩, created_eq, updated_eq, ⟨agent, key, agentId_eq ▸ isAgent,
    isKey, signed⟩⟩

/-- The directory takes a consent that passed the checks only when it is
newer than the one held. -/
theorem recordConsent_outcome
    {attempt : Attempt} {consent : DirectoryConsent}
    (attests : ∀ record, consentRecord consent attempt.now = .ok record →
      Attested attempt record)
    (directory : MemoryDirectoryStore) :
    Outcome attempt directory
      ((recordConsent consent attempt.now).run attempt.handle directory) := by
  unfold recordConsent directoryCall
  simp only [Program.perform_bind, Program.run_call, Attempt.handle]
  cases readFails : attempt.readFails with
  | true => exact Outcome.fail attempt directory _
  | false =>
      simp only [Bool.false_eq_true, if_false]
      cases isSuperseded :
          superseded consent (directory.get consent.agentId) with
      | true => exact Outcome.fail attempt directory _
      | false =>
          simp only [Bool.false_eq_true, if_false]
          cases isRecord : consentRecord consent attempt.now with
          | error thrown =>
              apply Outcome.refused
              intro record isOk
              cases isOk
          | ok record =>
              simp only [Program.run_call, Attempt.handle]
              cases writeFails : attempt.writeFails with
              | true => exact Outcome.fail attempt directory _
              | false =>
                  obtain ⟨-, isAgent, -, isConsent, -, -⟩ :=
                    consentRecord_eq_ok isRecord
                  apply Outcome.accepted (attests record isRecord)
                  rw [isConsent, isAgent]
                  exact isSuperseded

/-- An attempt changes a directory only by accepting a newer consent. -/
theorem Attempt.apply_outcome
    (attempt : Attempt) (directory : MemoryDirectoryStore) :
    Outcome attempt directory (attempt.apply directory) := by
  unfold Attempt.apply applyDirectoryConsent
  cases isParsed : parseConsent attempt.body with
  | error message => exact Outcome.fail attempt directory _
  | ok consent =>
      dsimp only
      cases isInside :
          outsideWindow attempt.now (dateParse consent.createdAt) with
      | true => exact Outcome.fail attempt directory _
      | false =>
          simp only [Bool.false_eq_true, if_false]
          rw [Program.run_bind]
          obtain ⟨unchanged, isRead⟩ :=
            readOperator_run attempt consent directory
          rw [unchanged]
          cases found :
              ((readOperator consent).run attempt.handle directory).1 with
          | rejected => exact Outcome.fail attempt directory _
          | fulfilled operator =>
              dsimp only
              cases isChecked : checkOperator consent operator with
              | error refused => exact Outcome.fail attempt directory _
              | ok passed =>
                  obtain ⟨agent, key, rfl, signed⟩ :=
                    checkOperator_eq_ok_iff.mp isChecked
                  obtain ⟨isAgent, isKey⟩ := isRead agent key found
                  apply recordConsent_outcome
                  intro record isRecord
                  exact attested_of_consentRecord isParsed isInside isAgent
                    isKey signed isRecord

end Attempts

end AgenId.Web
