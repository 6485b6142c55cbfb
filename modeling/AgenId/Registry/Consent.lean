import AgenId.Core.Encoding
import AgenId.Core.WindowSoundness

/-!
# Directory consents

The signed object of `directory.ts` by which an operator asks to be listed or
delisted, and the strict check of its shape.
-/

namespace AgenId.Registry

open AgenId.Core
open AgenId.Ecma
open AgenId.Library
open AgenId.Validation
open AgenId.Validation.Schema

/-! ## Names of own members -/

/-- The number that a name spells as a decimal without leading zeros. -/
def arrayIndex? (name : JsString) : Option Nat :=
  let value := name.foldl (fun sum unit => sum * 10 + (unit.toNat - 0x30)) 0
  if name ≠ [] ∧ name.all isDigit = true ∧
      (name.head? = some 0x30 → name.length = 1) ∧ value < 2 ^ 32 - 1 then
    some value
  else
    none

/-- `Object.keys(object)`: array indices first, in ascending order. -/
def objectKeys (members : Members) : List JsString :=
  let names := members.map Prod.fst
  (names.filter fun name => (arrayIndex? name).isSome).insertionSort
      (fun left right =>
        (arrayIndex? left).getD 0 ≤ (arrayIndex? right).getD 0) ++
    names.filter fun name => !(arrayIndex? name).isSome

theorem mem_objectKeys {members : Members} {name : JsString} :
    name ∈ objectKeys members ↔ name ∈ members.map Prod.fst := by
  simp only [objectKeys, List.mem_append, List.mem_insertionSort,
    List.mem_filter]
  cases (arrayIndex? name).isSome <;> simp

/-! ## Consents -/

def DIRECTORY_CONSENT_TYPE : String := "agenid.directory.consent.v1"

def CONSENT_WINDOW_MS : Int := 5 * 60 * 1000

def MEMBERS : List String :=
  ["type", "agent_id", "key_id", "listed", "created_at", "signature"]

/-- `RFC3339_UTC`, which is spelled as the expression of `Rfc3339Utc`. -/
def RFC3339_UTC : Regex := timestampRegex

def B64U : Regex := .whole [.run isBase64Url 1 none]

/-- `DirectoryConsent`: the object that was posted and what it says. -/
structure DirectoryConsent where
  object : Members
  agentId : JsString
  keyId : JsString
  listed : Bool
  createdAt : JsString
  signature : JsString

/-- A member that is a string. -/
def stringMember (name : String) (members : Members) : Option JsString :=
  match members.lookup (units name) with
  | some (.string text) => some text
  | _ => none

/-- A member that is a boolean. -/
def booleanMember (name : String) (members : Members) : Option Bool :=
  match members.lookup (units name) with
  | some (.boolean value) => some value
  | _ => none

/-- A value, or the refusal of the body that lacks it. -/
def orRefuse {α : Type} (found : Option α) (refusal : String) :
    Except JsString α :=
  match found with
  | some value => .ok value
  | none => .error (units refusal)

section Consents

variable [Platform]

/-- The checks of the members of a consent, in order. -/
def parseMembers (members : Members) : Except JsString DirectoryConsent := do
  let _ ← orRefuse
    ((stringMember "type" members).filter (· = units DIRECTORY_CONSENT_TYPE))
    ("type must be \"" ++ DIRECTORY_CONSENT_TYPE ++ "\"")
  let agentId ← orRefuse
    ((stringMember "agent_id" members).filter isValidAgentId)
    "agent_id must be agenid:<ULID>"
  let keyId ← orRefuse
    ((stringMember "key_id" members).filter KEY_ID_REGEX.test)
    "key_id must be agenid:key:<ULID>"
  let listed ← orRefuse (booleanMember "listed" members)
    "listed must be a boolean"
  let createdAt ← orRefuse
    ((stringMember "created_at" members).filter fun text =>
      RFC3339_UTC.test text && (dateParse text).isSome)
    "created_at must be an RFC 3339 UTC timestamp"
  let signature ← orRefuse
    ((stringMember "signature" members).filter fun text =>
      B64U.test text && decide (text.length ≤ 200))
    "signature must be base64url"
  return ⟨members, agentId, keyId, listed, createdAt, signature⟩

def parseConsent : Option Json → Except JsString DirectoryConsent
  | some (.object members) =>
    match (objectKeys members).find? fun name => name ∉ MEMBERS.map units with
    | some name => .error (units "unknown member: " ++ name.take 40)
    | none => parseMembers members
  | _ => .error (units "body must be a JSON object")

/-! ## What a parsed consent is -/

/-- A consent as a JSON value. -/
def DirectoryConsent.toJson (consent : DirectoryConsent) : Json :=
  .record
    [("type", some (.literal DIRECTORY_CONSENT_TYPE)),
      ("agent_id", some (.string consent.agentId)),
      ("key_id", some (.string consent.keyId)),
      ("listed", some (.boolean consent.listed)),
      ("created_at", some (.string consent.createdAt)),
      ("signature", some (.string consent.signature))]

omit [Platform] in
theorem orRefuse_bind_eq_ok_iff
    {α β : Type} {found : Option α} {refusal : String}
    {next : α → Except JsString β} {result : β} :
    (orRefuse found refusal >>= next) = .ok result ↔
      ∃ value, found = some value ∧ next value = .ok result := by
  cases found with
  | none => simp [orRefuse, bind, Except.bind]
  | some value => simp [orRefuse, bind, Except.bind]

omit [Platform] in
theorem stringMember_eq_some_iff
    {name : String} {members : Members} {text : JsString} :
    stringMember name members = some text ↔
      members.lookup (units name) = some (.string text) := by
  unfold stringMember
  split
  · rename_i found isFound
    rw [isFound]
    simp
  · rename_i different
    constructor
    · intro impossible
      cases impossible
    · intro isFound
      exact absurd isFound (different text)

omit [Platform] in
theorem booleanMember_eq_some_iff
    {name : String} {members : Members} {value : Bool} :
    booleanMember name members = some value ↔
      members.lookup (units name) = some (.boolean value) := by
  unfold booleanMember
  split
  · rename_i found isFound
    rw [isFound]
    simp
  · rename_i different
    constructor
    · intro impossible
      cases impossible
    · intro isFound
      exact absurd isFound (different value)

/-- What the members of a consent are checked for. -/
structure IsConsent (consent : DirectoryConsent) : Prop where
  known : unknownNames MEMBERS consent.object = []
  isType : consent.object.lookup (units "type") =
    some (.literal DIRECTORY_CONSENT_TYPE)
  isAgentId : consent.object.lookup (units "agent_id") =
    some (.string consent.agentId)
  isKeyId : consent.object.lookup (units "key_id") =
    some (.string consent.keyId)
  isListed : consent.object.lookup (units "listed") =
    some (.boolean consent.listed)
  isCreatedAt : consent.object.lookup (units "created_at") =
    some (.string consent.createdAt)
  isSignature : consent.object.lookup (units "signature") =
    some (.string consent.signature)
  validAgentId : isValidAgentId consent.agentId = true
  validKeyId : KEY_ID_REGEX.test consent.keyId = true
  validCreatedAt : RFC3339_UTC.test consent.createdAt = true
  dated : (dateParse consent.createdAt).isSome = true

theorem isConsent_of_parseMembers
    {members : Members} {consent : DirectoryConsent}
    (known : unknownNames MEMBERS members = [])
    (parsed : parseMembers members = .ok consent) :
    consent.object = members ∧ IsConsent consent := by
  simp only [parseMembers, orRefuse_bind_eq_ok_iff,
    Option.filter_eq_some_iff, stringMember_eq_some_iff,
    booleanMember_eq_some_iff, decide_eq_true_eq, Bool.and_eq_true] at parsed
  obtain ⟨_, ⟨isType, rfl⟩, agentId, ⟨isAgentId, validAgentId⟩,
    keyId, ⟨isKeyId, validKeyId⟩, listed, isListed,
    createdAt, ⟨isCreatedAt, validCreatedAt, dated⟩,
    signature, ⟨isSignature, -⟩, made⟩ := parsed
  cases made
  exact ⟨rfl, known, isType, isAgentId, isKeyId, isListed, isCreatedAt,
    isSignature, validAgentId, validKeyId, validCreatedAt, dated⟩

/-- A parsed consent is the object of the body, with known members only. -/
theorem isConsent_of_parseConsent
    {body : Option Json} {consent : DirectoryConsent}
    (parsed : parseConsent body = .ok consent) :
    body = some (.object consent.object) ∧ IsConsent consent := by
  match body, parsed with
  | some (.object members), parsed =>
      unfold parseConsent at parsed
      dsimp only at parsed
      cases found : (objectKeys members).find?
          fun name => name ∉ MEMBERS.map units with
      | some name =>
          rw [found] at parsed
          cases parsed
      | none =>
          rw [found] at parsed
          have known : unknownNames MEMBERS members = [] := by
            refine List.filter_eq_nil_iff.mpr fun name isName => ?_
            have isKey := mem_objectKeys.mpr isName
            exact List.find?_eq_none.mp found name isKey
          obtain ⟨rfl, isConsent⟩ := isConsent_of_parseMembers known parsed
          exact ⟨rfl, isConsent⟩
  | none, parsed | some .null, parsed | some (.boolean _), parsed
  | some (.number _), parsed | some (.string _), parsed
  | some (.array _), parsed => simp [parseConsent] at parsed

theorem IsConsent.sameValue
    {consent : DirectoryConsent} (isConsent : IsConsent consent) :
    SameValue (.object consent.object) consent.toJson := by
  have distinct : (MEMBERS.map units).Nodup := by decide
  refine sameValue_record distinct isConsent.known ?_
  simp only [List.forall_mem_cons, List.not_mem_nil, false_implies,
    implies_true, and_true]
  rw [isConsent.isType, isConsent.isAgentId, isConsent.isKeyId,
    isConsent.isListed, isConsent.isCreatedAt, isConsent.isSignature]
  exact ⟨.some (.string _), .some (.string _), .some (.string _),
    .some (.boolean _), .some (.string _), .some (.string _)⟩

omit [Platform] in
theorem inDomain_DirectoryConsent (consent : DirectoryConsent) :
    InDomain consent.toJson := by
  simp [DirectoryConsent.toJson]

end Consents

/-! ## A consent of the sample agent -/

/-- A consent to be listed, signed by the operator key. -/
def sampleConsent : DirectoryConsent :=
  let agentId := units "agenid:01J8Z3K3F2QZ9X6V7R4T8N2W5Y"
  let keyId := units "agenid:key:01J8Z3M9Q4XK2P7VBN6TDR8HWE"
  let createdAt := units "2026-09-14T00:00:00Z"
  let signature := units <| "MI-l8N4chYxdqJMlc3JIdZNCSSxIZ1bSUu2n_9FgAAV9ZHOT" ++
    "47BquuO8nb_MG4BBlB-d1Dz0wOcluzyVx6SbCw"
  { object :=
      [(units "type", .literal DIRECTORY_CONSENT_TYPE),
        (units "agent_id", .string agentId),
        (units "key_id", .string keyId),
        (units "listed", .boolean true),
        (units "created_at", .string createdAt),
        (units "signature", .string signature)]
    agentId := agentId
    keyId := keyId
    listed := true
    createdAt := createdAt
    signature := signature }

example :
    letI := samplePlatform
    parseConsent (some (.object sampleConsent.object)) =
      .ok sampleConsent := by
  rfl

end AgenId.Registry
