import AgenId.Core.NumberDomain
import AgenId.Core.Signing
import AgenId.Core.Verified
import Mathlib.Data.List.DropRight

/-!
# Cryptography in the browser

`client-crypto.ts`: the browser's own encoders, canonicalization and ULIDs,
and the signing of an agent.  The canonicalization writes what the protocol's
own writes, except that it has no number domain.
-/

namespace AgenId.Web.ClientCrypto

open AgenId.Core
open AgenId.Ecma

/-! ## Encoding helpers -/

/-- `byte.toString(16)`. -/
def hexText (byte : UInt8) : JsString :=
  if byte.toNat < 0x10 then [hexUnit byte.toNat]
  else [hexUnit (byte.toNat / 0x10), hexUnit (byte.toNat % 0x10)]

/-- `text.padStart(width, "0")`. -/
def padStart (width : Nat) (text : JsString) : JsString :=
  zeros (width - text.length) ++ text

def hexEncode (bytes : List UInt8) : JsString :=
  bytes.flatMap fun byte => padStart 2 (hexText byte)

/-- The digit of base64 of a value below 64. -/
def base64Unit (value : Nat) : UInt16 :=
  if value < 62 then sextetUnit value
  else if value = 62 then 0x2B
  else 0x2F

/-- `btoa`, on a text of one code unit for each byte. -/
def btoa (bytes : List UInt8) : JsString :=
  (sextetsOfBytes bytes).map base64Unit ++
    List.replicate ((3 - bytes.length % 3) % 3) 0x3D

/-- `text.replace(/unit/g, replacement)`. -/
def replaceUnit (unit replacement : UInt16) (text : JsString) : JsString :=
  text.map fun found => if found = unit then replacement else found

def b64uEncode (bytes : List UInt8) : JsString :=
  (replaceUnit 0x2F 0x5F (replaceUnit 0x2B 0x2D (btoa bytes))).rdropWhile
    (· == 0x3D)

/-! ## Canonicalization -/

/-- What the browser's serializer may be given.  An object, whatever its
prototype, is the list of its own enumerable members. -/
inductive ClientValue where
  | undefined
  | function
  | symbol
  | bigint
  | null
  | boolean (value : Bool)
  | number (value : JsNumber)
  | string (text : JsString)
  | array (items : List ClientValue)
  | object (members : List (JsString × ClientValue))

/-- `value === undefined`. -/
def ClientValue.isUndefined : ClientValue → Bool
  | .undefined => true
  | _ => false

mutual

/-- A JSON value as one of the browser. -/
def ClientValue.ofJson : Json → ClientValue
  | .null => .null
  | .boolean value => .boolean value
  | .number value => .number value
  | .string text => .string text
  | .array items => .array (ofJsonItems items)
  | .object members => .object (ofJsonMembers members)

/-- The items of an array. -/
def ClientValue.ofJsonItems : List Json → List ClientValue
  | [] => []
  | item :: rest => ofJson item :: ofJsonItems rest

/-- The members of an object. -/
def ClientValue.ofJsonMembers :
    List (JsString × Json) → List (JsString × ClientValue)
  | [] => []
  | (name, value) :: rest => (name, ofJson value) :: ofJsonMembers rest

end

/-- What is thrown in the browser: an error of this module, the `RangeError`
of a date that is none, or the refusal of a key by the curve library. -/
inductive ClientError where
  | error (message : JsString)
  | invalidTime
  | invalidKey
  deriving DecidableEq

/-- The error for a value of a type that JSON does not have. -/
def unserializable (type : String) : ClientError :=
  .error (units "Unserializable value: " ++ units type)

mutual

/-- `jcsSerialize(value, out)`, with the text pushed onto `out`. -/
def jcsSerialize : ClientValue → Except ClientError JsString
  | .null => .ok (units "null")
  | .boolean true => .ok (units "true")
  | .boolean false => .ok (units "false")
  | .number (.finite value) => .ok (numberText (.finite value))
  | .number _ => .error (.error (units "Non-finite number in JCS"))
  | .string text => .ok (quote text)
  | .array items => do
    let parts ← jcsSerializeItems items
    return 0x5B :: (join [0x2C] parts ++ [0x5D])
  | .object members => do
    let sorted := (jcsSerializeMembers members).insertionSort byName
    let parts ← (sorted.filterMap Prod.snd).mapM id
    return 0x7B :: (join [0x2C] parts ++ [0x7D])
  | .undefined => .error (unserializable "undefined")
  | .function => .error (unserializable "function")
  | .symbol => .error (unserializable "symbol")
  | .bigint => .error (unserializable "bigint")

/-- The texts of the items. -/
def jcsSerializeItems :
    List ClientValue → Except ClientError (List JsString)
  | [] => .ok []
  | item :: rest => do
    let text ← jcsSerialize item
    let texts ← jcsSerializeItems rest
    return text :: texts

/-- The texts of the members, each with its name, or the error that writing
it would throw; none for a member that is left out. -/
def jcsSerializeMembers :
    List (JsString × ClientValue) →
      List (JsString × Option (Except ClientError JsString))
  | [] => []
  | (name, value) :: rest =>
    (name,
      if value.isUndefined then
        none
      else
        some ((jcsSerialize value).map fun text =>
          quote name ++ 0x3A :: text)) :: jcsSerializeMembers rest

end

def canonicalizeToBytes (value : ClientValue) :
    Except ClientError (List UInt8) :=
  (jcsSerialize value).map encodeUtf8

/-! ## ULIDs -/

def CROCKFORD : JsString := units "0123456789ABCDEFGHJKMNPQRSTVWXYZ"

/-- `CROCKFORD[index]`, for an index below 32. -/
def crockfordUnit (index : Nat) : UInt16 :=
  CROCKFORD.getD index 0

/-- The loop over the digits of the time, the last digit first.  The mask is
an operation on integers of 32 bits, which the time does not fit in. -/
def encodeTime : Nat → Nat → JsString → JsString
  | 0, _, ts => ts
  | rounds + 1, t, ts =>
    encodeTime rounds (t / 32)
      (crockfordUnit (BitVec.ofNat 32 t &&& 0x1F).toNat :: ts)

/-- The loop that writes the whole digits in the buffer, and the number of
bits that it leaves. -/
def drainBuffer (buffer : BitVec 32) : Nat → JsString × Nat
  | bitsInBuffer + 5 =>
    let (digits, left) := drainBuffer buffer bitsInBuffer
    (crockfordUnit (buffer.sshiftRight bitsInBuffer &&& 0x1F).toNat :: digits,
      left)
  | bitsInBuffer => ([], bitsInBuffer)

/-- The loop over the random bytes; the buffer is an integer of 32 bits. -/
def encodeRandom : List UInt8 → BitVec 32 → Nat → JsString
  | [], _, _ => []
  | byte :: bits, buffer, bitsInBuffer =>
    let buffer := buffer <<< 8 ||| BitVec.ofNat 32 byte.toNat
    let (digits, left) := drainBuffer buffer (bitsInBuffer + 8)
    digits ++ encodeRandom bits buffer left

def encodeUlid (time : Nat) (random : List UInt8) : JsString :=
  encodeTime 10 time [] ++ encodeRandom (random.take 10) 0 0

/-- What `generateUlid` reads: the milliseconds of `Date.now()` and ten
random bytes. -/
structure UlidDraw where
  time : Nat
  random : List UInt8
  isDrawn : random.length = 10

def generateUlid (draw : UlidDraw) : JsString :=
  encodeUlid draw.time draw.random

/-! ## Signing an agent -/

structure ClientKeyPair where
  privateKey : List UInt8
  publicKey : List UInt8
  publicKeyHex : JsString
  publicKeyB64u : JsString

structure ManifestInput where
  operator : JsString
  operatorDomain : JsString
  disclosesToUser : Bool
  humanEscalation : Bool
  purposeSummary : JsString
  contact : Option JsString
  description : Option JsString
  channels : Option (List Channel)

structure SignedAgent where
  agentId : JsString
  keyId : JsString
  manifest : Json
  proof : Json
  keyDocument : Json
  manifestDigest : JsString

/-- `text ? { name: text } : {}`, as the value of the member. -/
def ifNonempty (text : Option JsString) : Option Json :=
  (text.filter fun found => !found.isEmpty).map .string

/-- The channels given, or voice alone when there are none. -/
def channelsOr : Option (List Channel) → List Channel
  | none | some [] => [.voice]
  | some channels => channels

/-- The manifest of `signAgent`. -/
def manifestOf (agentId agentName : JsString) (input : ManifestInput) :
    Json :=
  .record
    [("manifest_version", some (.literal "1.0")),
      ("agent_id", some (.string agentId)),
      ("identity", some (.record
        [("name", some (.string agentName)),
          ("description", ifNonempty input.description)])),
      ("ownership", some (.record
        [("operator", some (.string input.operator)),
          ("operator_domain", some (.string input.operatorDomain)),
          ("contact", ifNonempty input.contact)])),
      ("purpose", some (.record
        [("summary", some (.string input.purposeSummary)),
          ("channels", some (.array ((channelsOr input.channels).map
            fun channel => .literal channel.text)))])),
      ("disclosure", some (.record
        [("is_ai", some (.boolean true)),
          ("discloses_to_user", some (.boolean input.disclosesToUser)),
          ("human_escalation", some (.boolean input.humanEscalation))]))]

/-- `date.toISOString()`, on the time value of the date. -/
def toISOString : Option Int → Except ClientError JsString
  | none => .error .invalidTime
  | some time => .ok (isoString time)

section Signing

variable [SigningPlatform]

/-- `generateKeyPair()`, for the private key that is drawn. -/
def generateKeyPair (privateKey : List UInt8) : ClientKeyPair :=
  let publicKey := SigningPlatform.ed25519PublicKey privateKey
  { privateKey := privateKey
    publicKey := publicKey
    publicKeyHex := hexEncode publicKey
    publicKeyB64u := b64uEncode publicKey }

/-- `ed25519.sign(message, privateKey)`. -/
def edSign (message privateKey : List UInt8) :
    Except ClientError (List UInt8) :=
  if privateKey.length ≠ 32 then
    .error .invalidKey
  else
    .ok (SigningPlatform.ed25519Sign privateKey message)

/-- `signAgent(keyPair, agentName, input, clock)`, on the time value of
`clock.now ?? new Date()` and what the two ULIDs are made of. -/
def signAgent (keyPair : ClientKeyPair) (agentName : JsString)
    (input : ManifestInput) (nowDate : Option Int)
    (agentDraw keyDraw : UlidDraw) : Except ClientError SignedAgent := do
  let now ← toISOString nowDate
  let expiresAt ← toISOString (nowDate.bind fun time =>
    timeClip (time + 90 * 24 * 60 * 60 * 1000))
  let agentId := units "agenid:" ++ generateUlid agentDraw
  let keyId := units "agenid:key:" ++ generateUlid keyDraw
  let manifest := manifestOf agentId agentName input
  let manifestBytes ← canonicalizeToBytes (.ofJson manifest)
  let manifestDigest := hexEncode (Platform.sha256 manifestBytes)
  let keyDocument : Json := .record
    [("key_id", some (.string keyId)),
      ("key_type", some (.literal "Ed25519")),
      ("public_key_b64u", some (.string keyPair.publicKeyB64u)),
      ("role", some (.literal "operator")),
      ("controller", some (.string agentId)),
      ("created_at", some (.string now)),
      ("status", some (.literal "active")),
      ("retired_at", some .null),
      ("revoked_at", some .null)]
  let proofPayload : Json := .record
    [("$schema", some (.literal
        "https://agenid.com/schemas/v1.1.1/manifest-proof.json")),
      ("proof_type", some (.literal "manifest_self_declaration")),
      ("agent_id", some (.string agentId)),
      ("manifest_version", some (.literal "1.0")),
      ("manifest_digest", some (.record
        [("alg", some (.literal "sha-256")),
          ("value", some (.string manifestDigest))])),
      ("key_id", some (.string keyId)),
      ("created_at", some (.string now)),
      ("expires_at", some (.string expiresAt))]
  let payloadBytes ← canonicalizeToBytes (.ofJson proofPayload)
  let signature ← edSign payloadBytes keyPair.privateKey
  return {
    agentId := agentId
    keyId := keyId
    manifest := manifest
    proof := withSignature (b64uEncode signature) proofPayload
    keyDocument := keyDocument
    manifestDigest := manifestDigest }

/-- One turn of `signAgentFleet`: an agent of the fleet with the clock and
the draws of its `signAgent`. -/
structure FleetAgent where
  agentId : JsString
  agentName : JsString
  now : Int
  agentDraw : UlidDraw
  keyDraw : UlidDraw

structure AgentBinding where
  retellAgentId : JsString
  agentName : JsString
  agentId : JsString
  manifest : Json
  proof : Json
  keyDocument : Json
  manifestDigest : JsString

/-- `agent.agent_name || "Unnamed Retell Agent"`. -/
def FleetAgent.nameOr (agent : FleetAgent) : JsString :=
  if agent.agentName.isEmpty then units "Unnamed Retell Agent"
  else agent.agentName

/-- What `signAgentFleet` keeps of a signed agent. -/
def bindingOf (agent : FleetAgent) (signed : SignedAgent) : AgentBinding where
  retellAgentId := agent.agentId
  agentName := agent.agentName
  agentId := signed.agentId
  manifest := signed.manifest
  proof := signed.proof
  keyDocument := signed.keyDocument
  manifestDigest := signed.manifestDigest

def signAgentFleet (keyPair : ClientKeyPair) (input : ManifestInput) :
    List FleetAgent → Except ClientError (List AgentBinding)
  | [] => return []
  | agent :: rest => do
    let signed ← signAgent keyPair agent.nameOr input (some agent.now)
      agent.agentDraw agent.keyDraw
    let results ← signAgentFleet keyPair input rest
    return bindingOf agent signed :: results

/-! ## Directory consents -/

def DIRECTORY_CONSENT_TYPE : String := "agenid.directory.consent.v1"

/-- What `signDirectoryConsent` signs. -/
def consentPayload (agentId keyId : JsString) (listed : Bool)
    (createdAt : JsString) : Json :=
  .record
    [("type", some (.literal DIRECTORY_CONSENT_TYPE)),
      ("agent_id", some (.string agentId)),
      ("key_id", some (.string keyId)),
      ("listed", some (.boolean listed)),
      ("created_at", some (.string createdAt))]

def signDirectoryConsent (keyPair : ClientKeyPair) (agentId keyId : JsString)
    (listed : Bool) (now : Option Int) : Except ClientError Json := do
  let createdAt ← toISOString now
  let payload := consentPayload agentId keyId listed createdAt
  let payloadBytes ← canonicalizeToBytes (.ofJson payload)
  let signature ← edSign payloadBytes keyPair.privateKey
  return withSignature (b64uEncode signature) payload

/-! ## Key files -/

/-- `[0-9a-f]` with the flag `i`. -/
def isHexDigit (unit : UInt16) : Bool :=
  within '0' '9' unit || within 'a' 'f' unit || within 'A' 'F' unit

/-- `parseInt(text, 16)`, on hexadecimal digits. -/
def parseHex (text : JsString) : Nat :=
  text.foldl (fun value unit => value * 0x10 + (hexValue? unit).getD 0) 0

/-- The loop that fills the private key. -/
def privateKeyOfHex (text : JsString) : List UInt8 :=
  (List.range 32).map fun i =>
    UInt8.ofNat (parseHex ((text.drop (i * 2)).take 2))

def keyPairFromPrivateHex (text : JsString) :
    Except ClientError ClientKeyPair :=
  if (Regex.whole [.exactly isHexDigit 64]).test text = false then
    .error (.error (units "private key must be 64 hex characters"))
  else
    .ok (generateKeyPair (privateKeyOfHex text))

end Signing

/-! ## Canonicalization of JSON values -/

/-- Every number inside a value is finite. -/
def Finite (value : Json) : Prop :=
  ∀ number, Within (.number number) value → ∃ datum, number = .finite datum

theorem finite_of_inDomain {value : Json} (inside : InDomain value) :
    Finite value := by
  intro number within
  have notOut := inDomain_iff.mp inside number within
  cases number with
  | nan => exact absurd trivial notOut
  | infinity negative => exact absurd trivial notOut
  | finite datum => exact ⟨datum, rfl⟩

theorem finite_array {items : List Json} :
    Finite (.array items) ↔ ∀ item ∈ items, Finite item := by
  constructor
  · intro finite item isItem number within
    exact finite number (.item isItem within)
  · intro finite number within
    cases within with
    | item isItem within => exact finite _ isItem number within

theorem finite_object {members : Members} :
    Finite (.object members) ↔ ∀ entry ∈ members, Finite entry.2 := by
  constructor
  · intro finite entry isMember number within
    exact finite number (.member isMember within)
  · intro finite number within
    cases within with
    | member isMember within => exact finite _ isMember number within

theorem isUndefined_ofJson (value : Json) :
    (ClientValue.ofJson value).isUndefined = false := by
  cases value <;> rfl

theorem jcsSerializeMembers_eq_map (members : Members) :
    jcsSerializeMembers (ClientValue.ofJsonMembers members) =
      members.map fun entry => (entry.1, some
        ((jcsSerialize (.ofJson entry.2)).map
          fun text => quote entry.1 ++ 0x3A :: text)) := by
  induction members with
  | nil => rfl
  | cons entry rest inductionHypothesis =>
      simp only [ClientValue.ofJsonMembers, jcsSerializeMembers,
        isUndefined_ofJson, inductionHypothesis, List.map_cons,
        Bool.false_eq_true, if_false]

theorem jcsSerializeItems_ofJson
    {items : List Json}
    (writes : ∀ item ∈ items,
      jcsSerialize (.ofJson item) = .ok (canonicalText item)) :
    jcsSerializeItems (ClientValue.ofJsonItems items) =
      .ok (stringifyItems (orderedItems items)) := by
  induction items with
  | nil => rfl
  | cons item rest inductionHypothesis =>
      simp only [ClientValue.ofJsonItems, jcsSerializeItems,
        writes item List.mem_cons_self,
        inductionHypothesis fun other isOther =>
          writes other (List.mem_cons_of_mem _ isOther)]
      rfl

theorem jcsSerializeMembers_ofJson
    {members : Members}
    (writes : ∀ entry ∈ members,
      jcsSerialize (.ofJson entry.2) = .ok (canonicalText entry.2)) :
    jcsSerializeMembers (ClientValue.ofJsonMembers members) =
      (orderedMembers members).map fun entry => (entry.1,
        some (.ok (quote entry.1 ++ 0x3A :: stringify entry.2))) := by
  induction members with
  | nil => rfl
  | cons entry rest inductionHypothesis =>
      have isWritten := writes entry List.mem_cons_self
      simp only [ClientValue.ofJsonMembers, jcsSerializeMembers,
        isUndefined_ofJson, isWritten,
        inductionHypothesis fun other isOther =>
          writes other (List.mem_cons_of_mem _ isOther)]
      rfl

theorem mapM_id_ok {ε α : Type} (texts : List α) :
    (texts.map (Except.ok : α → Except ε α)).mapM id = .ok texts := by
  induction texts with
  | nil => rfl
  | cons text rest inductionHypothesis =>
      rw [List.map_cons, List.mapM_cons, inductionHypothesis]
      rfl

/-- The browser writes the canonical text of a value with finite numbers. -/
theorem jcsSerialize_ofJson (value : Json) :
    Finite value →
      jcsSerialize (.ofJson value) = .ok (canonicalText value) := by
  induction value using Json.inductionOn with
  | null => exact fun _ => rfl
  | string text => exact fun _ => rfl
  | boolean value => cases value <;> exact fun _ => rfl
  | number number =>
      intro finite
      obtain ⟨datum, rfl⟩ := finite number .itself
      rfl
  | array items inductionHypothesis =>
      intro finite
      rw [finite_array] at finite
      simp only [ClientValue.ofJson, jcsSerialize,
        jcsSerializeItems_ofJson fun item isItem =>
          inductionHypothesis item isItem (finite item isItem)]
      rfl
  | object members inductionHypothesis =>
      intro finite
      rw [finite_object] at finite
      simp only [ClientValue.ofJson, jcsSerialize,
        jcsSerializeMembers_ofJson fun entry isMember =>
          inductionHypothesis entry isMember (finite entry isMember)]
      rw [← map_insertionSort_byName
        (fun entry : JsString × Json => (entry.1, some (Except.ok
          (quote entry.1 ++ 0x3A :: stringify entry.2) :
            Except ClientError JsString)))
        (fun _ => rfl)]
      have texts : (((orderedMembers members).insertionSort byName).map
          fun entry : JsString × Json => (entry.1, some (Except.ok
            (quote entry.1 ++ 0x3A :: stringify entry.2) :
              Except ClientError JsString))).filterMap Prod.snd =
          (stringifyMembers ((orderedMembers members).insertionSort
            byName)).map Except.ok := by
        rw [stringifyMembers_eq_map, List.filterMap_map, List.map_map]
        exact congrFun List.filterMap_eq_map _
      rw [texts, mapM_id_ok]
      rfl

/-! ## What the browser writes is finite -/

theorem ok_of_jcsSerializeItems
    {items : List Json} {texts : List JsString}
    (writes : jcsSerializeItems (ClientValue.ofJsonItems items) =
      .ok texts) :
    ∀ item ∈ items, ∃ text, jcsSerialize (.ofJson item) = .ok text := by
  induction items generalizing texts with
  | nil => exact fun _ isItem => nomatch isItem
  | cons item rest inductionHypothesis =>
      simp only [ClientValue.ofJsonItems, jcsSerializeItems,
        except_bind_eq_ok_iff] at writes
      obtain ⟨text, isText, others, isOthers, -⟩ := writes
      exact List.forall_mem_cons.mpr
        ⟨⟨text, isText⟩, inductionHypothesis isOthers⟩

theorem ok_of_mapM_id
    {ε α : Type} {outcomes : List (Except ε α)} {values : List α}
    (isOk : outcomes.mapM id = .ok values) :
    ∀ outcome ∈ outcomes, ∃ value, outcome = .ok value := by
  induction outcomes generalizing values with
  | nil => exact fun _ isOutcome => nomatch isOutcome
  | cons outcome rest inductionHypothesis =>
      simp only [List.mapM_cons, except_bind_eq_ok_iff, id_eq] at isOk
      obtain ⟨value, isValue, others, isOthers, -⟩ := isOk
      exact List.forall_mem_cons.mpr
        ⟨⟨value, isValue⟩, inductionHypothesis isOthers⟩

theorem finite_of_jcsSerialize (value : Json) :
    ∀ text, jcsSerialize (.ofJson value) = .ok text → Finite value := by
  induction value using Json.inductionOn with
  | null => exact fun _ _ _ within => nomatch within
  | string text => exact fun _ _ _ within => nomatch within
  | boolean value => exact fun _ _ _ within => nomatch within
  | number number =>
      intro text writes other within
      cases within
      cases number with
      | nan => cases writes
      | infinity negative => cases writes
      | finite datum => exact ⟨datum, rfl⟩
  | array items inductionHypothesis =>
      intro text writes
      simp only [ClientValue.ofJson, jcsSerialize,
        except_bind_eq_ok_iff] at writes
      obtain ⟨texts, isTexts, -⟩ := writes
      rw [finite_array]
      intro item isItem
      obtain ⟨written, isWritten⟩ :=
        ok_of_jcsSerializeItems isTexts item isItem
      exact inductionHypothesis item isItem written isWritten
  | object members inductionHypothesis =>
      intro text writes
      simp only [ClientValue.ofJson, jcsSerialize,
        except_bind_eq_ok_iff] at writes
      obtain ⟨texts, isTexts, -⟩ := writes
      rw [finite_object]
      intro entry isMember
      have isWritten : (jcsSerialize (.ofJson entry.2)).map
          (fun text => quote entry.1 ++ 0x3A :: text) ∈
          ((jcsSerializeMembers (ClientValue.ofJsonMembers members)
            ).insertionSort byName).filterMap Prod.snd := by
        rw [List.mem_filterMap]
        refine ⟨(entry.1, some _), ?_, rfl⟩
        rw [(List.perm_insertionSort byName _).mem_iff,
          jcsSerializeMembers_eq_map]
        exact List.mem_map_of_mem isMember
      obtain ⟨member, isOk⟩ := ok_of_mapM_id isTexts _ isWritten
      cases isEntry : jcsSerialize (.ofJson entry.2) with
      | error thrown =>
          rw [isEntry] at isOk
          cases isOk
      | ok written =>
          exact inductionHypothesis entry isMember written isEntry

/-- What the protocol's canonicalization writes, the browser writes; what the
browser writes, the protocol's writes or refuses for a number written as an
integer beyond the safe ones. -/
theorem jcsSerialize_refines_canonicalize (value : Json) :
    (∀ text, canonicalize (.ofJson value) = .ok text →
      jcsSerialize (.ofJson value) = .ok text) ∧
    ∀ text, jcsSerialize (.ofJson value) = .ok text →
      canonicalize (.ofJson value) = .ok text ∨
        RejectsNumber (canonicalize (.ofJson value)) ∧
          ∃ datum, Within (.number (.finite datum)) value ∧
            isIntegerLiteral (finiteToString datum) = true ∧
            (MAX_SAFE : ℚ) < datum.magnitude := by
  constructor
  · intro text writes
    obtain ⟨inside, rfl⟩ := canonicalize_ofJson_iff.mp writes
    exact jcsSerialize_ofJson value (finite_of_inDomain inside)
  · intro text writes
    have finite := finite_of_jcsSerialize value text writes
    rw [jcsSerialize_ofJson value finite] at writes
    by_cases inside : InDomain value
    · left
      rw [canonicalize_ofJson inside, Except.ok.inj writes]
    · right
      refine ⟨canonicalize_rejects inside, ?_⟩
      rw [inDomain_iff] at inside
      push Not at inside
      obtain ⟨number, within, out⟩ := inside
      obtain ⟨datum, rfl⟩ := finite number within
      exact ⟨datum, within, out⟩

end AgenId.Web.ClientCrypto
