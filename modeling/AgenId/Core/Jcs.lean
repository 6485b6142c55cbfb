import AgenId.Core.Errors
import AgenId.Core.Identifier
import AgenId.Ecma.JsonText
import Mathlib.Data.List.Sort

/-!
# Canonical serialization

`jcs.ts`: RFC 8785 with the number-domain rule of the protocol.  The
serializer takes any value of the language and rejects what JSON cannot
express; on a JSON value whose numbers are in the domain it writes the JSON
text of the value with the members of every object in order.
-/

namespace AgenId.Core

open AgenId.Ecma

/-! ## Values of the language -/

/-- What the serializer may be given.  A plain object is the list of its own
enumerable members, whose names are distinct; an instance is any other object
but an array, with the name of its constructor and its own members. -/
inductive JsValue where
  | undefined
  | function
  | symbol
  | bigint
  | null
  | boolean (value : Bool)
  | number (value : JsNumber)
  | string (text : JsString)
  | array (items : List JsValue)
  | object (members : List (JsString × JsValue))
  | instance (constructorName : Option JsString)
      (members : List (JsString × JsValue))

mutual

/-- A JSON value as a value of the language. -/
def JsValue.ofJson : Json → JsValue
  | .null => .null
  | .boolean value => .boolean value
  | .number value => .number value
  | .string text => .string text
  | .array items => .array (ofJsonItems items)
  | .object members => .object (ofJsonMembers members)

/-- The items of an array. -/
def JsValue.ofJsonItems : List Json → List JsValue
  | [] => []
  | item :: rest => ofJson item :: ofJsonItems rest

/-- The members of an object. -/
def JsValue.ofJsonMembers :
    List (JsString × Json) → List (JsString × JsValue)
  | [] => []
  | (name, value) :: rest => (name, ofJson value) :: ofJsonMembers rest

end

/-! ## The serializer -/

def MAX_SAFE : Nat := 2 ^ 53 - 1

/-- Whether a token has neither a decimal point nor an exponent. -/
def isIntegerLiteral (token : JsString) : Bool :=
  !includesUnit 0x2E token && !includesUnit 0x65 token

def assertNumberDomain (value : JsNumber) (path : JsString) :
    Except AgenIdError JsString :=
  match value with
  | .finite datum =>
    let token := finiteToString datum
    if isIntegerLiteral token = true ∧ (MAX_SAFE : ℚ) < datum.magnitude then
      .error (.invalidNumberDomainError (path ++
        units ": integer literal " ++ token ++
        units " exceeds the safe integer domain (|n| must be <= 2^53-1)"))
    else
      .ok token
  | other =>
    .error (.invalidNumberDomainError (path ++ units ": " ++
      numberToString other ++ units " is not representable in JCS"))

/-- `typeof value`, for the values that are no JSON. -/
def missingType : JsValue → Option String
  | .undefined => some "undefined"
  | .function => some "function"
  | .symbol => some "symbol"
  | _ => none

/-- The error for a value of a type that JSON does not have. -/
def notRepresentable (path : JsString) (type : String) : AgenIdError :=
  .unserializableValueError
    (path ++ units ": " ++ units type ++ units " is not representable in JCS")

/-- The order of members in a canonical object. -/
abbrev byName {α : Type} (left right : JsString × α) : Prop :=
  left.1 ≤ right.1

mutual

/-- `serialize(value, path, out)`, with the text pushed onto `out`. -/
def serialize : JsValue → JsString → Except AgenIdError JsString
  | .null, _ => .ok (units "null")
  | .boolean true, _ => .ok (units "true")
  | .boolean false, _ => .ok (units "false")
  | .number value, path => assertNumberDomain value path
  | .string text, _ => .ok (quote text)
  | .bigint, path =>
    .error (.invalidNumberDomainError
      (path ++ units ": BigInt is not representable in JSON/JCS"))
  | .undefined, path => .error (notRepresentable path "undefined")
  | .function, path => .error (notRepresentable path "function")
  | .symbol, path => .error (notRepresentable path "symbol")
  | .array items, path => do
    let parts ← serializeItems items path 0
    return 0x5B :: (join [0x2C] parts ++ [0x5D])
  | .instance constructorName _, path =>
    .error (.unserializableValueError (path ++
      units ": only plain objects are canonicalizable (got " ++
      constructorName.getD (units "unknown") ++ units ")"))
  | .object members, path => do
    let sorted := (serializeMembers members path).insertionSort byName
    let parts ← sorted.mapM Prod.snd
    return 0x7B :: (join [0x2C] parts ++ [0x7D])

/-- The texts of the items from an index on. -/
def serializeItems :
    List JsValue → JsString → Nat → Except AgenIdError (List JsString)
  | [], _, _ => .ok []
  | item :: rest, path, index =>
    let itemPath := path ++ units "[" ++ decimal index ++ units "]"
    match missingType item with
    | some type => .error (notRepresentable itemPath type)
    | none => do
      let text ← serialize item itemPath
      let texts ← serializeItems rest path (index + 1)
      return text :: texts

/-- The texts of the members, each with its name, or the error that writing
it would throw. -/
def serializeMembers :
    List (JsString × JsValue) → JsString →
      List (JsString × Except AgenIdError JsString)
  | [], _ => []
  | (name, value) :: rest, path =>
    let memberPath := path ++ units "." ++ name
    (name, (serialize value memberPath).map fun text =>
      quote name ++ 0x3A :: text) :: serializeMembers rest path

end

def canonicalize (value : JsValue) : Except AgenIdError JsString :=
  serialize value (units "$")

def canonicalizeToBytes (value : JsValue) : Except AgenIdError (List UInt8) :=
  (canonicalize value).map encodeUtf8

/-! ## The check without the serializer -/

mutual

/-- `validateNumberDomain(value, path)`. -/
def validateNumberDomain : JsValue → JsString → Except AgenIdError Unit
  | .number value, path => (assertNumberDomain value path).map fun _ => ()
  | .array items, path => validateItems items path 0
  | .object members, path => validateMembers members path
  | .instance _ members, path => validateMembers members path
  | _, _ => .ok ()

/-- The check of the items from an index on. -/
def validateItems :
    List JsValue → JsString → Nat → Except AgenIdError Unit
  | [], _, _ => .ok ()
  | item :: rest, path, index => do
    validateNumberDomain item
      (path ++ units "[" ++ decimal index ++ units "]")
    validateItems rest path (index + 1)

/-- The check of the members. -/
def validateMembers :
    List (JsString × JsValue) → JsString → Except AgenIdError Unit
  | [], _ => .ok ()
  | (name, value) :: rest, path => do
    validateNumberDomain value (path ++ units "." ++ name)
    validateMembers rest path

end

/-! ## Canonical JSON -/

mutual

/-- A JSON value with the members of every object in order. -/
def ordered : Json → Json
  | .array items => .array (orderedItems items)
  | .object members =>
    .object ((orderedMembers members).insertionSort byName)
  | other => other

/-- The items of an array, each in order. -/
def orderedItems : List Json → List Json
  | [] => []
  | item :: rest => ordered item :: orderedItems rest

/-- The members of an object, the value of each in order. -/
def orderedMembers : List (JsString × Json) → List (JsString × Json)
  | [] => []
  | (name, value) :: rest => (name, ordered value) :: orderedMembers rest

end

/-- The canonical text of a JSON value. -/
def canonicalText (value : Json) : JsString :=
  stringify (ordered value)

/-- The canonical bytes of a JSON value, which are hashed and signed. -/
def canonicalBytes (value : Json) : List UInt8 :=
  encodeUtf8 (canonicalText value)

mutual

/-- The numbers of a value are in the domain of the protocol: they are
finite, and safe integers when they are written as integers. -/
def InDomain : Json → Prop
  | .number value =>
    ∃ datum, value = .finite datum ∧
      (isIntegerLiteral (finiteToString datum) = true →
        datum.magnitude ≤ MAX_SAFE)
  | .array items => ItemsInDomain items
  | .object members => MembersInDomain members
  | _ => True

/-- The numbers of all items are in the domain. -/
def ItemsInDomain : List Json → Prop
  | [] => True
  | item :: rest => InDomain item ∧ ItemsInDomain rest

/-- The numbers of all members are in the domain. -/
def MembersInDomain : List (JsString × Json) → Prop
  | [] => True
  | (_, value) :: rest => InDomain value ∧ MembersInDomain rest

end

theorem itemsInDomain_iff {items : List Json} :
    ItemsInDomain items ↔ ∀ item ∈ items, InDomain item := by
  induction items with
  | nil => simp [ItemsInDomain]
  | cons item rest inductionHypothesis =>
      simp [ItemsInDomain, inductionHypothesis]

theorem membersInDomain_iff {members : Members} :
    MembersInDomain members ↔ ∀ entry ∈ members, InDomain entry.2 := by
  induction members with
  | nil => simp [MembersInDomain]
  | cons entry rest inductionHypothesis =>
      simp [MembersInDomain, inductionHypothesis]

theorem stringifyMembers_eq_map (members : Members) :
    stringifyMembers members =
      members.map fun entry => quote entry.1 ++ 0x3A :: stringify entry.2 := by
  induction members with
  | nil => rfl
  | cons entry rest inductionHypothesis =>
      simp [stringifyMembers, inductionHypothesis]

/-- Sorting by name commutes with a change of the values. -/
theorem map_insertionSort_byName
    {α β : Type} (f : JsString × α → JsString × β)
    (keepsName : ∀ entry, (f entry).1 = entry.1)
    (entries : List (JsString × α)) :
    (entries.insertionSort byName).map f =
      (entries.map f).insertionSort byName := by
  apply List.map_insertionSort
  intro left _ right _
  rw [byName, byName, keepsName, keepsName]

theorem missingType_ofJson (value : Json) :
    missingType (.ofJson value) = none := by
  cases value <;> rfl

theorem mapM_snd_ok
    {ε α β : Type} (f : JsString × α → β) (entries : List (JsString × α)) :
    (entries.map fun entry =>
        (entry.1, (Except.ok (f entry) : Except ε β))).mapM Prod.snd =
      .ok (entries.map f) := by
  induction entries with
  | nil => rfl
  | cons entry rest inductionHypothesis =>
      rw [List.map_cons, List.mapM_cons, inductionHypothesis]
      rfl

mutual

theorem serialize_ofJson :
    (value : Json) → InDomain value → ∀ path,
      serialize (.ofJson value) path = .ok (canonicalText value)
  | .null, _, _ | .string _, _, _ => rfl
  | .boolean true, _, _ | .boolean false, _, _ => rfl
  | .number value, domain, path => by
      obtain ⟨datum, rfl, safe⟩ := domain
      simp only [JsValue.ofJson, serialize, assertNumberDomain]
      rw [if_neg]
      · rfl
      · rintro ⟨isInteger, large⟩
        exact absurd (safe isInteger) (not_le.mpr large)
  | .array items, domain, path => by
      simp only [JsValue.ofJson, serialize,
        serializeItems_ofJson items domain path 0]
      rfl
  | .object members, domain, path => by
      simp only [JsValue.ofJson, serialize,
        serializeMembers_ofJson members domain path]
      rw [← map_insertionSort_byName
        (fun entry : JsString × Json => (entry.1, (Except.ok
          (quote entry.1 ++ 0x3A :: stringify entry.2) :
            Except AgenIdError JsString)))
        (fun _ => rfl), mapM_snd_ok, ← stringifyMembers_eq_map]
      rfl

theorem serializeItems_ofJson :
    (items : List Json) → ItemsInDomain items → ∀ path index,
      serializeItems (JsValue.ofJsonItems items) path index =
        .ok (stringifyItems (orderedItems items))
  | [], _, _, _ => rfl
  | item :: rest, domain, path, index => by
      simp only [JsValue.ofJsonItems, serializeItems, missingType_ofJson,
        serialize_ofJson item domain.1, serializeItems_ofJson rest domain.2]
      rfl

theorem serializeMembers_ofJson :
    (members : Members) → MembersInDomain members → ∀ path,
      serializeMembers (JsValue.ofJsonMembers members) path =
        (orderedMembers members).map fun entry =>
          (entry.1, .ok (quote entry.1 ++ 0x3A :: stringify entry.2))
  | [], _, _ => rfl
  | (name, value) :: rest, domain, path => by
      simp only [JsValue.ofJsonMembers, serializeMembers,
        serialize_ofJson value domain.1, serializeMembers_ofJson rest domain.2]
      rfl

end

theorem canonicalize_ofJson {value : Json} (domain : InDomain value) :
    canonicalize (.ofJson value) = .ok (canonicalText value) :=
  serialize_ofJson value domain (units "$")

theorem canonicalizeToBytes_ofJson {value : Json} (domain : InDomain value) :
    canonicalizeToBytes (.ofJson value) = .ok (canonicalBytes value) := by
  rw [canonicalizeToBytes, canonicalize_ofJson domain]
  rfl

/-! ## Records in the domain -/

@[simp]
theorem inDomain_string (text : JsString) : InDomain (.string text) :=
  trivial

@[simp]
theorem inDomain_boolean (value : Bool) : InDomain (.boolean value) :=
  trivial

@[simp]
theorem inDomain_null : InDomain .null :=
  trivial

@[simp]
theorem inDomain_literal (text : String) : InDomain (.literal text) :=
  trivial

@[simp]
theorem inDomain_array (items : List Json) :
    InDomain (.array items) ↔ ∀ item ∈ items, InDomain item := by
  rw [InDomain, itemsInDomain_iff]

theorem inDomain_object (members : Members) :
    InDomain (.object members) ↔ ∀ entry ∈ members, InDomain entry.2 := by
  rw [InDomain, membersInDomain_iff]

@[simp]
theorem inDomain_record (entries : List (String × Option Json)) :
    InDomain (.record entries) ↔
      ∀ entry ∈ entries, ∀ value ∈ entry.2, InDomain value := by
  rw [Json.record, inDomain_object]
  constructor
  · intro domain entry isEntry value isValue
    exact domain (units entry.1, value)
      (List.mem_filterMap.mpr
        ⟨entry, isEntry, by simp [Option.mem_def.mp isValue]⟩)
  · intro domain member isMember
    obtain ⟨entry, isEntry, found⟩ := List.mem_filterMap.mp isMember
    obtain ⟨value, isValue, rfl⟩ := Option.map_eq_some_iff.mp found
    exact domain entry isEntry value isValue

end AgenId.Core
