import AgenId.Ecma.PlainText
import AgenId.Web.KeyDiscovery
import AgenId.Web.KeysSchema

/-!
# The file of keys that an operator is handed

`keys-document.ts`: the document that an operator is to publish, and the probe
of its domain when it does.  The file has as many lines as there are keys, and
nothing bounds it; the probe reads a bounded number of bytes.
-/

namespace AgenId.Web

open AgenId.Core
open AgenId.Ecma
open AgenId.Library
open AgenId.Validation
open AgenId.Validation.Schema

/-! ## The code -/

def KEYS_DOCUMENT_SCHEMA_ID : String :=
  "https://agenid.com/schemas/v1.1.1/keys.json"

/-- The document, before it is written. -/
def keysDocumentOf (domain : JsString) (keyDocuments : List Json) : Json :=
  .object [(units "$schema", .literal KEYS_DOCUMENT_SCHEMA_ID),
    (units "controller_domain", .string domain),
    (units "keys", .array keyDocuments)]

/-- The text of the document, with a line break behind it. -/
def fileText (domain : JsString) (keyDocuments : List Json) : JsString :=
  stringifyIndented (units "  ") [] (keysDocumentOf domain keyDocuments) ++
    units "\n"

/-- `buildKeysDocument(operatorDomain, keyDocuments)`. -/
def buildKeysDocument [CaseData] (operatorDomain : JsString)
    (keyDocuments : List Json) : Except JsString JsString :=
  let domain := Ecma.toLowerCase (trim operatorDomain)
  if domain = [] then
    .error (units "operator domain is required")
  else if keyDocuments.length = 0 then
    .error (units "at least one key document is required")
  else
    .ok (fileText domain keyDocuments)

/-! ## Host names -/

/-- A letter, a digit, a hyphen or a point. -/
def IsHostUnit (unit : UInt16) : Prop :=
  isAlphanumeric unit = true ∨ unit = 0x2D ∨ unit = 0x2E

theorem eq_hyphen_of_isOneOf
    {unit : UInt16} (isOne : isOneOf ['-'] unit = true) : unit = 0x2D := by
  simp only [isOneOf, List.any_cons, List.any_nil, Bool.or_false,
    beq_iff_eq] at isOne
  exact UInt16.toNat_inj.mp isOne

theorem isPlainUnit_of_toNat {unit : UInt16} (atLeast : 0x2D ≤ unit.toNat)
    (atMost : unit.toNat ≤ 0x7A) (notBackslash : unit.toNat ≠ 0x5C) :
    IsPlainUnit unit := by
  refine ⟨by omega, by omega, ?_, ?_⟩
  · intro isQuote
    rw [isQuote] at atLeast
    exact absurd atLeast (by decide)
  · intro isBackslash
    rw [isBackslash] at notBackslash
    exact notBackslash rfl

theorem IsHostUnit.bounds {unit : UInt16} (isHost : IsHostUnit unit) :
    0x2D ≤ unit.toNat ∧ unit.toNat ≤ 0x7A ∧ unit.toNat ≠ 0x5C := by
  rcases isHost with isLetter | isHyphen | isPoint
  · rw [isAlphanumeric_iff] at isLetter
    omega
  · rw [isHyphen]
    decide
  · rw [isPoint]
    decide

theorem isHostUnit_of_valid {domain : JsString}
    (isValid : isValidHostname domain = true) :
    ∀ unit ∈ domain, IsHostUnit unit := by
  rw [isValidHostname, Bool.and_eq_true, List.all_eq_true] at isValid
  intro unit isMember
  rcases @mem_splitOnUnit 0x2E unit domain isMember with isPoint |
    ⟨label, isLabel, inLabel⟩
  · exact Or.inr (Or.inr isPoint)
  · have isHost := isValid.2 label isLabel
    rw [isHostLabel, Bool.and_eq_true, Bool.and_eq_true, List.all_eq_true]
      at isHost
    have isUnit := isHost.1.2 unit inLabel
    rw [Bool.or_eq_true] at isUnit
    rcases isUnit with isLetter | isOne
    · exact Or.inl isLetter
    · exact Or.inr (Or.inl (eq_hyphen_of_isOneOf isOne))

theorem isHostLabel_lower {label : JsString}
    (isLabel : isHostLabel label = true) :
    isHostLabel (label.map lowerUnit) = true := by
  simp only [isHostLabel, Bool.and_eq_true, decide_eq_true_eq,
    List.all_eq_true] at isLabel ⊢
  obtain ⟨⟨isLong, areUnits⟩, notFirst, notLast⟩ := isLabel
  have keeps : ∀ unit, lowerUnit unit = 0x2D ↔ unit = 0x2D :=
    fun unit => lowerUnit_eq_iff (by decide)
  have stillNot : ∀ found : Option UInt16, found ≠ some 0x2D →
      found.map lowerUnit ≠ some 0x2D := by
    intro found notHyphen isLower
    obtain ⟨unit, isFound, isUnit⟩ := Option.map_eq_some_iff.mp isLower
    rw [(keeps unit).mp isUnit] at isFound
    exact notHyphen isFound
  refine ⟨⟨by rwa [List.length_map], ?_⟩, ?_, ?_⟩
  · rw [List.forall_mem_map]
    intro unit isMember
    have isUnit := areUnits unit isMember
    rw [Bool.or_eq_true] at isUnit ⊢
    rcases isUnit with isLetter | isOne
    · left
      rw [isAlphanumeric_iff] at isLetter ⊢
      rw [toNat_lowerUnit]
      split_ifs <;> omega
    · right
      rw [(keeps unit).mpr (eq_hyphen_of_isOneOf isOne)]
      rfl
  · rw [List.head?_map]
    exact stillNot _ notFirst
  · rw [List.getLast?_map]
    exact stillNot _ notLast

theorem isValidHostname_lower {domain : JsString}
    (isValid : isValidHostname domain = true) :
    isValidHostname (domain.map lowerUnit) = true := by
  have keeps : ∀ unit, lowerUnit unit = 0x2E ↔ unit = 0x2E :=
    fun unit => lowerUnit_eq_iff (by decide)
  simp only [isValidHostname, Bool.and_eq_true, decide_eq_true_eq,
    List.all_eq_true] at isValid ⊢
  obtain ⟨⟨isLong, areTwo⟩, areLabels⟩ := isValid
  rw [splitOnUnit_map domain keeps, List.length_map, List.length_map,
    List.forall_mem_map]
  exact ⟨⟨isLong, areTwo⟩, fun label isLabel =>
    isHostLabel_lower (areLabels label isLabel)⟩

section Normalized

variable [CaseData] {domain : JsString}

omit [CaseData] in
theorem graphic_of_host (isValid : isValidHostname domain = true) :
    ∀ unit ∈ domain, IsGraphic unit := by
  intro unit isMember
  have bounds := (isHostUnit_of_valid isValid unit isMember).bounds
  exact ⟨by omega, by omega⟩

/-- A host name as it stands in the file. -/
theorem toLowerCase_trim_host (isValid : isValidHostname domain = true) :
    Ecma.toLowerCase (trim domain) = domain.map lowerUnit := by
  rw [trim_of_graphic (graphic_of_host isValid),
    toLowerCase_ascii (isAscii_of_graphic (graphic_of_host isValid))]

theorem toLowerCase_lower_host (isValid : isValidHostname domain = true) :
    Ecma.toLowerCase (domain.map lowerUnit) = Ecma.toLowerCase domain := by
  have lowered := graphic_of_host (isValidHostname_lower isValid)
  rw [toLowerCase_ascii (isAscii_of_graphic lowered),
    toLowerCase_ascii (isAscii_of_graphic (graphic_of_host isValid)),
    List.map_map]
  apply List.map_congr_left
  intro unit _
  exact lowerUnit_lowerUnit unit

end Normalized

/-! ## Keys as objects -/

/-! ### Classes of plain units -/

theorem isPlainUnit_of_within {low high : Char} {unit : UInt16}
    (isWithin : within low high unit = true)
    (bounds : 0x2D ≤ low.toNat ∧ high.toNat ≤ 0x7A ∧
      (high.toNat < 0x5C ∨ 0x5C < low.toNat)) : IsPlainUnit unit := by
  rw [within, decide_eq_true_iff] at isWithin
  exact isPlainUnit_of_toNat (by omega) (by omega) (by omega)

theorem isPlainUnit_of_crockford {unit : UInt16}
    (isMember : isCrockford unit = true) : IsPlainUnit unit := by
  simp only [isCrockford, Bool.or_eq_true] at isMember
  rcases isMember with ((((isDigit | first) | second) | third) | fourth) |
    fifth
  · exact isPlainUnit_of_within isDigit (by decide)
  · exact isPlainUnit_of_within first (by decide)
  · exact isPlainUnit_of_within second (by decide)
  · exact isPlainUnit_of_within third (by decide)
  · exact isPlainUnit_of_within fourth (by decide)
  · exact isPlainUnit_of_within fifth (by decide)

theorem isPlainUnit_of_base64Url {unit : UInt16}
    (isMember : isBase64Url unit = true) : IsPlainUnit unit := by
  simp only [isBase64Url, isAlphanumeric, Bool.or_eq_true] at isMember
  rcases isMember with ((isUpper | isLower) | isDigit) | isMark
  · exact isPlainUnit_of_within isUpper (by decide)
  · exact isPlainUnit_of_within isLower (by decide)
  · exact isPlainUnit_of_within isDigit (by decide)
  · simp only [isOneOf, List.any_cons, List.any_nil, Bool.or_false,
      Bool.or_eq_true, beq_iff_eq] at isMark
    rcases isMark with isLow | isHyphen
    · have isCode : unit.toNat = 0x5F := isLow
      exact isPlainUnit_of_toNat (by omega) (by omega) (by omega)
    · have isCode : unit.toNat = 0x2D := isHyphen
      exact isPlainUnit_of_toNat (by omega) (by omega) (by omega)

theorem isPlainUnit_of_lowerAlphanumeric {unit : UInt16}
    (isMember : isLowerAlphanumeric unit = true) : IsPlainUnit unit := by
  rw [isLowerAlphanumeric, Bool.or_eq_true] at isMember
  rcases isMember with isLower | isDigit
  · exact isPlainUnit_of_within isLower (by decide)
  · exact isPlainUnit_of_within isDigit (by decide)

theorem isPlainUnit_of_digit {unit : UInt16}
    (isMember : isDigit unit = true) : IsPlainUnit unit :=
  isPlainUnit_of_within isMember (by decide)

/-! ### Texts of plain units -/

theorem isPlain_of_ulid {namespaceText : String} {text : JsString}
    (plain : IsPlain (units namespaceText))
    (matched : (ulidRegex namespaceText).test text = true) :
    IsPlain text := by
  apply isPlain_of_test _ matched
  rw [List.forall_mem_append]
  refine ⟨takesPlain_literally plain, ?_⟩
  rw [List.forall_mem_cons, List.forall_mem_singleton]
  exact ⟨fun unit isLead => isPlainUnit_of_within isLead (by decide),
    fun unit isMember => isPlainUnit_of_crockford isMember⟩

theorem isPlain_of_authority {text : JsString}
    (matched : AUTHORITY_ID_REGEX.test text = true) : IsPlain text := by
  apply isPlain_of_test _ matched
  rw [List.forall_mem_append]
  refine ⟨takesPlain_literally (by decide), ?_⟩
  rw [List.forall_mem_cons, List.forall_mem_singleton]
  refine ⟨fun unit isMember => isPlainUnit_of_lowerAlphanumeric isMember, ?_⟩
  intro unit isMember
  rw [Bool.or_eq_true] at isMember
  rcases isMember with isLetter | isOne
  · exact isPlainUnit_of_lowerAlphanumeric isLetter
  · rw [eq_hyphen_of_isOneOf isOne]
    decide

theorem takesPlain_timestamp :
    ∀ piece ∈ timestampPieces, piece.TakesPlain := by
  have digits : ∀ count, (Piece.exactly isDigit count).TakesPlain :=
    fun count unit isMember => isPlainUnit_of_digit isMember
  have hyphen := @takesPlain_literally "-" (by decide)
  have colon := @takesPlain_literally ":" (by decide)
  have letter := @takesPlain_literally "T" (by decide)
  simp only [timestampPieces, List.forall_mem_append, List.forall_mem_cons]
  exact ⟨⟨⟨⟨⟨⟨digits 4, hyphen⟩, digits 2, hyphen⟩, digits 2, letter⟩,
    digits 2, colon⟩, digits 2, colon⟩, digits 2, List.forall_mem_nil _⟩

theorem isPlain_of_timestamp {text : JsString}
    (matched : timestampRegex.test text = true) : IsPlain text := by
  have zulu := @takesPlain_literally "Z" (by decide)
  have point := @takesPlain_literally "." (by decide)
  have fraction : (Piece.run isDigit 1 (some 9)).TakesPlain :=
    fun unit isMember => isPlainUnit_of_digit isMember
  simp only [Regex.test, timestampRegex, List.any_cons, List.any_nil,
    Bool.or_false, Bool.or_eq_true, if_true] at matched
  rcases matched with isWhole | isFraction
  · apply isPlain_of_matchesAt _ isWhole
    exact List.forall_mem_append.mpr ⟨takesPlain_timestamp, zulu⟩
  · apply isPlain_of_matchesAt _ isFraction
    simp only [List.forall_mem_append, List.forall_mem_singleton]
    exact ⟨⟨⟨takesPlain_timestamp, point⟩, fraction⟩, zulu⟩

section Keys

variable [Platform] {members : Members} {key : KeyDocument}

/-- An object, which names no member twice, is accepted as a key document. -/
structure IsKeyObject (members : Members) (key : KeyDocument) : Prop where
  distinct : Distinct members
  accepted : KeyDocument.schema.accepts (some (.object members)) = some key

theorem IsKeyObject.keyMembers (isKey : IsKeyObject members key) :
    KeyMembers members key := by
  have accepted := isKey.accepted
  simp only [KeyDocument.schema, accepts_check_eq_some_iff,
    shape_accepts_iff] at accepted
  exact accepted.1.1.1.1

omit [Platform] in
theorem KeyMembers.lookup_eq
    (isKey : KeyMembers members key) (name : JsString) :
    members.lookup name = (membersOf key).lookup name := by
  by_cases isName : name ∈ (membersOf key).map Prod.fst
  · simp only [membersOf, List.map_cons, List.map_nil, List.mem_cons,
      List.not_mem_nil, or_false] at isName
    rcases isName with rfl | rfl | rfl | rfl | rfl | rfl | rfl | rfl | rfl
    · exact isKey.keyId
    · exact isKey.keyType
    · exact isKey.publicKey
    · exact isKey.role
    · exact isKey.controller
    · exact isKey.createdAt
    · exact isKey.status
    · exact isKey.retiredAt
    · exact isKey.revokedAt
  · have notMember : name ∉ members.map Prod.fst := by
      intro isMember
      have isKnown := List.filter_eq_nil_iff.mp isKey.known name isMember
      rw [decide_eq_true_iff, not_not] at isKnown
      exact isName isKnown
    rw [← isSome_lookup_iff, Bool.not_eq_true, Option.isSome_eq_false_iff,
      Option.isNone_iff_eq_none] at isName notMember
    rw [isName, notMember]

omit [Platform] in
theorem names_membersOf (key : KeyDocument) :
    (membersOf key).map Prod.fst =
      [units "key_id", units "key_type", units "public_key_b64u",
        units "role", units "controller", units "created_at",
        units "status", units "retired_at", units "revoked_at"] := rfl

omit [Platform] in
theorem distinct_membersOf (key : KeyDocument) : Distinct (membersOf key) := by
  rw [Distinct, names_membersOf]
  decide

/-- The members of a key document, in some order. -/
theorem IsKeyObject.perm (isKey : IsKeyObject members key) :
    members.Perm (membersOf key) := by
  have distinct := isKey.distinct
  have canonical := distinct_membersOf key
  rw [List.perm_ext_iff_of_nodup (List.Nodup.of_map _ distinct)
    (List.Nodup.of_map _ canonical)]
  rintro ⟨name, value⟩
  rw [← distinct.lookup_eq_some_iff, ← canonical.lookup_eq_some_iff,
    isKey.keyMembers.lookup_eq]

/-- The texts that a key document holds are plain. -/
structure PlainKey (key : KeyDocument) : Prop where
  keyId : IsPlain key.keyId
  publicKey : IsPlain key.publicKeyB64u
  controller : IsPlain key.controller
  createdAt : IsPlain key.createdAt
  retiredAt : ∀ text ∈ key.retiredAt, IsPlain text
  revokedAt : ∀ text ∈ key.revokedAt, IsPlain text

theorem IsKeyObject.plainKey (isKey : IsKeyObject members key) :
    PlainKey key := by
  have isMembers := isKey.keyMembers
  have accepted := isKey.accepted
  simp only [KeyDocument.schema, accepts_check_eq_some_iff,
    shape_accepts_iff] at accepted
  have controllerFits := accepted.1.1.2
  refine ⟨isPlain_of_ulid (by decide) isMembers.keyIdForm, ?_, ?_,
    isPlain_of_timestamp isMembers.createdForm,
    fun text isText => isPlain_of_timestamp (isMembers.retiredForm text isText),
    fun text isText =>
      isPlain_of_timestamp (isMembers.revokedForm text isText)⟩
  · apply isPlain_of_test _ isMembers.publicKeyForm
    rw [List.forall_mem_singleton]
    exact fun unit isMember => isPlainUnit_of_base64Url isMember
  · cases isRole : key.role with
    | operator =>
        rw [isRole] at controllerFits
        exact isPlain_of_ulid (by decide) controllerFits
    | authority =>
        rw [isRole] at controllerFits
        exact isPlain_of_authority controllerFits
    | principal =>
        rw [isRole] at controllerFits
        exact isPlain_of_ulid (by decide) controllerFits

end Keys

/-! ## The size of the file -/

/-- The bytes of a date: `null`, or the text in quotation marks. -/
def dateBytes : Option JsString → ℕ
  | none => 4
  | some text => text.length + 2

/-- The bytes that a key takes in the file, with the line breaks around
it. -/
def keyBytes (key : KeyDocument) : ℕ :=
  220 + key.keyId.length + key.publicKeyB64u.length +
    (units key.role.text).length + key.controller.length +
    key.createdAt.length + (units key.status.text).length +
    dateBytes key.retiredAt + dateBytes key.revokedAt

/-- The bytes of the file of a domain and keys. -/
def fileBytes (domain : JsString) (keys : List KeyDocument) : ℕ :=
  106 + domain.length + (keys.map keyBytes).sum

theorem length_indented_string {gap indent text : JsString}
    (plain : IsPlain text) :
    (stringifyIndented gap indent (.string text)).length = text.length + 2 :=
  length_quote plain

theorem length_indented_date {gap indent : JsString} {date : Option JsString}
    (plain : ∀ text ∈ date, IsPlain text) :
    (stringifyIndented gap indent (nullableText date)).length =
      dateBytes date := by
  cases date with
  | none => rfl
  | some text => exact length_quote (plain text rfl)

theorem isPlain_roleText (role : KeyRole) : IsPlain (units role.text) := by
  cases role <;> decide

theorem isPlain_statusText (status : KeyStatus) :
    IsPlain (units status.text) := by
  cases status <;> decide

theorem isPlain_names (key : KeyDocument) :
    ∀ entry ∈ membersOf key, IsPlain entry.1 := by
  have names : ∀ name ∈ (membersOf key).map Prod.fst, IsPlain name := by
    rw [names_membersOf]
    decide
  exact fun entry isEntry => names entry.1 (List.mem_map_of_mem isEntry)

section Size

variable [Platform] {members : Members} {key : KeyDocument}

theorem IsKeyObject.length_indented (isKey : IsKeyObject members key) :
    (stringifyIndented (units "  ") (units "    ") (.object members)).length +
      6 = keyBytes key := by
  have plain := isKey.plainKey
  have perm := isKey.perm
  have nonempty : members ≠ [] := by
    intro isEmpty
    rw [isEmpty] at perm
    exact absurd perm.nil_eq (List.cons_ne_nil _ _).symm
  have names : ∀ entry ∈ members, IsPlain entry.1 :=
    fun entry isEntry => isPlain_names key entry (perm.subset isEntry)
  have literal : IsPlain (units "Ed25519") := by decide
  rw [length_indented_object nonempty names, perm.length_eq,
    (perm.map _).sum_eq]
  simp only [membersOf, List.map_cons, List.map_nil, List.sum_cons,
    List.sum_nil, Json.literal, length_indented_string plain.keyId,
    length_indented_string literal, length_indented_string plain.publicKey,
    length_indented_string (isPlain_roleText key.role),
    length_indented_string plain.controller,
    length_indented_string plain.createdAt,
    length_indented_string (isPlain_statusText key.status),
    length_indented_date plain.retiredAt,
    length_indented_date plain.revokedAt]
  have names : (units "key_id").length = 6 ∧ (units "key_type").length = 8 ∧
      (units "public_key_b64u").length = 15 ∧ (units "role").length = 4 ∧
      (units "controller").length = 10 ∧ (units "created_at").length = 10 ∧
      (units "status").length = 6 ∧ (units "retired_at").length = 10 ∧
      (units "revoked_at").length = 10 := by
    decide
  have literals : (units "Ed25519").length = 7 ∧ (units "  ").length = 2 ∧
      (units "    ").length = 4 := by
    decide
  simp only [names, literals, List.length_cons, List.length_nil, keyBytes]
  omega

end Size

/-! ## The file as a document -/

/-- The values of a key document are plain texts or `null`. -/
theorem PlainKey.values {key : KeyDocument} (plain : PlainKey key) :
    ∀ entry ∈ membersOf key, entry.2 = .null ∨
      ∃ text, IsPlain text ∧ entry.2 = .string text := by
  have ofDate : ∀ date : Option JsString, (∀ text ∈ date, IsPlain text) →
      nullableText date = .null ∨
        ∃ text, IsPlain text ∧ nullableText date = .string text := by
    intro date isPlain
    cases date with
    | none => exact Or.inl rfl
    | some text => exact Or.inr ⟨text, isPlain text rfl, rfl⟩
  simp only [membersOf, List.forall_mem_cons]
  exact ⟨Or.inr ⟨_, plain.keyId, rfl⟩, Or.inr ⟨_, by decide, rfl⟩,
    Or.inr ⟨_, plain.publicKey, rfl⟩,
    Or.inr ⟨_, isPlain_roleText key.role, rfl⟩,
    Or.inr ⟨_, plain.controller, rfl⟩, Or.inr ⟨_, plain.createdAt, rfl⟩,
    Or.inr ⟨_, isPlain_statusText key.status, rfl⟩,
    ofDate _ plain.retiredAt, ofDate _ plain.revokedAt,
    List.forall_mem_nil _⟩

section Document

variable [Platform] {members : Members} {key : KeyDocument}
  {docs : List Members} {keys : List KeyDocument} {domain : JsString}

theorem IsKeyObject.plainJson (isKey : IsKeyObject members key) :
    PlainJson (.object members) := by
  have values := isKey.plainKey.values
  apply PlainJson.object
  · intro entry isEntry
    exact isPlain_names key entry (isKey.perm.subset isEntry)
  · intro entry isEntry
    rcases values entry (isKey.perm.subset isEntry) with isNull |
      ⟨text, plain, isText⟩
    · rw [isNull]
      exact .null
    · rw [isText]
      exact .string plain

theorem IsKeyObject.printable (isKey : IsKeyObject members key) :
    (Json.object members).Printable := by
  have values := isKey.plainKey.values
  refine ⟨isKey.distinct, printableMembers_iff.mpr ?_⟩
  intro entry isEntry
  rcases values entry (isKey.perm.subset isEntry) with isNull |
    ⟨text, -, isText⟩
  · rw [isNull]
    exact trivial
  · rw [isText]
    exact trivial

/-- What holds of every key object holds of every item. -/
theorem forall_docs {holds : Json → Prop}
    (ofKey : ∀ {members key}, IsKeyObject members key →
      holds (.object members))
    (areKeys : List.Forall₂ IsKeyObject docs keys) :
    ∀ item ∈ docs.map Json.object, holds item := by
  induction areKeys with
  | nil => exact List.forall_mem_nil _
  | cons isKey _ inductionHypothesis =>
      exact List.forall_mem_cons.mpr ⟨ofKey isKey, inductionHypothesis⟩

theorem mapM_accepts (areKeys : List.Forall₂ IsKeyObject docs keys) :
    ((docs.map Json.object).mapM fun item =>
      KeyDocument.schema.accepts (some item)) = some keys := by
  induction areKeys with
  | nil => rfl
  | cons isKey _ inductionHypothesis =>
      rw [List.map_cons, List.mapM_cons, isKey.accepted, inductionHypothesis]
      rfl

theorem plainJson_document (plain : IsPlain domain)
    (areKeys : List.Forall₂ IsKeyObject docs keys) :
    PlainJson (keysDocumentOf domain (docs.map Json.object)) := by
  have items := forall_docs (fun isKey => isKey.plainJson) areKeys
  apply PlainJson.object
  · simp only [List.forall_mem_cons]
    exact ⟨by decide, by decide, by decide, List.forall_mem_nil _⟩
  · simp only [List.forall_mem_cons]
    exact ⟨.string (by decide), .string plain, .array items,
      List.forall_mem_nil _⟩

theorem printable_document
    (areKeys : List.Forall₂ IsKeyObject docs keys) :
    (keysDocumentOf domain (docs.map Json.object)).Printable := by
  have items := forall_docs (fun isKey => isKey.printable) areKeys
  refine ⟨?_, trivial, trivial, printableItems_iff.mpr items, trivial⟩
  simp only [List.map_cons, List.map_nil]
  decide

/-- The schema accepts the document of a host name. -/
theorem accepts_document (isValid : isValidHostname domain = true)
    (areKeys : List.Forall₂ IsKeyObject docs keys) (nonempty : docs ≠ []) :
    KeysDocument.schema.accepts
        (some (keysDocumentOf domain (docs.map Json.object))) =
      some ⟨domain, keys⟩ := by
  have areSome : lengthIssues 1 none (docs.map Json.object).length = [] := by
    have isLong := List.length_pos_iff.mpr nonempty
    rw [List.length_map]
    unfold lengthIssues
    simp
    omega
  have acceptedDomain : Hostname.accepts (some (.string domain)) =
      some domain :=
    accepts_check_eq_some_iff.mpr ⟨rfl, isValid⟩
  have acceptedKeys : (KeyDocument.schema.array 1 none).accepts
      (some (.array (docs.map Json.object))) = some keys := by
    rw [accepts_array, if_pos areSome]
    exact mapM_accepts areKeys
  have allKnown : unknownNames ["$schema", "controller_domain", "keys"]
      [(units "$schema", .literal KEYS_DOCUMENT_SCHEMA_ID),
        (units "controller_domain", .string domain),
        (units "keys", .array (docs.map Json.object))] = [] := rfl
  rw [keysDocumentOf, KeysDocument.schema, accepts_strictObject,
    if_pos allKnown, Parse.accepted_seqRight_eq_some_iff]
  constructor
  · exact ⟨(), accepted_field_of_lookup rfl (accepts_literal _)⟩
  · exact Parse.accepted_seq_of
      (Parse.accepted_map_of (accepted_field_of_lookup rfl acceptedDomain))
      (accepted_field_of_lookup rfl acceptedKeys)

theorem length_keys (areKeys : List.Forall₂ IsKeyObject docs keys) :
    ((docs.map Json.object).map fun item => (stringifyIndented (units "  ")
      (units "    ") item).length).sum + docs.length * 6 =
        (keys.map keyBytes).sum := by
  induction areKeys with
  | nil => rfl
  | cons isKey _ inductionHypothesis =>
      have isFirst := isKey.length_indented
      simp only [List.map_cons, List.sum_cons, List.length_cons]
      omega

/-- The length of the file. -/
theorem length_fileText (plain : IsPlain domain)
    (areKeys : List.Forall₂ IsKeyObject docs keys) (nonempty : docs ≠ []) :
    (fileText domain (docs.map Json.object)).length =
      fileBytes domain keys := by
  have items : docs.map Json.object ≠ [] := by
    rwa [ne_eq, List.map_eq_nil_iff]
  have isArray := @length_indented_array (units "  ") (units "  ") _ items
  have indent : units "  " ++ units "  " = units "    " := by decide
  have ofKeys := length_keys areKeys
  have lengths : (units "$schema").length = 7 ∧
      (units "controller_domain").length = 17 ∧ (units "keys").length = 4 ∧
      (units KEYS_DOCUMENT_SCHEMA_ID).length = 43 ∧
      (units "  ").length = 2 ∧ (units "\n").length = 1 := by
    decide
  have schemaId : IsPlain (units KEYS_DOCUMENT_SCHEMA_ID) := by decide
  rw [indent, List.length_map] at isArray
  rw [fileText, List.length_append, keysDocumentOf,
    length_indented_object (List.cons_ne_nil _ _) (by
      simp only [List.forall_mem_cons]
      exact ⟨by decide, by decide, by decide, List.forall_mem_nil _⟩)]
  simp only [List.map_cons, List.map_nil, List.sum_cons, List.sum_nil,
    List.nil_append, Json.literal, length_indented_string schemaId,
    length_indented_string plain, isArray, lengths, List.length_cons,
    List.length_nil, fileBytes, ← ofKeys]
  omega

/-! ### Its bytes -/

theorem isAscii_fileText (plain : IsPlain domain)
    (areKeys : List.Forall₂ IsKeyObject docs keys) :
    IsAscii (fileText domain (docs.map Json.object)) := by
  have gap : IsAscii (units "  ") := by decide
  have ending : IsAscii (units "\n") := by decide
  exact isAscii_append.mpr ⟨(plainJson_document plain areKeys).isAscii gap
    (List.forall_mem_nil _), ending⟩

theorem length_fileBytes (plain : IsPlain domain)
    (areKeys : List.Forall₂ IsKeyObject docs keys) (nonempty : docs ≠ []) :
    (encodeUtf8 (fileText domain (docs.map Json.object))).length =
      fileBytes domain keys := by
  rw [length_encodeUtf8 (isAscii_fileText plain areKeys),
    length_fileText plain areKeys nonempty]

theorem decode_fileText (plain : IsPlain domain)
    (areKeys : List.Forall₂ IsKeyObject docs keys) :
    decodeUtf8 (encodeUtf8 (fileText domain (docs.map Json.object))) =
      fileText domain (docs.map Json.object) := by
  have ascii := isAscii_fileText plain areKeys
  have paired : isPaired (fileText domain (docs.map Json.object)) = true := by
    apply isPaired_of_lt
    intro unit isMember
    have small := ascii unit isMember
    omega
  apply decodeUtf8_encodeUtf8 paired
  intro isMark
  have small := ascii 0xFEFF (List.mem_of_mem_head? isMark)
  exact absurd small (by decide)

theorem parse_fileText (areKeys : List.Forall₂ IsKeyObject docs keys) :
    parseJson (fileText domain (docs.map Json.object)) =
      some (keysDocumentOf domain (docs.map Json.object)) := by
  have blankGap : IsBlank (units "  ") := by decide
  have blankEnd : IsBlank (units "\n") := by decide
  exact parseJson_indented blankGap (printable_document areKeys) blankEnd

end Document

/-! ## The file under the probe -/

section Probed

variable [CaseData] {domain : JsString} {docs : List Members}
  {keys : List KeyDocument}

omit [CaseData] in
theorem isPlain_of_host (isValid : isValidHostname domain = true) :
    IsPlain domain := by
  intro unit isMember
  have bounds := (isHostUnit_of_valid isValid unit isMember).bounds
  exact isPlainUnit_of_toNat bounds.1 bounds.2.1 bounds.2.2

/-- What is written for a host name. -/
theorem buildKeysDocument_host (isValid : isValidHostname domain = true)
    (nonempty : docs ≠ []) :
    buildKeysDocument domain (docs.map Json.object) =
      .ok (fileText (domain.map lowerUnit) (docs.map Json.object)) := by
  have hasName : domain.map lowerUnit ≠ [] := by
    rw [ne_eq, List.map_eq_nil_iff]
    intro isEmpty
    rw [isEmpty] at isValid
    exact absurd isValid (by decide)
  have hasKeys : ¬ (docs.map Json.object).length = 0 := by
    rwa [List.length_map, List.length_eq_zero_iff]
  rw [buildKeysDocument, toLowerCase_trim_host isValid, if_neg hasName,
    if_neg hasKeys]

theorem isJsonContentType_json :
    isJsonContentType (some (units "application/json")) = true := by
  have isEssence : trim ((splitOnUnit 0x3B
      (units "application/json")).headD []) = units "application/json" := by
    decide
  have ascii : IsAscii (units "application/json") := by decide
  have isLower : (units "application/json").map lowerUnit =
      units "application/json" := by
    decide
  have isTested : isJsonContentType (some (units "application/json")) =
      (decide (Ecma.toLowerCase (trim ((splitOnUnit 0x3B
          (units "application/json")).headD [])) =
        units "application/json") ||
        structuredJson.test (Ecma.toLowerCase (trim ((splitOnUnit 0x3B
          (units "application/json")).headD [])))) := rfl
  rw [isTested, isEssence, toLowerCase_ascii ascii, isLower]
  rfl

/-- The header declares no length, or one that the body reaches: the bytes on
the wire may be fewer, when they are compressed. -/
def DeclaresLength (contentLength : Option JsString) (length : ℕ) : Prop :=
  contentLength = none ∨
    ∃ declared ≤ length, contentLength = some (decimal declared)

omit [CaseData] in
theorem exceeds_of_declares {contentLength : Option JsString} {length bound : ℕ}
    (declares : DeclaresLength contentLength length)
    (safe : bound < 2 ^ 53) (small : length ≤ bound) :
    exceeds bound (declaredLength contentLength) = false := by
  rw [exceeds_eq_false_iff]
  rcases declares with isAbsent | ⟨declared, reached, isDecimal⟩
  · rw [isAbsent]
    intro datum isDatum
    have isZero : roundToNumber false ((0 : ℕ) : ℚ) =
        .finite (.ofNat false 0 (by decide)) :=
      roundToNumber_natCast false (by decide)
    rw [declaredLength, ← Nat.cast_zero, isZero] at isDatum
    rw [← JsNumber.finite.inj isDatum]
    simp [numericValue]
  · rw [isDecimal]
    intro datum isDatum
    rw [declaredLength, toNumber_decimal (by omega)] at isDatum
    have within : declared ≤ bound := le_trans reached small
    rw [← JsNumber.finite.inj isDatum]
    simp [numericValue, within]

variable [Platform]

theorem probeText_fileText (isValid : isValidHostname domain = true)
    (areKeys : List.Forall₂ IsKeyObject docs keys) (nonempty : docs ≠ [])
    (status : ℕ) :
    probeText domain status
        (fileText (domain.map lowerUnit) (docs.map Json.object)) =
      probeResult domain .published none status (some docs.length) := by
  have accepted := accepts_document (isValidHostname_lower isValid) areKeys
    nonempty
  rw [probeText, parse_fileText areKeys]
  dsimp only
  rw [Schema.safeParse_of_accepts accepted]
  dsimp only
  rw [if_neg (not_not.mpr (toLowerCase_lower_host isValid)),
    areKeys.length_eq]

/-- The file as the body of a response is a published document when it is no
larger than the bound, and too large otherwise. -/
theorem probeBytes_fileText (isValid : isValidHostname domain = true)
    (areKeys : List.Forall₂ IsKeyObject docs keys) (nonempty : docs ≠ [])
    {contentLength : Option JsString}
    (declares : DeclaresLength contentLength (fileBytes domain keys)) :
    probeBytes domain ⟨200, some (units "application/json"), contentLength⟩
        (encodeUtf8 (fileText (domain.map lowerUnit)
          (docs.map Json.object))) =
      if fileBytes domain keys ≤ MAX_KEYS_DOCUMENT_BYTES then
        probeResult domain .published none (some 200) (some docs.length)
      else
        probeResult domain .invalid (some .too_large) (some 200) none := by
  have plain := isPlain_of_host (isValidHostname_lower isValid)
  have isLength : (encodeUtf8 (fileText (domain.map lowerUnit)
      (docs.map Json.object))).length = fileBytes domain keys := by
    rw [length_fileBytes plain areKeys nonempty, fileBytes, fileBytes,
      List.length_map]
  unfold probeBytes
  dsimp only
  rw [if_neg (by decide), if_neg (by decide), if_neg (by decide),
    isJsonContentType_json, if_neg (by decide), isLength]
  by_cases small : fileBytes domain keys ≤ MAX_KEYS_DOCUMENT_BYTES
  · have notDeclared := exceeds_of_declares declares (by decide) small
    rw [if_pos small, if_neg (by simp [notDeclared, small]),
      decode_fileText plain areKeys,
      probeText_fileText isValid areKeys nonempty]
  · rw [if_neg small, if_pos (Or.inr (not_le.mp small))]

/-- The file that is written for a domain and keys, served as JSON in any
chunks, is recognized with all of its keys exactly when it is no larger than
the probe reads. -/
theorem keysFile_recognized_iff (isValid : isValidHostname domain = true)
    (areKeys : List.Forall₂ IsKeyObject docs keys) (nonempty : docs ≠ []) :
    ∃ text, buildKeysDocument domain (docs.map Json.object) = .ok text ∧
      ∀ contentLength chunks,
        DeclaresLength contentLength (encodeUtf8 text).length →
        chunks.flatten = encodeUtf8 text →
          let result := probeKeyDiscovery domain (some
            (ResponseHead.respond ⟨200, some (units "application/json"),
              contentLength⟩ (some chunks)))
          (result.state = .published ∧
              result.keyCount = some docs.length ↔
            fileBytes domain keys ≤ 65536) := by
  refine ⟨_, buildKeysDocument_host isValid nonempty, ?_⟩
  intro contentLength chunks declares isBody
  have plain := isPlain_of_host (isValidHostname_lower isValid)
  rw [length_fileBytes plain areKeys nonempty, fileBytes, List.length_map,
    ← fileBytes] at declares
  have isBytes : bodyBytes (some chunks) = chunks.flatten := rfl
  dsimp only
  rw [probeKeyDiscovery_respond, isBytes, isBody,
    probeBytes_fileText isValid areKeys nonempty declares]
  by_cases small : fileBytes domain keys ≤ MAX_KEYS_DOCUMENT_BYTES
  · rw [if_pos small]
    exact iff_of_true ⟨rfl, rfl⟩ small
  · rw [if_neg small]
    refine iff_of_false ?_ small
    rintro ⟨isPublished, -⟩
    cases isPublished

end Probed

/-! ## Files of one key and of many -/

/-- The key document of the sample as an object. -/
theorem isKeyObject_sample :
    letI := samplePlatform
    IsKeyObject (membersOf sampleOperatorKey) sampleOperatorKey := by
  let := samplePlatform
  refine ⟨distinct_membersOf _, ?_⟩
  rw [object_membersOf]
  exact sampleOperatorKey_accepted

/-- Copies of one key are keys. -/
theorem IsKeyObject.replicate [Platform] {members : Members}
    {key : KeyDocument} (isKey : IsKeyObject members key) (count : ℕ) :
    List.Forall₂ IsKeyObject (List.replicate count members)
      (List.replicate count key) := by
  induction count with
  | zero => exact .nil
  | succ count inductionHypothesis => exact .cons isKey inductionHypothesis

/-- A key of the sample operator that was retired. -/
def retiredKey : KeyDocument where
  keyId := units "agenid:key:01M2C10K00XK2P7VBN6TDR8HWE"
  publicKeyB64u := units "iojj3XQJ8ZX9UtstPLpdcspnCb8dlBIb83SIAbQPb1w"
  role := .operator
  controller := sampleOperatorKey.controller
  createdAt := units "2026-09-13T00:00:00Z"
  status := .retired
  retiredAt := some (units "2026-12-12T00:00:00Z")
  revokedAt := none

theorem isKeyObject_retired :
    letI := samplePlatform
    IsKeyObject (membersOf retiredKey) retiredKey := by
  let := samplePlatform
  have isAccepted : KeyDocument.schema.accepts (some retiredKey.toJson) =
      some retiredKey := rfl
  refine ⟨distinct_membersOf _, ?_⟩
  rw [object_membersOf]
  exact isAccepted

/-- The file of two keys is recognized. -/
theorem keysFile_sample :
    letI := samplePlatform
    letI := asciiCase
    ∃ text, buildKeysDocument (units "acmemedical.com")
        [.object (membersOf sampleOperatorKey),
          .object (membersOf retiredKey)] = .ok text ∧
      ∀ chunks, chunks.flatten = encodeUtf8 text →
        (probeKeyDiscovery (units "acmemedical.com") (some
          (ResponseHead.respond ⟨200, some (units "application/json"), none⟩
            (some chunks)))).state = .published := by
  let := samplePlatform
  let := asciiCase
  obtain ⟨text, isText, recognized⟩ := keysFile_recognized_iff
    (show isValidHostname (units "acmemedical.com") = true by decide)
    (.cons isKeyObject_sample (.cons isKeyObject_retired .nil))
    (List.cons_ne_nil _ _)
  refine ⟨text, isText, ?_⟩
  intro chunks isBody
  exact ((recognized none chunks (Or.inl rfl) isBody).mpr (by decide)).1

/-- The file of a hundred and seventy-five keys is too large. -/
theorem keysFile_too_large :
    letI := samplePlatform
    letI := asciiCase
    let docs := List.replicate 175 (membersOf sampleOperatorKey)
    isValidHostname (units "acmemedical.com") = true ∧
      (∀ members ∈ docs, KeyDocument.schema.accepts (some (.object members)) =
        some sampleOperatorKey) ∧
      ∃ text, buildKeysDocument (units "acmemedical.com")
          (docs.map Json.object) = .ok text ∧
        probeKeyDiscovery (units "acmemedical.com") (some
          (ResponseHead.respond ⟨200, some (units "application/json"), none⟩
            (some [encodeUtf8 text]))) =
          probeResult (units "acmemedical.com") .invalid (some .too_large)
            (some 200) none := by
  let := samplePlatform
  let := asciiCase
  have isValid : isValidHostname (units "acmemedical.com") = true := by
    decide
  have areKeys : List.Forall₂ IsKeyObject
      (List.replicate 175 (membersOf sampleOperatorKey))
      (List.replicate 175 sampleOperatorKey) :=
    isKeyObject_sample.replicate 175
  have nonempty : List.replicate 175 (membersOf sampleOperatorKey) ≠ [] :=
    List.cons_ne_nil _ _
  refine ⟨isValid, ?_, _, buildKeysDocument_host isValid nonempty, ?_⟩
  · intro members isMember
    rw [List.eq_of_mem_replicate isMember]
    exact isKeyObject_sample.accepted
  · have isBytes : ∀ bytes : List UInt8, bodyBytes (some [bytes]) = bytes := by
      intro bytes
      exact List.append_nil bytes
    have isLarge : ¬ fileBytes (units "acmemedical.com")
        (List.replicate 175 sampleOperatorKey) ≤ MAX_KEYS_DOCUMENT_BYTES := by
      rw [fileBytes, List.map_replicate, List.sum_replicate_nat]
      decide
    rw [probeKeyDiscovery_respond, isBytes,
      probeBytes_fileText isValid areKeys nonempty (Or.inl rfl),
      if_neg isLarge]

end AgenId.Web
