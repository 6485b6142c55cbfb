import AgenId.Core.Encoding

/-!
# Documents with their members in another order

A store may return the members of an object in another order than they were
written in.  The schemas ask for members by name, so that they read such a
value as the document that was written, issue by issue.
-/

namespace AgenId.Core

open AgenId.Ecma
open AgenId.Library
open AgenId.Validation
open AgenId.Validation.Schema

theorem SameValue.refl (value : Json) : SameValue value value := by
  induction value using Json.inductionOn with
  | null => exact .null
  | boolean value => exact .boolean value
  | number value => exact .number rfl
  | string text => exact .string text
  | array items inductionHypothesis =>
      refine .array rfl ?_
      intro index first second isFirst isSecond
      obtain rfl := Option.some.inj (isFirst.symm.trans isSecond)
      exact inductionHypothesis first (List.mem_of_getElem? isFirst)
  | object members inductionHypothesis =>
      refine .object (fun _ => rfl) ?_
      intro name first second isFirst isSecond
      obtain rfl := Option.some.inj (isFirst.symm.trans isSecond)
      exact inductionHypothesis _ (mem_of_lookup isFirst)

/-! ## Values without an order -/

/-- A value that is the same as no other value. -/
def Plain (value : Json) : Prop :=
  ∀ other, SameValue other value → other = value

theorem plain_string (text : JsString) : Plain (.string text) := by
  intro other same
  cases same with
  | string text => rfl

theorem plain_literal (text : String) : Plain (.literal text) :=
  plain_string _

theorem plain_boolean (value : Bool) : Plain (.boolean value) := by
  intro other same
  cases same with
  | boolean value => rfl

theorem plain_null : Plain .null := by
  intro other same
  cases same with
  | null => rfl

theorem plain_array {items : List Json} (plain : ∀ item ∈ items, Plain item) :
    Plain (.array items) := by
  intro other same
  cases same with
  | @array left _ length itemwise =>
      congr 1
      apply List.ext_getElem length
      intro index isLeft isRight
      exact plain _ (List.getElem_mem isRight) _ (itemwise index _ _
        (List.getElem?_eq_getElem isLeft) (List.getElem?_eq_getElem isRight))

/-! ## Schemas that ask by name -/

section OrderFree

variable {α : Type} {schema : Schema α}

/-- A schema reads every value that is the same as an input as the input. -/
def OrderFree (schema : Schema α) (input : Option Json) : Prop :=
  ∀ stored, Option.Rel SameValue stored input → schema stored = schema input

theorem orderFree_none : OrderFree schema none := by
  intro stored related
  cases related with
  | none => rfl

theorem orderFree_plain {value : Json} (plain : Plain value) :
    OrderFree schema (some value) := by
  intro stored related
  cases related with
  | some same => rw [plain _ same]

theorem orderFree_nullableText (text : Option JsString) :
    OrderFree schema (some (nullableText text)) := by
  cases text with
  | none => exact orderFree_plain plain_null
  | some text => exact orderFree_plain (plain_string text)

theorem orderFree_text (text : Option JsString) :
    OrderFree schema (text.map .string) := by
  cases text with
  | none => exact orderFree_none
  | some text => exact orderFree_plain (plain_string text)

theorem OrderFree.superRefine {input : Option Json}
    (free : OrderFree schema input) (rules : α → List Issue) :
    OrderFree (schema.superRefine rules) input := by
  intro stored related
  unfold Schema.superRefine
  rw [free stored related]

/-- Members have the values of a record under its names. -/
def HasEntries (entries : List (String × Option Json)) (members : Members) :
    Prop :=
  ∀ entry ∈ entries,
    Option.Rel SameValue (members.lookup (units entry.1)) entry.2

theorem HasEntries.field_eq
    {entries : List (String × Option Json)} {first second : Members}
    (hasFirst : HasEntries entries first)
    (hasSecond : HasEntries entries second)
    (index : Nat) {name : String} {value : Option Json}
    (isEntry : entries[index]? = some (name, value))
    (free : OrderFree schema value) :
    field name schema first = field name schema second := by
  have isEntry := List.mem_of_getElem? isEntry
  rw [field, field, free _ (hasFirst _ isEntry),
    free _ (hasSecond _ isEntry)]

/-- An object that is the same as a record has its entries and no others. -/
theorem hasEntries_of_same
    {entries : List (String × Option Json)}
    (distinct : (entries.map fun entry => units entry.1).Nodup)
    {members : Members}
    (same : SameValue (.object members) (.record entries)) :
    HasEntries entries members ∧
      ∀ name ∈ members.map Prod.fst,
        name ∈ entries.map fun entry => units entry.1 := by
  have related := sameValue_object_iff.mp same
  constructor
  · intro entry isEntry
    have isFound := related (units entry.1)
    rw [lookup_record distinct (show (entry.1, entry.2) ∈ entries from
      isEntry)] at isFound
    exact isFound
  · intro name isName
    by_contra unnamed
    have isFound := related name
    rw [lookup_record_of_notMem unnamed] at isFound
    have isSome := isSome_lookup_iff.mpr isName
    generalize members.lookup name = found at isFound isSome
    cases isFound
    cases isSome

/-- A strict schema whose members are asked for by name. -/
theorem orderFree_strictObject
    {names : List String} {body : Members → Parse α}
    {entries : List (String × Option Json)}
    (distinct : (entries.map fun entry => units entry.1).Nodup)
    (known : ∀ entry ∈ entries, entry.1 ∈ names)
    (reads : ∀ first second, HasEntries entries first →
      HasEntries entries second → body first = body second) :
    OrderFree (strictObject names body) (some (.record entries)) := by
  intro stored related
  cases related with
  | @some value _ same =>
    have isKnown {members : Members} (inside : ∀ name ∈ members.map Prod.fst,
        name ∈ entries.map fun entry => units entry.1) :
        strictObject names body (some (.object members)) = body members := by
      have none : unknownNames names members = [] := by
        unfold unknownNames
        rw [List.filter_eq_nil_iff]
        intro name isName
        obtain ⟨entry, isEntry, rfl⟩ := List.mem_map.mp (inside name isName)
        simpa using ⟨entry.1, known entry isEntry, rfl⟩
      unfold strictObject
      dsimp only
      rw [none]
    obtain ⟨written, isWritten⟩ :
        ∃ written, Json.record entries = .object written := ⟨_, rfl⟩
    have itself := SameValue.refl (.record entries)
    rw [isWritten] at same ⊢
    cases value with
    | object members =>
        rw [← isWritten] at same
        nth_rewrite 1 [isWritten] at itself
        obtain ⟨hasFirst, isInside⟩ := hasEntries_of_same distinct same
        obtain ⟨hasSecond, isInsideWritten⟩ :=
          hasEntries_of_same distinct itself
        rw [isKnown isInside, isKnown isInsideWritten]
        exact reads _ _ hasFirst hasSecond
    | null | boolean | number | string | array => cases same

/-- A union reads the alternative that its discriminator names. -/
theorem orderFree_discriminatedUnion
    {discriminator : String} {options : List (String × Schema α)}
    {entries : List (String × Option Json)} {type : String}
    {option : String × Schema α}
    (distinct : (entries.map fun entry => units entry.1).Nodup)
    (isType : (discriminator, some (.literal type)) ∈ entries)
    (isFound : (options.find? fun option =>
      isText option.1 (some (.literal type))) = some option)
    (free : OrderFree option.2 (some (.record entries))) :
    OrderFree (discriminatedUnion discriminator options)
      (some (.record entries)) := by
  have chosen {members : Members}
      (same : SameValue (.object members) (.record entries)) :
      discriminatedUnion discriminator options (some (.object members)) =
        option.2 (some (.object members)) := by
    have isTyped := (hasEntries_of_same distinct same).1 _ isType
    dsimp only at isTyped
    unfold discriminatedUnion
    dsimp only
    generalize members.lookup (units discriminator) = found at isTyped
    cases isTyped with
    | some sameType => rw [plain_literal type _ sameType, isFound]
  intro stored related
  have isFree := free stored related
  cases related with
  | @some value _ same =>
    have itself := SameValue.refl (.record entries)
    obtain ⟨written, isWritten⟩ :
        ∃ written, Json.record entries = .object written := ⟨_, rfl⟩
    cases value with
    | object members =>
        rw [chosen same, isFree]
        rw [isWritten] at itself ⊢
        rw [← isWritten] at itself
        nth_rewrite 1 [isWritten] at itself
        rw [chosen itself]
    | null | boolean | number | string | array =>
        rw [isWritten] at same
        cases same

end OrderFree

/-! ## The documents -/

section Documents

variable [Platform]

omit [Platform] in
theorem orderFree_Digest (digest : JsString) :
    OrderFree Digest (some (digestJson digest)) := by
  apply orderFree_strictObject (of_decide_eq_true rfl) (by simp)
  intro first second hasFirst hasSecond
  rw [hasFirst.field_eq hasSecond 0 rfl (orderFree_plain (plain_literal _)),
    hasFirst.field_eq hasSecond 1 rfl (orderFree_plain (plain_string _))]

omit [Platform] in
theorem orderFree_Identity (identity : Identity) :
    OrderFree Identity.schema (some identity.toJson) := by
  apply orderFree_strictObject (of_decide_eq_true rfl) (by simp)
  intro first second hasFirst hasSecond
  rw [hasFirst.field_eq hasSecond 0 rfl (orderFree_plain (plain_string _)),
    hasFirst.field_eq hasSecond 1 rfl (orderFree_text _)]

theorem orderFree_Ownership (ownership : Ownership) :
    OrderFree Ownership.schema (some ownership.toJson) := by
  apply orderFree_strictObject (of_decide_eq_true rfl) (by simp)
  intro first second hasFirst hasSecond
  rw [hasFirst.field_eq hasSecond 0 rfl (orderFree_plain (plain_string _)),
    hasFirst.field_eq hasSecond 1 rfl (orderFree_plain (plain_string _)),
    hasFirst.field_eq hasSecond 2 rfl (orderFree_text _)]

omit [Platform] in
theorem plain_channels (channels : List Channel) :
    Plain (.array (channels.map fun channel => .literal channel.text)) := by
  apply plain_array
  intro item isItem
  obtain ⟨channel, -, rfl⟩ := List.mem_map.mp isItem
  exact plain_literal _

omit [Platform] in
theorem orderFree_Purpose (purpose : Purpose) :
    OrderFree Purpose.schema (some purpose.toJson) := by
  apply orderFree_strictObject (of_decide_eq_true rfl) (by simp)
  intro first second hasFirst hasSecond
  rw [hasFirst.field_eq hasSecond 0 rfl (orderFree_plain (plain_string _)),
    hasFirst.field_eq hasSecond 1 rfl (orderFree_plain (plain_channels _))]

omit [Platform] in
theorem orderFree_Disclosure (disclosure : Disclosure) :
    OrderFree Disclosure.schema (some disclosure.toJson) := by
  apply orderFree_strictObject (of_decide_eq_true rfl) (by simp)
  intro first second hasFirst hasSecond
  rw [hasFirst.field_eq hasSecond 0 rfl (orderFree_plain (plain_boolean _)),
    hasFirst.field_eq hasSecond 1 rfl (orderFree_plain (plain_boolean _)),
    hasFirst.field_eq hasSecond 2 rfl (orderFree_plain (plain_boolean _))]

theorem orderFree_KeyDocument (doc : KeyDocument) :
    OrderFree KeyDocument.schema (some doc.toJson) := by
  refine ((OrderFree.superRefine ?_ _).superRefine _).superRefine _
  apply orderFree_strictObject (of_decide_eq_true rfl) (by simp)
  intro first second hasFirst hasSecond
  rw [hasFirst.field_eq hasSecond 0 rfl (orderFree_plain (plain_string _)),
    hasFirst.field_eq hasSecond 1 rfl (orderFree_plain (plain_literal _)),
    hasFirst.field_eq hasSecond 2 rfl (orderFree_plain (plain_string _)),
    hasFirst.field_eq hasSecond 3 rfl (orderFree_plain (plain_literal _)),
    hasFirst.field_eq hasSecond 4 rfl (orderFree_plain (plain_string _)),
    hasFirst.field_eq hasSecond 5 rfl (orderFree_plain (plain_string _)),
    hasFirst.field_eq hasSecond 6 rfl (orderFree_plain (plain_literal _)),
    hasFirst.field_eq hasSecond 7 rfl (orderFree_nullableText _),
    hasFirst.field_eq hasSecond 8 rfl (orderFree_nullableText _)]

theorem orderFree_Manifest (manifest : Manifest) :
    OrderFree Manifest.schema (some manifest.toJson) := by
  apply orderFree_strictObject (of_decide_eq_true rfl) (by simp)
  intro first second hasFirst hasSecond
  rw [hasFirst.field_eq hasSecond 0 rfl (orderFree_plain (plain_literal _)),
    hasFirst.field_eq hasSecond 1 rfl (orderFree_plain (plain_string _)),
    hasFirst.field_eq hasSecond 2 rfl (orderFree_Identity manifest.identity),
    hasFirst.field_eq hasSecond 3 rfl (orderFree_Ownership manifest.ownership),
    hasFirst.field_eq hasSecond 4 rfl (orderFree_Purpose manifest.purpose),
    hasFirst.field_eq hasSecond 5 rfl
      (orderFree_Disclosure manifest.disclosure)]

theorem orderFree_ManifestProof (proof : ManifestProof) :
    OrderFree ManifestProof.schema (some proof.toJson) := by
  apply OrderFree.superRefine
  apply orderFree_strictObject (of_decide_eq_true rfl) (by simp)
  intro first second hasFirst hasSecond
  rw [hasFirst.field_eq hasSecond 0 rfl (orderFree_plain (plain_literal _)),
    hasFirst.field_eq hasSecond 1 rfl (orderFree_plain (plain_literal _)),
    hasFirst.field_eq hasSecond 2 rfl (orderFree_plain (plain_string _)),
    hasFirst.field_eq hasSecond 3 rfl (orderFree_plain (plain_literal _)),
    hasFirst.field_eq hasSecond 4 rfl (orderFree_Digest proof.manifestDigest),
    hasFirst.field_eq hasSecond 5 rfl (orderFree_plain (plain_string _)),
    hasFirst.field_eq hasSecond 6 rfl (orderFree_plain (plain_string _)),
    hasFirst.field_eq hasSecond 7 rfl (orderFree_plain (plain_string _)),
    hasFirst.field_eq hasSecond 8 rfl (orderFree_plain (plain_string _))]

omit [Platform] in
theorem orderFree_Evidence (evidence : Evidence) :
    OrderFree Evidence.schema (some evidence.toJson) := by
  apply orderFree_strictObject (of_decide_eq_true rfl) (by simp)
  intro first second hasFirst hasSecond
  rw [hasFirst.field_eq hasSecond 0 rfl (orderFree_plain (plain_literal _)),
    hasFirst.field_eq hasSecond 1 rfl (orderFree_plain (plain_string _))]

omit [Platform] in
theorem orderFree_Claim (claim : Claim) :
    OrderFree Claim.schema (some claim.toJson) := by
  cases claim with
  | registration =>
      refine orderFree_discriminatedUnion (of_decide_eq_true rfl)
        (List.mem_cons_self ..) rfl ?_
      apply orderFree_strictObject (of_decide_eq_true rfl) (by simp)
      intro first second hasFirst hasSecond
      rw [hasFirst.field_eq hasSecond 0 rfl (orderFree_plain (plain_literal _))]
  | domainControl domain =>
      refine orderFree_discriminatedUnion (of_decide_eq_true rfl)
        (List.mem_cons_self ..) rfl ?_
      apply orderFree_strictObject (of_decide_eq_true rfl) (by simp)
      intro first second hasFirst hasSecond
      rw [hasFirst.field_eq hasSecond 0 rfl (orderFree_plain (plain_literal _)),
        hasFirst.field_eq hasSecond 1 rfl (orderFree_plain (plain_string _))]
  | organizationIdentity legalName jurisdiction =>
      refine orderFree_discriminatedUnion (of_decide_eq_true rfl)
        (List.mem_cons_self ..) rfl ?_
      apply orderFree_strictObject (of_decide_eq_true rfl) (by simp)
      intro first second hasFirst hasSecond
      rw [hasFirst.field_eq hasSecond 0 rfl (orderFree_plain (plain_literal _)),
        hasFirst.field_eq hasSecond 1 rfl (orderFree_plain (plain_string _)),
        hasFirst.field_eq hasSecond 2 rfl (orderFree_text _)]
  | deploymentConformance deploymentId =>
      refine orderFree_discriminatedUnion (of_decide_eq_true rfl)
        (List.mem_cons_self ..) rfl ?_
      apply orderFree_strictObject (of_decide_eq_true rfl) (by simp)
      intro first second hasFirst hasSecond
      rw [hasFirst.field_eq hasSecond 0 rfl (orderFree_plain (plain_literal _)),
        hasFirst.field_eq hasSecond 1 rfl (orderFree_plain (plain_string _))]

theorem orderFree_VerificationAssertion (assertion : VerificationAssertion) :
    OrderFree VerificationAssertion.schema (some assertion.toJson) := by
  apply OrderFree.superRefine
  apply orderFree_strictObject (of_decide_eq_true rfl) (by simp)
  intro first second hasFirst hasSecond
  rw [hasFirst.field_eq hasSecond 0 rfl (orderFree_plain (plain_literal _)),
    hasFirst.field_eq hasSecond 1 rfl (orderFree_plain (plain_string _)),
    hasFirst.field_eq hasSecond 2 rfl (orderFree_plain (plain_string _)),
    hasFirst.field_eq hasSecond 3 rfl (orderFree_plain (plain_literal _)),
    hasFirst.field_eq hasSecond 4 rfl (orderFree_plain (plain_literal _)),
    hasFirst.field_eq hasSecond 5 rfl (orderFree_Claim assertion.claim),
    hasFirst.field_eq hasSecond 6 rfl (orderFree_plain (plain_string _)),
    hasFirst.field_eq hasSecond 7 rfl (orderFree_Evidence assertion.evidence),
    hasFirst.field_eq hasSecond 8 rfl (orderFree_plain (plain_string _)),
    hasFirst.field_eq hasSecond 9 rfl (orderFree_plain (plain_string _)),
    hasFirst.field_eq hasSecond 10 rfl (orderFree_plain (plain_string _)),
    hasFirst.field_eq hasSecond 11 rfl
      (orderFree_Digest assertion.manifestDigest),
    hasFirst.field_eq hasSecond 12 rfl (orderFree_plain (plain_string _)),
    hasFirst.field_eq hasSecond 13 rfl (orderFree_plain (plain_string _))]

/-! ## Verification -/

theorem verifyManifestProof_reordered
    {proof otherProof manifest otherManifest key otherKey : Option Json}
    (sameProof : ManifestProof.schema proof =
      ManifestProof.schema otherProof)
    (sameManifest : Manifest.schema manifest = Manifest.schema otherManifest)
    (sameKey : KeyDocument.schema key = KeyDocument.schema otherKey)
    (now : JsString) :
    verifyManifestProof proof manifest key now =
      verifyManifestProof otherProof otherManifest otherKey now := by
  unfold verifyManifestProof Schema.safeParse Schema.accepts
  rw [sameProof, sameManifest, sameKey]

theorem verifyVerificationAssertion_reordered
    {assertion otherAssertion key otherKey : Option Json}
    (sameAssertion : VerificationAssertion.schema assertion =
      VerificationAssertion.schema otherAssertion)
    (sameKey : KeyDocument.schema key = KeyDocument.schema otherKey)
    (now : JsString) (manifest : Option Json) :
    verifyVerificationAssertion assertion key now manifest =
      verifyVerificationAssertion otherAssertion otherKey now manifest := by
  unfold verifyVerificationAssertion Schema.safeParse Schema.accepts
  rw [sameAssertion, sameKey]

theorem verifyVerificationAssertion_manifest_reordered
    (assertion key : Option Json) (now : JsString)
    {manifest other : Json}
    (same : Manifest.schema (some manifest) = Manifest.schema (some other)) :
    verifyVerificationAssertion assertion key now (some manifest) =
      verifyVerificationAssertion assertion key now (some other) := by
  have applies (document : VerificationAssertion) :
      applicability document (some manifest) =
        applicability document (some other) := by
    unfold applicability Schema.safeParse Schema.accepts
    rw [same]
  unfold verifyVerificationAssertion verifyParsedAssertion
  simp only [applies]

end Documents

end AgenId.Core
