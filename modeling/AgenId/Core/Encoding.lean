import AgenId.Core.Authorized
import AgenId.Core.Canonical

/-!
# An accepted document is its encoding

The schemas are strict and drop nothing: a document that one of them accepts
is the same value as the encoding of what it is accepted as.  Both are then
canonicalized, digested and signed alike.
-/

namespace AgenId.Core

open AgenId.Ecma
open AgenId.Library
open AgenId.Validation
open AgenId.Validation.Schema

/-! ## Objects member by member -/

theorem sameValue_object_iff {left right : Members} :
    SameValue (.object left) (.object right) ↔
      ∀ name, Option.Rel SameValue (left.lookup name) (right.lookup name) := by
  constructor
  · intro same name
    cases same with
    | object names values =>
        have named := names name
        cases isLeft : left.lookup name with
        | none =>
            cases isRight : right.lookup name with
            | none => exact .none
            | some value => simp [isLeft, isRight] at named
        | some first =>
            cases isRight : right.lookup name with
            | none => simp [isLeft, isRight] at named
            | some second =>
                exact .some (values name first second isLeft isRight)
  · intro same
    apply SameValue.object
    · intro name
      have related := same name
      generalize left.lookup name = first at related
      generalize right.lookup name = second at related
      cases related <;> rfl
    · intro name first second isFirst isSecond
      have related := same name
      rw [isFirst, isSecond] at related
      cases related with
      | some related => exact related

theorem SameValue.member
    {left right : Json} (same : SameValue left right) (name : String)
    {first second : Json} (isFirst : left.get? (units name) = some first)
    (isSecond : right.get? (units name) = some second) :
    SameValue first second := by
  cases same with
  | object names values => exact values (units name) _ _ isFirst isSecond
  | null | boolean | number | string | array => cases isFirst

/-- A text that two values that are the same have under one name. -/
theorem SameValue.text
    {left right : Json} (same : SameValue left right) (name : String)
    {first second : JsString}
    (isFirst : left.get? (units name) = some (.string first))
    (isSecond : right.get? (units name) = some (.string second)) :
    first = second := by
  have related := same.member name isFirst isSecond
  cases related
  rfl

/-- What is the same value as a text, or as its absence, is equal to it. -/
theorem eq_of_rel_literal
    {found : Option Json} {text : Option String}
    (same : Option.Rel SameValue found (text.map .literal)) :
    found = text.map .literal := by
  cases text with
  | none =>
      cases same
      rfl
  | some text =>
      cases same with
      | some same =>
          cases same
          rfl

theorem lookup_record
    {entries : List (String × Option Json)}
    (distinct : (entries.map fun entry => units entry.1).Nodup)
    {name : String} {value : Option Json}
    (isEntry : (name, value) ∈ entries) :
    (entries.filterMap fun entry => entry.2.map fun value =>
      (units entry.1, value)).lookup (units name) = value := by
  have keys : Distinct (entries.filterMap fun entry =>
      entry.2.map fun value => (units entry.1, value)) :=
    distinct.sublist (record_names_sublist entries)
  apply Option.ext
  intro found
  rw [keys.lookup_eq_some_iff, List.mem_filterMap]
  constructor
  · rintro ⟨entry, isOther, made⟩
    obtain ⟨other, isOtherValue, same⟩ := Option.map_eq_some_iff.mp made
    have sameName : units entry.1 = units name := congrArg Prod.fst same
    have sameEntry : entry = (name, value) :=
      List.inj_on_of_nodup_map distinct isOther isEntry sameName
    have sameValue : other = found := congrArg Prod.snd same
    rw [sameEntry, sameValue] at isOtherValue
    exact isOtherValue
  · intro isFound
    exact ⟨(name, value), isEntry, by simp [isFound]⟩

theorem lookup_record_of_notMem
    {entries : List (String × Option Json)} {name : JsString}
    (unnamed : name ∉ entries.map fun entry => units entry.1) :
    (entries.filterMap fun entry => entry.2.map fun value =>
      (units entry.1, value)).lookup name = none := by
  rw [List.lookup_eq_none_iff]
  intro member isMember
  obtain ⟨entry, isEntry, made⟩ := List.mem_filterMap.mp isMember
  obtain ⟨value, -, rfl⟩ := Option.map_eq_some_iff.mp made
  have different : name ≠ units entry.1 := by
    intro same
    exact unnamed (List.mem_map.mpr ⟨entry, isEntry, same.symm⟩)
  simpa using different

/-- Members of known names only are the same value as a record of these
names when they are so one by one. -/
theorem sameValue_record
    {members : Members} {entries : List (String × Option Json)}
    (distinct : (entries.map fun entry => units entry.1).Nodup)
    (known : unknownNames (entries.map Prod.fst) members = [])
    (same : ∀ entry ∈ entries,
      Option.Rel SameValue (members.lookup (units entry.1)) entry.2) :
    SameValue (.object members) (.record entries) := by
  refine sameValue_object_iff.mpr fun name => ?_
  by_cases named : name ∈ entries.map fun entry => units entry.1
  · obtain ⟨⟨spelled, value⟩, isEntry, rfl⟩ := List.mem_map.mp named
    rw [lookup_record distinct isEntry]
    exact same (spelled, value) isEntry
  · have missing : members.lookup name = none := by
      rw [List.lookup_eq_none_iff]
      intro member isMember
      have isKnown : member.1 ∈ (entries.map Prod.fst).map units := by
        by_contra unknown
        have kept := List.filter_eq_nil_iff.mp known member.1
          (List.mem_map_of_mem isMember)
        exact kept (decide_eq_true unknown)
      rw [List.map_map] at isKnown
      have different : name ≠ member.1 := by
        intro same
        exact named (same ▸ isKnown)
      simpa using different
    rw [missing, lookup_record_of_notMem named]
    exact .none

@[simp]
theorem wellFormed_string (text : JsString) : WellFormed (.string text) :=
  trivial

@[simp]
theorem wellFormed_boolean (value : Bool) : WellFormed (.boolean value) :=
  trivial

@[simp]
theorem wellFormed_literal (text : String) : WellFormed (.literal text) :=
  trivial

theorem wellFormed_record
    {entries : List (String × Option Json)}
    (distinct : (entries.map fun entry => units entry.1).Nodup)
    (wellFormed : ∀ entry ∈ entries, ∀ value ∈ entry.2, WellFormed value) :
    WellFormed (.record entries) := by
  refine wellFormed_object.mpr
    ⟨distinct.sublist (record_names_sublist entries), ?_⟩
  intro member isMember
  obtain ⟨entry, isEntry, made⟩ := List.mem_filterMap.mp isMember
  obtain ⟨value, isValue, rfl⟩ := Option.map_eq_some_iff.mp made
  exact wellFormed entry isEntry value isValue

/-! ## Faithful schemas -/

/-- Whatever a schema accepts, present or absent, is the same value as the
encoding of what it is accepted as. -/
def Faithful {α : Type} (schema : Schema α) (encode : α → Option Json) :
    Prop :=
  ∀ input value, (∀ found ∈ input, WellFormed found) →
    schema.accepts input = some value →
      Option.Rel SameValue input (encode value)

section Combinators

variable {α : Type} {schema : Schema α} {encode : α → Option Json}

theorem faithful_string : Faithful string fun text => some (.string text) := by
  intro input text _ accepted
  rw [accepts_string_eq_some_iff.mp accepted]
  exact .some (.string text)

theorem faithful_boolean :
    Faithful boolean fun value => some (.boolean value) := by
  intro input value _ accepted
  match input, accepted with
  | some (.boolean found), accepted =>
      obtain rfl : found = value := by simpa using accepted
      exact .some (.boolean found)
  | none, accepted => simp [accepts, boolean] at accepted
  | some .null, accepted | some (.string _), accepted
  | some (.number _), accepted | some (.array _), accepted
  | some (.object _), accepted => simp [accepts, boolean] at accepted

theorem accepts_literal_eq_some
    {expected : String} {input : Option Json} {value : Unit}
    (accepted : (literal expected).accepts input = some value) :
    input = some (.literal expected) := by
  match input, accepted with
  | some (.string text), accepted =>
      by_cases same : text = units expected
      · rw [same]
        rfl
      · simp [accepts, literal, same] at accepted
  | none, accepted | some .null, accepted | some (.number _), accepted
  | some (.boolean _), accepted | some (.array _), accepted
  | some (.object _), accepted => simp [accepts, literal] at accepted

theorem faithful_literal (expected : String) :
    Faithful (literal expected) fun _ => some (.literal expected) := by
  intro input value _ accepted
  rw [accepts_literal_eq_some accepted]
  exact .some (.string _)

theorem Faithful.superRefine
    (faithful : Faithful schema encode) (rules : α → List Issue) :
    Faithful (schema.superRefine rules) encode := by
  intro input value wellFormed accepted
  exact faithful input value wellFormed
    (accepts_superRefine_eq_some_iff.mp accepted).1

theorem Faithful.check
    (faithful : Faithful schema encode) (holds : α → Bool) (issue : Issue) :
    Faithful (schema.check holds issue) encode :=
  faithful.superRefine _

theorem accepts_enumerationOf_eq_some
    {β : Type} {options : List β} {text : β → String}
    {input : Option Json} {value : β}
    (accepted : (enumerationOf options text).accepts input = some value) :
    input = some (.literal (text value)) := by
  match input, accepted with
  | some (.string written), accepted =>
      simp only [accepts, enumerationOf, enumeration] at accepted
      split at accepted
      · rename_i option found
        have spelled : units option.1 = written := by
          simpa using List.find?_some found
        obtain ⟨member, -, rfl⟩ :=
          List.mem_map.mp (List.mem_of_find?_eq_some found)
        obtain rfl : member = value := by simpa using accepted
        rw [← spelled]
        rfl
      · simp at accepted
  | none, accepted | some .null, accepted | some (.number _), accepted
  | some (.boolean _), accepted | some (.array _), accepted
  | some (.object _), accepted =>
      simp [accepts, enumerationOf, enumeration] at accepted

theorem faithful_enumerationOf
    {β : Type} (options : List β) (text : β → String) :
    Faithful (enumerationOf options text)
      fun value => some (.literal (text value)) := by
  intro input value _ accepted
  rw [accepts_enumerationOf_eq_some accepted]
  exact .some (.string _)

theorem Faithful.optional
    {encode : α → Json} (faithful : Faithful schema fun v => some (encode v)) :
    Faithful schema.optional fun value => value.map encode := by
  intro input value wellFormed accepted
  cases input with
  | none =>
      obtain rfl : none = value := by simpa using accepted
      exact .none
  | some present =>
      rw [accepts_optional_some, Option.map_eq_some_iff] at accepted
      obtain ⟨inner, innerAccepted, rfl⟩ := accepted
      exact faithful _ inner wellFormed innerAccepted

theorem Faithful.items
    {encode : α → Json} (faithful : Faithful schema fun v => some (encode v))
    {items : List Json} (wellFormed : ∀ item ∈ items, WellFormed item)
    {values : List α}
    (accepted : items.mapM (fun item => schema.accepts (some item)) =
      some values) :
    List.Forall₂ SameValue items (values.map encode) := by
  induction items generalizing values with
  | nil =>
      obtain rfl : [] = values := by simpa using accepted
      exact .nil
  | cons item rest inductionHypothesis =>
      simp only [List.mapM_cons, Option.bind_eq_bind,
        Option.bind_eq_some_iff, Option.pure_def,
        Option.some.injEq] at accepted
      obtain ⟨head, headAccepted, tail, tailAccepted, rfl⟩ := accepted
      obtain ⟨wellFormedItem, wellFormedRest⟩ :=
        List.forall_mem_cons.mp wellFormed
      refine .cons ?_ (inductionHypothesis wellFormedRest tailAccepted)
      have related := faithful (some item) head (by simpa using wellFormedItem)
        headAccepted
      cases related with
      | some same => exact same

theorem Faithful.array
    {encode : α → Json} (faithful : Faithful schema fun v => some (encode v))
    (least : Nat) (most : Option Nat) :
    Faithful (schema.array least most)
      fun values => some (.array (values.map encode)) := by
  intro input values wellFormed accepted
  obtain ⟨items, rfl⟩ := accepts_array_eq_some accepted
  rw [accepts_array] at accepted
  split at accepted
  · have wellFormedItems : ∀ item ∈ items, WellFormed item :=
      wellFormed_array.mp (wellFormed _ rfl)
    have related := faithful.items wellFormedItems accepted
    refine .some (.array related.length_eq ?_)
    intro index first second isFirst isSecond
    obtain ⟨inFirst, rfl⟩ := List.getElem?_eq_some_iff.mp isFirst
    obtain ⟨inSecond, rfl⟩ := List.getElem?_eq_some_iff.mp isSecond
    exact related.get inFirst inSecond
  · simp at accepted

theorem faithful_discriminatedUnion
    {discriminator : String} {options : List (String × Schema α)}
    (faithful : ∀ option ∈ options, Faithful option.2 encode) :
    Faithful (discriminatedUnion discriminator options) encode := by
  intro input value wellFormed accepted
  obtain ⟨option, isOption, acceptedByIt⟩ :=
    exists_of_accepts_discriminatedUnion accepted
  exact faithful option isOption input value wellFormed acceptedByIt

/-- An accepted value is the same as the encoding of its document. -/
theorem Faithful.encoded
    {encode : α → Json}
    (faithful : Faithful schema fun value => some (encode value))
    {value : Json} (wellFormed : WellFormed value) {document : α}
    (accepted : schema.accepts (some value) = some document) :
    SameValue value (encode document) := by
  have related := faithful (some value) document
    (by simpa using wellFormed) accepted
  cases related with
  | some same => exact same

theorem Faithful.field
    (faithful : Faithful schema encode) {members : Members}
    (wellFormed : WellFormed (.object members)) {name : String} {value : α}
    (accepted : (field name schema members).accepted = some value) :
    Option.Rel SameValue (members.lookup (units name)) (encode value) := by
  rw [accepted_field] at accepted
  refine faithful _ value ?_ accepted
  intro found isFound
  exact (wellFormed_object.mp wellFormed).2 _ (mem_of_lookup isFound)

/-- A strict object is the same value as the record that its members are
read as. -/
theorem faithful_strictObject
    {names : List String} {body : Members → Parse α}
    (distinct : (names.map units).Nodup)
    (same : ∀ members value, WellFormed (.object members) →
      (body members).accepted = some value →
        ∃ entries, encode value = some (.record entries) ∧
          entries.map Prod.fst = names ∧
          ∀ entry ∈ entries,
            Option.Rel SameValue (members.lookup (units entry.1)) entry.2) :
    Faithful (strictObject names body) encode := by
  intro input value wellFormed accepted
  obtain ⟨members, rfl, known, fields⟩ :=
    accepts_strictObject_eq_some_iff.mp accepted
  obtain ⟨entries, encoded, named, related⟩ :=
    same members value (wellFormed _ rfl) fields
  rw [encoded]
  rw [← named] at known distinct
  rw [List.map_map] at distinct
  exact .some (sameValue_record distinct known related)

end Combinators

/-! ## Parts of documents -/

theorem faithful_KeyId : Faithful KeyId fun text => some (.string text) :=
  (faithful_string.check _ _).check _ _

theorem faithful_FreeText (max : Nat) :
    Faithful (FreeText max) fun text => some (.string text) :=
  ((faithful_string.check _ _).check _ _).check _ _

theorem faithful_Digest :
    Faithful Digest fun value => some (digestJson value) := by
  apply faithful_strictObject (by decide)
  intro members value wellFormed fields
  obtain ⟨⟨_, isAlg⟩, isValue⟩ := Parse.accepted_seqRight_eq_some_iff.mp fields
  refine ⟨_, rfl, rfl, ?_⟩
  simp only [List.forall_mem_cons, List.not_mem_nil, false_implies,
    implies_true, and_true]
  exact ⟨(faithful_literal _).field wellFormed isAlg,
    (faithful_string.check _ _).field wellFormed isValue⟩

theorem faithful_Evidence :
    Faithful Evidence.schema fun evidence => some evidence.toJson := by
  apply faithful_strictObject (by decide)
  intro members value wellFormed fields
  simp only [Parse.accepted_seq_eq_some_iff,
    Parse.accepted_map_eq_some_iff] at fields
  obtain ⟨reference, isReference, _, ⟨type, isType, rfl⟩, rfl⟩ := fields
  refine ⟨_, rfl, rfl, ?_⟩
  simp only [List.forall_mem_cons, List.not_mem_nil, false_implies,
    implies_true, and_true]
  exact ⟨(faithful_enumerationOf _ _).field wellFormed isType,
    ((faithful_string.check _ _).check _ _).field wellFormed isReference⟩

theorem faithful_Claim :
    Faithful Claim.schema fun claim => some claim.toJson := by
  apply faithful_discriminatedUnion
  simp only [Claim.options, List.forall_mem_cons, List.not_mem_nil,
    false_implies, implies_true, and_true]
  refine ⟨?_, ?_, ?_, ?_⟩
  · apply faithful_strictObject (by decide)
    intro members value wellFormed fields
    obtain ⟨_, isType, rfl⟩ := Parse.accepted_map_eq_some_iff.mp fields
    refine ⟨_, rfl, rfl, ?_⟩
    simp only [List.forall_mem_cons, List.not_mem_nil, false_implies,
      implies_true, and_true]
    exact (faithful_literal _).field wellFormed isType
  · apply faithful_strictObject (by decide)
    intro members value wellFormed fields
    obtain ⟨⟨_, isType⟩, fields⟩ :=
      Parse.accepted_seqRight_eq_some_iff.mp fields
    obtain ⟨domain, isDomain, rfl⟩ :=
      Parse.accepted_map_eq_some_iff.mp fields
    refine ⟨_, rfl, rfl, ?_⟩
    simp only [List.forall_mem_cons, List.not_mem_nil, false_implies,
      implies_true, and_true]
    exact ⟨(faithful_literal _).field wellFormed isType,
      (faithful_string.check _ _).field wellFormed isDomain⟩
  · apply faithful_strictObject (by decide)
    intro members value wellFormed fields
    obtain ⟨⟨_, isType⟩, fields⟩ :=
      Parse.accepted_seqRight_eq_some_iff.mp fields
    simp only [Parse.accepted_seq_eq_some_iff,
      Parse.accepted_map_eq_some_iff] at fields
    obtain ⟨jurisdiction, isJurisdiction, _, ⟨legalName, isName, rfl⟩, rfl⟩ :=
      fields
    refine ⟨_, rfl, rfl, ?_⟩
    simp only [List.forall_mem_cons, List.not_mem_nil, false_implies,
      implies_true, and_true]
    exact ⟨(faithful_literal _).field wellFormed isType,
      (faithful_FreeText 300).field wellFormed isName,
      ((faithful_string.check _ _).check _ _).optional.field wellFormed
        isJurisdiction⟩
  · apply faithful_strictObject (by decide)
    intro members value wellFormed fields
    obtain ⟨⟨_, isType⟩, fields⟩ :=
      Parse.accepted_seqRight_eq_some_iff.mp fields
    obtain ⟨deployment, isDeployment, rfl⟩ :=
      Parse.accepted_map_eq_some_iff.mp fields
    refine ⟨_, rfl, rfl, ?_⟩
    simp only [List.forall_mem_cons, List.not_mem_nil, false_implies,
      implies_true, and_true]
    exact ⟨(faithful_literal _).field wellFormed isType,
      (faithful_string.check _ _).field wellFormed isDeployment⟩

theorem faithful_Scope : Faithful Scope fun text => some (.string text) :=
  (faithful_string.check _ _).check _ _

theorem faithful_Constraint :
    Faithful Constraint.schema fun constraint => some constraint.toJson := by
  apply faithful_discriminatedUnion
  simp only [Constraint.options, List.forall_mem_cons, List.not_mem_nil,
    false_implies, implies_true, and_true]
  refine ⟨?_, ?_, ?_, ?_⟩
  · apply faithful_strictObject (by decide)
    intro members value wellFormed fields
    obtain ⟨⟨_, isType⟩, fields⟩ :=
      Parse.accepted_seqRight_eq_some_iff.mp fields
    obtain ⟨domains, isDomains, rfl⟩ :=
      Parse.accepted_map_eq_some_iff.mp fields
    refine ⟨_, rfl, rfl, ?_⟩
    simp only [List.forall_mem_cons, List.not_mem_nil, false_implies,
      implies_true, and_true]
    exact ⟨(faithful_literal _).field wellFormed isType,
      ((faithful_string.check _ _).array 1 (some 32)).field wellFormed
        isDomains⟩
  · apply faithful_strictObject (by decide)
    intro members value wellFormed fields
    obtain ⟨⟨_, isType⟩, fields⟩ :=
      Parse.accepted_seqRight_eq_some_iff.mp fields
    simp only [Parse.accepted_seq_eq_some_iff,
      Parse.accepted_map_eq_some_iff] at fields
    obtain ⟨amount, isAmount, _, ⟨currency, isCurrency, rfl⟩, rfl⟩ := fields
    refine ⟨_, rfl, rfl, ?_⟩
    simp only [List.forall_mem_cons, List.not_mem_nil, false_implies,
      implies_true, and_true]
    exact ⟨(faithful_literal _).field wellFormed isType,
      (faithful_string.check _ _).field wellFormed isCurrency,
      (faithful_string.check _ _).field wellFormed isAmount⟩
  · apply faithful_strictObject (by decide)
    intro members value wellFormed fields
    obtain ⟨⟨_, isType⟩, fields⟩ :=
      Parse.accepted_seqRight_eq_some_iff.mp fields
    obtain ⟨count, isCount, rfl⟩ := Parse.accepted_map_eq_some_iff.mp fields
    refine ⟨_, rfl, rfl, ?_⟩
    simp only [List.forall_mem_cons, List.not_mem_nil, false_implies,
      implies_true, and_true]
    exact ⟨(faithful_literal _).field wellFormed isType,
      (faithful_string.check _ _).field wellFormed isCount⟩
  · apply faithful_strictObject (by decide)
    intro members value wellFormed fields
    obtain ⟨_, isType, rfl⟩ := Parse.accepted_map_eq_some_iff.mp fields
    refine ⟨_, rfl, rfl, ?_⟩
    simp only [List.forall_mem_cons, List.not_mem_nil, false_implies,
      implies_true, and_true]
    exact (faithful_literal _).field wellFormed isType

/-! ## Signed documents -/

section Documents

variable [Platform]

theorem faithful_Rfc3339Utc :
    Faithful Rfc3339Utc fun text => some (.string text) :=
  (faithful_string.check _ _).check _ _

omit [Platform] in
theorem faithful_Identity :
    Faithful Identity.schema fun identity => some identity.toJson := by
  apply faithful_strictObject (by decide)
  intro members value wellFormed fields
  simp only [Parse.accepted_seq_eq_some_iff,
    Parse.accepted_map_eq_some_iff] at fields
  obtain ⟨description, isDescription, _, ⟨name, isName, rfl⟩, rfl⟩ := fields
  refine ⟨_, rfl, rfl, ?_⟩
  simp only [List.forall_mem_cons, List.not_mem_nil, false_implies,
    implies_true, and_true]
  exact ⟨(faithful_FreeText 200).field wellFormed isName,
    (faithful_FreeText 1000).optional.field wellFormed isDescription⟩

theorem faithful_Ownership :
    Faithful Ownership.schema fun ownership => some ownership.toJson := by
  apply faithful_strictObject (by decide)
  intro members value wellFormed fields
  simp only [Parse.accepted_seq_eq_some_iff,
    Parse.accepted_map_eq_some_iff] at fields
  obtain ⟨contact, isContact, _, ⟨domain, isDomain, _,
    ⟨operator, isOperator, rfl⟩, rfl⟩, rfl⟩ := fields
  refine ⟨_, rfl, rfl, ?_⟩
  simp only [List.forall_mem_cons, List.not_mem_nil, false_implies,
    implies_true, and_true]
  exact ⟨(faithful_FreeText 300).field wellFormed isOperator,
    (faithful_string.check _ _).field wellFormed isDomain,
    (faithful_string.check _ _).optional.field wellFormed isContact⟩

omit [Platform] in
theorem faithful_Purpose :
    Faithful Purpose.schema fun purpose => some purpose.toJson := by
  apply faithful_strictObject (by decide)
  intro members value wellFormed fields
  simp only [Parse.accepted_seq_eq_some_iff,
    Parse.accepted_map_eq_some_iff] at fields
  obtain ⟨channels, isChannels, _, ⟨summary, isSummary, rfl⟩, rfl⟩ := fields
  refine ⟨_, rfl, rfl, ?_⟩
  simp only [List.forall_mem_cons, List.not_mem_nil, false_implies,
    implies_true, and_true]
  exact ⟨(faithful_FreeText 500).field wellFormed isSummary,
    ((faithful_enumerationOf _ _).array 1 none).field wellFormed isChannels⟩

omit [Platform] in
theorem faithful_Disclosure :
    Faithful Disclosure.schema
      fun disclosure => some disclosure.toJson := by
  apply faithful_strictObject (by decide)
  intro members value wellFormed fields
  simp only [Parse.accepted_seq_eq_some_iff,
    Parse.accepted_map_eq_some_iff] at fields
  obtain ⟨human, isHuman, _, ⟨user, isUser, _, ⟨ai, isAi, rfl⟩, rfl⟩, rfl⟩ :=
    fields
  refine ⟨_, rfl, rfl, ?_⟩
  simp only [List.forall_mem_cons, List.not_mem_nil, false_implies,
    implies_true, and_true]
  exact ⟨faithful_boolean.field wellFormed isAi,
    faithful_boolean.field wellFormed isUser,
    faithful_boolean.field wellFormed isHuman⟩

theorem faithful_Manifest :
    Faithful Manifest.schema fun manifest => some manifest.toJson := by
  apply faithful_strictObject (by decide)
  intro members value wellFormed fields
  simp only [Parse.accepted_seq_eq_some_iff,
    Parse.accepted_seqRight_eq_some_iff,
    Parse.accepted_map_eq_some_iff] at fields
  obtain ⟨⟨_, isVersion⟩, disclosure, isDisclosure, _,
    ⟨purpose, isPurpose, _, ⟨ownership, isOwnership, _,
    ⟨identity, isIdentity, _, ⟨agentId, isAgentId, rfl⟩, rfl⟩, rfl⟩, rfl⟩,
    rfl⟩ := fields
  refine ⟨_, rfl, rfl, ?_⟩
  simp only [List.forall_mem_cons, List.not_mem_nil, false_implies,
    implies_true, and_true]
  exact ⟨(faithful_literal _).field wellFormed isVersion,
    (faithful_string.check _ _).field wellFormed isAgentId,
    faithful_Identity.field wellFormed isIdentity,
    faithful_Ownership.field wellFormed isOwnership,
    faithful_Purpose.field wellFormed isPurpose,
    faithful_Disclosure.field wellFormed isDisclosure⟩

theorem faithful_ManifestProof :
    Faithful ManifestProof.schema fun proof => some proof.toJson := by
  apply Faithful.check
  apply faithful_strictObject (by decide)
  intro members value wellFormed fields
  simp only [Parse.accepted_seq_eq_some_iff,
    Parse.accepted_seqLeft_eq_some_iff, Parse.accepted_seqRight_eq_some_iff,
    Parse.accepted_map_eq_some_iff] at fields
  obtain ⟨⟨_, ⟨_, isSchema⟩, isType⟩, signature, isSignature, _,
    ⟨expiresAt, isExpiresAt, _, ⟨createdAt, isCreatedAt, _,
    ⟨keyId, isKeyId, _, ⟨digest, isDigest, _,
    ⟨⟨agentId, isAgentId, rfl⟩, _, isVersion⟩,
    rfl⟩, rfl⟩, rfl⟩, rfl⟩, rfl⟩ := fields
  refine ⟨_, rfl, rfl, ?_⟩
  simp only [List.forall_mem_cons, List.not_mem_nil, false_implies,
    implies_true, and_true]
  exact ⟨(faithful_literal _).field wellFormed isSchema,
    (faithful_literal _).field wellFormed isType,
    (faithful_string.check _ _).field wellFormed isAgentId,
    (faithful_literal _).field wellFormed isVersion,
    faithful_Digest.field wellFormed isDigest,
    faithful_KeyId.field wellFormed isKeyId,
    faithful_Rfc3339Utc.field wellFormed isCreatedAt,
    faithful_Rfc3339Utc.field wellFormed isExpiresAt,
    (faithful_string.check _ _).field wellFormed isSignature⟩

theorem faithful_VerificationAssertion :
    Faithful VerificationAssertion.schema
      fun assertion => some assertion.toJson := by
  apply Faithful.superRefine
  apply faithful_strictObject (by decide)
  intro members value wellFormed fields
  simp only [Parse.accepted_seq_eq_some_iff,
    Parse.accepted_seqRight_eq_some_iff,
    Parse.accepted_map_eq_some_iff] at fields
  obtain ⟨⟨_, isSchema⟩, signature, isSignature, _, ⟨keyId, isKeyId, _,
    ⟨digest, isDigest, _, ⟨scope, isScope, _, ⟨expiresAt, isExpiresAt, _,
    ⟨verifiedAt, isVerifiedAt, _, ⟨evidence, isEvidence, _,
    ⟨authority, isAuthority, _, ⟨claim, isClaim, _, ⟨level, isLevel, _,
    ⟨subjectType, isSubjectType, _, ⟨subject, isSubject, _,
    ⟨assertionId, isAssertionId, rfl⟩, rfl⟩, rfl⟩, rfl⟩, rfl⟩, rfl⟩, rfl⟩,
    rfl⟩, rfl⟩, rfl⟩, rfl⟩, rfl⟩, rfl⟩ := fields
  refine ⟨_, rfl, rfl, ?_⟩
  simp only [List.forall_mem_cons, List.not_mem_nil, false_implies,
    implies_true, and_true]
  exact ⟨(faithful_literal _).field wellFormed isSchema,
    (faithful_string.check _ _).field wellFormed isAssertionId,
    (faithful_string.check _ _).field wellFormed isSubject,
    (faithful_enumerationOf _ _).field wellFormed isSubjectType,
    (faithful_enumerationOf _ _).field wellFormed isLevel,
    faithful_Claim.field wellFormed isClaim,
    (faithful_string.check _ _).field wellFormed isAuthority,
    faithful_Evidence.field wellFormed isEvidence,
    faithful_Rfc3339Utc.field wellFormed isVerifiedAt,
    faithful_Rfc3339Utc.field wellFormed isExpiresAt,
    ((faithful_string.check _ _).check _ _).field wellFormed isScope,
    faithful_Digest.field wellFormed isDigest,
    faithful_KeyId.field wellFormed isKeyId,
    (faithful_string.check _ _).field wellFormed isSignature⟩

theorem faithful_AuthorizationGrant :
    Faithful AuthorizationGrant.schema fun grant => some grant.toJson := by
  apply Faithful.superRefine
  apply faithful_strictObject (by decide)
  intro members value wellFormed fields
  simp only [Parse.accepted_seq_eq_some_iff,
    Parse.accepted_seqRight_eq_some_iff,
    Parse.accepted_map_eq_some_iff] at fields
  obtain ⟨⟨_, isSchema⟩, signature, isSignature, _, ⟨keyId, isKeyId, _,
    ⟨expiresAt, isExpiresAt, _, ⟨notBefore, isNotBefore, _,
    ⟨constraints, isConstraints, _, ⟨scopes, isScopes, _,
    ⟨subject, isSubject, _, ⟨principal, isPrincipal, _,
    ⟨grantId, isGrantId, rfl⟩, rfl⟩, rfl⟩, rfl⟩, rfl⟩, rfl⟩, rfl⟩, rfl⟩,
    rfl⟩ := fields
  refine ⟨_, rfl, rfl, ?_⟩
  simp only [List.forall_mem_cons, List.not_mem_nil, false_implies,
    implies_true, and_true]
  exact ⟨(faithful_literal _).field wellFormed isSchema,
    (faithful_string.check _ _).field wellFormed isGrantId,
    (faithful_string.check _ _).field wellFormed isPrincipal,
    (faithful_string.check _ _).field wellFormed isSubject,
    (faithful_Scope.array 1 (some 64)).field wellFormed isScopes,
    (faithful_Constraint.array 0 (some 16)).optional.field wellFormed
      isConstraints,
    faithful_Rfc3339Utc.field wellFormed isNotBefore,
    faithful_Rfc3339Utc.field wellFormed isExpiresAt,
    faithful_KeyId.field wellFormed isKeyId,
    (faithful_string.check _ _).field wellFormed isSignature⟩

theorem faithful_Revocation :
    Faithful Revocation.schema fun revocation => some revocation.toJson := by
  apply Faithful.superRefine
  apply faithful_strictObject (by decide)
  intro members value wellFormed fields
  simp only [Parse.accepted_seq_eq_some_iff,
    Parse.accepted_seqRight_eq_some_iff,
    Parse.accepted_map_eq_some_iff] at fields
  obtain ⟨⟨_, isSchema⟩, signature, isSignature, _, ⟨keyId, isKeyId, _,
    ⟨revokedAt, isRevokedAt, _, ⟨reason, isReason, _,
    ⟨revokesType, isRevokesType, _, ⟨revokes, isRevokes, _,
    ⟨revocationId, isRevocationId, rfl⟩, rfl⟩, rfl⟩, rfl⟩, rfl⟩, rfl⟩,
    rfl⟩ := fields
  refine ⟨_, rfl, rfl, ?_⟩
  simp only [List.forall_mem_cons, List.not_mem_nil, false_implies,
    implies_true, and_true]
  exact ⟨(faithful_literal _).field wellFormed isSchema,
    (faithful_string.check _ _).field wellFormed isRevocationId,
    (faithful_string.check _ _).field wellFormed isRevokes,
    (faithful_enumerationOf _ _).field wellFormed isRevokesType,
    (faithful_enumerationOf _ _).field wellFormed isReason,
    faithful_Rfc3339Utc.field wellFormed isRevokedAt,
    faithful_KeyId.field wellFormed isKeyId,
    (faithful_string.check _ _).field wellFormed isSignature⟩

end Documents

/-! ## Documents are well formed -/

theorem wellFormed_digestJson (value : JsString) :
    WellFormed (digestJson value) := by
  apply wellFormed_record (of_decide_eq_true rfl)
  simp

theorem wellFormed_Evidence (evidence : Evidence) :
    WellFormed evidence.toJson := by
  apply wellFormed_record (of_decide_eq_true rfl)
  simp

theorem wellFormed_Claim (claim : Claim) : WellFormed claim.toJson := by
  cases claim <;>
  · apply wellFormed_record (of_decide_eq_true rfl)
    simp

theorem wellFormed_Constraint (constraint : Constraint) :
    WellFormed constraint.toJson := by
  cases constraint <;>
  · apply wellFormed_record (of_decide_eq_true rfl)
    simp [wellFormed_array]

theorem wellFormed_Manifest (manifest : Manifest) :
    WellFormed manifest.toJson := by
  apply wellFormed_record (of_decide_eq_true rfl)
  simp only [List.forall_mem_cons, Option.mem_def, Option.some.injEq,
    forall_eq', List.not_mem_nil, false_implies, implies_true, and_true,
    wellFormed_literal, wellFormed_string, true_and]
  refine ⟨?_, ?_, ?_, ?_⟩ <;>
  · apply wellFormed_record (of_decide_eq_true rfl)
    simp [wellFormed_array]

theorem wellFormed_ManifestProof (proof : ManifestProof) :
    WellFormed proof.toJson := by
  apply wellFormed_record (of_decide_eq_true rfl)
  simp [wellFormed_digestJson]

theorem wellFormed_VerificationAssertion
    (assertion : VerificationAssertion) : WellFormed assertion.toJson := by
  apply wellFormed_record (of_decide_eq_true rfl)
  simp [wellFormed_digestJson, wellFormed_Claim, wellFormed_Evidence]

theorem wellFormed_AuthorizationGrant (grant : AuthorizationGrant) :
    WellFormed grant.toJson := by
  apply wellFormed_record (of_decide_eq_true rfl)
  simp [wellFormed_array, wellFormed_Constraint]

theorem wellFormed_Revocation (revocation : Revocation) :
    WellFormed revocation.toJson := by
  apply wellFormed_record (of_decide_eq_true rfl)
  simp

/-! ## Signing inputs -/

theorem wellFormed_omitMember
    {value : Json} (wellFormed : WellFormed value) (name : String) :
    WellFormed (omitMember name value) := by
  cases value with
  | object members =>
      obtain ⟨distinct, wellFormedValues⟩ := wellFormed_object.mp wellFormed
      refine wellFormed_object.mpr
        ⟨distinct.sublist (List.filter_sublist.map Prod.fst), ?_⟩
      intro entry isEntry
      exact wellFormedValues entry (List.mem_filter.mp isEntry).1
  | null | boolean | number | string | array => exact wellFormed

theorem lookup_omitMember
    (omitted : JsString) (members : Members) (name : JsString) :
    (members.filter fun entry => entry.1 ≠ omitted).lookup name =
      if name = omitted then none else members.lookup name := by
  induction members with
  | nil => simp
  | cons entry rest inductionHypothesis =>
      obtain ⟨first, value⟩ := entry
      by_cases dropped : first = omitted
      · rw [List.filter_cons_of_neg (by simp [dropped]), inductionHypothesis]
        by_cases same : name = omitted
        · rw [if_pos same, if_pos same]
        · rw [if_neg same, if_neg same, List.lookup_cons,
            beq_false_of_ne (dropped ▸ same)]
      · rw [List.filter_cons_of_pos (by simp [dropped])]
        by_cases same : name = first
        · rw [same, if_neg dropped, List.lookup_cons_self,
            List.lookup_cons_self]
        · rw [List.lookup_cons, List.lookup_cons, beq_false_of_ne same,
            inductionHypothesis]

/-- Objects without one member are the same value when they agree on all
other members. -/
theorem sameValue_omitMember_iff {name : String} {left right : Members} :
    SameValue (omitMember name (.object left))
        (omitMember name (.object right)) ↔
      ∀ other, other ≠ units name →
        Option.Rel SameValue (left.lookup other) (right.lookup other) := by
  rw [omitMember, omitMember, sameValue_object_iff]
  constructor
  · intro same other different
    have related := same other
    rw [lookup_omitMember, lookup_omitMember, if_neg different,
      if_neg different] at related
    exact related
  · intro same other
    rw [lookup_omitMember, lookup_omitMember]
    by_cases isOmitted : other = units name
    · rw [if_pos isOmitted, if_pos isOmitted]
      exact .none
    · rw [if_neg isOmitted, if_neg isOmitted]
      exact same other isOmitted

theorem signingBytes_eq_iff
    {first second : Json}
    (firstWellFormed : WellFormed first) (firstDomain : InDomain first)
    (secondWellFormed : WellFormed second) (secondDomain : InDomain second) :
    signingBytes first = signingBytes second ↔
      SameValue (omitMember "signature" first)
        (omitMember "signature" second) :=
  canonicalBytes_eq_iff (wellFormed_omitMember firstWellFormed _)
    (inDomain_omitMember firstDomain _)
    (wellFormed_omitMember secondWellFormed _)
    (inDomain_omitMember secondDomain _)

end AgenId.Core
