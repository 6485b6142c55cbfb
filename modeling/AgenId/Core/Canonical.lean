import AgenId.Core.Jcs
import AgenId.Ecma.Utf8
import AgenId.Library.Entries

/-!
# Canonical text denotes the value

Two values are the same when they differ only in the order of members and in
the sign of zero.  Canonical text reads back as the same value, with the
members of every object in strictly ascending order, so that the same text is
written for two values exactly when they are the same.
-/

namespace AgenId.Core

open AgenId.Ecma
open AgenId.Library

/-! ## Values as finite maps -/

mutual

/-- A condition on values holds of a value and of every value inside it. -/
def Everywhere (holds : Json → Prop) : Json → Prop
  | .array items => holds (.array items) ∧ EverywhereItems holds items
  | .object members =>
    holds (.object members) ∧ EverywhereMembers holds members
  | other => holds other

/-- The condition holds everywhere in all items. -/
def EverywhereItems (holds : Json → Prop) : List Json → Prop
  | [] => True
  | item :: rest => Everywhere holds item ∧ EverywhereItems holds rest

/-- The condition holds everywhere in the values of all members. -/
def EverywhereMembers (holds : Json → Prop) :
    List (JsString × Json) → Prop
  | [] => True
  | (_, value) :: rest =>
    Everywhere holds value ∧ EverywhereMembers holds rest

end

/-- The objects of a value name no member twice. -/
def WellFormed : Json → Prop :=
  Everywhere fun
    | .object members => Distinct members
    | _ => True

/-- The members of every object strictly ascend in the order of code units. -/
def MembersAscend : Json → Prop :=
  Everywhere fun
    | .object members => Ascending members
    | _ => True

/-- A number without the sign of zero. -/
def withoutNegativeZero : JsNumber → JsNumber
  | .finite datum => .finite datum.withoutNegativeZero
  | other => other

/-- Equality of values, with objects as finite maps and both zeros equal. -/
inductive SameValue : Json → Json → Prop
  | null : SameValue .null .null
  | boolean (value : Bool) : SameValue (.boolean value) (.boolean value)
  | number {left right : JsNumber}
      (same : withoutNegativeZero left = withoutNegativeZero right) :
      SameValue (.number left) (.number right)
  | string (text : JsString) : SameValue (.string text) (.string text)
  | array {left right : List Json}
      (length : left.length = right.length)
      (items : ∀ (index : Nat) (first second : Json),
        left[index]? = some first → right[index]? = some second →
          SameValue first second) :
      SameValue (.array left) (.array right)
  | object {left right : Members}
      (names : ∀ name : JsString,
        (left.lookup name).isSome = (right.lookup name).isSome)
      (values : ∀ (name : JsString) (first second : Json),
        left.lookup name = some first → right.lookup name = some second →
          SameValue first second) :
      SameValue (.object left) (.object right)

theorem SameValue.symm
    {left right : Json} (same : SameValue left right) :
    SameValue right left := by
  induction same with
  | null => exact .null
  | boolean value => exact .boolean value
  | number same => exact .number same.symm
  | string text => exact .string text
  | array length items inductionHypothesis =>
      exact .array length.symm fun index first second isFirst isSecond =>
        inductionHypothesis index second first isSecond isFirst
  | object names values inductionHypothesis =>
      exact .object (fun name => (names name).symm)
        fun name first second isFirst isSecond =>
          inductionHypothesis name second first isSecond isFirst

theorem SameValue.trans
    {left middle right : Json} (first : SameValue left middle)
    (second : SameValue middle right) :
    SameValue left right := by
  induction first generalizing right with
  | null => exact second
  | boolean value => exact second
  | string text => exact second
  | number same =>
      cases second with
      | number also => exact .number (same.trans also)
  | array length items inductionHypothesis =>
      cases second with
      | array alsoLength alsoItems =>
          refine .array (length.trans alsoLength) ?_
          intro index start finish isStart isFinish
          have inRange := (List.getElem?_eq_some_iff.mp isStart).1
          rw [length] at inRange
          have isMiddle := List.getElem?_eq_getElem inRange
          exact inductionHypothesis index start _ isStart isMiddle
            (alsoItems index _ finish isMiddle isFinish)
  | object names values inductionHypothesis =>
      cases second with
      | object alsoNames alsoValues =>
          refine .object
            (fun name => (names name).trans (alsoNames name)) ?_
          intro name start finish isStart isFinish
          have named := names name
          rw [isStart] at named
          obtain ⟨between, isMiddle⟩ :=
            Option.isSome_iff_exists.mp named.symm
          exact inductionHypothesis name start between isStart isMiddle
            (alsoValues name between finish isMiddle isFinish)

/-! ## Normal values -/

mutual

/-- A value with the members of every object in order and without the sign of
zero. -/
def normal : Json → Json
  | .number value => .number (withoutNegativeZero value)
  | .array items => .array (normalItems items)
  | .object members => .object ((normalMembers members).insertionSort byName)
  | other => other

/-- The items of an array, each normal. -/
def normalItems : List Json → List Json
  | [] => []
  | item :: rest => normal item :: normalItems rest

/-- The members of an object, the value of each normal. -/
def normalMembers : List (JsString × Json) → List (JsString × Json)
  | [] => []
  | (name, value) :: rest => (name, normal value) :: normalMembers rest

end

theorem normalItems_eq_map (items : List Json) :
    normalItems items = items.map normal := by
  induction items with
  | nil => rfl
  | cons item rest inductionHypothesis =>
      rw [normalItems, inductionHypothesis, List.map_cons]

theorem normalMembers_eq_map (members : Members) :
    normalMembers members =
      members.map fun entry => (entry.1, normal entry.2) := by
  induction members with
  | nil => rfl
  | cons entry rest inductionHypothesis =>
      rw [normalMembers, inductionHypothesis, List.map_cons]

theorem everywhereItems_iff {holds : Json → Prop} {items : List Json} :
    EverywhereItems holds items ↔ ∀ item ∈ items, Everywhere holds item := by
  induction items with
  | nil => simp [EverywhereItems]
  | cons item rest inductionHypothesis =>
      simp [EverywhereItems, inductionHypothesis]

theorem everywhereMembers_iff
    {holds : Json → Prop} {members : Members} :
    EverywhereMembers holds members ↔
      ∀ entry ∈ members, Everywhere holds entry.2 := by
  induction members with
  | nil => simp [EverywhereMembers]
  | cons entry rest inductionHypothesis =>
      simp [EverywhereMembers, inductionHypothesis]

theorem wellFormed_array {items : List Json} :
    WellFormed (.array items) ↔ ∀ item ∈ items, WellFormed item := by
  simp [WellFormed, Everywhere, everywhereItems_iff]

theorem wellFormed_object {members : Members} :
    WellFormed (.object members) ↔
      Distinct members ∧ ∀ entry ∈ members, WellFormed entry.2 := by
  simp [WellFormed, Everywhere, everywhereMembers_iff]

/-! ## The text of a normal value -/

theorem finiteToString_withoutNegativeZero (datum : Binary64) :
    finiteToString datum.withoutNegativeZero = finiteToString datum := by
  unfold Binary64.withoutNegativeZero
  by_cases isZero : datum.significand = 0
  · simp [isZero, finiteToString]
  · rw [if_neg isZero]

/-- The members of an object after sorting are written as the sorted
members. -/
theorem stringifyMembers_sorted_congr
    {left right : Members}
    (same : left.map (fun entry => (entry.1, stringify entry.2)) =
      right.map fun entry => (entry.1, stringify entry.2)) :
    stringifyMembers (left.insertionSort byName) =
      stringifyMembers (right.insertionSort byName) := by
  have written : ∀ members : Members,
      stringifyMembers (members.insertionSort byName) =
        ((members.map fun entry => (entry.1, stringify entry.2)).insertionSort
          byName).map fun entry => quote entry.1 ++ 0x3A :: entry.2 := by
    intro members
    rw [← map_insertionSort_byName
      (fun entry : JsString × Json => (entry.1, stringify entry.2))
      (fun _ => rfl), List.map_map, stringifyMembers_eq_map]
    rfl
  rw [written, written, same]

mutual

/-- Canonical text does not show the sign of zero. -/
theorem stringify_normal :
    (value : Json) → stringify (normal value) = stringify (ordered value)
  | .null | .boolean _ | .string _ => rfl
  | .number .nan | .number (.infinity _) => rfl
  | .number (.finite datum) => finiteToString_withoutNegativeZero datum
  | .array items => by
      rw [normal, ordered, stringify, stringify, stringify_normalItems items]
  | .object members => by
      rw [normal, ordered, stringify, stringify,
        stringifyMembers_sorted_congr (stringify_normalMembers members)]

theorem stringify_normalItems :
    (items : List Json) →
      stringifyItems (normalItems items) =
        stringifyItems (orderedItems items)
  | [] => rfl
  | item :: rest => by
      rw [normalItems, orderedItems, stringifyItems, stringifyItems,
        stringify_normal item, stringify_normalItems rest]

theorem stringify_normalMembers :
    (members : Members) →
      (normalMembers members).map
          (fun entry => (entry.1, stringify entry.2)) =
        (orderedMembers members).map
          fun entry => (entry.1, stringify entry.2)
  | [] => rfl
  | (name, value) :: rest => by
      rw [normalMembers, orderedMembers, List.map_cons, List.map_cons,
        stringify_normal value, stringify_normalMembers rest]

end

theorem canonicalText_eq (value : Json) :
    canonicalText value = stringify (normal value) :=
  (stringify_normal value).symm

/-! ## What a normal value is -/

theorem withoutNegativeZero_idempotent (datum : Binary64) :
    datum.withoutNegativeZero.withoutNegativeZero =
      datum.withoutNegativeZero := by
  unfold Binary64.withoutNegativeZero
  by_cases isZero : datum.significand = 0 <;> simp [isZero]

theorem mem_normal_members
    {members : Members} {entry : JsString × Json} :
    entry ∈ (normalMembers members).insertionSort byName ↔
      ∃ value, (entry.1, value) ∈ members ∧ entry.2 = normal value := by
  rw [List.mem_insertionSort, normalMembers_eq_map, List.mem_map]
  constructor
  · rintro ⟨⟨name, value⟩, isMember, rfl⟩
    exact ⟨value, isMember, rfl⟩
  · rintro ⟨value, isMember, same⟩
    exact ⟨(entry.1, value), isMember, Prod.ext rfl same.symm⟩

theorem ascending_normal_members
    {members : Members} (distinct : Distinct members) :
    Ascending ((normalMembers members).insertionSort byName) := by
  rw [normalMembers_eq_map]
  exact (distinct.map (fun entry => (entry.1, normal entry.2))
    fun _ => rfl).ascending_insertionSort

theorem printable_normal
    (value : Json) (wellFormed : WellFormed value)
    (domain : InDomain value) :
    (normal value).Printable := by
  induction value using Json.inductionOn with
  | null | boolean | string => trivial
  | number value =>
      obtain ⟨datum, rfl, -⟩ := domain
      exact ⟨_, rfl, withoutNegativeZero_idempotent datum⟩
  | array items inductionHypothesis =>
      rw [normal, Json.Printable, printableItems_iff, normalItems_eq_map]
      rw [wellFormed_array] at wellFormed
      rw [inDomain_array] at domain
      intro item isItem
      obtain ⟨original, isOriginal, rfl⟩ := List.mem_map.mp isItem
      exact inductionHypothesis original isOriginal
        (wellFormed original isOriginal) (domain original isOriginal)
  | object members inductionHypothesis =>
      rw [normal, Json.Printable, printableMembers_iff]
      rw [wellFormed_object] at wellFormed
      rw [inDomain_object] at domain
      refine ⟨(ascending_normal_members wellFormed.1).distinct, ?_⟩
      intro entry isEntry
      obtain ⟨original, isOriginal, same⟩ := mem_normal_members.mp isEntry
      rw [same]
      exact inductionHypothesis _ isOriginal (wellFormed.2 _ isOriginal)
        (domain _ isOriginal)

theorem membersAscend_normal
    (value : Json) (wellFormed : WellFormed value) :
    MembersAscend (normal value) := by
  induction value using Json.inductionOn with
  | null | boolean | string | number => trivial
  | array items inductionHypothesis =>
      rw [wellFormed_array] at wellFormed
      refine ⟨trivial, everywhereItems_iff.mpr ?_⟩
      rw [normalItems_eq_map]
      intro item isItem
      obtain ⟨original, isOriginal, rfl⟩ := List.mem_map.mp isItem
      exact inductionHypothesis original isOriginal
        (wellFormed original isOriginal)
  | object members inductionHypothesis =>
      rw [wellFormed_object] at wellFormed
      refine ⟨ascending_normal_members wellFormed.1,
        everywhereMembers_iff.mpr ?_⟩
      intro entry isEntry
      obtain ⟨original, isOriginal, same⟩ := mem_normal_members.mp isEntry
      rw [same]
      exact inductionHypothesis _ isOriginal (wellFormed.2 _ isOriginal)

theorem lookup_normal_members
    {members : Members} (distinct : Distinct members) (name : JsString) :
    ((normalMembers members).insertionSort byName).lookup name =
      (members.lookup name).map normal := by
  rw [normalMembers_eq_map]
  rw [(distinct.map (fun entry => (entry.1, normal entry.2))
    fun _ => rfl).lookup_perm (List.perm_insertionSort _ _)]
  exact lookup_map_value normal members name

theorem sameValue_normal
    (value : Json) (wellFormed : WellFormed value) :
    SameValue value (normal value) := by
  induction value using Json.inductionOn with
  | null => exact .null
  | boolean value => exact .boolean value
  | string text => exact .string text
  | number value =>
      refine .number ?_
      cases value with
      | nan | infinity => rfl
      | finite datum =>
          exact congrArg JsNumber.finite
            (withoutNegativeZero_idempotent datum).symm
  | array items inductionHypothesis =>
      rw [wellFormed_array] at wellFormed
      rw [normal, normalItems_eq_map]
      refine .array (List.length_map normal).symm ?_
      intro index first second isFirst isSecond
      rw [List.getElem?_map, isFirst] at isSecond
      obtain rfl := Option.some.inj isSecond
      have isMember := List.mem_of_getElem? isFirst
      exact inductionHypothesis first isMember (wellFormed first isMember)
  | object members inductionHypothesis =>
      rw [wellFormed_object] at wellFormed
      obtain ⟨distinct, wellFormed⟩ := wellFormed
      refine .object (fun name => ?_)
        fun name first second isFirst isSecond => ?_
      · rw [lookup_normal_members distinct, Option.isSome_map]
      · rw [lookup_normal_members distinct, isFirst] at isSecond
        obtain rfl := Option.some.inj isSecond
        have isMember := mem_of_lookup isFirst
        exact inductionHypothesis _ isMember (wellFormed _ isMember)

theorem SameValue.normal_eq
    {left right : Json} (same : SameValue left right)
    (leftWellFormed : WellFormed left)
    (rightWellFormed : WellFormed right) :
    normal left = normal right := by
  induction same with
  | null | boolean | string => rfl
  | number same => exact congrArg Json.number same
  | array length items inductionHypothesis =>
      rename_i left right
      rw [wellFormed_array] at leftWellFormed rightWellFormed
      rw [normal, normal, normalItems_eq_map, normalItems_eq_map]
      refine congrArg Json.array (List.ext_getElem (by simpa) ?_)
      intro index inLeft inRight
      rw [List.length_map] at inLeft inRight
      rw [List.getElem_map, List.getElem_map]
      exact inductionHypothesis index _ _
        (List.getElem?_eq_getElem inLeft)
        (List.getElem?_eq_getElem inRight)
        (leftWellFormed _ (List.getElem_mem inLeft))
        (rightWellFormed _ (List.getElem_mem inRight))
  | object names values inductionHypothesis =>
      rename_i left right
      obtain ⟨leftDistinct, leftWellFormed⟩ :=
        wellFormed_object.mp leftWellFormed
      obtain ⟨rightDistinct, rightWellFormed⟩ :=
        wellFormed_object.mp rightWellFormed
      have sameLookup : ∀ name,
          (left.lookup name).map normal = (right.lookup name).map normal := by
        intro name
        have named := names name
        cases isFirst : left.lookup name with
        | none =>
            rw [isFirst] at named
            have missing : right.lookup name = none :=
              Option.isNone_iff_eq_none.mp (Option.isSome_eq_false_iff.mp
                named.symm)
            rw [missing]
        | some first =>
            rw [isFirst] at named
            obtain ⟨second, isSecond⟩ :=
              Option.isSome_iff_exists.mp named.symm
            rw [isSecond]
            exact congrArg some (inductionHypothesis name first second
              isFirst isSecond (leftWellFormed _ (mem_of_lookup isFirst))
              (rightWellFormed _ (mem_of_lookup isSecond)))
      have leftAscends := ascending_normal_members leftDistinct
      have rightAscends := ascending_normal_members rightDistinct
      refine congrArg Json.object (leftAscends.ext rightAscends ?_)
      rintro ⟨name, value⟩
      rw [← leftAscends.distinct.lookup_eq_some_iff,
        ← rightAscends.distinct.lookup_eq_some_iff,
        lookup_normal_members leftDistinct,
        lookup_normal_members rightDistinct, sameLookup]

/-! ## Canonicalization -/

theorem canonicalize_eq_stringify_normal
    {value : Json} (domain : InDomain value) :
    canonicalize (.ofJson value) = .ok (stringify (normal value)) := by
  rw [canonicalize_ofJson domain, canonicalText_eq]

theorem canonicalText_eq_iff
    {first second : Json}
    (firstWellFormed : WellFormed first) (firstDomain : InDomain first)
    (secondWellFormed : WellFormed second) (secondDomain : InDomain second) :
    canonicalText first = canonicalText second ↔ SameValue first second := by
  rw [canonicalText_eq, canonicalText_eq]
  constructor
  · intro sameText
    have sameNormal := stringify_injective
      (printable_normal first firstWellFormed firstDomain)
      (printable_normal second secondWellFormed secondDomain) sameText
    have toFirst := sameValue_normal first firstWellFormed
    rw [sameNormal] at toFirst
    exact toFirst.trans (sameValue_normal second secondWellFormed).symm
  · intro same
    rw [same.normal_eq firstWellFormed secondWellFormed]

theorem canonicalBytes_eq_iff
    {first second : Json}
    (firstWellFormed : WellFormed first) (firstDomain : InDomain first)
    (secondWellFormed : WellFormed second) (secondDomain : InDomain second) :
    canonicalBytes first = canonicalBytes second ↔
      SameValue first second := by
  rw [← canonicalText_eq_iff firstWellFormed firstDomain secondWellFormed
    secondDomain]
  constructor
  · intro sameBytes
    exact encodeUtf8_injective (isPaired_stringify _) (isPaired_stringify _)
      sameBytes
  · intro sameText
    rw [canonicalBytes, canonicalBytes, sameText]

theorem magnitude_withoutNegativeZero (datum : Binary64) :
    datum.withoutNegativeZero.magnitude = datum.magnitude := by
  unfold Binary64.withoutNegativeZero
  by_cases isZero : datum.significand = 0
  · simp [isZero, Binary64.magnitude]
  · rw [if_neg isZero]

theorem SameValue.inDomain
    {left right : Json} (same : SameValue left right)
    (wellFormed : WellFormed left) (domain : InDomain right) :
    InDomain left := by
  induction same with
  | null | boolean | string => trivial
  | number same =>
      rename_i left right
      obtain ⟨datum, rfl, safe⟩ := domain
      cases left with
      | nan | infinity => simp [withoutNegativeZero] at same
      | finite other =>
          have sameDatum : other.withoutNegativeZero =
              datum.withoutNegativeZero := JsNumber.finite.inj same
          refine ⟨other, rfl, ?_⟩
          rw [← finiteToString_withoutNegativeZero,
            ← magnitude_withoutNegativeZero, sameDatum,
            finiteToString_withoutNegativeZero,
            magnitude_withoutNegativeZero]
          exact safe
  | array length items inductionHypothesis =>
      rw [inDomain_array] at domain ⊢
      rw [wellFormed_array] at wellFormed
      intro item isItem
      obtain ⟨index, inLeft, rfl⟩ := List.mem_iff_getElem.mp isItem
      have inRight := length ▸ inLeft
      exact inductionHypothesis index _ _ (List.getElem?_eq_getElem inLeft)
        (List.getElem?_eq_getElem inRight) (wellFormed _ isItem)
        (domain _ (List.getElem_mem inRight))
  | object names values inductionHypothesis =>
      rw [inDomain_object] at domain ⊢
      obtain ⟨distinct, wellFormed⟩ := wellFormed_object.mp wellFormed
      rintro ⟨name, value⟩ isEntry
      have found := distinct.lookup_eq_some_iff.mpr isEntry
      have named := names name
      rw [found] at named
      obtain ⟨other, isOther⟩ := Option.isSome_iff_exists.mp named.symm
      exact inductionHypothesis name value other found isOther
        (wellFormed _ isEntry) (domain _ (mem_of_lookup isOther))

/-- Canonicalization succeeds on every value in the domain; its text reads
back as the same value with the members of every object in order; and two
values have the same canonical text exactly when they are the same. -/
theorem canonicalize_round_trip_and_injective :
    (∀ value : Json, WellFormed value → InDomain value →
      ∃ inOrder : Json,
        canonicalize (.ofJson value) = .ok (stringify inOrder) ∧
        parseJson (stringify inOrder) = some inOrder ∧
        SameValue value inOrder ∧ MembersAscend inOrder) ∧
    ∀ first second : Json,
      WellFormed first → InDomain first →
      WellFormed second → InDomain second →
        (canonicalize (.ofJson first) = canonicalize (.ofJson second) ↔
          SameValue first second) := by
  constructor
  · intro value wellFormed domain
    exact ⟨normal value, canonicalize_eq_stringify_normal domain,
      parseJson_stringify (printable_normal value wellFormed domain),
      sameValue_normal value wellFormed,
      membersAscend_normal value wellFormed⟩
  · intro first second firstWellFormed firstDomain secondWellFormed
      secondDomain
    rw [canonicalize_ofJson firstDomain, canonicalize_ofJson secondDomain,
      Except.ok.injEq]
    exact canonicalText_eq_iff firstWellFormed firstDomain secondWellFormed
      secondDomain

/-- A value with its members out of order and a negative zero. -/
def sampleValue : Json :=
  .object [(units "b", .number (.finite ⟨true, 0, -1074, by decide⟩)),
    (units "a", .array [.boolean true])]

/-- The same value in order. -/
def sampleValueInOrder : Json :=
  .object [(units "a", .array [.boolean true]),
    (units "b", .number (.finite ⟨false, 0, -1074, by decide⟩))]

theorem sampleValue_wellFormed :
    WellFormed sampleValue ∧ WellFormed sampleValueInOrder := by
  constructor <;>
    exact ⟨List.nodup_iff_pairwise_ne.mpr (by decide),
      by simp [Everywhere, EverywhereMembers, EverywhereItems]⟩

theorem sampleValue_inDomain :
    InDomain sampleValue ∧ InDomain sampleValueInOrder := by
  constructor <;>
    simp [sampleValue, sampleValueInOrder, inDomain_object, InDomain,
      ItemsInDomain, Binary64.magnitude]

/-- The sample value reads back, and its two spellings are the same value. -/
theorem canonicalize_sampleValue :
    (∃ inOrder : Json,
      canonicalize (.ofJson sampleValue) = .ok (stringify inOrder) ∧
      parseJson (stringify inOrder) = some inOrder ∧
      SameValue sampleValue inOrder ∧ MembersAscend inOrder) ∧
    SameValue sampleValue sampleValueInOrder :=
  ⟨canonicalize_round_trip_and_injective.1 sampleValue
      sampleValue_wellFormed.1 sampleValue_inDomain.1,
    (canonicalize_round_trip_and_injective.2 sampleValue sampleValueInOrder
      sampleValue_wellFormed.1 sampleValue_inDomain.1
      sampleValue_wellFormed.2 sampleValue_inDomain.2).mp rfl⟩

end AgenId.Core
