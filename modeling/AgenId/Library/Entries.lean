import Mathlib.Data.List.Perm.Basic
import Mathlib.Data.List.Sort

/-!
# Entries as finite maps

A list of entries that names no key twice is a finite map, which `lookup`
reads and `assign` updates in place; `OrderedMap` is such a list.  Sorting its
entries by key gives a list that depends on the map only: two lists in
strictly ascending order with the same entries are equal.
-/

namespace AgenId.Library

variable {Key Value : Type*}

/-- The entries name no key twice. -/
def Distinct (entries : List (Key × Value)) : Prop :=
  (entries.map Prod.fst).Nodup

theorem distinct_cons
    {key : Key} {value : Value} {rest : List (Key × Value)} :
    Distinct ((key, value) :: rest) ↔
      (∀ entry ∈ rest, entry.1 ≠ key) ∧ Distinct rest := by
  simp only [Distinct, List.map_cons, List.nodup_cons, List.mem_map,
    not_exists, not_and, ne_eq]

theorem Distinct.perm
    {entries other : List (Key × Value)} (distinct : Distinct entries)
    (order : other.Perm entries) :
    Distinct other :=
  (order.map Prod.fst).nodup_iff.mpr distinct

theorem Distinct.map
    {Other : Type*} {entries : List (Key × Value)}
    (distinct : Distinct entries) (f : Key × Value → Key × Other)
    (keepsKey : ∀ entry, (f entry).1 = entry.1) :
    Distinct (entries.map f) := by
  have sameKeys : (entries.map f).map Prod.fst = entries.map Prod.fst := by
    rw [List.map_map]
    exact List.map_congr_left fun entry _ => keepsKey entry
  rw [Distinct, sameKeys]
  exact distinct

section Lookup

variable [BEq Key] [LawfulBEq Key]

theorem mem_of_lookup
    {entries : List (Key × Value)} {key : Key} {value : Value}
    (found : entries.lookup key = some value) :
    (key, value) ∈ entries := by
  obtain ⟨before, after, rfl, -⟩ := List.lookup_eq_some_iff.mp found
  simp

theorem isSome_lookup_iff {entries : List (Key × Value)} {key : Key} :
    (entries.lookup key).isSome = true ↔ key ∈ entries.map Prod.fst := by
  rw [Option.isSome_iff_ne_none, ne_eq, List.lookup_eq_none_iff]
  constructor
  · intro isFound
    by_contra isAbsent
    refine isFound fun entry isEntry => bne_iff_ne.mpr ?_
    rintro rfl
    exact isAbsent (List.mem_map_of_mem isEntry)
  · intro isKey isAbsent
    obtain ⟨entry, isEntry, rfl⟩ := List.mem_map.mp isKey
    exact absurd (isAbsent entry isEntry) (by simp)

/-- In a finite map, what is found is what is listed. -/
theorem Distinct.lookup_eq_some_iff
    {entries : List (Key × Value)} (distinct : Distinct entries)
    {key : Key} {value : Value} :
    entries.lookup key = some value ↔ (key, value) ∈ entries := by
  refine ⟨mem_of_lookup, fun isMember => ?_⟩
  induction entries with
  | nil => simp at isMember
  | cons entry rest inductionHypothesis =>
      obtain ⟨head, first⟩ := entry
      obtain ⟨fresh, distinctRest⟩ := distinct_cons.mp distinct
      rcases List.mem_cons.mp isMember with same | inRest
      · obtain ⟨rfl, rfl⟩ := Prod.mk.inj same
        exact List.lookup_cons_self
      · have other : key ≠ head := fresh _ inRest
        rw [List.lookup_cons, beq_false_of_ne other]
        exact inductionHypothesis distinctRest inRest

theorem Distinct.lookup_perm
    {entries other : List (Key × Value)} (distinct : Distinct entries)
    (order : other.Perm entries) (key : Key) :
    other.lookup key = entries.lookup key := by
  apply Option.ext
  intro value
  rw [(distinct.perm order).lookup_eq_some_iff, distinct.lookup_eq_some_iff,
    order.mem_iff]

/-- Finite maps that list the same keys in the same order, and in which the
same is found, are listed alike. -/
theorem Distinct.ext_of_keys
    {left right : List (Key × Value)} (distinct : Distinct left)
    (keys : left.map Prod.fst = right.map Prod.fst)
    (lookups : ∀ key, left.lookup key = right.lookup key) :
    left = right := by
  have distinctRight : Distinct right := by
    unfold Distinct at distinct ⊢
    exact keys ▸ distinct
  have length : left.length = right.length := by
    simpa using congrArg List.length keys
  apply List.ext_getElem length
  intro index inLeft inRight
  have sameKey : left[index].1 = right[index].1 := by
    have atIndex := congrArg (fun names => names[index]?) keys
    simpa [List.getElem?_eq_getElem, inLeft, inRight] using atIndex
  have found : left.lookup left[index].1 = some left[index].2 :=
    distinct.lookup_eq_some_iff.mpr (List.getElem_mem inLeft)
  have also : right.lookup right[index].1 = some right[index].2 :=
    distinctRight.lookup_eq_some_iff.mpr (List.getElem_mem inRight)
  rw [lookups, sameKey] at found
  exact Prod.ext sameKey (Option.some.inj (found.symm.trans also))

omit [LawfulBEq Key] in
/-- A change of the values, seen through a key. -/
theorem lookup_map_value
    {Other : Type*} (f : Value → Other) (entries : List (Key × Value))
    (key : Key) :
    (entries.map fun entry => (entry.1, f entry.2)).lookup key =
      (entries.lookup key).map f := by
  induction entries with
  | nil => rfl
  | cons entry rest inductionHypothesis =>
      rw [List.map_cons, List.lookup_cons, List.lookup_cons]
      cases key == entry.1 with
      | true => rfl
      | false => exact inductionHypothesis

end Lookup

section Assign

variable [DecidableEq Key]

/-- The entries after a key is given a value; an earlier value of the key is
replaced where it stands. -/
def assign (key : Key) (value : Value) :
    List (Key × Value) → List (Key × Value)
  | [] => [(key, value)]
  | (other, old) :: rest =>
    if other = key then
      (key, value) :: rest
    else
      (other, old) :: assign key value rest

theorem assign_new
    {key : Key} {value : Value} {entries : List (Key × Value)}
    (fresh : key ∉ entries.map Prod.fst) :
    assign key value entries = entries ++ [(key, value)] := by
  induction entries with
  | nil => rfl
  | cons entry rest inductionHypothesis =>
      obtain ⟨other, old⟩ := entry
      simp only [List.map_cons, List.mem_cons, not_or] at fresh
      simp only [assign, if_neg (Ne.symm fresh.1),
        inductionHypothesis fresh.2, List.cons_append]

theorem length_assign_of_mem
    {key : Key} {value : Value} {entries : List (Key × Value)}
    (isKey : key ∈ entries.map Prod.fst) :
    (assign key value entries).length = entries.length := by
  induction entries with
  | nil => cases isKey
  | cons entry rest inductionHypothesis =>
      obtain ⟨other, old⟩ := entry
      rw [assign]
      by_cases same : other = key
      · rw [if_pos same]
        rfl
      · rw [if_neg same]
        have inRest : key ∈ rest.map Prod.fst := by
          rcases List.mem_cons.mp isKey with isHead | inRest
          · exact absurd isHead.symm same
          · exact inRest
        exact congrArg (· + 1) (inductionHypothesis inRest)

theorem mem_assign_keys
    {key other : Key} {value : Value} {entries : List (Key × Value)} :
    other ∈ (assign key value entries).map Prod.fst ↔
      other = key ∨ other ∈ entries.map Prod.fst := by
  induction entries with
  | nil => simp [assign]
  | cons entry rest inductionHypothesis =>
      obtain ⟨head, old⟩ := entry
      rw [assign]
      split
      · rename_i isKey
        subst isKey
        simp
      · rw [List.map_cons, List.mem_cons, inductionHypothesis, List.map_cons,
          List.mem_cons]
        tauto

theorem Distinct.assign
    {entries : List (Key × Value)} (distinct : Distinct entries)
    (key : Key) (value : Value) :
    Distinct (assign key value entries) := by
  induction entries with
  | nil => simp [Library.assign, Distinct]
  | cons entry rest inductionHypothesis =>
      obtain ⟨head, old⟩ := entry
      rw [Distinct, List.map_cons, List.nodup_cons] at distinct
      rw [Library.assign]
      split
      · rename_i isKey
        subst isKey
        exact List.nodup_cons.mpr distinct
      · rename_i different
        refine List.nodup_cons.mpr ⟨?_, inductionHypothesis distinct.2⟩
        rw [mem_assign_keys, not_or]
        exact ⟨different, distinct.1⟩

/-- Entries after others are assigned one after the other. -/
def assignAll (before entries : List (Key × Value)) : List (Key × Value) :=
  entries.foldl (fun after entry => assign entry.1 entry.2 after) before

theorem mem_of_mem_assign
    {key : Key} {value : Value} {entries : List (Key × Value)}
    {entry : Key × Value} (isMember : entry ∈ assign key value entries) :
    entry = (key, value) ∨ entry ∈ entries := by
  induction entries with
  | nil => exact Or.inl (List.mem_singleton.mp isMember)
  | cons head rest inductionHypothesis =>
      obtain ⟨other, old⟩ := head
      rw [assign] at isMember
      by_cases same : other = key
      · rw [if_pos same] at isMember
        rcases List.mem_cons.mp isMember with isNew | inRest
        · exact Or.inl isNew
        · exact Or.inr (List.mem_cons_of_mem _ inRest)
      · rw [if_neg same] at isMember
        rcases List.mem_cons.mp isMember with rfl | inAssigned
        · exact Or.inr List.mem_cons_self
        · rcases inductionHypothesis inAssigned with isNew | inRest
          · exact Or.inl isNew
          · exact Or.inr (List.mem_cons_of_mem _ inRest)

theorem mem_of_mem_assignAll
    {before entries : List (Key × Value)} {entry : Key × Value}
    (isMember : entry ∈ assignAll before entries) :
    entry ∈ before ∨ entry ∈ entries := by
  induction entries generalizing before with
  | nil => exact Or.inl isMember
  | cons first rest inductionHypothesis =>
      rcases inductionHypothesis isMember with inAssigned | inRest
      · rcases mem_of_mem_assign inAssigned with rfl | inBefore
        · exact Or.inr List.mem_cons_self
        · exact Or.inl inBefore
      · exact Or.inr (List.mem_cons_of_mem _ inRest)

/-- New entries with other keys are appended. -/
theorem assignAll_new
    {before entries : List (Key × Value)}
    (distinct : Distinct (before ++ entries)) :
    assignAll before entries = before ++ entries := by
  induction entries generalizing before with
  | nil => exact (List.append_nil before).symm
  | cons first rest inductionHypothesis =>
      have fresh : first.1 ∉ before.map Prod.fst := by
        rw [Distinct, List.map_append, List.nodup_append] at distinct
        intro isBefore
        exact distinct.2.2 _ isBefore _ List.mem_cons_self rfl
      have isSplit : before ++ first :: rest = before ++ [first] ++ rest := by
        rw [List.append_assoc, List.singleton_append]
      rw [isSplit] at distinct ⊢
      rw [← inductionHypothesis distinct, ← assign_new fresh]
      rfl

theorem Distinct.assignAll_nil
    {entries : List (Key × Value)} (distinct : Distinct entries) :
    Library.assignAll [] entries = entries :=
  assignAll_new distinct

theorem assign_map_value
    {Other : Type*} (f : Value → Other) (key : Key) (value : Value)
    (entries : List (Key × Value)) :
    (assign key value entries).map (fun entry => (entry.1, f entry.2)) =
      assign key (f value) (entries.map fun entry => (entry.1, f entry.2)) := by
  induction entries with
  | nil => rfl
  | cons entry rest inductionHypothesis =>
      rw [assign, List.map_cons, assign]
      by_cases same : entry.1 = key
      · rw [if_pos same, if_pos same, List.map_cons]
      · rw [if_neg same, if_neg same, List.map_cons, inductionHypothesis]

/-- A change of the values, before and after they are assigned. -/
theorem assignAll_map_value
    {Other : Type*} (f : Value → Other) (before entries : List (Key × Value)) :
    (assignAll before entries).map (fun entry => (entry.1, f entry.2)) =
      assignAll (before.map fun entry => (entry.1, f entry.2))
        (entries.map fun entry => (entry.1, f entry.2)) := by
  induction entries generalizing before with
  | nil => rfl
  | cons first rest inductionHypothesis =>
      change (assignAll (assign first.1 first.2 before) rest).map _ = _
      rw [inductionHypothesis, assign_map_value]
      rfl

variable [BEq Key] [LawfulBEq Key]

@[simp]
theorem lookup_assign_self
    (key : Key) (value : Value) (entries : List (Key × Value)) :
    (assign key value entries).lookup key = some value := by
  induction entries with
  | nil => exact List.lookup_cons_self
  | cons entry rest inductionHypothesis =>
      obtain ⟨other, old⟩ := entry
      rw [assign]
      split
      · exact List.lookup_cons_self
      · rename_i different
        rw [List.lookup_cons, beq_false_of_ne (Ne.symm different)]
        exact inductionHypothesis

theorem lookup_assign_of_ne
    {key other : Key} (different : other ≠ key) (value : Value)
    (entries : List (Key × Value)) :
    (assign key value entries).lookup other = entries.lookup other := by
  induction entries with
  | nil =>
      rw [assign, List.lookup_cons, beq_false_of_ne different]
  | cons entry rest inductionHypothesis =>
      obtain ⟨head, old⟩ := entry
      rw [assign]
      split
      · rename_i isKey
        subst isKey
        rw [List.lookup_cons, List.lookup_cons, beq_false_of_ne different]
      · rw [List.lookup_cons, List.lookup_cons, inductionHypothesis]

theorem lookup_assign
    (key other : Key) (value : Value) (entries : List (Key × Value)) :
    (assign key value entries).lookup other =
      if other = key then some value else entries.lookup other := by
  by_cases same : other = key
  · rw [if_pos same, same, lookup_assign_self]
  · rw [if_neg same, lookup_assign_of_ne same]

end Assign

/-! ## Maps -/

/-- A finite map that keeps its entries in the order in which their keys were
first assigned. -/
structure OrderedMap (Key Value : Type*) where
  entries : List (Key × Value)
  distinct : Distinct entries

namespace OrderedMap

/-- The map without entries. -/
def empty : OrderedMap Key Value := ⟨[], List.nodup_nil⟩

/-- The values in the order of their keys. -/
def values (map : OrderedMap Key Value) : List Value :=
  map.entries.map Prod.snd

variable [DecidableEq Key]

/-- The value of a key. -/
def get (map : OrderedMap Key Value) (key : Key) : Option Value :=
  map.entries.lookup key

/-- The map after a key is given a value. -/
def set (map : OrderedMap Key Value) (key : Key) (value : Value) :
    OrderedMap Key Value :=
  ⟨assign key value map.entries, map.distinct.assign key value⟩

@[simp]
theorem get_empty (key : Key) :
    (empty : OrderedMap Key Value).get key = none := rfl

theorem get_set
    (map : OrderedMap Key Value) (key other : Key) (value : Value) :
    (map.set key value).get other =
      if other = key then some value else map.get other :=
  lookup_assign _ _ _ _

/-- The number of keys. -/
def size (map : OrderedMap Key Value) : ℕ := map.entries.length

omit [DecidableEq Key] in
@[simp]
theorem size_empty : (empty : OrderedMap Key Value).size = 0 := rfl

theorem get_eq_none_iff {map : OrderedMap Key Value} {key : Key} :
    map.get key = none ↔ key ∉ map.entries.map Prod.fst := by
  rw [get, ← isSome_lookup_iff, Option.not_isSome_iff_eq_none]

theorem size_set_of_some
    {map : OrderedMap Key Value} {key : Key} {found : Value}
    (isFound : map.get key = some found) (value : Value) :
    (map.set key value).size = map.size := by
  apply length_assign_of_mem
  by_contra isAbsent
  rw [get_eq_none_iff.mpr isAbsent] at isFound
  cases isFound

theorem size_set_of_none
    {map : OrderedMap Key Value} {key : Key}
    (isAbsent : map.get key = none) (value : Value) :
    (map.set key value).size = map.size + 1 := by
  simp only [size, set, assign_new (get_eq_none_iff.mp isAbsent),
    List.length_append, List.length_singleton]

theorem size_set_le
    (map : OrderedMap Key Value) (key : Key) (value : Value) :
    (map.set key value).size ≤ map.size + 1 := by
  cases isFound : map.get key with
  | none => exact (size_set_of_none isFound value).le
  | some found =>
      rw [size_set_of_some isFound value]
      exact Nat.le_succ _

/-- The map with only the keys that satisfy a test. -/
def restrict (map : OrderedMap Key Value) (test : Key → Bool) :
    OrderedMap Key Value :=
  ⟨map.entries.filter fun entry => test entry.1,
    map.distinct.sublist (List.filter_sublist.map Prod.fst)⟩

theorem get_restrict
    (map : OrderedMap Key Value) (test : Key → Bool) (key : Key) :
    (map.restrict test).get key =
      if test key = true then map.get key else none := by
  apply Option.ext
  intro value
  rw [get, (map.restrict test).distinct.lookup_eq_some_iff]
  unfold restrict
  rw [List.mem_filter]
  by_cases isKept : test key = true
  · rw [if_pos isKept, get, map.distinct.lookup_eq_some_iff]
    exact and_iff_left isKept
  · rw [if_neg isKept]
    simp [isKept]

theorem mem_values_iff {map : OrderedMap Key Value} {value : Value} :
    value ∈ map.values ↔ ∃ key, map.get key = some value := by
  simp only [values, get, List.mem_map, map.distinct.lookup_eq_some_iff]
  constructor
  · rintro ⟨⟨key, _⟩, isEntry, rfl⟩
    exact ⟨key, isEntry⟩
  · rintro ⟨key, isEntry⟩
    exact ⟨(key, value), isEntry, rfl⟩

end OrderedMap

section Order

variable [LinearOrder Key]

/-- The keys strictly ascend. -/
def Ascending (entries : List (Key × Value)) : Prop :=
  (entries.map Prod.fst).Pairwise (· < ·)

theorem Ascending.distinct
    {entries : List (Key × Value)} (ascending : Ascending entries) :
    Distinct entries :=
  ascending.imp fun less => ne_of_lt less

theorem Distinct.ascending_insertionSort
    {entries : List (Key × Value)} (distinct : Distinct entries) :
    Ascending (entries.insertionSort fun left right => left.1 ≤ right.1) := by
  have sorted : (entries.insertionSort
      fun left right => left.1 ≤ right.1).Pairwise
        (fun left right => left.1 ≤ right.1) :=
    haveI : Std.Total fun left right : Key × Value => left.1 ≤ right.1 :=
      ⟨fun left right => le_total left.1 right.1⟩
    haveI : IsTrans (Key × Value) fun left right => left.1 ≤ right.1 :=
      ⟨fun _ _ _ first second => first.trans second⟩
    List.pairwise_insertionSort _ entries
  have apart : (entries.insertionSort
      fun left right => left.1 ≤ right.1).Pairwise
        (fun left right => left.1 ≠ right.1) :=
    List.pairwise_map.mp
      (distinct.perm (List.perm_insertionSort _ entries))
  exact List.pairwise_map.mpr
    ((sorted.and apart).imp fun both => lt_of_le_of_ne both.1 both.2)

theorem Ascending.ext
    {left right : List (Key × Value)}
    (leftAscending : Ascending left) (rightAscending : Ascending right)
    (same : ∀ entry, entry ∈ left ↔ entry ∈ right) :
    left = right := by
  have order : left.Perm right :=
    (List.perm_ext_iff_of_nodup
      (List.Nodup.of_map Prod.fst leftAscending.distinct)
      (List.Nodup.of_map Prod.fst rightAscending.distinct)).mpr same
  exact order.eq_of_pairwise
    (fun first second _ _ less greater => absurd less (lt_asymm greater))
    (List.pairwise_map.mp leftAscending)
    (List.pairwise_map.mp rightAscending)

end Order

/-! ## Maps of rows -/

namespace OrderedMap

variable {Row : Type*} {row : Value → Option Row}

/-- A map of the rows that are made of the values of another map. -/
def RowsOf (row : Value → Option Row) (rows : OrderedMap Key Row)
    (map : OrderedMap Key Value) : Prop :=
  (map.entries.map fun entry => (entry.1, row entry.2)) =
    rows.entries.map fun entry => (entry.1, some entry.2)

variable {rows : OrderedMap Key Row} {map : OrderedMap Key Value}

theorem RowsOf.values (areRows : RowsOf row rows map) :
    map.values.map row = rows.values.map some := by
  have seconds := congrArg (List.map Prod.snd) areRows
  simpa [OrderedMap.values, Function.comp_def] using seconds

/-- Rows that are made of values, each beside its value. -/
theorem forall₂_of_rows
    {values : List Value} {made : List Row}
    (areRows : values.map row = made.map some) :
    List.Forall₂ (fun each value => row value = some each) made values := by
  have sameLists : List.Forall₂ (· = ·) (made.map some) (values.map row) := by
    rw [List.forall₂_eq_eq_eq, areRows]
  rw [List.forall₂_map_left_iff, List.forall₂_map_right_iff] at sameLists
  exact sameLists.imp fun _ _ same => same.symm

/-- Rows that are read in another order, each beside its value still. -/
theorem forall₂_reordered
    {Made : Row → Value → Prop} {values : List Value} {made read : List Row}
    (beside : List.Forall₂ Made made values) {keep : Value → Bool}
    {keepRow : Row → Bool}
    (alike : ∀ each value, Made each value → keepRow each = keep value)
    (reordered : read.Perm (made.filter keepRow)) :
    ∃ told, List.Forall₂ Made read told ∧ told.Perm (values.filter keep) := by
  have filtered : List.Forall₂ Made (made.filter keepRow)
      (values.filter keep) := by
    refine List.rel_filter ?_ beside
    intro each value isMade
    exact Bool.eq_iff_iff.mp (alike each value isMade)
  exact List.perm_comp_forall₂ reordered filtered

variable [DecidableEq Key]

theorem RowsOf.get (areRows : RowsOf row rows map) (key : Key) :
    (map.get key).map row = (rows.get key).map some := by
  have found := congrArg (List.lookup key) areRows
  rw [lookup_map_value, lookup_map_value] at found
  exact found

theorem RowsOf.set
    (areRows : RowsOf row rows map) (key : Key) {value : Value}
    {made : Row} (isRow : row value = some made) :
    RowsOf row (rows.set key made) (map.set key value) := by
  unfold RowsOf OrderedMap.set
  rw [assign_map_value, assign_map_value, isRow, areRows]

end OrderedMap

end AgenId.Library
