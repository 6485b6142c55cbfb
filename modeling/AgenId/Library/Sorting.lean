import Mathlib.Order.Lattice

/-!
# Lists sorted by a key

A list sorted by a key is in another order exactly when every two of its
elements whose keys are in order are so in the other order.
-/

namespace AgenId.Library

variable {Item Key : Type*} [LinearOrder Key] {le : Item → Item → Bool}
  {key : Item → Key} {items : List Item}

theorem pairwise_key_mergeSort
    (byKey : ∀ first ∈ items, ∀ second ∈ items,
      le first second = decide (key first ≤ key second)) :
    (items.mergeSort le).Pairwise fun first second =>
      key first ≤ key second := by
  have same : (items.mergeSort le).map id = (items.map id).mergeSort
      fun first second => decide (key first ≤ key second) :=
    List.map_mergeSort byKey
  rw [List.map_id, List.map_id] at same
  rw [same]
  have isSorted : (items.mergeSort fun first second =>
      decide (key first ≤ key second)).Pairwise fun first second =>
        decide (key first ≤ key second) = true := by
    refine List.pairwise_mergeSort ?_ ?_ items
    · intro first second third less lessThen
      exact decide_eq_true
        (le_trans (of_decide_eq_true less) (of_decide_eq_true lessThen))
    · intro first second
      simpa using le_total (key first) (key second)
  exact isSorted.imp of_decide_eq_true

/-- Two elements of a sorted list whose keys are in order come in that
order. -/
theorem related_of_pairwise
    {related : Item → Item → Prop}
    (isSorted : items.Pairwise fun first second => key first ≤ key second)
    (areRelated : items.Pairwise related)
    {first second : Item} (isFirst : first ∈ items)
    (isSecond : second ∈ items) (less : key first < key second) :
    related first second := by
  obtain ⟨i, iBound, rfl⟩ := List.mem_iff_getElem.mp isFirst
  obtain ⟨j, jBound, rfl⟩ := List.mem_iff_getElem.mp isSecond
  rcases Nat.lt_trichotomy i j with before | rfl | after
  · exact List.pairwise_iff_getElem.mp areRelated i j iBound jBound before
  · exact absurd less (lt_irrefl _)
  · have notLess :=
      List.pairwise_iff_getElem.mp isSorted j i jBound iBound after
    exact absurd less notLess.not_gt

theorem pairwise_mergeSort_iff
    {related : Item → Item → Prop}
    (byKey : ∀ first ∈ items, ∀ second ∈ items,
      le first second = decide (key first ≤ key second))
    (ties : ∀ first ∈ items, ∀ second ∈ items,
      key first = key second → related first second) :
    (items.mergeSort le).Pairwise related ↔
      ∀ first ∈ items, ∀ second ∈ items,
        key first < key second → related first second := by
  have isSorted := pairwise_key_mergeSort byKey
  constructor
  · intro areRelated first isFirst second isSecond less
    exact related_of_pairwise isSorted areRelated
      (List.mem_mergeSort.mpr isFirst) (List.mem_mergeSort.mpr isSecond) less
  · intro inOrder
    refine isSorted.imp_of_mem ?_
    intro first second isFirst isSecond atMost
    have isFirst := List.mem_mergeSort.mp isFirst
    have isSecond := List.mem_mergeSort.mp isSecond
    rcases atMost.lt_or_eq with less | same
    · exact inOrder first isFirst second isSecond less
    · exact ties first isFirst second isSecond same

end AgenId.Library
