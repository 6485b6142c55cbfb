import Mathlib.Data.List.Perm.Basic

/-!
# The first verdict of a list

A loop that returns at the first item with a verdict computes
`items.findSome? verdict`.  What an observer sees of the result does not
depend on the order of the items when all verdicts look alike to it, and an
item without a verdict can be inserted anywhere.
-/

namespace AgenId.Library

variable {Item Verdict View : Type*}

/-- The verdicts of a list all look alike to an observer. -/
def Unanimous
    (verdict : Item → Option Verdict) (view : Verdict → View)
    (items : List Item) : Prop :=
  ∀ first ∈ items, ∀ second ∈ items, ∀ firstVerdict secondVerdict,
    verdict first = some firstVerdict → verdict second = some secondVerdict →
      view firstVerdict = view secondVerdict

/-- An item that comes first decides, when it has a verdict. -/
theorem exists_perm_findSome?
    {verdict : Item → Option Verdict} {items : List Item}
    {item : Item} {found : Verdict}
    (isMember : item ∈ items) (decides : verdict item = some found) :
    ∃ other : List Item, other.Perm items ∧
      other.findSome? verdict = some found := by
  obtain ⟨before, after, rfl⟩ := List.append_of_mem isMember
  exact ⟨item :: (before ++ after), List.perm_middle.symm, by
    simp [decides]⟩

/-- Unanimous verdicts give one view in every order. -/
theorem Unanimous.findSome?_perm
    {verdict : Item → Option Verdict} {view : Verdict → View}
    {items other : List Item}
    (unanimous : Unanimous verdict view items) (order : other.Perm items) :
    (other.findSome? verdict).map view =
      (items.findSome? verdict).map view := by
  cases found : items.findSome? verdict with
  | none =>
      rw [List.findSome?_eq_none_iff] at found
      have silent : other.findSome? verdict = none :=
        List.findSome?_eq_none_iff.mpr fun item isMember =>
          found item (order.mem_iff.mp isMember)
      rw [silent]
  | some itemsVerdict =>
      obtain ⟨item, isMember, decides⟩ :=
        List.exists_of_findSome?_eq_some found
      cases otherFound : other.findSome? verdict with
      | none =>
          rw [List.findSome?_eq_none_iff] at otherFound
          rw [otherFound item (order.mem_iff.mpr isMember)] at decides
          simp at decides
      | some otherVerdict =>
          obtain ⟨otherItem, isOther, otherDecides⟩ :=
            List.exists_of_findSome?_eq_some otherFound
          exact congrArg some (unanimous otherItem
            (order.mem_iff.mp isOther) item isMember _ _ otherDecides decides)

/-- An inserted item without a verdict changes nothing; one with a verdict
leaves the result as it was or decides itself. -/
theorem findSome?_insert
    (verdict : Item → Option Verdict) (before after : List Item)
    (item : Item) :
    (before ++ item :: after).findSome? verdict =
        (before ++ after).findSome? verdict ∨
      ((before ++ item :: after).findSome? verdict = verdict item ∧
        (verdict item).isSome) := by
  rw [List.findSome?_append, List.findSome?_append, List.findSome?_cons]
  cases before.findSome? verdict with
  | some found => exact Or.inl rfl
  | none =>
      cases decides : verdict item with
      | none => exact Or.inl rfl
      | some found => exact Or.inr ⟨rfl, rfl⟩

end AgenId.Library
