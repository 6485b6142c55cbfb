import Mathlib.Data.List.Basic
import Mathlib.Order.Defs.Unbundled

/-!
# Tables of newest entries

A log of entries, each with a key and a place in a strict order, and a table
that holds for each key the newest entry of the log.  A table that only takes
an entry newer than the one it holds stays such a table.
-/

namespace AgenId.Library

variable {Entry Key : Type*} (key : Entry → Key)
  (before : Entry → Entry → Prop)

/-- Each entry of a log comes after the earlier ones of its key. -/
def Advancing (log : List Entry) : Prop :=
  log.Pairwise fun earlier later =>
    key earlier = key later → before earlier later

/-- An entry of a log that comes after every other one of its key. -/
structure Newest (log : List Entry) (entry : Entry) : Prop where
  isLogged : entry ∈ log
  isLast : ∀ other ∈ log, key other = key entry →
    other = entry ∨ before other entry

/-- A table that follows an advancing log. -/
structure HoldsNewest (held : Key → Option Entry) (log : List Entry) :
    Prop where
  advancing : Advancing key before log
  newest : ∀ name entry, held name = some entry →
    key entry = name ∧ Newest key before log entry
  absent : ∀ name, held name = none → ∀ entry ∈ log, key entry ≠ name

theorem holdsNewest_nil :
    HoldsNewest key before (fun _ => none) [] where
  advancing := List.Pairwise.nil
  newest := by
    intro name entry isHeld
    cases isHeld
  absent := by
    intro name _ entry isLogged
    cases isLogged

section Order

variable {key} {before} [IsStrictOrder Entry before]
  {held : Key → Option Entry} {log : List Entry}

/-- An entry newer than the one held is newer than all of its key. -/
theorem HoldsNewest.before_of_newer
    (holds : HoldsNewest key before held log) {entry : Entry}
    (newer : ∀ previous, held (key entry) = some previous →
      before previous entry)
    {earlier : Entry} (isLogged : earlier ∈ log)
    (sameKey : key earlier = key entry) :
    before earlier entry := by
  cases isHeld : held (key entry) with
  | none => exact absurd sameKey (holds.absent _ isHeld earlier isLogged)
  | some previous =>
      obtain ⟨previousKey, isNewest⟩ := holds.newest _ _ isHeld
      have last := newer previous isHeld
      rcases isNewest.isLast earlier isLogged
          (sameKey.trans previousKey.symm) with rfl | precedes
      · exact last
      · exact IsTrans.trans _ _ _ precedes last

theorem HoldsNewest.held_iff
    (holds : HoldsNewest key before held log) {name : Key} {entry : Entry} :
    held name = some entry ↔
      key entry = name ∧ Newest key before log entry := by
  constructor
  · intro isHeld
    exact holds.newest name entry isHeld
  · rintro ⟨rfl, isNewest⟩
    cases isHeld : held (key entry) with
    | none =>
        exact absurd rfl (holds.absent _ isHeld entry isNewest.isLogged)
    | some other =>
        obtain ⟨sameKey, otherNewest⟩ := holds.newest _ _ isHeld
        rcases isNewest.isLast other otherNewest.isLogged sameKey with
          rfl | otherFirst
        · rfl
        · rcases otherNewest.isLast entry isNewest.isLogged sameKey.symm with
            rfl | entryFirst
          · rfl
          · exact absurd entryFirst (asymm otherFirst)

/-- A table that takes an entry newer than the one it holds follows the log
with that entry. -/
theorem HoldsNewest.take
    (holds : HoldsNewest key before held log) {entry : Entry}
    (newer : ∀ previous, held (key entry) = some previous →
      before previous entry)
    {next : Key → Option Entry}
    (takes : next (key entry) = some entry)
    (keeps : ∀ name, name ≠ key entry → next name = held name) :
    HoldsNewest key before next (log ++ [entry]) where
  advancing := by
    apply List.pairwise_append.mpr
    refine ⟨holds.advancing, List.pairwise_singleton _ _, ?_⟩
    intro earlier isLogged last isLast
    rw [List.mem_singleton.mp isLast]
    exact holds.before_of_newer newer isLogged
  newest := by
    intro name other isHeld
    by_cases isKey : name = key entry
    · rw [isKey, takes] at isHeld
      cases isHeld
      refine ⟨isKey.symm, List.mem_append_right _ List.mem_cons_self, ?_⟩
      intro earlier isLogged sameKey
      rcases List.mem_append.mp isLogged with inLog | isEntry
      · exact .inr (holds.before_of_newer newer inLog sameKey)
      · exact .inl (List.mem_singleton.mp isEntry)
    · rw [keeps name isKey] at isHeld
      obtain ⟨rfl, isNewest⟩ := holds.newest name other isHeld
      refine ⟨rfl, List.mem_append_left _ isNewest.isLogged, ?_⟩
      intro earlier isLogged sameKey
      rcases List.mem_append.mp isLogged with inLog | isEntry
      · exact isNewest.isLast earlier inLog sameKey
      · rw [List.mem_singleton.mp isEntry] at sameKey
        exact absurd sameKey.symm isKey
  absent := by
    intro name isAbsent earlier isLogged
    have isOther : name ≠ key entry := by
      intro isKey
      rw [isKey, takes] at isAbsent
      cases isAbsent
    rcases List.mem_append.mp isLogged with inLog | isEntry
    · rw [keeps name isOther] at isAbsent
      exact holds.absent name isAbsent earlier inLog
    · rw [List.mem_singleton.mp isEntry]
      exact isOther.symm

end Order

end AgenId.Library
