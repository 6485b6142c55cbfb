import AgenId.Ecma.Pattern
import Mathlib.Data.List.DropRight
import Mathlib.Data.List.Infix

/-!
# Searching a text

Where `indexOf` and `lastIndexOf` find a code unit, what the texts on its two
sides are, and when an expression that is not anchored finds a literal.
-/

namespace AgenId.Ecma

variable {unit : UInt16} {text needle : JsString}

/-! ## The first occurrence -/

theorem indexOf?_eq_none_iff :
    indexOf? needle text = none ↔ ¬ needle <:+: text := by
  induction text with
  | nil =>
      by_cases empty : needle = []
      · simp [indexOf?, empty]
      · simp [indexOf?, empty]
  | cons head rest inductionHypothesis =>
      rw [indexOf?, List.infix_cons_iff, not_or, ← inductionHypothesis]
      by_cases isPrefix : needle <+: head :: rest
      · simp [isPrefix]
      · simp [isPrefix]

theorem indexOf?_unit :
    indexOf? [unit] text =
      if unit ∈ text then some (text.takeWhile (· ≠ unit)).length
      else none := by
  induction text with
  | nil => simp [indexOf?]
  | cons head rest inductionHypothesis =>
      by_cases same : head = unit
      · subst same
        simp [indexOf?]
      · have different : unit ≠ head := Ne.symm same
        by_cases isMember : unit ∈ rest
        · simp [indexOf?, inductionHypothesis, same, different, isMember]
        · simp [indexOf?, inductionHypothesis, different, isMember]

theorem all_ne_of_notMem (notMember : unit ∉ text) :
    ∀ other ∈ text, decide (other ≠ unit) = true := by
  intro other isMember
  apply decide_eq_true
  intro same
  subst same
  exact notMember isMember

theorem takeWhile_of_notMem (notMember : unit ∉ text) :
    text.takeWhile (· ≠ unit) = text := by
  rw [List.takeWhile_eq_self_iff]
  exact all_ne_of_notMem notMember

theorem dropWhile_of_notMem (notMember : unit ∉ text) :
    text.dropWhile (· ≠ unit) = [] := by
  rw [List.dropWhile_eq_nil_iff]
  exact all_ne_of_notMem notMember

/-- `i === -1 ? text : text.slice(0, i)` at the index of a code unit. -/
theorem slice_before_indexOf? :
    (indexOf? [unit] text).elim text text.take =
      text.takeWhile (· ≠ unit) := by
  rw [indexOf?_unit]
  by_cases isMember : unit ∈ text
  · rw [if_pos isMember]
    exact (List.prefix_iff_eq_take.mp
      (List.takeWhile_prefix (· ≠ unit))).symm
  · rw [if_neg isMember]
    exact (takeWhile_of_notMem isMember).symm

/-- `i === -1 ? "" : text.slice(i + 1)` at the index of a code unit. -/
theorem slice_after_indexOf? :
    (indexOf? [unit] text).elim [] (fun index => text.drop (index + 1)) =
      (text.dropWhile (· ≠ unit)).drop 1 := by
  rw [indexOf?_unit]
  by_cases isMember : unit ∈ text
  · rw [if_pos isMember]
    have parted : text.takeWhile (· ≠ unit) ++ text.dropWhile (· ≠ unit) =
        text := List.takeWhile_append_dropWhile
    have dropped := congrArg
      (List.drop (text.takeWhile (· ≠ unit)).length) parted
    rw [List.drop_left] at dropped
    rw [Option.elim_some, ← List.drop_drop, ← dropped]
  · rw [if_neg isMember, dropWhile_of_notMem isMember]
    rfl

theorem takeWhile_append_unit {before after : JsString}
    (notMember : unit ∉ before) :
    (before ++ unit :: after).takeWhile (· ≠ unit) = before := by
  rw [List.takeWhile_append_of_pos (all_ne_of_notMem notMember)]
  simp

theorem dropWhile_append_unit {before after : JsString}
    (notMember : unit ∉ before) :
    (before ++ unit :: after).dropWhile (· ≠ unit) = unit :: after := by
  rw [List.dropWhile_append_of_pos (all_ne_of_notMem notMember)]
  simp

theorem splitOnUnit_of_notMem (notMember : unit ∉ text) :
    splitOnUnit unit text = [text] := by
  induction text with
  | nil => rfl
  | cons head rest inductionHypothesis =>
      rw [List.mem_cons, not_or] at notMember
      rw [splitOnUnit, if_neg (Ne.symm notMember.1),
        inductionHypothesis notMember.2]

/-! ## The last occurrence -/

theorem rtakeWhile_append_unit {before after : JsString}
    (notMember : unit ∉ after) :
    (before ++ unit :: after).rtakeWhile (· ≠ unit) = after := by
  have notReversed : unit ∉ after.reverse := by
    rwa [List.mem_reverse]
  rw [List.rtakeWhile, List.reverse_append, List.reverse_cons,
    List.append_assoc, List.singleton_append,
    takeWhile_append_unit notReversed, List.reverse_reverse]

theorem rtakeWhile_of_notMem (notMember : unit ∉ text) :
    text.rtakeWhile (· ≠ unit) = text := by
  have notReversed : unit ∉ text.reverse := by
    rwa [List.mem_reverse]
  rw [List.rtakeWhile, takeWhile_of_notMem notReversed, List.reverse_reverse]

theorem lastIndexOf?_eq_none_iff :
    lastIndexOf? unit text = none ↔ unit ∉ text := by
  induction text with
  | nil => simp [lastIndexOf?]
  | cons head rest inductionHypothesis =>
      cases isLast : lastIndexOf? unit rest with
      | none =>
          have notMember := inductionHypothesis.mp isLast
          simp [lastIndexOf?, isLast, notMember, eq_comm]
      | some index =>
          have isMember : unit ∈ rest := by
            by_contra notMember
            rw [inductionHypothesis.mpr notMember] at isLast
            cases isLast
          simp [lastIndexOf?, isLast, isMember]

theorem lastIndexOf?_append_unit {before after : JsString}
    (notMember : unit ∉ after) :
    lastIndexOf? unit (before ++ unit :: after) = some before.length := by
  induction before with
  | nil => simp [lastIndexOf?, lastIndexOf?_eq_none_iff.mpr notMember]
  | cons head rest inductionHypothesis =>
      rw [List.cons_append, lastIndexOf?, inductionHypothesis]
      rfl

/-- `text.slice(text.lastIndexOf(unit) + 1)`. -/
theorem slice_after_lastIndexOf? :
    text.drop ((lastIndexOf? unit text).elim 0 (· + 1)) =
      text.rtakeWhile (· ≠ unit) := by
  by_cases isMember : unit ∈ text
  · obtain ⟨after, before, isText, notMember⟩ :=
      List.eq_append_cons_of_mem (List.mem_reverse.mpr isMember)
    have parted : text = before.reverse ++ unit :: after.reverse := by
      have reversed := congrArg List.reverse isText
      simpa using reversed
    have notAfter : unit ∉ after.reverse := by
      rwa [List.mem_reverse]
    rw [parted, lastIndexOf?_append_unit notAfter,
      rtakeWhile_append_unit notAfter, Option.elim_some, ← List.drop_drop,
      List.drop_left]
    rfl
  · rw [lastIndexOf?_eq_none_iff.mpr isMember, rtakeWhile_of_notMem isMember]
    rfl

/-! ## A literal anywhere -/

theorem matchesAt_literal_iff {previous : Option UInt16} :
    matchesAt (needle.map fun unit => .one (· == unit)) previous text =
        true ↔
      needle <+: text := by
  have matched := @matchesAt_units_iff [] previous text needle
  rw [List.append_nil] at matched
  rw [matched]
  constructor
  · intro found
    obtain ⟨rest, isText, -⟩ := found
    exact ⟨rest, isText.symm⟩
  · intro found
    obtain ⟨rest, isText⟩ := found
    exact ⟨rest, isText.symm, rfl⟩

theorem matchesFrom_literal_iff {previous : Option UInt16} :
    matchesFrom (needle.map fun unit => .one (· == unit)) previous text =
        true ↔
      needle <:+: text := by
  induction text generalizing previous with
  | nil => rw [matchesFrom, matchesAt_literal_iff, List.infix_nil,
      List.prefix_nil]
  | cons head rest inductionHypothesis =>
      rw [matchesFrom, Bool.or_eq_true, matchesAt_literal_iff,
        List.infix_cons_iff]
      exact or_congr Iff.rfl inductionHypothesis

end AgenId.Ecma
