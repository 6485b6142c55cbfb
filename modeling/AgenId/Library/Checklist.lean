import Mathlib.Data.List.Basic

/-!
# Checklists

A procedure that makes its checks in a fixed order and ends at the first one
that fails follows a checklist: a list of conditions, each with the code of
its failure.  A checklist ends in exactly one way.
-/

namespace AgenId.Library

universe u v

variable {Code : Type u} {Result : Type v}

/-- How a checklist ends: with the code of the first condition that fails, or
with none when all hold. -/
inductive Ends : List (Prop × Code) → Option Code → Prop
  | passed : Ends [] none
  | failed {condition : Prop} {code : Code} {rest : List (Prop × Code)}
      (fails : ¬ condition) : Ends ((condition, code) :: rest) (some code)
  | next {condition : Prop} {code : Code} {rest : List (Prop × Code)}
      {ending : Option Code} (holds : condition) (ends : Ends rest ending) :
      Ends ((condition, code) :: rest) ending

theorem ends_cons_iff_of_holds
    {condition : Prop} {code : Code} {rest : List (Prop × Code)}
    {ending : Option Code} (holds : condition) :
    Ends ((condition, code) :: rest) ending ↔ Ends rest ending := by
  constructor
  · intro ends
    cases ends with
    | failed fails => exact absurd holds fails
    | next _ ends => exact ends
  · exact Ends.next holds

theorem Ends.unique
    {steps : List (Prop × Code)} {first second : Option Code}
    (isFirst : Ends steps first) (isSecond : Ends steps second) :
    first = second := by
  induction isFirst with
  | passed =>
      cases isSecond
      rfl
  | failed fails =>
      cases isSecond with
      | failed => rfl
      | next holds => exact absurd holds fails
  | next holds _ inductionHypothesis =>
      exact inductionHypothesis ((ends_cons_iff_of_holds holds).mp isSecond)

/-! ## Procedures that follow a checklist -/

variable {Error : Type*}

/-- A procedure follows a checklist: it returns, and its result fails as the
checklist does. -/
def Follows (failure : Result → Option Code) (steps : List (Prop × Code))
    (outcome : Except Error Result) : Prop :=
  ∃ result, outcome = .ok result ∧ Ends steps (failure result)

theorem follows_nil
    {failure : Result → Option Code} {result : Result}
    (succeeds : failure result = none) :
    Follows failure [] (.ok result : Except Error Result) :=
  ⟨result, rfl, succeeds ▸ .passed⟩

/-- A guard that fails with a code is one step. -/
theorem Follows.guard
    {failure : Result → Option Code} {broken : Prop} [Decidable broken]
    {condition : Prop} {code : Code} {refusal : Result}
    {steps : List (Prop × Code)} {rest : Except Error Result}
    (breaks : broken ↔ ¬ condition) (fails : failure refusal = some code)
    (follows : Follows failure steps rest) :
    Follows failure ((condition, code) :: steps)
      (if broken then .ok refusal else rest) := by
  by_cases isBroken : broken
  · rw [if_pos isBroken]
    exact ⟨refusal, rfl, fails ▸ .failed (breaks.mp isBroken)⟩
  · rw [if_neg isBroken]
    obtain ⟨result, isResult, ends⟩ := follows
    have holds : condition := by
      by_contra fails
      exact isBroken (breaks.mpr fails)
    exact ⟨result, isResult, .next holds ends⟩

/-- A step whose condition is known to hold can be put in front. -/
theorem Follows.known
    {failure : Result → Option Code} {condition : Prop} {code : Code}
    {steps : List (Prop × Code)} {outcome : Except Error Result}
    (holds : condition) (follows : Follows failure steps outcome) :
    Follows failure ((condition, code) :: steps) outcome := by
  obtain ⟨result, isResult, ends⟩ := follows
  exact ⟨result, isResult, .next holds ends⟩

/-- A first step that fails decides. -/
theorem follows_of_fails
    {failure : Result → Option Code} {condition : Prop} {code : Code}
    {refusal : Result} {steps : List (Prop × Code)}
    (broken : ¬ condition) (fails : failure refusal = some code) :
    Follows failure ((condition, code) :: steps)
      (.ok refusal : Except Error Result) :=
  ⟨refusal, rfl, fails ▸ .failed broken⟩

end AgenId.Library
