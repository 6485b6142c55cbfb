import Mathlib.Data.List.Lex
import Mathlib.Data.Nat.Digits.Defs
import Mathlib.Data.Nat.Digits.Lemmas
import Mathlib.Order.Monotone.Basic
import Mathlib.Tactic.Ring

/-!
# Positional notation

A list of digits, the most significant first, denotes a number.  Lists of one
length are in the order of the numbers that they denote, so that a strictly
monotone alphabet keeps that order in the written text.
-/

namespace AgenId.Library

/-- The number that a list of digits denotes, the first being the most
significant. -/
def bigEndian (base : Nat) (digits : List Nat) : Nat :=
  Nat.ofDigits base digits.reverse

variable {base : Nat}

@[simp]
theorem bigEndian_nil : bigEndian base [] = 0 :=
  rfl

theorem bigEndian_cons (digit : Nat) (rest : List Nat) :
    bigEndian base (digit :: rest) =
      digit * base ^ rest.length + bigEndian base rest := by
  rw [bigEndian, Nat.ofDigits_reverse_cons, bigEndian]
  ring

theorem bigEndian_append (front back : List Nat) :
    bigEndian base (front ++ back) =
      bigEndian base front * base ^ back.length + bigEndian base back := by
  rw [bigEndian, List.reverse_append, Nat.ofDigits_append, List.length_reverse,
    bigEndian, bigEndian]
  ring

theorem bigEndian_lt
    (atLeastTwo : 1 < base) {digits : List Nat}
    (small : ∀ digit ∈ digits, digit < base) :
    bigEndian base digits < base ^ digits.length := by
  have below := Nat.ofDigits_lt_base_pow_length atLeastTwo
    (fun digit isDigit => small digit (List.mem_reverse.mp isDigit))
  rwa [List.length_reverse] at below

/-- A number with a smaller digit in front is smaller. -/
theorem bigEndian_cons_lt
    (atLeastTwo : 1 < base) {first second : Nat} {firsts seconds : List Nat}
    (sameLength : firsts.length = seconds.length)
    (small : ∀ digit ∈ firsts, digit < base) (less : first < second) :
    bigEndian base (first :: firsts) < bigEndian base (second :: seconds) := by
  have below := bigEndian_lt atLeastTwo small
  have carry : (first + 1) * base ^ firsts.length ≤
      second * base ^ firsts.length :=
    Nat.mul_le_mul_right _ less
  rw [bigEndian_cons, bigEndian_cons, ← sameLength]
  rw [Nat.add_mul, Nat.one_mul] at carry
  omega

/-- Lists of one length are in the order of their numbers. -/
theorem bigEndian_lt_iff
    (atLeastTwo : 1 < base) {left right : List Nat}
    (sameLength : left.length = right.length)
    (leftSmall : ∀ digit ∈ left, digit < base)
    (rightSmall : ∀ digit ∈ right, digit < base) :
    bigEndian base left < bigEndian base right ↔ left < right := by
  induction left generalizing right with
  | nil =>
      have isNil : right = [] := List.length_eq_zero_iff.mp sameLength.symm
      simp [isNil]
  | cons first firsts inductionHypothesis =>
      cases right with
      | nil => cases sameLength
      | cons second seconds =>
          have sameRest : firsts.length = seconds.length :=
            Nat.succ.inj sameLength
          obtain ⟨-, firstsSmall⟩ := List.forall_mem_cons.mp leftSmall
          obtain ⟨-, secondsSmall⟩ := List.forall_mem_cons.mp rightSmall
          rw [List.cons_lt_cons_iff]
          rcases lt_trichotomy first second with less | rfl | greater
          · simp only [less, true_or, iff_true]
            exact bigEndian_cons_lt atLeastTwo sameRest firstsSmall less
          · rw [bigEndian_cons, bigEndian_cons, sameRest,
              Nat.add_lt_add_iff_left,
              inductionHypothesis sameRest firstsSmall secondsSmall]
            simp
          · have notLess := bigEndian_cons_lt atLeastTwo sameRest.symm
              secondsSmall greater
            have different : first ≠ second := ne_of_gt greater
            simp only [not_lt_of_gt greater, different, false_and, or_self,
              iff_false, not_lt]
            exact notLess.le

/-- A list of digits of a known length is its number. -/
theorem bigEndian_injective
    (atLeastTwo : 1 < base) {left right : List Nat}
    (sameLength : left.length = right.length)
    (leftSmall : ∀ digit ∈ left, digit < base)
    (rightSmall : ∀ digit ∈ right, digit < base)
    (same : bigEndian base left = bigEndian base right) : left = right := by
  have reversed := Nat.ofDigits_inj_of_len_eq atLeastTwo
    (by rwa [List.length_reverse, List.length_reverse])
    (fun digit isDigit => leftSmall digit (List.mem_reverse.mp isDigit))
    (fun digit isDigit => rightSmall digit (List.mem_reverse.mp isDigit))
    same
  exact List.reverse_injective reversed

/-- Digits written in a strictly monotone alphabet keep their order. -/
theorem map_lt_map_iff
    {Unit : Type*} [LinearOrder Unit] {write : Nat → Unit}
    {left right : List Nat}
    (monotone : StrictMonoOn write (Set.Iio base))
    (leftSmall : ∀ digit ∈ left, digit < base)
    (rightSmall : ∀ digit ∈ right, digit < base) :
    left.map write < right.map write ↔ left < right := by
  induction left generalizing right with
  | nil => cases right <;> simp
  | cons first firsts inductionHypothesis =>
      cases right with
      | nil => simp
      | cons second seconds =>
          obtain ⟨firstSmall, firstsSmall⟩ := List.forall_mem_cons.mp leftSmall
          obtain ⟨secondSmall, secondsSmall⟩ :=
            List.forall_mem_cons.mp rightSmall
          rw [List.map_cons, List.map_cons, List.cons_lt_cons_iff,
            List.cons_lt_cons_iff,
            monotone.lt_iff_lt firstSmall secondSmall,
            monotone.injOn.eq_iff firstSmall secondSmall,
            inductionHypothesis firstsSmall secondsSmall]

end AgenId.Library
