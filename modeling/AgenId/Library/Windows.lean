import Mathlib.Algebra.Order.Group.Int
import Mathlib.Data.List.Nodup
import Mathlib.Data.List.Range
import Mathlib.Tactic.Linarith
import Mathlib.Tactic.Ring

/-!
# Fixed windows

The instants of a line are cut into windows of one length, aligned with its
origin; an instant belongs to the window that starts last before it.

The entries of a window that a counter numbers from zero on are answered by
their numbers.  If only the numbers below a bound are allowed, at most that
many entries are, and if all of these are allowed, the first ones are.
-/

namespace AgenId.Library

/-! ## Alignment -/

/-- The start of the window of an instant. -/
def windowStart (length now : ℤ) : ℤ := now.fdiv length * length

section Alignment

variable {length now : ℤ} (positive : 0 < length)

include positive

theorem windowStart_le : windowStart length now ≤ now := by
  unfold windowStart
  rw [Int.fdiv_eq_ediv_of_nonneg now positive.le]
  exact Int.ediv_mul_le now positive.ne'

theorem lt_windowStart_add : now < windowStart length now + length := by
  unfold windowStart
  rw [Int.fdiv_eq_ediv_of_nonneg now positive.le]
  have less := Int.lt_ediv_add_one_mul_self now positive
  calc
    now < (now / length + 1) * length := less
    _ = now / length * length + length := by ring

/-- An instant belongs to the one window that it lies in. -/
theorem windowStart_eq_iff {index : ℤ} :
    windowStart length now = index * length ↔
      index * length ≤ now ∧ now < index * length + length := by
  constructor
  · intro same
    rw [← same]
    exact ⟨windowStart_le positive, lt_windowStart_add positive⟩
  · rintro ⟨after, before⟩
    have isIndex : now / length = index := by
      apply Int.le_antisymm
      · apply Int.lt_add_one_iff.mp
        apply Int.ediv_lt_of_lt_mul positive
        calc
          now < index * length + length := before
          _ = (index + 1) * length := by ring
      · exact Int.le_ediv_of_mul_le positive after
    unfold windowStart
    rw [Int.fdiv_eq_ediv_of_nonneg now positive.le, isIndex]

/-- After the end of a window comes a later one. -/
theorem windowStart_add_le {later : ℤ}
    (after : windowStart length now + length ≤ later) :
    windowStart length now + length ≤ windowStart length later := by
  unfold windowStart at after ⊢
  rw [Int.fdiv_eq_ediv_of_nonneg _ positive.le] at after ⊢
  rw [Int.fdiv_eq_ediv_of_nonneg _ positive.le]
  have next : now / length + 1 ≤ later / length := by
    apply Int.le_ediv_of_mul_le positive
    calc
      (now / length + 1) * length = now / length * length + length := by ring
      _ ≤ later := after
  calc
    now / length * length + length = (now / length + 1) * length := by ring
    _ ≤ later / length * length :=
      Int.mul_le_mul_of_nonneg_right next positive.le

omit positive in
/-- Windows in a finer unit start at the same instants. -/
theorem windowStart_mul {factor : ℤ} (isFactor : 0 < factor) :
    windowStart (length * factor) (now * factor) =
      windowStart length now * factor := by
  unfold windowStart
  rw [Int.mul_fdiv_mul_of_pos_left _ _ isFactor, mul_assoc]

end Alignment

/-! ## Numbered entries -/

theorem countP_range_lt (bound count : ℕ) :
    (List.range count).countP (fun number => decide (number < bound)) =
      min count bound := by
  induction count with
  | zero => simp
  | succ count inductionHypothesis =>
      rw [List.range_succ, List.countP_append, inductionHypothesis]
      by_cases below : count < bound
      · simp [below]
        omega
      · simp [below]
        omega

variable {Answer : Type*} {answer : ℕ → Answer} {allowed : Answer → Bool}
  {bound : ℕ}

/-- At most so many entries are allowed as there are numbers below the
bound. -/
theorem countP_numbered_le
    (bounded : ∀ number, allowed (answer number) = true → number < bound)
    (count : ℕ) :
    ((List.range count).map answer).countP allowed ≤ bound := by
  rw [List.countP_map]
  calc
    (List.range count).countP (allowed ∘ answer)
        ≤ (List.range count).countP
            (fun number => decide (number < bound)) := by
      apply List.countP_mono_left
      intro number _ isAllowed
      exact decide_eq_true (bounded number isAllowed)
    _ = min count bound := countP_range_lt bound count
    _ ≤ bound := min_le_right _ _

/-- What is reported of different numbers is different. -/
theorem nodup_reported
    {Report : Type*} {report : Answer → Option Report}
    (injective : ∀ first second value, report (answer first) = some value →
      report (answer second) = some value → first = second)
    (count : ℕ) :
    (((List.range count).map answer).filterMap report).Nodup := by
  rw [List.filterMap_map]
  apply List.Nodup.filterMap _ List.nodup_range
  intro first second value isFirst isSecond
  exact injective first second value isFirst isSecond

end AgenId.Library
