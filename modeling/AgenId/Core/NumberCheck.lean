import AgenId.Core.NumberDomain

/-!
# The number check and the serializer

Two walks over a value refuse its numbers: `validateNumberDomain`, for what
comes in, and the serializer, for what is signed.  They refuse the same
values, except that the serializer refuses a bigint as a number out of the
domain and the check passes over it.
-/

namespace AgenId.Core

open AgenId.Ecma

/-! ## The check -/

theorem validateItems_refuses
    {items : List JsValue}
    (each : ∀ item ∈ items, ∀ path,
      RefusesWhen (validateNumberDomain item path) (HasOutOfDomain item))
    (path : JsString) (index : Nat) :
    RefusesWhen (validateItems items path index)
      (∃ item ∈ items, HasOutOfDomain item) := by
  induction items generalizing index with
  | nil => exact .ok () (by simp)
  | cons item rest inductionHypothesis =>
      obtain ⟨first, others⟩ := List.forall_mem_cons.mp each
      rw [validateItems]
      refine ((first _).bind fun _ =>
        inductionHypothesis others (index + 1)).congr ?_
      rw [List.exists_mem_cons_iff]

theorem validateMembers_refuses
    {members : List (JsString × JsValue)}
    (each : ∀ entry ∈ members, ∀ path,
      RefusesWhen (validateNumberDomain entry.2 path)
        (HasOutOfDomain entry.2))
    (path : JsString) :
    RefusesWhen (validateMembers members path)
      (∃ entry ∈ members, HasOutOfDomain entry.2) := by
  induction members with
  | nil => exact .ok () (by simp)
  | cons entry rest inductionHypothesis =>
      obtain ⟨first, others⟩ := List.forall_mem_cons.mp each
      rw [validateMembers]
      refine ((first _).bind fun _ => inductionHypothesis others).congr ?_
      rw [List.exists_mem_cons_iff]

/-- The check refuses the numbers out of the domain, and nothing else. -/
theorem validateNumberDomain_refuses
    {value : JsValue} (data : IsData value) :
    ∀ path, RefusesWhen (validateNumberDomain value path)
      (HasOutOfDomain value) := by
  have leaf : ∀ value : JsValue,
      (∀ path, validateNumberDomain value path = .ok ()) →
      (∀ number, ¬ Inside (.number number) value) →
      ∀ path, RefusesWhen (validateNumberDomain value path)
        (HasOutOfDomain value) := by
    intro value passes noNumber path
    rw [passes]
    exact .ok () fun ⟨number, inside, _⟩ => noNumber number inside
  induction data with
  | null => exact leaf .null (fun _ => rfl) (by rintro _ ⟨⟩)
  | boolean value =>
      exact leaf (.boolean value) (fun _ => rfl) (by rintro _ ⟨⟩)
  | bigint => exact leaf .bigint (fun _ => rfl) (by rintro _ ⟨⟩)
  | string text => exact leaf (.string text) (fun _ => rfl) (by rintro _ ⟨⟩)
  | number number =>
      intro path
      rw [validateNumberDomain]
      exact ((assertNumberDomain_refuses number path).map _).congr
        hasOutOfDomain_number.symm
  | array areData inductionHypothesis =>
      intro path
      rw [validateNumberDomain]
      exact (validateItems_refuses inductionHypothesis path 0).congr
        hasOutOfDomain_array.symm
  | object areData inductionHypothesis =>
      intro path
      rw [validateNumberDomain]
      exact (validateMembers_refuses inductionHypothesis path).congr
        hasOutOfDomain_object.symm

/-! ## What the check predicts -/

/-- A finite number that is a safe integer, no integer, or so large that it
is written with an exponent. -/
def IsPortable (number : JsNumber) : Prop :=
  ∃ datum, number = .finite datum ∧
    (datum.magnitude ≤ 2 ^ 53 - 1 ∨ (¬ ∃ n : Nat, datum.magnitude = n) ∨
      10 ^ 21 ≤ datum.magnitude)

theorem isPortable_iff {number : JsNumber} :
    IsPortable number ↔ ¬ OutOfDomain number := by
  have isMaximum : (MAX_SAFE : ℚ) = 2 ^ 53 - 1 := by norm_num [MAX_SAFE]
  rw [not_outOfDomain_iff, isMaximum, IsPortable]

theorem unsigned_number {number : JsNumber} :
    Unsigned (.number number) ↔ ¬ IsPortable number := by
  rw [unsigned_number_iff, isPortable_iff, not_not]

/-- The check refuses what the serializer refuses, unless a value has a bigint
and no number out of the domain.  Both accept the same numbers. -/
theorem validateNumberDomain_predicts_iff
    {value : JsValue} (data : IsData value) :
    ((RejectsNumber (validateNumberDomain value (units "$")) ↔
        RejectsNumber (canonicalize value)) ↔
      (Inside .bigint value →
        ∃ number, Inside (.number number) value ∧ ¬ IsPortable number)) ∧
    ∀ number,
      ((∃ result, validateNumberDomain (.number number) (units "$") =
          .ok result) ↔ IsPortable number) ∧
      ((∃ text, canonicalize (.number number) = .ok text) ↔
        IsPortable number) := by
  constructor
  · have isChecked :=
      (validateNumberDomain_refuses data (units "$")).rejects_iff
    have isWritten := (serialize_refuses data (units "$")).rejects_iff
    have notPortable : HasOutOfDomain value ↔
        ∃ number, Inside (.number number) value ∧ ¬ IsPortable number := by
      simp only [HasOutOfDomain, isPortable_iff, not_not]
    rw [isChecked, canonicalize, isWritten, ← notPortable, Unsigned]
    constructor
    · intro same isBigint
      exact same.mpr (Or.inl isBigint)
    · intro covered
      exact ⟨Or.inr, fun unsigned => unsigned.elim covered id⟩
  · intro number
    have isChecked := validateNumberDomain_refuses (.number number) (units "$")
    have isWritten := serialize_refuses (.number number) (units "$")
    constructor
    · rw [isChecked.ok_iff, hasOutOfDomain_number, isPortable_iff]
    · rw [canonicalize, isWritten.ok_iff, unsigned_number, not_not]

/-- A bigint beside a number that is not finite. -/
theorem validateNumberDomain_predicts_iff_sample :
    RejectsNumber (validateNumberDomain
        (.object [(units "x", .array [.bigint, .number .nan])])
        (units "$")) ↔
      RejectsNumber (canonicalize
        (.object [(units "x", .array [.bigint, .number .nan])])) := by
  have data : IsData
      (.object [(units "x", .array [.bigint, .number .nan])]) := by
    refine .object (List.forall_mem_singleton.mpr (.array ?_))
    exact List.forall_mem_cons.mpr
      ⟨.bigint, List.forall_mem_singleton.mpr (.number .nan)⟩
  refine (validateNumberDomain_predicts_iff data).1.mpr fun _ =>
    ⟨.nan, ?_, ?_⟩
  · exact .member List.mem_cons_self
      (.item (List.mem_cons_of_mem _ List.mem_cons_self) .itself)
  · intro portable
    obtain ⟨datum, isFinite, -⟩ := portable
    cases isFinite

/-- The check passes over a bigint, which the serializer refuses. -/
theorem validateNumberDomain_misses_bigint :
    ¬ ∀ value, IsData value →
      (RejectsNumber (validateNumberDomain value (units "$")) ↔
        RejectsNumber (canonicalize value)) := by
  intro predicts
  have data : IsData (.object [(units "x", .bigint)]) :=
    .object (List.forall_mem_singleton.mpr .bigint)
  obtain ⟨message, isError⟩ := (predicts _ data).mpr ⟨_, rfl⟩
  cases isError

end AgenId.Core
