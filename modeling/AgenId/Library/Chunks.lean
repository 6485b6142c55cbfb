import Mathlib.Data.List.Basic

/-!
# Chunks

A sequence that arrives in pieces: where it grows beyond a limit, and how it
is put together by writing each piece at its offset.
-/

namespace AgenId.Library

variable {α : Type}

/-! ## Crossing a limit -/

/-- The piece with which a sequence of pieces grows beyond a limit, between
those before it and those after it. -/
structure CrossesAt (limit : ℕ) (chunks before : List (List α))
    (crossing : List α) (after : List (List α)) : Prop where
  isSplit : chunks = before ++ crossing :: after
  within : before.flatten.length ≤ limit
  beyond : limit < before.flatten.length + crossing.length

section Crossing

variable {limit : ℕ} {chunk : List α} {chunks after : List (List α)}

theorem not_crossesAt_nil {before : List (List α)} {crossing : List α} :
    ¬ CrossesAt limit [] before crossing after := by
  intro crosses
  exact absurd crosses.isSplit (List.append_ne_nil_of_right_ne_nil _
    (List.cons_ne_nil _ _)).symm

/-- A first piece that is beyond the limit is the one that crosses it. -/
theorem crossesAt_first_iff (beyond : limit < chunk.length) :
    (∃ before crossing, CrossesAt limit (chunk :: chunks) before crossing
      after) ↔ chunks = after := by
  constructor
  · rintro ⟨before, crossing, crosses⟩
    cases before with
    | nil => exact (List.cons.inj crosses.isSplit).2
    | cons first others =>
        have within := crosses.within
        rw [← (List.cons.inj crosses.isSplit).1, List.flatten_cons,
          List.length_append] at within
        omega
  · intro isRest
    exact ⟨[], chunk, congrArg (chunk :: ·) isRest, Nat.zero_le limit, by
      rwa [List.flatten_nil, List.length_nil, Nat.zero_add]⟩

/-- A first piece within the limit leaves the rest of the limit to the rest of
the pieces. -/
theorem crossesAt_later_iff (within : chunk.length ≤ limit) :
    (∃ before crossing, CrossesAt limit (chunk :: chunks) before crossing
      after) ↔
      ∃ before crossing, CrossesAt (limit - chunk.length) chunks before
        crossing after := by
  constructor
  · rintro ⟨before, crossing, isSplit, before_le, beyond⟩
    cases before with
    | nil =>
        rw [← (List.cons.inj isSplit).1, List.flatten_nil, List.length_nil]
          at beyond
        omega
    | cons first others =>
        obtain ⟨isFirst, isRest⟩ := List.cons.inj isSplit
        rw [← isFirst, List.flatten_cons, List.length_append]
          at before_le beyond
        exact ⟨others, crossing, isRest, by omega, by omega⟩
  · rintro ⟨before, crossing, isSplit, before_le, beyond⟩
    refine ⟨chunk :: before, crossing, congrArg (chunk :: ·) isSplit, ?_, ?_⟩
    · rw [List.flatten_cons, List.length_append]
      omega
    · rw [List.flatten_cons, List.length_append]
      omega

/-- Some piece crosses the limit when all of them together do. -/
theorem exists_crossesAt (beyond : limit < chunks.flatten.length) :
    ∃ after before crossing, CrossesAt limit chunks before crossing after := by
  induction chunks generalizing limit with
  | nil => exact absurd beyond (Nat.not_lt_zero limit)
  | cons chunk rest inductionHypothesis =>
      rw [List.flatten_cons, List.length_append] at beyond
      by_cases isFirst : limit < chunk.length
      · exact ⟨rest, (crossesAt_first_iff isFirst).mpr rfl⟩
      · have within := Nat.not_lt.mp isFirst
        have inRest : limit - chunk.length < rest.flatten.length := by
          omega
        obtain ⟨after, crosses⟩ := inductionHypothesis inRest
        exact ⟨after, (crossesAt_later_iff within).mpr crosses⟩

end Crossing

/-! ## Writing at offsets -/

/-- A buffer with a piece written over it at an offset. -/
def overwrite (buffer : List α) (offset : ℕ) (chunk : List α) : List α :=
  buffer.take offset ++ chunk ++ buffer.drop (offset + chunk.length)

/-- A buffer with pieces written over it one behind the other. -/
def overwriteAll : List α → ℕ → List (List α) → List α
  | buffer, _, [] => buffer
  | buffer, offset, chunk :: rest =>
    overwriteAll (overwrite buffer offset chunk) (offset + chunk.length) rest

theorem overwrite_append (front back chunk : List α) :
    overwrite (front ++ back) front.length chunk =
      front ++ chunk ++ back.drop chunk.length := by
  rw [overwrite, List.take_left, List.drop_append]
  simp

/-- Pieces written behind what is there already stand there in order. -/
theorem overwriteAll_append (front back : List α) (chunks : List (List α)) :
    overwriteAll (front ++ back) front.length chunks =
      front ++ chunks.flatten ++ back.drop chunks.flatten.length := by
  induction chunks generalizing front back with
  | nil => simp [overwriteAll]
  | cons chunk rest inductionHypothesis =>
      have isNext := inductionHypothesis (front ++ chunk)
        (back.drop chunk.length)
      rw [List.length_append] at isNext
      rw [overwriteAll, overwrite_append, isNext, List.flatten_cons,
        List.length_append, List.drop_drop]
      simp only [List.append_assoc]

/-- A buffer of the right size is filled with the sequence. -/
theorem overwriteAll_whole {buffer : List α} {chunks : List (List α)}
    (sameSize : buffer.length = chunks.flatten.length) :
    overwriteAll buffer 0 chunks = chunks.flatten := by
  have isFilled := overwriteAll_append [] buffer chunks
  rw [List.nil_append, List.length_nil, ← sameSize, List.drop_length,
    List.append_nil, List.nil_append] at isFilled
  exact isFilled

end AgenId.Library
