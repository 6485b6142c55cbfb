import Mathlib.Data.List.Infix
import Mathlib.Data.List.Count

/-!
# Placeholders

A text is filled from a table of marks: a scan from left to right writes the
text of a mark for each placeholder of the mark and copies everything else.
Marks open with a unit that does not come again in them, so placeholders do
not overlap.
-/

namespace AgenId.Library

variable {α : Type}

/-- The placeholder of a hole: a unit that opens it and does not come again. -/
structure Mark (α : Type) where
  opening : α
  body : List α
  fresh : opening ∉ body

/-- The units of a placeholder. -/
def Mark.text (mark : Mark α) : List α :=
  mark.opening :: mark.body

/-- Placeholders open alike, and neither begins the other. -/
structure Mark.Apart (first second : Mark α) : Prop where
  sameOpening : first.opening = second.opening
  notFirst : ¬ first.text <+: second.text
  notSecond : ¬ second.text <+: first.text

theorem Mark.Apart.symm {first second : Mark α} (apart : first.Apart second) :
    second.Apart first :=
  ⟨apart.sameOpening.symm, apart.notSecond, apart.notFirst⟩

theorem Mark.Apart.not_begins
    {first second : Mark α} (apart : first.Apart second) (rest : List α) :
    ¬ first.text <+: second.text ++ rest := by
  intro begins
  rcases List.prefix_or_prefix_of_prefix begins
    (List.prefix_append second.text rest) with isFirst | isSecond
  · exact apart.notFirst isFirst
  · exact apart.notSecond isSecond

theorem Mark.Apart.opening_not_mem
    {first second : Mark α} (apart : first.Apart second) :
    first.opening ∉ second.body := by
  rw [apart.sameOpening]
  exact second.fresh

theorem Mark.not_prefix_cons
    {mark : Mark α} {unit : α} (different : unit ≠ mark.opening)
    (rest : List α) : ¬ mark.text <+: unit :: rest := by
  intro begins
  exact different (List.cons_prefix_cons.mp begins).1.symm

/-- What begins a text and lacks one of its units ends before that unit. -/
theorem prefix_append_cons_iff
    {pattern front rest : List α} {unit : α} (absent : unit ∉ pattern) :
    pattern <+: front ++ unit :: rest ↔ pattern <+: front := by
  constructor
  · intro begins
    rcases List.prefix_or_prefix_of_prefix begins
      (List.prefix_append front (unit :: rest)) with isShort | isLong
    · exact isShort
    · obtain ⟨after, rfl⟩ := isLong
      cases after with
      | nil => rw [List.append_nil]
      | cons other after =>
          have isUnit := (List.prefix_append_right_inj front).mp begins
          rw [List.cons_prefix_cons] at isUnit
          simp [isUnit.1] at absent
  · intro begins
    exact begins.trans (List.prefix_append _ _)

variable [BEq α] [LawfulBEq α]

/-! ## Filling -/

/-- The first entry of a table whose placeholder begins a text. -/
def marked (table : List (Mark α × List α)) (text : List α) :
    Option (Mark α × List α) :=
  table.find? fun entry => entry.1.text.isPrefixOf text

/-- The rest of a text, filled after some units that a placeholder takes. -/
def fillFrom (table : List (Mark α × List α)) : Nat → List α → List α
  | _, [] => []
  | skipped + 1, _ :: rest => fillFrom table skipped rest
  | 0, unit :: rest =>
    match marked table (unit :: rest) with
    | some entry => entry.2 ++ fillFrom table entry.1.body.length rest
    | none => unit :: fillFrom table 0 rest

/-- A text with the texts of a table in the places of its placeholders. -/
def fill (table : List (Mark α × List α)) (text : List α) : List α :=
  fillFrom table 0 text

section Scan

variable {table : List (Mark α × List α)} {entry : Mark α × List α}
  {unit : α} {rest text : List α}

theorem prefix_of_marked (isMarked : marked table text = some entry) :
    entry.1.text <+: text := by
  rw [marked] at isMarked
  have begins := List.find?_some isMarked
  exact List.isPrefixOf_iff_prefix.mp begins

omit [LawfulBEq α] in
theorem fillFrom_append (front : List α) :
    fillFrom table front.length (front ++ rest) = fill table rest := by
  induction front with
  | nil => rfl
  | cons unit front inductionHypothesis => exact inductionHypothesis

omit [LawfulBEq α] in
@[simp]
theorem fill_nil : fill table [] = [] := rfl

omit [LawfulBEq α] in
theorem fill_marked
    {mark : Mark α} {replacement : List α}
    (isMarked : marked table (mark.text ++ rest) = some (mark, replacement)) :
    fill table (mark.text ++ rest) = replacement ++ fill table rest := by
  rw [Mark.text, List.cons_append] at isMarked ⊢
  rw [fill, fillFrom, isMarked]
  dsimp only
  rw [fillFrom_append]

omit [LawfulBEq α] in
theorem fill_unmarked (isMarked : marked table (unit :: rest) = none) :
    fill table (unit :: rest) = unit :: fill table rest := by
  rw [fill, fillFrom, isMarked]
  rfl

/-- What holds of the empty text, and of a text if it does after a placeholder
or a unit that begins none, holds of every text. -/
theorem fill_induction
    (table : List (Mark α × List α)) {motive : List α → Prop}
    (nil : motive [])
    (hole : ∀ entry rest, marked table (entry.1.text ++ rest) = some entry →
      motive rest → motive (entry.1.text ++ rest))
    (copied : ∀ unit rest, marked table (unit :: rest) = none →
      motive rest → motive (unit :: rest))
    (text : List α) : motive text := by
  generalize size : text.length = length
  induction length using Nat.strong_induction_on generalizing text with
  | _ length inductionHypothesis =>
      cases text with
      | nil => exact nil
      | cons unit rest =>
          cases isMarked : marked table (unit :: rest) with
          | none =>
              refine copied unit rest isMarked ?_
              exact inductionHypothesis rest.length
                (by rw [← size]; exact Nat.lt_succ_self _) rest rfl
          | some entry =>
              obtain ⟨after, isText⟩ := prefix_of_marked isMarked
              have shorter : after.length < length := by
                rw [← size, ← isText, List.length_append, Mark.text,
                  List.length_cons]
                omega
              rw [← isText] at isMarked ⊢
              exact hole entry after isMarked
                (inductionHypothesis after.length shorter after rfl)

end Scan

/-! ## One mark -/

section OneMark

variable {mark : Mark α} {replacement : List α} {unit : α} {rest : List α}

theorem marked_one (rest : List α) :
    marked [(mark, replacement)] (mark.text ++ rest) =
      some (mark, replacement) := by
  have begins : mark.text.isPrefixOf (mark.text ++ rest) = true :=
    List.isPrefixOf_iff_prefix.mpr (List.prefix_append _ _)
  simp [marked, begins]

theorem marked_one_eq_none_iff {text : List α} :
    marked [(mark, replacement)] text = none ↔ ¬ mark.text <+: text := by
  rw [marked, List.find?_eq_none, List.forall_mem_singleton,
    List.isPrefixOf_iff_prefix]

omit [LawfulBEq α] in
theorem marked_one_eq_some
    {entry : Mark α × List α} {text : List α}
    (isMarked : marked [(mark, replacement)] text = some entry) :
    entry = (mark, replacement) :=
  List.mem_singleton.mp (List.mem_of_find?_eq_some isMarked)

/-- An induction along the scan for one mark. -/
theorem mark_induction
    (mark : Mark α) {motive : List α → Prop} (nil : motive [])
    (hole : ∀ rest, motive rest → motive (mark.text ++ rest))
    (copied : ∀ unit rest, ¬ mark.text <+: unit :: rest → motive rest →
      motive (unit :: rest))
    (text : List α) : motive text := by
  refine fill_induction [(mark, [])] nil ?_ ?_ text
  · intro entry rest isMarked isRest
    obtain rfl := marked_one_eq_some isMarked
    exact hole rest isRest
  · intro unit rest isUnmarked isRest
    exact copied unit rest (marked_one_eq_none_iff.mp isUnmarked) isRest

theorem fill_one_hole (rest : List α) :
    fill [(mark, replacement)] (mark.text ++ rest) =
      replacement ++ fill [(mark, replacement)] rest :=
  fill_marked (marked_one rest)

theorem fill_one_copied (unmarked : ¬ mark.text <+: unit :: rest) :
    fill [(mark, replacement)] (unit :: rest) =
      unit :: fill [(mark, replacement)] rest :=
  fill_unmarked (marked_one_eq_none_iff.mpr unmarked)

/-- Units that do not open the placeholder are copied. -/
theorem fill_one_append
    {front : List α} (closed : mark.opening ∉ front) (rest : List α) :
    fill [(mark, replacement)] (front ++ rest) =
      front ++ fill [(mark, replacement)] rest := by
  induction front with
  | nil => rfl
  | cons unit front inductionHypothesis =>
      rw [List.mem_cons, not_or] at closed
      obtain ⟨different, closedFront⟩ := closed
      rw [List.cons_append,
        fill_one_copied (Mark.not_prefix_cons (Ne.symm different) _),
        inductionHypothesis closedFront]
      rfl

/-- The placeholder of another mark is copied. -/
theorem fill_one_other
    {other : Mark α} (apart : mark.Apart other) (rest : List α) :
    fill [(mark, replacement)] (other.text ++ rest) =
      other.text ++ fill [(mark, replacement)] rest := by
  have unmarked : ¬ mark.text <+: other.opening :: (other.body ++ rest) :=
    apart.not_begins rest
  have isCopied : fill [(mark, replacement)] (other.text ++ rest) =
      other.opening :: fill [(mark, replacement)] (other.body ++ rest) :=
    fill_one_copied unmarked
  rw [fill_one_append apart.opening_not_mem] at isCopied
  exact isCopied

/-- A placeholder for its own text changes nothing. -/
theorem fill_self (mark : Mark α) (text : List α) :
    fill [(mark, mark.text)] text = text := by
  induction text using mark_induction mark with
  | nil => rfl
  | hole rest inductionHypothesis =>
      rw [fill_one_hole, inductionHypothesis]
  | copied unit rest unmarked inductionHypothesis =>
      rw [fill_one_copied unmarked, inductionHypothesis]

end OneMark

/-! ## Occurrences -/

/-- The number of places of a text where a pattern begins. -/
def occurrences (pattern : List α) : List α → Nat
  | [] => 0
  | unit :: rest =>
    (if pattern.isPrefixOf (unit :: rest) then 1 else 0) +
      occurrences pattern rest

section Occurrences

variable {mark : Mark α} {replacement : List α} {pattern : List α} {unit : α}
  {rest : List α}

theorem occurrences_cons_of_not (unmarked : ¬ pattern <+: unit :: rest) :
    occurrences pattern (unit :: rest) = occurrences pattern rest := by
  rw [occurrences, if_neg (mt List.isPrefixOf_iff_prefix.mp unmarked),
    Nat.zero_add]

theorem occurrences_cons_of_begins (begins : pattern <+: unit :: rest) :
    occurrences pattern (unit :: rest) = occurrences pattern rest + 1 := by
  rw [occurrences, if_pos (List.isPrefixOf_iff_prefix.mpr begins),
    Nat.add_comm]

omit [LawfulBEq α] in
theorem occurrences_le_append (front : List α) :
    occurrences pattern rest ≤ occurrences pattern (front ++ rest) := by
  induction front with
  | nil => exact Nat.le_refl _
  | cons unit front inductionHypothesis =>
      exact inductionHypothesis.trans (Nat.le_add_left _ _)

theorem occurrences_append_of_closed
    {front : List α} (closed : mark.opening ∉ front) (rest : List α) :
    occurrences mark.text (front ++ rest) = occurrences mark.text rest := by
  induction front with
  | nil => rfl
  | cons unit front inductionHypothesis =>
      rw [List.mem_cons, not_or] at closed
      obtain ⟨different, closedFront⟩ := closed
      rw [List.cons_append, occurrences_cons_of_not
        (Mark.not_prefix_cons (Ne.symm different) _),
        inductionHypothesis closedFront]

theorem occurrences_hole (rest : List α) :
    occurrences mark.text (mark.text ++ rest) =
      occurrences mark.text rest + 1 := by
  have begins : mark.text <+: mark.opening :: (mark.body ++ rest) :=
    List.prefix_append mark.text rest
  have first := occurrences_cons_of_begins begins
  rw [occurrences_append_of_closed mark.fresh] at first
  exact first

theorem occurrences_other
    {other : Mark α} (apart : mark.Apart other) (rest : List α) :
    occurrences mark.text (other.text ++ rest) =
      occurrences mark.text rest := by
  have unmarked : ¬ mark.text <+: other.opening :: (other.body ++ rest) :=
    apart.not_begins rest
  have first := occurrences_cons_of_not unmarked
  rw [occurrences_append_of_closed apart.opening_not_mem] at first
  exact first

/-- What has no placeholder beginning in it is copied. -/
theorem fill_one_of_occurrences
    {front : List α} (same : occurrences mark.text (front ++ rest) =
      occurrences mark.text rest) :
    fill [(mark, replacement)] (front ++ rest) =
      front ++ fill [(mark, replacement)] rest := by
  induction front with
  | nil => rfl
  | cons unit front inductionHypothesis =>
      have later : occurrences mark.text rest ≤
          occurrences mark.text (front ++ rest) := occurrences_le_append front
      by_cases begins : mark.text <+: unit :: (front ++ rest)
      · rw [List.cons_append, occurrences_cons_of_begins begins] at same
        omega
      · rw [List.cons_append, occurrences_cons_of_not begins] at same
        rw [List.cons_append, fill_one_copied begins,
          inductionHypothesis same]
        rfl

theorem fill_one_of_none {text : List α}
    (none : occurrences mark.text text = 0) :
    fill [(mark, replacement)] text = text := by
  have copied : fill [(mark, replacement)] (text ++ []) =
      text ++ fill [(mark, replacement)] [] := by
    apply fill_one_of_occurrences
    rw [List.append_nil]
    exact none
  rwa [List.append_nil, fill_nil, List.append_nil] at copied

/-- No placeholder goes over a unit that it lacks. -/
theorem occurrences_append_cons
    (absent : unit ∉ pattern) (front : List α) :
    occurrences pattern (front ++ unit :: rest) =
      occurrences pattern front + occurrences pattern (unit :: rest) := by
  induction front with
  | nil => rw [List.nil_append, occurrences, Nat.zero_add]
  | cons first front inductionHypothesis =>
      have begins : pattern <+: first :: (front ++ unit :: rest) ↔
          pattern <+: first :: front := by
        rw [← List.cons_append]
        exact prefix_append_cons_iff absent
      by_cases isPrefix : pattern <+: first :: front
      · rw [occurrences_cons_of_begins isPrefix, List.cons_append,
          occurrences_cons_of_begins (begins.mpr isPrefix),
          inductionHypothesis]
        omega
      · rw [occurrences_cons_of_not isPrefix, List.cons_append,
          occurrences_cons_of_not (mt begins.mp isPrefix),
          inductionHypothesis]

theorem occurrences_eq_zero_iff {text : List α} (nonempty : pattern ≠ []) :
    occurrences pattern text = 0 ↔ ¬ pattern <:+: text := by
  induction text with
  | nil => simp [occurrences, nonempty]
  | cons unit rest inductionHypothesis =>
      rw [List.infix_cons_iff, not_or, ← inductionHypothesis]
      by_cases begins : pattern <+: unit :: rest
      · rw [occurrences_cons_of_begins begins]
        simp [begins]
      · rw [occurrences_cons_of_not begins]
        simp [begins]

end Occurrences

/-! ## Runs of one mark -/

section Runs

variable {mark : Mark α} {replacement : List α}

/-- Every placeholder is exchanged for the replacement. -/
theorem fill_one_length (text : List α) :
    (fill [(mark, replacement)] text).length +
        occurrences mark.text text * mark.text.length =
      text.length + occurrences mark.text text * replacement.length := by
  induction text using mark_induction mark with
  | nil => simp [occurrences]
  | hole rest inductionHypothesis =>
      rw [fill_one_hole, occurrences_hole, List.length_append,
        List.length_append, Nat.add_mul, Nat.add_mul]
      omega
  | copied unit rest unmarked inductionHypothesis =>
      rw [fill_one_copied unmarked, occurrences_cons_of_not unmarked,
        List.length_cons, List.length_cons]
      omega

/-- A text is filled with itself when it has no placeholder, or when the
replacement is the placeholder. -/
theorem fill_one_fixed
    {text : List α} (same : fill [(mark, replacement)] text = text) :
    occurrences mark.text text = 0 ∨ replacement = mark.text := by
  have sameLength : occurrences mark.text text * mark.text.length =
      occurrences mark.text text * replacement.length := by
    have exchanged : (fill [(mark, replacement)] text).length +
        occurrences mark.text text * mark.text.length =
      text.length + occurrences mark.text text * replacement.length :=
      fill_one_length text
    rw [same] at exchanged
    omega
  induction text using mark_induction mark with
  | nil => exact Or.inl rfl
  | hole rest _ =>
      have positive : 0 < occurrences mark.text (mark.text ++ rest) := by
        rw [occurrences_hole]
        exact Nat.succ_pos _
      have size := Nat.eq_of_mul_eq_mul_left positive sameLength
      rw [fill_one_hole] at same
      exact Or.inr (List.append_inj same size.symm).1
  | copied unit rest unmarked inductionHypothesis =>
      rw [fill_one_copied unmarked] at same
      rw [occurrences_cons_of_not unmarked] at sameLength ⊢
      exact inductionHypothesis (List.cons.inj same).2 sameLength

/-- A replacement that is filled in is part of the result. -/
theorem infix_fill_one
    {text : List α} (isFilled : occurrences mark.text text ≠ 0) :
    replacement <:+: fill [(mark, replacement)] text := by
  induction text using mark_induction mark with
  | nil => exact absurd rfl isFilled
  | hole rest _ =>
      rw [fill_one_hole]
      exact (List.prefix_append _ _).isInfix
  | copied unit rest unmarked inductionHypothesis =>
      rw [occurrences_cons_of_not unmarked] at isFilled
      rw [fill_one_copied unmarked]
      exact List.infix_cons (inductionHypothesis isFilled)

/-- No placeholder goes over a unit that it lacks. -/
theorem fill_one_append_cons
    {unit : α} (absent : unit ∉ mark.text) (front rest : List α) :
    fill [(mark, replacement)] (front ++ unit :: rest) =
      fill [(mark, replacement)] front ++
        fill [(mark, replacement)] (unit :: rest) := by
  induction front using mark_induction mark with
  | nil => rfl
  | hole front inductionHypothesis =>
      rw [List.append_assoc, fill_one_hole, fill_one_hole,
        inductionHypothesis, List.append_assoc]
  | copied first front unmarked inductionHypothesis =>
      have stillUnmarked :
          ¬ mark.text <+: first :: (front ++ unit :: rest) := by
        rw [← List.cons_append, prefix_append_cons_iff absent]
        exact unmarked
      rw [List.cons_append, fill_one_copied stillUnmarked,
        fill_one_copied unmarked, inductionHypothesis, List.cons_append]

/-- A unit of neither the placeholder nor the replacement is copied each time
that it comes. -/
theorem count_fill_one
    {unit : α} (notMark : unit ∉ mark.text)
    (notReplacement : unit ∉ replacement) (text : List α) :
    (fill [(mark, replacement)] text).count unit = text.count unit := by
  induction text using mark_induction mark with
  | nil => rfl
  | hole rest inductionHypothesis =>
      rw [fill_one_hole, List.count_append, List.count_append,
        List.count_eq_zero_of_not_mem notMark,
        List.count_eq_zero_of_not_mem notReplacement, inductionHypothesis]
  | copied other rest unmarked inductionHypothesis =>
      rw [fill_one_copied unmarked, List.count_cons, List.count_cons,
        inductionHypothesis]

end Runs

/-! ## Two marks -/

section TwoMarks

variable {first second : Mark α} {left right : List α} {unit : α}
  {rest : List α}

theorem marked_two_eq_none_iff {text : List α} :
    marked [(first, left), (second, right)] text = none ↔
      ¬ first.text <+: text ∧ ¬ second.text <+: text := by
  simp [marked, List.isPrefixOf_iff_prefix]

omit [LawfulBEq α] in
theorem marked_two_eq_some
    {entry : Mark α × List α} {text : List α}
    (isMarked : marked [(first, left), (second, right)] text = some entry) :
    entry = (first, left) ∨ entry = (second, right) := by
  have isEntry := List.mem_of_find?_eq_some isMarked
  rwa [List.mem_cons, List.mem_singleton] at isEntry

/-- An induction along the scan for two marks. -/
theorem marks_induction
    (first second : Mark α) {motive : List α → Prop} (nil : motive [])
    (isFirst : ∀ rest, motive rest → motive (first.text ++ rest))
    (isSecond : ∀ rest, motive rest → motive (second.text ++ rest))
    (copied : ∀ unit rest, ¬ first.text <+: unit :: rest →
      ¬ second.text <+: unit :: rest → motive rest → motive (unit :: rest))
    (text : List α) : motive text := by
  refine fill_induction [(first, []), (second, [])] nil ?_ ?_ text
  · intro entry rest isMarked isRest
    rcases marked_two_eq_some isMarked with rfl | rfl
    · exact isFirst rest isRest
    · exact isSecond rest isRest
  · intro unit rest isUnmarked isRest
    obtain ⟨notFirst, notSecond⟩ := marked_two_eq_none_iff.mp isUnmarked
    exact copied unit rest notFirst notSecond isRest

theorem fill_two_first (rest : List α) :
    fill [(first, left), (second, right)] (first.text ++ rest) =
      left ++ fill [(first, left), (second, right)] rest := by
  apply fill_marked
  simp [marked, List.isPrefixOf_iff_prefix]

theorem fill_two_second (apart : first.Apart second) (rest : List α) :
    fill [(first, left), (second, right)] (second.text ++ rest) =
      right ++ fill [(first, left), (second, right)] rest := by
  apply fill_marked
  simp [marked, List.isPrefixOf_iff_prefix, apart.not_begins]

theorem fill_two_copied
    (notFirst : ¬ first.text <+: unit :: rest)
    (notSecond : ¬ second.text <+: unit :: rest) :
    fill [(first, left), (second, right)] (unit :: rest) =
      unit :: fill [(first, left), (second, right)] rest :=
  fill_unmarked (marked_two_eq_none_iff.mpr ⟨notFirst, notSecond⟩)

/-- Filling one mark keeps the placeholders of the other. -/
theorem fill_first (apart : first.Apart second) (text : List α) :
    fill [(first, left)] text =
      fill [(first, left), (second, second.text)] text := by
  induction text using marks_induction first second with
  | nil => rfl
  | isFirst rest inductionHypothesis =>
      rw [fill_one_hole, fill_two_first, inductionHypothesis]
  | isSecond rest inductionHypothesis =>
      rw [fill_one_other apart, fill_two_second apart, inductionHypothesis]
  | copied unit rest notFirst notSecond inductionHypothesis =>
      rw [fill_one_copied notFirst, fill_two_copied notFirst notSecond,
        inductionHypothesis]

/-- A mark that does not come needs no entry. -/
theorem fill_two_of_no_first
    (apart : first.Apart second) {text : List α}
    (none : occurrences first.text text = 0) :
    fill [(first, left), (second, right)] text =
      fill [(second, right)] text := by
  induction text using marks_induction first second with
  | nil => rfl
  | isFirst rest _ =>
      rw [occurrences_hole] at none
      exact absurd none (Nat.succ_ne_zero _)
  | isSecond rest inductionHypothesis =>
      rw [occurrences_other apart] at none
      rw [fill_two_second apart, fill_one_hole, inductionHypothesis none]
  | copied unit rest notFirst notSecond inductionHypothesis =>
      rw [occurrences_cons_of_not notFirst] at none
      rw [fill_two_copied notFirst notSecond, fill_one_copied notSecond,
        inductionHypothesis none]

theorem fill_two_of_no_second
    (apart : first.Apart second) {text : List α}
    (none : occurrences second.text text = 0) :
    fill [(first, left), (second, right)] text = fill [(first, left)] text := by
  induction text using marks_induction first second with
  | nil => rfl
  | isFirst rest inductionHypothesis =>
      rw [occurrences_other apart.symm] at none
      rw [fill_two_first, fill_one_hole, inductionHypothesis none]
  | isSecond rest _ =>
      rw [occurrences_hole] at none
      exact absurd none (Nat.succ_ne_zero _)
  | copied unit rest notFirst notSecond inductionHypothesis =>
      rw [occurrences_cons_of_not notSecond] at none
      rw [fill_two_copied notFirst notSecond, fill_one_copied notFirst,
        inductionHypothesis none]

/-- Filling one mark loses no placeholder of the other. -/
theorem occurrences_le_fill
    (apart : first.Apart second) (text : List α) :
    occurrences second.text text ≤ occurrences second.text
      (fill [(first, left), (second, second.text)] text) := by
  induction text using marks_induction first second with
  | nil => exact Nat.le_refl _
  | isFirst rest inductionHypothesis =>
      rw [occurrences_other apart.symm, fill_two_first]
      exact inductionHypothesis.trans (occurrences_le_append _)
  | isSecond rest inductionHypothesis =>
      rw [fill_two_second apart, occurrences_hole, occurrences_hole]
      exact Nat.succ_le_succ inductionHypothesis
  | copied unit rest notFirst notSecond inductionHypothesis =>
      rw [fill_two_copied notFirst notSecond,
        occurrences_cons_of_not notSecond]
      exact inductionHypothesis.trans (occurrences_le_append [unit])

/-- Filling one mark and then the other is filling both, when the first text
makes no new placeholder of the second. -/
theorem fill_second_fill
    (apart : first.Apart second) {text : List α}
    (same : occurrences second.text
        (fill [(first, left), (second, second.text)] text) =
      occurrences second.text text) :
    fill [(second, right)]
        (fill [(first, left), (second, second.text)] text) =
      fill [(first, left), (second, right)] text := by
  induction text using marks_induction first second with
  | nil => rfl
  | isFirst rest inductionHypothesis =>
      rw [occurrences_other apart.symm, fill_two_first] at same
      have kept : occurrences second.text rest ≤ occurrences second.text
          (fill [(first, left), (second, second.text)] rest) :=
        occurrences_le_fill apart rest
      have later : occurrences second.text
            (fill [(first, left), (second, second.text)] rest) ≤
          occurrences second.text
            (left ++ fill [(first, left), (second, second.text)] rest) :=
        occurrences_le_append left
      rw [fill_two_first, fill_two_first,
        fill_one_of_occurrences (by omega), inductionHypothesis (by omega)]
  | isSecond rest inductionHypothesis =>
      rw [fill_two_second apart, occurrences_hole, occurrences_hole,
        Nat.add_right_cancel_iff] at same
      rw [fill_two_second apart, fill_two_second apart, fill_one_hole,
        inductionHypothesis same]
  | copied unit rest notFirst notSecond inductionHypothesis =>
      have kept : occurrences second.text rest ≤ occurrences second.text
          (fill [(first, left), (second, second.text)] rest) :=
        occurrences_le_fill apart rest
      rw [fill_two_copied notFirst notSecond,
        occurrences_cons_of_not notSecond] at same
      rw [fill_two_copied notFirst notSecond,
        fill_two_copied notFirst notSecond]
      by_cases begins : second.text <+:
          unit :: fill [(first, left), (second, second.text)] rest
      · rw [occurrences_cons_of_begins begins] at same
        omega
      · rw [occurrences_cons_of_not begins] at same
        rw [fill_one_copied begins, inductionHypothesis same]

end TwoMarks

end AgenId.Library
