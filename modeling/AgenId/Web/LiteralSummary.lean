import AgenId.Library.Placeholders
import AgenId.Web.TrustSummary

/-!
# Summaries and the texts put into them

A summary shows a name and an operator as they are when neither has a pattern
of a replacement in it and the name makes no placeholder of the operator.
-/

namespace AgenId.Web

open AgenId.Ecma
open AgenId.Library

/-! ## Patterns of a replacement -/

/-- What makes a pattern of a replacement after a dollar sign: `$`, `&`, a
backtick and an apostrophe. -/
def SPECIALS : List UInt16 :=
  [0x24, 0x26, 0x60, 0x27]

/-- What a pattern of a replacement stands for. -/
def expansion (matched before after : JsString) (special : UInt16) :
    JsString :=
  if special = 0x24 then [0x24]
  else if special = 0x26 then matched
  else if special = 0x60 then before
  else after

/-- A text without a pattern of a replacement. -/
def IsPlain (text : JsString) : Prop :=
  ∀ special ∈ SPECIALS, ¬ [0x24, special] <:+: text

theorem isPlain_nil : IsPlain [] := by
  intro special _ contained
  simpa using contained.length_le

theorem isPlain_cons_iff {unit : UInt16} {rest : JsString} :
    IsPlain (unit :: rest) ↔
      (∀ special ∈ SPECIALS, ¬ [0x24, special] <+: unit :: rest) ∧
        IsPlain rest := by
  simp only [IsPlain, List.infix_cons_iff, not_or]
  exact forall₂_and

theorem isPlain_of_not_mem {text : JsString} (absent : 0x24 ∉ text) :
    IsPlain text := by
  intro special _ contained
  exact absent (contained.subset List.mem_cons_self)

section Substitution

variable {matched before after : JsString}

theorem getSubstitution_pattern
    {special : UInt16} (isSpecial : special ∈ SPECIALS) (rest : JsString) :
    getSubstitution matched before after (0x24 :: special :: rest) =
      expansion matched before after special ++
        getSubstitution matched before after rest := by
  simp only [SPECIALS, List.mem_cons, List.not_mem_nil, or_false] at isSpecial
  rcases isSpecial with rfl | rfl | rfl | rfl
  · rfl
  · rfl
  · rfl
  · rfl

theorem getSubstitution_unit
    {unit : UInt16} {rest : JsString}
    (begins : ∀ special ∈ SPECIALS, ¬ [0x24, special] <+: unit :: rest) :
    getSubstitution matched before after (unit :: rest) =
      unit :: getSubstitution matched before after rest := by
  have not_pattern : ∀ special ∈ SPECIALS, ∀ later,
      unit = 0x24 → rest = special :: later → False := by
    intro special isSpecial later isDollar isRest
    apply begins special isSpecial
    rw [isDollar, isRest]
    exact List.prefix_append [0x24, special] later
  rw [getSubstitution]
  · exact not_pattern 0x24 (by decide)
  · exact not_pattern 0x26 (by decide)
  · exact not_pattern 0x60 (by decide)
  · exact not_pattern 0x27 (by decide)

/-- An induction along the patterns of a replacement. -/
theorem substitution_induction
    {motive : JsString → Prop} (nil : motive [])
    (pattern : ∀ special ∈ SPECIALS, ∀ rest, motive rest →
      motive (0x24 :: special :: rest))
    (copied : ∀ unit rest,
      (∀ special ∈ SPECIALS, ¬ [0x24, special] <+: unit :: rest) →
        motive rest → motive (unit :: rest))
    (text : JsString) : motive text := by
  generalize size : text.length = length
  induction length using Nat.strong_induction_on generalizing text with
  | _ length inductionHypothesis =>
      cases text with
      | nil => exact nil
      | cons unit rest =>
          by_cases begins :
              ∃ special ∈ SPECIALS, [0x24, special] <+: unit :: rest
          · obtain ⟨special, isSpecial, later, isText⟩ := begins
            rw [← isText] at size ⊢
            refine pattern special isSpecial later ?_
            refine inductionHypothesis later.length ?_ later rfl
            rw [← size, List.length_append]
            exact Nat.lt_add_of_pos_left (Nat.succ_pos _)
          · push Not at begins
            refine copied unit rest begins ?_
            refine inductionHypothesis rest.length ?_ rest rfl
            rw [← size]
            exact Nat.lt_succ_self _

/-- A plain replacement stands for itself. -/
theorem getSubstitution_of_plain {text : JsString} (plain : IsPlain text) :
    getSubstitution matched before after text = text := by
  induction text using substitution_induction with
  | nil => rfl
  | pattern special isSpecial rest _ =>
      exact absurd (List.prefix_append [0x24, special] rest).isInfix
        (plain special isSpecial)
  | copied unit rest begins inductionHypothesis =>
      rw [getSubstitution_unit begins,
        inductionHypothesis (isPlain_cons_iff.mp plain).2]

/-- Each pattern loses a dollar sign, when the texts that it stands for have
none. -/
theorem count_getSubstitution
    (noMatched : 0x24 ∉ matched) (noBefore : 0x24 ∉ before)
    (noAfter : 0x24 ∉ after) (text : JsString) :
    (getSubstitution matched before after text).count 0x24 ≤
        text.count 0x24 ∧
      ((getSubstitution matched before after text).count 0x24 =
        text.count 0x24 → IsPlain text) := by
  induction text using substitution_induction with
  | nil => exact ⟨Nat.le_refl _, fun _ => isPlain_nil⟩
  | pattern special isSpecial rest inductionHypothesis =>
      obtain ⟨fewer, -⟩ := inductionHypothesis
      have expands : (expansion matched before after special).count 0x24 <
          [0x24, special].count 0x24 := by
        simp only [SPECIALS, List.mem_cons, List.not_mem_nil,
          or_false] at isSpecial
        rcases isSpecial with rfl | rfl | rfl | rfl
        · rw [expansion, if_pos rfl]
          decide
        · simp [expansion, List.count_eq_zero_of_not_mem noMatched]
        · simp [expansion, List.count_eq_zero_of_not_mem noBefore]
        · simp [expansion, List.count_eq_zero_of_not_mem noAfter]
      have split : ([0x24, special] ++ rest).count 0x24 =
          [0x24, special].count 0x24 + rest.count 0x24 :=
        List.count_append
      rw [List.cons_append, List.cons_append, List.nil_append] at split
      rw [getSubstitution_pattern isSpecial, List.count_append, split]
      constructor
      · omega
      · intro same
        omega
  | copied unit rest begins inductionHypothesis =>
      obtain ⟨fewer, plain⟩ := inductionHypothesis
      rw [getSubstitution_unit begins, List.count_cons, List.count_cons]
      constructor
      · omega
      · intro same
        exact isPlain_cons_iff.mpr ⟨begins, plain (by omega)⟩

/-- What ends in a unit after any number of dollar signs ends in a dollar
sign, if there are some. -/
theorem append_replicate_eq
    {front written : JsString} {last unit : UInt16} {count : Nat}
    (same : front ++ [last] = written ++ [unit] ++ List.replicate count 0x24) :
    (count = 0 ∧ front = written ∧ last = unit) ∨
      ∃ fewer, count = fewer + 1 ∧ last = 0x24 ∧
        front = written ++ [unit] ++ List.replicate fewer 0x24 := by
  cases count with
  | zero =>
      rw [List.replicate_zero, List.append_nil] at same
      obtain ⟨isFront, isLast⟩ := List.append_inj' same rfl
      exact Or.inl ⟨rfl, isFront, List.singleton_injective isLast⟩
  | succ fewer =>
      rw [List.replicate_succ', ← List.append_assoc] at same
      obtain ⟨isFront, isLast⟩ := List.append_inj' same rfl
      exact Or.inr ⟨fewer, rfl, List.singleton_injective isLast, isFront⟩

/-- What ends with a replacement as it is written, after its patterns are
expanded, has only dollar signs before it that the replacement did not
write. -/
theorem getSubstitution_suffix
    (ends : ∀ special ∈ SPECIALS, special ≠ 0x24 → ∃ front last,
      expansion matched before after special = front ++ [last] ∧
        last ≠ special ∧ last ≠ 0x24)
    {text : JsString} :
    ∀ {written shown : JsString},
      shown ++ getSubstitution matched before after text = written ++ text →
        ∃ count, shown = written ++ List.replicate count 0x24 ∧
          (count = 0 → IsPlain text) := by
  induction text using substitution_induction with
  | nil =>
      intro written shown same
      refine ⟨0, ?_, fun _ => isPlain_nil⟩
      rw [List.append_nil] at same
      rw [List.replicate_zero, List.append_nil, ← same]
      exact (List.append_nil shown).symm
  | pattern special isSpecial rest inductionHypothesis =>
      intro written shown same
      rw [getSubstitution_pattern isSpecial, ← List.append_assoc] at same
      have shifted : shown ++ expansion matched before after special ++
            getSubstitution matched before after rest =
          (written ++ [0x24] ++ [special]) ++ rest := by
        simpa using same
      obtain ⟨count, isShown, -⟩ := inductionHypothesis shifted
      by_cases isDollar : special = 0x24
      · subst isDollar
        have isFront : shown = written ++ [0x24] ++
            List.replicate count 0x24 := by
          rcases append_replicate_eq isShown with none | some
          · obtain ⟨rfl, isFront, -⟩ := none
            rw [isFront, List.replicate_zero, List.append_nil]
          · obtain ⟨fewer, rfl, -, isFront⟩ := some
            rw [isFront, List.append_assoc _ [0x24]]
            rfl
        refine ⟨count + 1, ?_, fun isZero => absurd isZero (by omega)⟩
        rw [isFront, List.append_assoc]
        rfl
      · obtain ⟨front, last, isExpansion, notSpecial, notDollar⟩ :=
          ends special isSpecial isDollar
        rw [isExpansion, ← List.append_assoc] at isShown
        rcases append_replicate_eq isShown with none | some
        · exact absurd none.2.2 notSpecial
        · obtain ⟨_, -, isLast, -⟩ := some
          exact absurd isLast notDollar
  | copied unit rest begins inductionHypothesis =>
      intro written shown same
      rw [getSubstitution_unit begins] at same
      have shifted : (shown ++ [unit]) ++
            getSubstitution matched before after rest =
          (written ++ [unit]) ++ rest := by
        simpa using same
      obtain ⟨count, isShown, plain⟩ := inductionHypothesis shifted
      rcases append_replicate_eq isShown with none | some
      · obtain ⟨rfl, isFront, -⟩ := none
        refine ⟨0, isFront.trans (List.append_nil written).symm, ?_⟩
        intro isZero
        exact isPlain_cons_iff.mpr ⟨begins, plain isZero⟩
      · obtain ⟨fewer, rfl, rfl, isFront⟩ := some
        refine ⟨fewer + 1, ?_, fun isZero => absurd isZero (by omega)⟩
        rw [isFront, List.append_assoc]
        rfl

end Substitution

/-! ## Replacing every placeholder -/

section Replacing

variable {mark : Mark UInt16} {pattern replacement : JsString}

/-- Plain replacements are filled in. -/
theorem replaceFrom_of_plain
    (plain : IsPlain replacement) (skipped : Nat) (before text : JsString) :
    replaceFrom mark.text replacement skipped before text =
      fillFrom [(mark, replacement)] skipped text := by
  induction text generalizing skipped before with
  | nil => cases skipped <;> rfl
  | cons unit rest inductionHypothesis =>
      cases skipped with
      | succ skipped => exact inductionHypothesis skipped _
      | zero =>
          rw [replaceFrom, fillFrom, getSubstitution_of_plain plain,
            inductionHypothesis, inductionHypothesis]
          cases begins : mark.text.isPrefixOf (unit :: rest) with
          | false => simp [marked, begins]
          | true =>
              have isMarked : marked [(mark, replacement)] (unit :: rest) =
                  some (mark, replacement) := by
                simp [marked, begins]
              rw [isMarked]
              rfl

theorem replaceEvery_of_plain
    (plain : IsPlain replacement) (text : JsString) :
    replaceEvery mark.text replacement text =
      fill [(mark, replacement)] text :=
  replaceFrom_of_plain plain 0 [] text

/-- Nothing is replaced in a text without the placeholder. -/
theorem replaceFrom_of_none
    {text : JsString} (none : occurrences pattern text = 0)
    (before : JsString) : replaceFrom pattern replacement 0 before text =
      text := by
  induction text generalizing before with
  | nil => rfl
  | cons unit rest inductionHypothesis =>
      by_cases begins : pattern <+: unit :: rest
      · rw [occurrences_cons_of_begins begins] at none
        exact absurd none (Nat.succ_ne_zero _)
      · rw [occurrences_cons_of_not begins] at none
        rw [replaceFrom, if_neg (mt List.isPrefixOf_iff_prefix.mp begins),
          inductionHypothesis none]

theorem replaceFrom_skip (front before rest : JsString) :
    replaceFrom pattern replacement front.length before (front ++ rest) =
      replaceFrom pattern replacement 0 (before ++ front) rest := by
  induction front generalizing before with
  | nil => rw [List.append_nil]; rfl
  | cons unit front inductionHypothesis =>
      rw [List.length_cons, List.cons_append, replaceFrom,
        inductionHypothesis, List.append_assoc]
      rfl

theorem replaceFrom_hole (before rest : JsString) :
    replaceFrom mark.text replacement 0 before (mark.text ++ rest) =
      getSubstitution mark.text before rest replacement ++
        replaceFrom mark.text replacement 0 (before ++ mark.text) rest := by
  have begins : mark.text.isPrefixOf (mark.text ++ rest) = true :=
    List.isPrefixOf_iff_prefix.mpr (List.prefix_append _ _)
  have after : (mark.text ++ rest).drop mark.text.length = rest :=
    List.drop_left
  have isBefore : before ++ [mark.opening] ++ mark.body =
      before ++ mark.text := List.append_assoc _ _ _
  calc
    replaceFrom mark.text replacement 0 before (mark.text ++ rest) =
        getSubstitution mark.text before
            ((mark.text ++ rest).drop mark.text.length) replacement ++
          replaceFrom mark.text replacement mark.body.length
            (before ++ [mark.opening]) (mark.body ++ rest) := if_pos begins
    _ = getSubstitution mark.text before rest replacement ++
        replaceFrom mark.text replacement 0 (before ++ mark.text) rest := by
      rw [after, replaceFrom_skip, isBefore]

theorem replaceFrom_closed
    {front : JsString} (closed : mark.opening ∉ front)
    (before rest : JsString) :
    replaceFrom mark.text replacement 0 before (front ++ rest) =
      front ++ replaceFrom mark.text replacement 0 (before ++ front) rest := by
  induction front generalizing before with
  | nil => rw [List.append_nil]; rfl
  | cons unit front inductionHypothesis =>
      rw [List.mem_cons, not_or] at closed
      obtain ⟨different, closedFront⟩ := closed
      have unmarked := Mark.not_prefix_cons (Ne.symm different)
        (front ++ rest)
      rw [List.cons_append, replaceFrom,
        if_neg (mt List.isPrefixOf_iff_prefix.mp unmarked),
        inductionHypothesis closedFront, List.append_assoc]
      rfl

/-- No match goes over a unit that the pattern lacks. -/
theorem replaceFrom_append_cons
    {unit : UInt16} (absent : unit ∉ pattern) (rest : JsString)
    {front : JsString} :
    ∀ {skipped : Nat} (before : JsString), skipped ≤ front.length →
      ∃ shown, replaceFrom pattern replacement skipped before
          (front ++ unit :: rest) =
        shown ++ replaceFrom pattern replacement 0 (before ++ front)
          (unit :: rest) := by
  induction front with
  | nil =>
      intro skipped before isShort
      obtain rfl := Nat.le_zero.mp isShort
      exact ⟨[], by rw [List.append_nil]; rfl⟩
  | cons first front inductionHypothesis =>
      intro skipped before isShort
      have isBefore : before ++ first :: front = before ++ [first] ++ front :=
        (List.append_assoc before [first] front).symm
      rw [isBefore]
      cases skipped with
      | succ skipped =>
          exact inductionHypothesis (before ++ [first])
            (Nat.le_of_succ_le_succ isShort)
      | zero =>
          rw [List.cons_append, replaceFrom]
          split
          · rename_i begins
            rw [List.isPrefixOf_iff_prefix, ← List.cons_append,
              prefix_append_cons_iff absent] at begins
            have fits : pattern.length - 1 ≤ front.length := by
              have size := begins.length_le
              rw [List.length_cons] at size
              omega
            obtain ⟨shown, isShown⟩ :=
              inductionHypothesis (before ++ [first]) fits
            rw [isShown, ← List.append_assoc]
            exact ⟨_, rfl⟩
          · obtain ⟨shown, isShown⟩ :=
              inductionHypothesis (before ++ [first]) (Nat.zero_le _)
            rw [isShown, ← List.cons_append]
            exact ⟨_, rfl⟩

end Replacing

/-! ## Summaries -/

/-- `{name}`. -/
def namePlaceholder : Mark UInt16 where
  opening := 0x7B
  body := units "name\x7d"
  fresh := by decide

/-- `{operator}`. -/
def operatorPlaceholder : Mark UInt16 where
  opening := 0x7B
  body := units "operator\x7d"
  fresh := by decide

theorem placeholders_apart : namePlaceholder.Apart operatorPlaceholder where
  sameOpening := rfl
  notFirst := by decide
  notSecond := by decide

/-- The text of the operator in a summary. -/
def operatorText (operator : Option JsString) : JsString :=
  operator.getD (units "its operator")

/-- The summary with the name in the place of each `{name}` and the operator
in the place of each `{operator}`. -/
def filledSummary (presentation : TrustPresentation) (name : JsString)
    (operator : Option JsString) : JsString :=
  fill [(namePlaceholder, name), (operatorPlaceholder, operatorText operator)]
    presentation.summary

/-- The summary with the name in the place of each `{name}`. -/
def namedSummary (summary name : JsString) : JsString :=
  fill [(namePlaceholder, name),
    (operatorPlaceholder, operatorPlaceholder.text)] summary

/-- The texts of the placeholders of a summary are plain, and the name makes
no placeholder of the operator, unless the operator is the placeholder. -/
structure FillsLiterally (summary name operator : JsString) : Prop where
  plainName : occurrences namePlaceholder.text summary ≠ 0 → IsPlain name
  plainOperator :
    occurrences operatorPlaceholder.text summary ≠ 0 → IsPlain operator
  fresh : occurrences operatorPlaceholder.text (namedSummary summary name) =
      occurrences operatorPlaceholder.text summary ∨
    operator = operatorPlaceholder.text

theorem trustSummary_eq
    (presentation : TrustPresentation) (name : JsString)
    (operator : Option JsString) :
    trustSummary presentation name operator =
      replaceEvery operatorPlaceholder.text (operatorText operator)
        (replaceEvery namePlaceholder.text name presentation.summary) := rfl

theorem FillsLiterally.named
    {summary name operator : JsString}
    (literally : FillsLiterally summary name operator) :
    replaceEvery namePlaceholder.text name summary =
      namedSummary summary name := by
  by_cases none : occurrences namePlaceholder.text summary = 0
  · rw [replaceEvery, replaceFrom_of_none none, namedSummary,
      fill_two_of_no_first placeholders_apart none, fill_self]
  · rw [replaceEvery_of_plain (literally.plainName none),
      fill_first placeholders_apart]
    rfl

/-- Texts that stand for themselves are filled in as they are. -/
theorem FillsLiterally.trustSummary_eq
    {presentation : TrustPresentation} {name : JsString}
    {operator : Option JsString}
    (literally : FillsLiterally presentation.summary name
      (operatorText operator)) :
    trustSummary presentation name operator =
      filledSummary presentation name operator := by
  rw [Web.trustSummary_eq, literally.named, filledSummary]
  rcases literally.fresh with fresh | isPlaceholder
  · by_cases none : occurrences operatorPlaceholder.text
        presentation.summary = 0
    · rw [replaceEvery, replaceFrom_of_none (fresh.trans none), namedSummary,
        fill_two_of_no_second placeholders_apart none,
        fill_two_of_no_second placeholders_apart none]
    · rw [replaceEvery_of_plain (literally.plainOperator none)]
      exact fill_second_fill placeholders_apart fresh
  · have plain : IsPlain operatorPlaceholder.text :=
      isPlain_of_not_mem (by decide)
    rw [isPlaceholder, replaceEvery_of_plain plain, fill_self]
    rfl

/-! ## The summaries with placeholders -/

/-- The presentations whose summaries have placeholders. -/
def TEMPLATES : List TrustPresentation :=
  LEVELS.map Prod.snd ++ [UNKNOWN_TRUST, NOT_REGISTERED_TRUST]

/-- A summary begins with the name and a blank, and has no other `{name}` and
no dollar sign. -/
structure BeginsWithName (summary tail : JsString) : Prop where
  isSummary : summary = namePlaceholder.text ++ 0x20 :: tail
  noName : occurrences namePlaceholder.text (0x20 :: tail) = 0
  noDollar : 0x24 ∉ (0x20 :: tail : JsString)

/-- A summary goes on with the operator, after a blank, and ends in a full
stop. -/
structure NamesOperator (summary middle close : JsString) : Prop where
  begins : BeginsWithName summary
    (middle ++ 0x20 :: (operatorPlaceholder.text ++ (close ++ [0x2E])))
  closedMiddle : operatorPlaceholder.opening ∉ middle
  noOperator : occurrences operatorPlaceholder.text (close ++ [0x2E]) = 0

/-- What the name becomes, with its patterns expanded. -/
def expandedName (name tail : JsString) : JsString :=
  getSubstitution namePlaceholder.text [] (0x20 :: tail) name

namespace BeginsWithName

variable {summary tail : JsString} (begins : BeginsWithName summary tail)

include begins

theorem replaceEvery_name (name : JsString) :
    replaceEvery namePlaceholder.text name summary =
      expandedName name tail ++ 0x20 :: tail := by
  rw [replaceEvery, begins.isSummary, replaceFrom_hole,
    replaceFrom_of_none begins.noName]
  rfl

theorem fill_eq (name operator : JsString) :
    fill [(namePlaceholder, name), (operatorPlaceholder, operator)] summary =
      name ++ fill [(operatorPlaceholder, operator)] (0x20 :: tail) := by
  rw [begins.isSummary, fill_two_first,
    fill_two_of_no_first placeholders_apart begins.noName]

/-- The name makes no placeholder of the operator when it has none in it. -/
theorem fresh_iff (name : JsString) :
    occurrences operatorPlaceholder.text (namedSummary summary name) =
        occurrences operatorPlaceholder.text summary ↔
      ¬ operatorPlaceholder.text <:+: name := by
  have absent : (0x20 : UInt16) ∉ operatorPlaceholder.text := by decide
  have isPlaceholder : operatorPlaceholder.text ≠ [] := List.cons_ne_nil _ _
  rw [namedSummary, begins.fill_eq, fill_self, occurrences_append_cons absent,
    begins.isSummary, occurrences_other placeholders_apart.symm,
    ← occurrences_eq_zero_iff isPlaceholder, Nat.add_eq_right]

/-- A name that keeps its dollar signs has no pattern of a replacement. -/
theorem plain_of_count
    {name : JsString}
    (same : (expandedName name tail).count 0x24 = name.count 0x24) :
    IsPlain name :=
  (count_getSubstitution (by decide) List.not_mem_nil begins.noDollar
    name).2 same

/-- With a plain operator, the summary is filled literally when what the name
becomes, with the operator in the place of each `{operator}` of it, is the
name. -/
theorem literal_iff
    {name operator : JsString} (plain : IsPlain operator) :
    replaceEvery operatorPlaceholder.text operator
          (replaceEvery namePlaceholder.text name summary) =
        fill [(namePlaceholder, name), (operatorPlaceholder, operator)]
          summary ↔
      fill [(operatorPlaceholder, operator)] (expandedName name tail) =
        name := by
  have absent : (0x20 : UInt16) ∉ operatorPlaceholder.text := by decide
  rw [begins.replaceEvery_name, replaceEvery_of_plain plain,
    fill_one_append_cons absent, begins.fill_eq, List.append_left_inj]

/-- What the name becomes is the name only if the name is plain and has no
`{operator}`, as long as the operator has no dollar sign or is no part of the
name. -/
theorem plain_of_literal
    {name operator : JsString}
    (literal : fill [(operatorPlaceholder, operator)]
      (expandedName name tail) = name)
    (tells : 0x24 ∉ operator ∨ ¬ operator <:+: name) :
    IsPlain name ∧ (¬ operatorPlaceholder.text <:+: name ∨
      operator = operatorPlaceholder.text) := by
  have isPlaceholder : operatorPlaceholder.text ≠ [] := List.cons_ne_nil _ _
  have expanded : IsPlain name → expandedName name tail = name :=
    getSubstitution_of_plain
  rcases tells with noDollar | notPart
  · have same : (expandedName name tail).count 0x24 = name.count 0x24 := by
      have noDollarMark : 0x24 ∉ operatorPlaceholder.text := by decide
      rw [← count_fill_one noDollarMark noDollar (expandedName name tail),
        literal]
    have plain := begins.plain_of_count same
    rw [expanded plain] at literal
    rw [← occurrences_eq_zero_iff isPlaceholder]
    exact ⟨plain, fill_one_fixed literal⟩
  · have none : occurrences operatorPlaceholder.text
        (expandedName name tail) = 0 := by
      by_contra isFilled
      have isPart : operator <:+: fill [(operatorPlaceholder, operator)]
          (expandedName name tail) := infix_fill_one isFilled
      rw [literal] at isPart
      exact notPart isPart
    rw [fill_one_of_none none] at literal
    have plain := begins.plain_of_count (congrArg (List.count 0x24) literal)
    rw [literal, occurrences_eq_zero_iff isPlaceholder] at none
    exact ⟨plain, Or.inl none⟩

end BeginsWithName

namespace NamesOperator

variable {summary middle close : JsString}
  (names : NamesOperator summary middle close)

include names

/-- What stands between the name and the operator. -/
theorem closed_lead :
    operatorPlaceholder.opening ∉ (0x20 :: middle ++ [0x20] : JsString) := by
  have different : operatorPlaceholder.opening ≠ 0x20 := by decide
  simp [names.closedMiddle, different]

/-- The operator with its patterns expanded stands where the operator does. -/
theorem exists_shown (name operator : JsString) :
    ∃ shown before, replaceEvery operatorPlaceholder.text operator
        (replaceEvery namePlaceholder.text name summary) =
      shown ++ (0x20 :: middle ++ [0x20]) ++
          getSubstitution operatorPlaceholder.text
            (before ++ (0x20 :: middle ++ [0x20])) (close ++ [0x2E])
            operator ++
        (close ++ [0x2E]) := by
  have absent : (0x20 : UInt16) ∉ operatorPlaceholder.text := by decide
  have isTail : (0x20 : UInt16) :: (middle ++ 0x20 ::
        (operatorPlaceholder.text ++ (close ++ [0x2E]))) =
      (0x20 :: middle ++ [0x20]) ++
        (operatorPlaceholder.text ++ (close ++ [0x2E])) := by
    simp
  have shows : ∀ front rest : JsString, ∃ shown,
      replaceFrom operatorPlaceholder.text operator 0 []
          (front ++ 0x20 :: rest) =
        shown ++ replaceFrom operatorPlaceholder.text operator 0
          ([] ++ front) (0x20 :: rest) := by
    intro front rest
    exact replaceFrom_append_cons absent rest [] (Nat.zero_le _)
  obtain ⟨shown, isShown⟩ := shows
    (expandedName name
      (middle ++ 0x20 :: (operatorPlaceholder.text ++ (close ++ [0x2E]))))
    (middle ++ 0x20 :: (operatorPlaceholder.text ++ (close ++ [0x2E])))
  refine ⟨shown, expandedName name
    (middle ++ 0x20 :: (operatorPlaceholder.text ++ (close ++ [0x2E]))), ?_⟩
  rw [names.begins.replaceEvery_name, replaceEvery, isShown, isTail,
    replaceFrom_closed names.closed_lead, replaceFrom_hole,
    replaceFrom_of_none names.noOperator]
  simp only [List.append_assoc]
  rfl

/-- The operator stands between what leads to it and the end. -/
theorem fill_eq (name operator : JsString) :
    fill [(namePlaceholder, name), (operatorPlaceholder, operator)] summary =
      name ++ (0x20 :: middle ++ [0x20]) ++ operator ++ (close ++ [0x2E]) := by
  have isTail : (0x20 : UInt16) :: (middle ++ 0x20 ::
        (operatorPlaceholder.text ++ (close ++ [0x2E]))) =
      (0x20 :: middle ++ [0x20]) ++
        (operatorPlaceholder.text ++ (close ++ [0x2E])) := by
    simp
  rw [names.begins.fill_eq, isTail, fill_one_append names.closed_lead,
    fill_one_hole, fill_one_of_none names.noOperator]
  simp

/-- The operator is shown as it is only if it is plain. -/
theorem plain_of_literal
    {name operator : JsString}
    (literal : replaceEvery operatorPlaceholder.text operator
        (replaceEvery namePlaceholder.text name summary) =
      fill [(namePlaceholder, name), (operatorPlaceholder, operator)]
        summary) :
    IsPlain operator := by
  obtain ⟨shown, before, isShown⟩ := names.exists_shown name operator
  rw [isShown, names.fill_eq, List.append_left_inj] at literal
  have ends : ∀ special ∈ SPECIALS, special ≠ 0x24 → ∃ front last,
      expansion operatorPlaceholder.text
          (before ++ (0x20 :: middle ++ [0x20])) (close ++ [0x2E]) special =
        front ++ [last] ∧ last ≠ special ∧ last ≠ 0x24 := by
    intro special isSpecial notDollar
    simp only [SPECIALS, List.mem_cons, List.not_mem_nil,
      or_false] at isSpecial
    rcases isSpecial with rfl | rfl | rfl | rfl
    · exact absurd rfl notDollar
    · exact ⟨operatorPlaceholder.text.dropLast, 0x7D, rfl, by decide,
        by decide⟩
    · exact ⟨before ++ 0x20 :: middle, 0x20,
        (List.append_assoc _ _ _).symm, by decide, by decide⟩
    · exact ⟨close, 0x2E, rfl, by decide, by decide⟩
  obtain ⟨count, isCount, plain⟩ := getSubstitution_suffix ends literal
  rw [← List.append_assoc, ← List.append_assoc] at isCount
  rcases append_replicate_eq isCount with none | some
  · exact plain none.1
  · obtain ⟨_, -, isDollar, -⟩ := some
    exact absurd isDollar (by decide)

end NamesOperator

/-! ## Exactly when a summary is literal -/

/-- The summaries of the presentations with placeholders begin with the name,
and go on with the operator or do not name it. -/
theorem templates_shape
    {presentation : TrustPresentation} (isTemplate : presentation ∈ TEMPLATES) :
    (∃ middle close,
      NamesOperator presentation.summary middle close) ∨
    (∃ tail, BeginsWithName presentation.summary tail) ∧
      occurrences operatorPlaceholder.text presentation.summary = 0 := by
  simp only [TEMPLATES, LEVELS, List.map_cons, List.map_nil,
    List.cons_append, List.nil_append, List.mem_cons, List.not_mem_nil,
    or_false] at isTemplate
  rcases isTemplate with rfl | rfl | rfl | rfl | rfl | rfl
  · exact Or.inl ⟨units "— registered by",
      units ". Self-declared, not independently verified",
      ⟨by decide +kernel, by decide, by decide⟩, by decide, by decide⟩
  · exact Or.inl ⟨units "— operated by",
      units ". Domain control verified by an authority",
      ⟨by decide +kernel, by decide, by decide⟩, by decide, by decide⟩
  · exact Or.inl ⟨units "— operated by",
      units ". Legal entity verified by an authority",
      ⟨by decide +kernel, by decide, by decide⟩, by decide, by decide⟩
  · exact Or.inl ⟨units "— operated by",
      units ". Deployment verified by an authority",
      ⟨by decide +kernel, by decide, by decide⟩, by decide, by decide⟩
  · refine Or.inr ⟨⟨units ("— this registry reports a verification state " ++
      "this page does not recognize. Treat it as unverified."), ?_⟩,
        by decide⟩
    exact ⟨rfl, by decide, by decide⟩
  · refine Or.inr ⟨⟨units "has no record in this registry.", ?_⟩, by decide⟩
    exact ⟨rfl, by decide, by decide⟩

/-- The operator has no dollar sign; or it is no part of the name, and the
summary names it unless it is plain. -/
def ToldApart (summary name operator : JsString) : Prop :=
  0x24 ∉ operator ∨
    ¬ operator <:+: name ∧
      (occurrences operatorPlaceholder.text summary ≠ 0 ∨ IsPlain operator)

theorem fillsLiterally_of_literal
    {summary tail name operator : JsString}
    (begins : BeginsWithName summary tail) (plain : IsPlain operator)
    (literal : replaceEvery operatorPlaceholder.text operator
        (replaceEvery namePlaceholder.text name summary) =
      fill [(namePlaceholder, name), (operatorPlaceholder, operator)] summary)
    (tells : 0x24 ∉ operator ∨ ¬ operator <:+: name) :
    FillsLiterally summary name operator := by
  obtain ⟨plainName, fresh⟩ :=
    begins.plain_of_literal ((begins.literal_iff plain).mp literal) tells
  refine ⟨fun _ => plainName, fun _ => plain, ?_⟩
  rcases fresh with none | isPlaceholder
  · exact Or.inl ((begins.fresh_iff name).mpr none)
  · exact Or.inr isPlaceholder

/-- A summary shows the texts put into it as they are when the texts have no
pattern of a replacement and the name makes no placeholder of the operator; of
the presentations with placeholders, only then, up to an operator with dollar
signs that the name repeats. -/
theorem trustSummary_literal_iff
    (presentation : TrustPresentation) (name : JsString)
    (operator : Option JsString) :
    (FillsLiterally presentation.summary name (operatorText operator) →
      trustSummary presentation name operator =
        filledSummary presentation name operator) ∧
    (presentation ∈ TEMPLATES →
      (trustSummary presentation name operator =
          filledSummary presentation name operator →
        occurrences operatorPlaceholder.text presentation.summary ≠ 0 →
        IsPlain (operatorText operator)) ∧
      (ToldApart presentation.summary name (operatorText operator) →
        (trustSummary presentation name operator =
            filledSummary presentation name operator ↔
          FillsLiterally presentation.summary name
            (operatorText operator)))) := by
  refine ⟨fun literally => literally.trustSummary_eq, ?_⟩
  intro isTemplate
  have plainOperator : trustSummary presentation name operator =
        filledSummary presentation name operator →
      occurrences operatorPlaceholder.text presentation.summary ≠ 0 →
      IsPlain (operatorText operator) := by
    intro literal isNamed
    rcases templates_shape isTemplate with named | unnamed
    · obtain ⟨middle, close, names⟩ := named
      exact names.plain_of_literal literal
    · exact absurd unnamed.2 isNamed
  refine ⟨plainOperator, ?_⟩
  intro tells
  constructor
  · intro literal
    have plain : IsPlain (operatorText operator) := by
      rcases tells with noDollar | ⟨-, isNamed | plain⟩
      · exact isPlain_of_not_mem noDollar
      · exact plainOperator literal isNamed
      · exact plain
    have toldApart := tells.imp_right And.left
    rcases templates_shape isTemplate with named | unnamed
    · obtain ⟨middle, close, names⟩ := named
      exact fillsLiterally_of_literal names.begins plain literal toldApart
    · obtain ⟨⟨tail, begins⟩, -⟩ := unnamed
      exact fillsLiterally_of_literal begins plain literal toldApart
  · intro literally
    exact literally.trustSummary_eq

/-- The presentation of a level that is registered. -/
def registeredTrust : TrustPresentation :=
  presentTrustLevel (some (.literal "L1_REGISTERED"))

/-- A name and an operator without dollar signs and braces are shown. -/
theorem trustSummary_literal_iff_sample :
    trustSummary registeredTrust (units "Ada") (some (units "Acme")) =
      filledSummary registeredTrust (units "Ada") (some (units "Acme")) := by
  have isTemplate : registeredTrust ∈ TEMPLATES := by decide +kernel
  have tells : ToldApart registeredTrust.summary (units "Ada")
      (units "Acme") := Or.inl (by decide)
  have fresh : occurrences operatorPlaceholder.text
        (namedSummary registeredTrust.summary (units "Ada")) =
      occurrences operatorPlaceholder.text registeredTrust.summary := by
    decide +kernel
  have exactly := trustSummary_literal_iff registeredTrust (units "Ada")
    (some (units "Acme"))
  exact ((exactly.2 isTemplate).2 tells).mpr
      ⟨fun _ => isPlain_of_not_mem (by decide),
        fun _ => isPlain_of_not_mem (by decide), Or.inl fresh⟩

/-- A name that is the placeholder of the operator shows the operator, and
patterns of a replacement are not shown as they are. -/
theorem trustSummary_not_literal :
    (trustSummary registeredTrust (units "\x7boperator\x7d")
        (some (units "Acme")) =
      units ("Acme — registered by Acme. Self-declared, not " ++
        "independently verified.") ∧
      filledSummary registeredTrust (units "\x7boperator\x7d")
        (some (units "Acme")) =
      units ("\x7boperator\x7d — registered by Acme. Self-declared, not " ++
        "independently verified.")) ∧
    (trustSummary registeredTrust (units "$&") (some (units "Acme")) =
      units ("\x7bname\x7d — registered by Acme. Self-declared, not " ++
        "independently verified.") ∧
      filledSummary registeredTrust (units "$&") (some (units "Acme")) =
      units ("$& — registered by Acme. Self-declared, not " ++
        "independently verified.")) ∧
    trustSummary registeredTrust (units "Ada") (some (units "A$$P")) ≠
      filledSummary registeredTrust (units "Ada") (some (units "A$$P")) := by
  decide +kernel

end AgenId.Web
