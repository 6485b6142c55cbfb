import AgenId.Ecma.JsonText
import AgenId.Ecma.Search

/-!
# Splitting what was joined

Parts without the separator are what a split of their joined text gives back,
also for a separator that is the same code unit twice.
-/

namespace AgenId.Ecma

/-- `text.split(separator)` for a separator that is a code unit twice. -/
def splitOnDouble (unit : UInt16) : JsString → List JsString
  | [] => [[]]
  | [last] => [[last]]
  | first :: second :: rest =>
    if first = unit ∧ second = unit then
      [] :: splitOnDouble unit rest
    else
      match splitOnDouble unit (second :: rest) with
      | [] => [[first]]
      | part :: parts => (first :: part) :: parts

variable {unit : UInt16}

/-! ## A separator of one unit -/

theorem splitOnUnit_append_unit {part : JsString} (clean : unit ∉ part)
    (rest : JsString) :
    splitOnUnit unit (part ++ unit :: rest) =
      part :: splitOnUnit unit rest := by
  induction part with
  | nil => rw [List.nil_append, splitOnUnit, if_pos rfl]
  | cons head others inductionHypothesis =>
      rw [List.mem_cons, not_or] at clean
      rw [List.cons_append, splitOnUnit, if_neg (Ne.symm clean.1),
        inductionHypothesis clean.2]

/-- `text.split(separator)[0]`. -/
theorem headD_splitOnUnit (text : JsString) :
    (splitOnUnit unit text).headD [] = text.takeWhile (· ≠ unit) := by
  induction text with
  | nil => rfl
  | cons head rest inductionHypothesis =>
      rw [splitOnUnit]
      by_cases same : head = unit
      · simp [same]
      · rw [if_neg same, List.takeWhile_cons_of_pos (by simp [same]),
          ← inductionHypothesis]
        cases splitOnUnit unit rest <;> rfl

/-- A unit of a text is the separator, or in one of the parts. -/
theorem mem_splitOnUnit {other : UInt16} {text : JsString}
    (isMember : other ∈ text) :
    other = unit ∨ ∃ part ∈ splitOnUnit unit text, other ∈ part := by
  induction text with
  | nil => cases isMember
  | cons head rest inductionHypothesis =>
      rw [splitOnUnit]
      by_cases same : head = unit
      · rw [if_pos same]
        rcases List.mem_cons.mp isMember with isHead | isLater
        · exact Or.inl (isHead.trans same)
        · rcases inductionHypothesis isLater with isSeparator |
            ⟨part, isPart, inPart⟩
          · exact Or.inl isSeparator
          · exact Or.inr ⟨part, List.mem_cons_of_mem _ isPart, inPart⟩
      · rw [if_neg same]
        cases isSplit : splitOnUnit unit rest with
        | nil =>
            rw [isSplit] at inductionHypothesis
            rcases List.mem_cons.mp isMember with isHead | isLater
            · exact Or.inr ⟨[head], List.mem_cons_self, by
                rw [isHead]
                exact List.mem_cons_self⟩
            · rcases inductionHypothesis isLater with isSeparator |
                ⟨part, isPart, -⟩
              · exact Or.inl isSeparator
              · cases isPart
        | cons first others =>
            rw [isSplit] at inductionHypothesis
            rcases List.mem_cons.mp isMember with isHead | isLater
            · exact Or.inr ⟨head :: first, List.mem_cons_self, by
                rw [isHead]
                exact List.mem_cons_self⟩
            · rcases inductionHypothesis isLater with isSeparator |
                ⟨part, isPart, inPart⟩
              · exact Or.inl isSeparator
              · rcases List.mem_cons.mp isPart with isFirst | isOther
                · rw [isFirst] at inPart
                  exact Or.inr ⟨head :: first, List.mem_cons_self,
                    List.mem_cons_of_mem _ inPart⟩
                · exact Or.inr ⟨part, List.mem_cons_of_mem _ isOther, inPart⟩

/-- Splitting commutes with a change of units that keeps the separator. -/
theorem splitOnUnit_map {change : UInt16 → UInt16} (text : JsString)
    (keeps : ∀ other, change other = unit ↔ other = unit) :
    splitOnUnit unit (text.map change) =
      (splitOnUnit unit text).map (List.map change) := by
  induction text with
  | nil => rfl
  | cons head rest inductionHypothesis =>
      rw [List.map_cons, splitOnUnit, splitOnUnit, inductionHypothesis]
      by_cases same : head = unit
      · rw [if_pos same, if_pos ((keeps head).mpr same)]
        rfl
      · rw [if_neg same, if_neg fun isUnit => same ((keeps head).mp isUnit)]
        cases splitOnUnit unit rest <;> rfl

theorem splitOnUnit_join {parts : List JsString} (nonempty : parts ≠ [])
    (clean : ∀ part ∈ parts, unit ∉ part) :
    splitOnUnit unit (join [unit] parts) = parts := by
  induction parts with
  | nil => exact absurd rfl nonempty
  | cons part others inductionHypothesis =>
      obtain ⟨isClean, areClean⟩ := List.forall_mem_cons.mp clean
      cases others with
      | nil => exact splitOnUnit_of_notMem isClean
      | cons next rest =>
          rw [join_cons_cons, List.append_assoc, List.singleton_append,
            splitOnUnit_append_unit isClean,
            inductionHypothesis (List.cons_ne_nil _ _) areClean]

/-- Texts joined from parts without the separator are the same only when the
parts are. -/
theorem join_inj {first second : List JsString}
    (firstNonempty : first ≠ []) (secondNonempty : second ≠ [])
    (firstClean : ∀ part ∈ first, unit ∉ part)
    (secondClean : ∀ part ∈ second, unit ∉ part) :
    join [unit] first = join [unit] second ↔ first = second := by
  constructor
  · intro same
    have split := congrArg (splitOnUnit unit) same
    rwa [splitOnUnit_join firstNonempty firstClean,
      splitOnUnit_join secondNonempty secondClean] at split
  · intro same
    rw [same]

/-! ## A separator of two units -/

theorem splitOnDouble_here (rest : JsString) :
    splitOnDouble unit (unit :: unit :: rest) =
      [] :: splitOnDouble unit rest := by
  rw [splitOnDouble, if_pos ⟨rfl, rfl⟩]

theorem splitOnDouble_cons {first second : UInt16} {part rest : JsString}
    {parts : List JsString} (notHere : ¬ (first = unit ∧ second = unit))
    (isSplit : splitOnDouble unit (second :: rest) = part :: parts) :
    splitOnDouble unit (first :: second :: rest) =
      (first :: part) :: parts := by
  rw [splitOnDouble, if_neg notHere, isSplit]

/-- No two neighbours in a text are a code unit, nor is its last one. -/
def NeverTwice (unit : UInt16) : JsString → Prop
  | [] => True
  | [last] => last ≠ unit
  | first :: second :: rest =>
    ¬ (first = unit ∧ second = unit) ∧ NeverTwice unit (second :: rest)

theorem splitOnDouble_of_neverTwice {text : JsString}
    (never : NeverTwice unit text) : splitOnDouble unit text = [text] := by
  induction text with
  | nil => rfl
  | cons first others inductionHypothesis =>
      cases others with
      | nil => rfl
      | cons second rest =>
          exact splitOnDouble_cons never.1 (inductionHypothesis never.2)

theorem splitOnDouble_append {before : JsString}
    (never : NeverTwice unit before) (rest : JsString) :
    splitOnDouble unit (before ++ unit :: unit :: rest) =
      before :: splitOnDouble unit rest := by
  induction before with
  | nil => exact splitOnDouble_here rest
  | cons first others inductionHypothesis =>
      cases others with
      | nil =>
          have notHere : ¬ (first = unit ∧ unit = unit) :=
            fun both => never both.1
          exact splitOnDouble_cons notHere (splitOnDouble_here rest)
      | cons second after =>
          exact splitOnDouble_cons never.1 (inductionHypothesis never.2)

theorem neverTwice_append {before after : JsString} (clean : unit ∉ before)
    (never : NeverTwice unit after) : NeverTwice unit (before ++ after) := by
  induction before with
  | nil => exact never
  | cons first others inductionHypothesis =>
      rw [List.mem_cons, not_or] at clean
      have neverRest := inductionHypothesis clean.2
      cases isRest : others ++ after with
      | nil =>
          rw [List.cons_append, isRest]
          exact Ne.symm clean.1
      | cons second rest =>
          rw [List.cons_append, isRest]
          rw [isRest] at neverRest
          exact ⟨fun both => clean.1 both.1.symm, neverRest⟩

/-- A joined text of parts that are not empty has the separator twice
nowhere. -/
theorem neverTwice_join {parts : List JsString}
    (clean : ∀ part ∈ parts, part ≠ [] ∧ unit ∉ part) :
    NeverTwice unit (join [unit] parts) := by
  induction parts with
  | nil => trivial
  | cons part others inductionHypothesis =>
      obtain ⟨⟨-, isClean⟩, areClean⟩ := List.forall_mem_cons.mp clean
      have neverOthers := inductionHypothesis areClean
      cases others with
      | nil =>
          rw [← List.append_nil (join [unit] [part])]
          exact neverTwice_append isClean trivial
      | cons next rest =>
          obtain ⟨nonempty, nextClean⟩ := areClean next List.mem_cons_self
          rw [join_cons_cons, List.append_assoc, List.singleton_append]
          apply neverTwice_append isClean
          obtain ⟨first, after, isNext⟩ := List.exists_cons_of_ne_nil nonempty
          have isHead : ∃ others, join [unit] (next :: rest) =
              first :: others := by
            cases rest with
            | nil => exact ⟨after, isNext⟩
            | cons third rest =>
                rw [join_cons_cons, isNext]
                exact ⟨_, rfl⟩
          obtain ⟨others, isJoin⟩ := isHead
          rw [isJoin] at neverOthers ⊢
          refine ⟨fun both => nextClean ?_, neverOthers⟩
          rw [isNext, ← both.2]
          exact List.mem_cons_self

end AgenId.Ecma
