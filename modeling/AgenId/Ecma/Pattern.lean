import AgenId.Ecma.CodeUnits
import Mathlib.Data.List.TakeWhile

/-!
# Regular expressions made of bounded runs

The expressions tested here are alternatives of sequences of pieces.  A piece
is a run of code units of one class with a least and an optional greatest
length, a word boundary, or the end of the input.  Only `test` is modelled,
so greediness plays no role: a sequence matches when some way of cutting the
text satisfies every piece.
-/

namespace AgenId.Ecma

/-- One piece of a sequence. -/
inductive Piece where
  /-- `[class]{least,most}`, with no upper bound when `most` is `none`. -/
  | run (accepts : UInt16 → Bool) (least : Nat) (most : Option Nat)
  /-- The assertion `\b`. -/
  | wordBoundary
  /-- The assertion `$`, without the flag `m`. -/
  | finish

/-- Membership of a code unit in a range of a character class. -/
def within (low high : Char) (unit : UInt16) : Bool :=
  decide (low.toNat ≤ unit.toNat ∧ unit.toNat ≤ high.toNat)

/-- `[0-9]`, which is also `\d`. -/
def isDigit (unit : UInt16) : Bool :=
  within '0' '9' unit

theorem isDigit_iff {unit : UInt16} :
    isDigit unit = true ↔ 0x30 ≤ unit.toNat ∧ unit.toNat ≤ 0x39 := by
  simp [isDigit, within]

theorem isDigit_digitUnit {digit : Nat} (small : digit < 10) :
    isDigit (digitUnit digit) = true := by
  simp only [isDigit, within, digitUnit_toNat small, decide_eq_true_eq]
  constructor
  · exact Nat.le_add_right 0x30 digit
  · change 0x30 + digit ≤ 0x39
    omega

/-- `[A-Za-z0-9]`. -/
def isAlphanumeric (unit : UInt16) : Bool :=
  within 'A' 'Z' unit || within 'a' 'z' unit || within '0' '9' unit

/-- Whether one of the given characters is the code unit. -/
def isOneOf (characters : List Char) (unit : UInt16) : Bool :=
  characters.any fun character => unit.toNat == character.toNat

/-- The class `\w`, asked of the neighbour of a boundary. -/
def isWordUnit : Option UInt16 → Bool
  | none => false
  | some unit => isAlphanumeric unit || isOneOf ['_'] unit

/-- One code unit of a class. -/
def Piece.one (accepts : UInt16 → Bool) : Piece :=
  .run accepts 1 (some 1)

/-- Exactly `count` code units of a class. -/
def Piece.exactly (accepts : UInt16 → Bool) (count : Nat) : Piece :=
  .run accepts count (some count)

/-- The pieces that match a literal text. -/
def literally (text : String) : List Piece :=
  (units text).map fun unit => .one (· == unit)

/-- Whether an upper bound of a run admits `count`. -/
def withinMost (most : Option Nat) (count : Nat) : Bool :=
  match most with
  | none => true
  | some bound => decide (count ≤ bound)

/-- Whether a sequence matches a prefix of `text`; `previous` is the code
unit before it. -/
def matchesAt : List Piece → Option UInt16 → JsString → Bool
  | [], _, _ => true
  | .run accepts least most :: pieces, previous, text =>
    (List.range ((text.takeWhile accepts).length + 1)).any fun count =>
      decide (least ≤ count) && withinMost most count &&
        matchesAt pieces ((text.take count).getLast?.or previous)
          (text.drop count)
  | .wordBoundary :: pieces, previous, text =>
    (isWordUnit previous != isWordUnit text.head?) &&
      matchesAt pieces previous text
  | .finish :: pieces, previous, text =>
    text.isEmpty && matchesAt pieces previous text

/-- Whether a sequence matches somewhere in `text`. -/
def matchesFrom (pieces : List Piece) : Option UInt16 → JsString → Bool
  | previous, [] => matchesAt pieces previous []
  | previous, unit :: rest =>
    matchesAt pieces previous (unit :: rest) ||
      matchesFrom pieces (some unit) rest

/-- An expression: its alternatives, all anchored by `^` or none. -/
structure Regex where
  anchored : Bool
  alternatives : List (List Piece)

/-- `regex.test(text)`. -/
def Regex.test (regex : Regex) (text : JsString) : Bool :=
  regex.alternatives.any fun pieces =>
    if regex.anchored then
      matchesAt pieces none text
    else
      matchesFrom pieces none text

/-- An expression `^…$` with one alternative. -/
def Regex.whole (pieces : List Piece) : Regex where
  anchored := true
  alternatives := [pieces ++ [.finish]]

/-! ## What a match says about the text -/

section Matching

variable {accepts : UInt16 → Bool} {least : Nat} {most : Option Nat}
variable {pieces : List Piece} {previous : Option UInt16} {text : JsString}

/-- A run takes some initial piece of the text, all of its class and of an
admitted length. -/
theorem matchesAt_run_iff :
    matchesAt (.run accepts least most :: pieces) previous text = true ↔
      ∃ taken rest, text = taken ++ rest ∧
        (∀ unit ∈ taken, accepts unit = true) ∧
        least ≤ taken.length ∧ withinMost most taken.length = true ∧
        matchesAt pieces (taken.getLast?.or previous) rest = true := by
  simp only [matchesAt, List.any_eq_true, List.mem_range,
    Bool.and_eq_true, decide_eq_true_eq]
  constructor
  · rintro ⟨count, bound, ⟨lower, upper⟩, matched⟩
    have short : count ≤ (text.takeWhile accepts).length := by omega
    have fits : count ≤ text.length :=
      short.trans (List.takeWhile_prefix accepts).length_le
    have takenLength : (text.take count).length = count := by
      rw [List.length_take]
      omega
    refine ⟨text.take count, text.drop count,
      (List.take_append_drop count text).symm, ?_, ?_, ?_, matched⟩
    · intro unit member
      have same : text.take count = (text.takeWhile accepts).take count := by
        conv_lhs => rw [← @List.takeWhile_append_dropWhile _ accepts text]
        exact List.take_append_of_le_length short
      rw [same] at member
      exact List.mem_takeWhile_imp (List.mem_of_mem_take member)
    · rw [takenLength]
      exact lower
    · rw [takenLength]
      exact upper
  · rintro ⟨taken, rest, rfl, allAccepted, lower, upper, matched⟩
    refine ⟨taken.length, ?_, ⟨lower, upper⟩, ?_⟩
    · rw [List.takeWhile_append_of_pos allAccepted, List.length_append]
      omega
    · simpa using matched

theorem matchesAt_exactly_iff {count : Nat} :
    matchesAt (.exactly accepts count :: pieces) previous text = true ↔
      ∃ taken rest, text = taken ++ rest ∧
        (∀ unit ∈ taken, accepts unit = true) ∧ taken.length = count ∧
        matchesAt pieces (taken.getLast?.or previous) rest = true := by
  rw [Piece.exactly, matchesAt_run_iff]
  constructor
  · rintro ⟨taken, rest, split, allAccepted, lower, upper, matched⟩
    have bound : taken.length ≤ count := by
      simpa [withinMost] using upper
    exact ⟨taken, rest, split, allAccepted, by omega, matched⟩
  · rintro ⟨taken, rest, split, allAccepted, size, matched⟩
    exact ⟨taken, rest, split, allAccepted, by omega,
      by simp [withinMost, size], matched⟩

theorem matchesAt_one_iff :
    matchesAt (.one accepts :: pieces) previous text = true ↔
      ∃ unit rest, text = unit :: rest ∧ accepts unit = true ∧
        matchesAt pieces (some unit) rest = true := by
  have exact : Piece.one accepts = .exactly accepts 1 := rfl
  rw [exact, matchesAt_exactly_iff]
  constructor
  · rintro ⟨taken, rest, rfl, allAccepted, size, matched⟩
    obtain ⟨unit, rfl⟩ := List.length_eq_one_iff.mp size
    exact ⟨unit, rest, rfl, allAccepted unit (by simp), matched⟩
  · rintro ⟨unit, rest, rfl, accepted, matched⟩
    exact ⟨[unit], rest, rfl, by simpa using accepted, rfl, matched⟩

@[simp]
theorem matchesAt_finish :
    matchesAt [.finish] previous text = true ↔ text = [] := by
  simp [matchesAt]

/-- A literal is a prefix of the text; what follows is matched after it. -/
theorem matchesAt_units_iff {expected : JsString} :
    matchesAt (expected.map (fun unit => .one (· == unit)) ++ pieces)
        previous text = true ↔
      ∃ rest, text = expected ++ rest ∧
        matchesAt pieces (expected.getLast?.or previous) rest = true := by
  induction expected generalizing previous text with
  | nil =>
      simp
  | cons unit expected inductionHypothesis =>
      rw [List.map_cons, List.cons_append, matchesAt_one_iff]
      constructor
      · rintro ⟨head, tail, rfl, same, matched⟩
        obtain rfl : head = unit := beq_iff_eq.mp same
        obtain ⟨rest, rfl, after⟩ := inductionHypothesis.mp matched
        refine ⟨rest, rfl, ?_⟩
        rw [List.getLast?_cons]
        cases final : expected.getLast? <;> simpa [final] using after
      · rintro ⟨rest, rfl, after⟩
        refine ⟨unit, expected ++ rest, rfl, by simp,
          inductionHypothesis.mpr ⟨rest, rfl, ?_⟩⟩
        rw [List.getLast?_cons] at after
        cases final : expected.getLast? <;> simpa [final] using after

end Matching

/-- A text of `^literal…$` begins with the literal. -/
theorem Regex.exists_of_test_literal
    {literal : String} {pieces : List Piece} {text : JsString}
    (matched :
      (Regex.whole (literally literal ++ pieces)).test text = true) :
    ∃ rest, text = units literal ++ rest := by
  simp only [Regex.whole, Regex.test, literally, List.any_cons, List.any_nil,
    Bool.or_false, if_true, List.append_assoc] at matched
  obtain ⟨rest, isText, -⟩ := matchesAt_units_iff.mp matched
  exact ⟨rest, isText⟩

/-- Texts of `^literal[first][rest]{count}$` are the literal followed by one
code unit of the first class and `count` of the second. -/
theorem Regex.test_prefixed_iff
    (literal : String) (first rest : UInt16 → Bool) (count : Nat)
    (text : JsString) :
    (Regex.whole
        (literally literal ++ [.one first, .exactly rest count])).test text =
          true ↔
      ∃ head tail, text = units literal ++ head :: tail ∧
        first head = true ∧ tail.length = count ∧
        ∀ unit ∈ tail, rest unit = true := by
  simp only [Regex.whole, Regex.test, literally, List.any_cons, List.any_nil,
    Bool.or_false, if_true, List.append_assoc]
  rw [matchesAt_units_iff]
  constructor
  · rintro ⟨suffix, rfl, matched⟩
    obtain ⟨head, after, rfl, accepted, matched⟩ :=
      matchesAt_one_iff.mp matched
    obtain ⟨tail, final, rfl, allAccepted, size, ended⟩ :=
      matchesAt_exactly_iff.mp matched
    have noMore : final = [] := matchesAt_finish.mp ended
    exact ⟨head, tail, by simp [noMore], accepted, size, allAccepted⟩
  · rintro ⟨head, tail, rfl, accepted, size, allAccepted⟩
    refine ⟨head :: tail, rfl, matchesAt_one_iff.mpr
      ⟨head, tail, rfl, accepted, matchesAt_exactly_iff.mpr
        ⟨tail, [], by simp, allAccepted, size, matchesAt_finish.mpr rfl⟩⟩⟩

/-- Texts of `^[class]{count}$` are `count` code units of the class. -/
theorem Regex.test_exactly_iff
    {accepts : UInt16 → Bool} {count : Nat} {text : JsString} :
    (Regex.whole [.exactly accepts count]).test text = true ↔
      text.length = count ∧ ∀ unit ∈ text, accepts unit = true := by
  simp only [Regex.whole, Regex.test, List.any_cons, List.any_nil,
    Bool.or_false, if_true]
  constructor
  · intro matched
    obtain ⟨used, rest, isSplit, allAccepted, size, ended⟩ :=
      matchesAt_exactly_iff.mp matched
    obtain rfl : rest = [] := matchesAt_finish.mp ended
    obtain rfl : text = used := isSplit.trans (List.append_nil used)
    exact ⟨size, allAccepted⟩
  · intro ofClass
    exact matchesAt_exactly_iff.mpr ⟨text, [], (List.append_nil text).symm,
      ofClass.2, ofClass.1, matchesAt_finish.mpr rfl⟩

end AgenId.Ecma
