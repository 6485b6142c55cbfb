import AgenId.Core.Canonical
import AgenId.Core.NumberDomain
import AgenId.Ecma.JsonTree

/-!
# The text layer

`canonicalizeJsonText` of `jcs.ts`: a text is parsed with a reviver and its
value is canonicalized.  A runtime that passes the source of a number to the
reviver has integer literals beyond the safe ones rejected by their digits;
the others are left with the rule for the numbers that were read.
-/

namespace AgenId.Core

open AgenId.Ecma
open AgenId.Library

/-! ## Canonicalizing a text -/

/-- What the text layer may throw. -/
inductive TextError where
  | syntaxError
  | agenIdError (error : AgenIdError)

/-- `/^-?\d+$/.test(source)`. -/
def isSignedDigits (source : JsString) : Bool :=
  let digits := if source.head? = some 0x2D then source.tail else source
  !digits.isEmpty && digits.all isDigit

/-- `tooBig`, for a source without a decimal point and an exponent. -/
def isTooBig (source : JsString) : Bool :=
  let digits := source.erase 0x2D
  decide (16 < digits.length) ||
    digits.length == 16 && decide (units "9007199254740991" < digits)

def reviver (value : Json) (source : Option JsString) :
    Except AgenIdError Json :=
  match value, source with
  | .number _, some source =>
    let isIntegerLiteral := !source.any (isOneOf ['.', 'e', 'E'])
    if isIntegerLiteral && isSignedDigits source && isTooBig source then
      .error (.invalidNumberDomainError (units "integer literal " ++ source ++
        units " exceeds the safe integer domain (|n| must be <= 2^53-1)"))
    else
      .ok value
  | _, _ => .ok value

/-- The call of the reviver for a number that was visited. -/
def revive (passesSource : Bool) (literal : NumberLiteral) :
    Except AgenIdError Json :=
  reviver (.number literal.value)
    (if passesSource then some literal.source else none)

/-- `canonicalizeJsonText(text)`, on a runtime that passes `context.source` or
on one that does not. -/
def canonicalizeJsonText (passesSource : Bool) (text : JsString) :
    Except TextError (List UInt8) :=
  match parseTree text with
  | none => .error .syntaxError
  | some tree => Except.mapError TextError.agenIdError do
    -- Every call of the reviver that does not throw returns the value as it
    -- was, so that the value parsed is that of the tree.
    tree.visited.forM fun literal => discard (revive passesSource literal)
    canonicalizeToBytes (.ofJson tree.value)

/-! ## Integers that are rejected by their digits -/

/-- The literal is an integer beyond the safe ones. -/
def ExceedsSafe (literal : NumberLiteral) : Prop :=
  ∃ negative digits, literal.IsInteger negative digits ∧
    MAX_SAFE < digitsValue 0 digits

theorem erase_integerText
    {digits : JsString} (isInteger : IntegerDigits digits)
    (negative : Bool) :
    (integerText negative digits).erase 0x2D = digits := by
  cases negative with
  | true => exact List.erase_cons_head 0x2D digits
  | false => exact List.erase_of_not_mem isInteger.not_sign

theorem isSignedDigits_integerText
    {digits : JsString} (isInteger : IntegerDigits digits)
    (negative : Bool) :
    isSignedDigits (integerText negative digits) = true := by
  have areDigits : digits.all isDigit = true :=
    List.all_eq_true.mpr isInteger.areDigits
  have nonempty : digits.isEmpty = false := by
    rcases isInteger.head with rfl | ⟨head, rest, rfl, -⟩ <;> rfl
  cases negative with
  | true => simp [isSignedDigits, integerText, areDigits, nonempty]
  | false =>
      have noSign : digits.head? ≠ some 0x2D := by
        intro isSign
        exact isInteger.not_sign (List.mem_of_mem_head? isSign)
      simp [isSignedDigits, integerText, areDigits, nonempty, noSign]

/-- The comparison of digits is the one of the integers. -/
theorem isTooBig_integerText
    {digits : JsString} (isInteger : IntegerDigits digits)
    (negative : Bool) :
    isTooBig (integerText negative digits) = true ↔
      MAX_SAFE < digitsValue 0 digits := by
  have below := digitsValue_lt isInteger.areDigits
  simp only [isTooBig, erase_integerText isInteger, Bool.or_eq_true,
    decide_eq_true_eq, Bool.and_eq_true, beq_iff_eq]
  rcases lt_trichotomy digits.length 16 with shorter | isSixteen | longer
  · have most : 10 ^ digits.length ≤ 10 ^ 15 :=
      Nat.pow_le_pow_right (by decide) (by omega)
    have safe : (10 : Nat) ^ 15 ≤ MAX_SAFE := by decide
    omega
  · have isLength : (units "9007199254740991").length = digits.length :=
      isSixteen.symm
    have areDigits : ∀ unit ∈ units "9007199254740991", isDigit unit = true :=
      List.all_eq_true.mp rfl
    have compared :=
      digitsValue_lt_iff isLength areDigits isInteger.areDigits 0
    have value : digitsValue 0 (units "9007199254740991") = MAX_SAFE := by
      decide
    rw [value] at compared
    simp [isSixteen, compared]
  · have least := isInteger.le_digitsValue (by omega)
    have more : 10 ^ 16 ≤ 10 ^ (digits.length - 1) :=
      Nat.pow_le_pow_right (by decide) (by omega)
    have safe : MAX_SAFE < 10 ^ 16 := by decide
    simp only [longer, true_or, true_iff]
    omega

theorem any_mark_iff {source : JsString} :
    source.any (isOneOf ['.', 'e', 'E']) = true ↔ HasMark source := by
  have isMark : ∀ unit : UInt16, isOneOf ['.', 'e', 'E'] unit = true ↔
      unit = 0x2E ∨ unit = 0x65 ∨ unit = 0x45 := by
    intro unit
    simp only [isOneOf, List.any_cons, List.any_nil, Bool.or_false,
      Bool.or_eq_true, beq_iff_eq, ← UInt16.toNat_inj]
    rfl
  simp only [List.any_eq_true, isMark, HasMark]

/-- The reviver throws for the integers beyond the safe ones only. -/
theorem reviver_source (literal : NumberLiteral) :
    (ExceedsSafe literal →
      RejectsNumber
        (reviver (.number literal.value) (some literal.source))) ∧
    (¬ ExceedsSafe literal →
      reviver (.number literal.value) (some literal.source) =
        .ok (.number literal.value)) := by
  constructor
  · rintro ⟨negative, digits, ⟨isSource, isInteger⟩, exceeds⟩
    have unmarked : literal.source.any (isOneOf ['.', 'e', 'E']) = false := by
      rw [Bool.eq_false_iff, ne_eq, any_mark_iff, isSource]
      exact isInteger.not_hasMark negative
    have tooBig := (isTooBig_integerText isInteger negative).mpr exceeds
    have isDigits := isSignedDigits_integerText isInteger negative
    rw [← isSource] at tooBig isDigits
    exact ⟨_, by simp only [reviver, unmarked, tooBig, isDigits]; rfl⟩
  · intro isSafe
    rcases literal.isNumeral with marked | ⟨negative, digits, isSource,
      isInteger, -⟩
    · simp [reviver, any_mark_iff.mpr marked]
    · have fits : isTooBig literal.source = false := by
        rw [Bool.eq_false_iff, ne_eq, isSource,
          isTooBig_integerText isInteger]
        exact fun exceeds =>
          isSafe ⟨negative, digits, ⟨isSource, isInteger⟩, exceeds⟩
      simp [reviver, fits]

theorem reviver_unseen (value : Json) : reviver value none = .ok value := by
  cases value <;> rfl

/-! ## What is accepted -/

theorem forM_eq_ok_iff
    {α ε : Type} {items : List α} {f : α → Except ε PUnit} :
    items.forM f = .ok ⟨⟩ ↔ ∀ item ∈ items, f item = .ok ⟨⟩ := by
  induction items with
  | nil => simp [pure, Except.pure]
  | cons item rest inductionHypothesis =>
      rw [List.forall_mem_cons, ← inductionHypothesis]
      simp only [List.forM_eq_forM, List.forM_cons]
      cases f item <;> simp [bind, Except.bind]

theorem within_number_value {number : JsNumber} (tree : JsonTree) :
    Within (.number number) tree.value ↔
      ∃ literal ∈ tree.visited, literal.value = number := by
  have leaf : ∀ tree : JsonTree, tree.visited = [] →
      ¬ Within (.number number) tree.value →
        (Within (.number number) tree.value ↔
          ∃ literal ∈ tree.visited, literal.value = number) := by
    intro tree noneVisited notWithin
    refine iff_of_false notWithin ?_
    rw [noneVisited]
    rintro ⟨literal, isVisited, -⟩
    cases isVisited
  induction tree using JsonTree.inductionOn with
  | null => exact leaf .null rfl nofun
  | boolean value => exact leaf (.boolean value) rfl nofun
  | string text => exact leaf (.string text) rfl nofun
  | number literal =>
      constructor
      · intro within
        cases within
        exact ⟨literal, List.mem_singleton_self literal, rfl⟩
      · rintro ⟨other, isVisited, rfl⟩
        rw [List.mem_singleton.mp isVisited]
        exact .itself
  | array items inductionHypothesis =>
      rw [JsonTree.value, within_array, JsonTree.itemValues_eq_map]
      simp only [reduceCtorEq, false_or, List.mem_map,
        JsonTree.mem_visited_array]
      constructor
      · rintro ⟨-, ⟨item, isItem, rfl⟩, within⟩
        obtain ⟨literal, isVisited, isNumber⟩ :=
          (inductionHypothesis item isItem).mp within
        exact ⟨literal, ⟨item, isItem, isVisited⟩, isNumber⟩
      · rintro ⟨literal, ⟨item, isItem, isVisited⟩, isNumber⟩
        exact ⟨_, ⟨item, isItem, rfl⟩,
          (inductionHypothesis item isItem).mpr
            ⟨literal, isVisited, isNumber⟩⟩
  | object members inductionHypothesis =>
      have isMember : ∀ entry ∈ assignAll [] members, entry ∈ members := by
        intro entry isKept
        rcases mem_of_mem_assignAll isKept with isNone | isMember
        · cases isNone
        · exact isMember
      rw [JsonTree.value_object, within_object]
      simp only [reduceCtorEq, false_or, List.mem_map,
        JsonTree.mem_visited_object]
      constructor
      · rintro ⟨-, ⟨entry, isKept, rfl⟩, within⟩
        obtain ⟨literal, isVisited, isNumber⟩ :=
          (inductionHypothesis entry (isMember entry isKept)).mp within
        exact ⟨literal, ⟨entry, isKept, isVisited⟩, isNumber⟩
      · rintro ⟨literal, ⟨entry, isKept, isVisited⟩, isNumber⟩
        exact ⟨_, ⟨entry, isKept, rfl⟩,
          (inductionHypothesis entry (isMember entry isKept)).mpr
            ⟨literal, isVisited, isNumber⟩⟩

/-- The value of a text is in the domain when the numbers visited are. -/
theorem inDomain_value {tree : JsonTree} :
    InDomain tree.value ↔
      ∀ literal ∈ tree.visited, ¬ OutOfDomain literal.value := by
  rw [inDomain_iff]
  constructor
  · intro inside literal isVisited
    exact inside _ ((within_number_value tree).mpr ⟨literal, isVisited, rfl⟩)
  · intro inside number within
    obtain ⟨literal, isVisited, rfl⟩ := (within_number_value tree).mp within
    exact inside literal isVisited

theorem revive_accepts_iff
    {passesSource : Bool} {literal : NumberLiteral} :
    discard (revive passesSource literal) = .ok ⟨⟩ ↔
      (passesSource = true → ¬ ExceedsSafe literal) := by
  obtain ⟨rejects, accepts⟩ := reviver_source literal
  cases passesSource with
  | false =>
      have unseen := reviver_unseen (.number literal.value)
      simp [revive, unseen, discard, Functor.discard, Functor.mapConst,
        Except.map]
  | true =>
      by_cases exceeds : ExceedsSafe literal
      · obtain ⟨message, isError⟩ := rejects exceeds
        simp [revive, isError, exceeds, discard, Functor.discard,
          Functor.mapConst, Except.map]
      · simp [revive, accepts exceeds, exceeds, discard, Functor.discard,
          Functor.mapConst, Except.map]

/-- The bytes returned for a text are those of its value. -/
theorem canonicalizeJsonText_eq_ok_iff
    {passesSource : Bool} {text : JsString} {bytes : List UInt8} :
    canonicalizeJsonText passesSource text = .ok bytes ↔
      ∃ tree, parseTree text = some tree ∧
        (passesSource = true →
          ∀ literal ∈ tree.visited, ¬ ExceedsSafe literal) ∧
        InDomain tree.value ∧ bytes = canonicalBytes tree.value := by
  unfold canonicalizeJsonText
  cases parseTree text with
  | none => simp
  | some tree =>
      have visits : (tree.visited.forM fun literal =>
            discard (revive passesSource literal)) = .ok ⟨⟩ ↔
          (passesSource = true →
            ∀ literal ∈ tree.visited, ¬ ExceedsSafe literal) := by
        simp only [forM_eq_ok_iff, revive_accepts_iff]
        exact ⟨fun safe passes literal isVisited =>
            safe literal isVisited passes,
          fun safe literal isVisited passes => safe passes literal isVisited⟩
      simp only [Option.some.injEq, exists_eq_left', ← visits]
      cases tree.visited.forM fun literal =>
          discard (revive passesSource literal) with
      | error error => simp [bind, Except.bind, Except.mapError]
      | ok value =>
          simp only [true_and, bind, Except.bind]
          by_cases inside : InDomain tree.value
          · rw [canonicalizeToBytes_ofJson inside]
            simp [inside, Except.mapError, eq_comm]
          · obtain ⟨message, isError⟩ :=
              (canonicalize_rejects inside).map encodeUtf8
            simp [canonicalizeToBytes, isError, inside, Except.mapError]

/-! ## Runtimes -/

/-- The literal is an integer, and the number that it reads as is too large to
be written with digits alone. -/
def ReadsAsExponential (literal : NumberLiteral) : Prop :=
  (∃ negative digits, literal.IsInteger negative digits) ∧
    ∃ datum, literal.value = .finite datum ∧ 10 ^ 21 ≤ datum.magnitude

/-- Of the numbers that the rule for numbers lets through, the digits of the
source give away those from 10 ^ 21 on. -/
theorem exceedsSafe_iff
    {literal : NumberLiteral} (inside : ¬ OutOfDomain literal.value) :
    ExceedsSafe literal ↔ ReadsAsExponential literal := by
  constructor
  · rintro ⟨negative, digits, isInteger, exceeds⟩
    have isNumeral := literal.isNumeral
    rw [isInteger.1] at isNumeral
    have rounds := isNumeral.value_integer isInteger.2
    refine ⟨⟨negative, digits, isInteger⟩, ?_⟩
    cases isValue : literal.value with
    | nan =>
        rw [isValue] at inside
        exact absurd trivial inside
    | infinity sign =>
        rw [isValue] at inside
        exact absurd trivial inside
    | finite datum =>
        refine ⟨datum, rfl, ?_⟩
        rw [isValue] at inside rounds
        have order : firstUnsafe.magnitude ≤ (digitsValue 0 digits : ℚ) := by
          rw [magnitude_firstUnsafe]
          have atLeast : 2 ^ 53 ≤ digitsValue 0 digits := by
            rw [MAX_SAFE] at exceeds
            omega
          exact_mod_cast atLeast
        have large := le_magnitude_of_round order rounds.symm
        rw [magnitude_firstUnsafe] at large
        by_contra notLarge
        refine inside ⟨isIntegerLiteral_whole large (not_le.mp notLarge), ?_⟩
        have safe : (MAX_SAFE : ℚ) < 2 ^ 53 := by norm_num [MAX_SAFE]
        exact safe.trans_le large
  · rintro ⟨⟨negative, digits, isInteger⟩, datum, isValue, large⟩
    refine ⟨negative, digits, isInteger, ?_⟩
    by_contra isSafe
    have small : digitsValue 0 digits < 2 ^ 53 := by
      rw [MAX_SAFE] at isSafe
      omega
    have isNumeral := literal.isNumeral
    rw [isInteger.1] at isNumeral
    have reads := isNumeral.value_integer isInteger.2
    rw [isValue, roundToNumber_natCast negative small] at reads
    rw [JsNumber.finite.inj reads, Binary64.magnitude_ofNat] at large
    have notLarge : (digitsValue 0 digits : ℚ) < 2 ^ 53 := by
      exact_mod_cast small
    linarith

/-- The two kinds of runtime agree on a text unless it has an integer, in a
place that is visited, whose number is written with an exponent. -/
theorem same_outcome_iff (text : JsString) :
    (canonicalizeJsonText true text).toOption =
        (canonicalizeJsonText false text).toOption ↔
      ¬ ∃ tree, parseTree text = some tree ∧ InDomain tree.value ∧
        ∃ literal ∈ tree.visited, ReadsAsExponential literal := by
  have accepted : ∀ (passesSource : Bool) (bytes : List UInt8),
      (canonicalizeJsonText passesSource text).toOption = some bytes ↔
        canonicalizeJsonText passesSource text = .ok bytes := by
    intro passesSource bytes
    cases canonicalizeJsonText passesSource text <;> simp [Except.toOption]
  constructor
  · rintro same ⟨tree, isTree, inside, literal, isVisited, exponential⟩
    have withoutSource : canonicalizeJsonText false text =
        .ok (canonicalBytes tree.value) :=
      canonicalizeJsonText_eq_ok_iff.mpr
        ⟨tree, isTree, nofun, inside, rfl⟩
    rw [← accepted, ← same, accepted] at withoutSource
    obtain ⟨other, isOther, safe, -⟩ :=
      canonicalizeJsonText_eq_ok_iff.mp withoutSource
    rw [isTree] at isOther
    cases isOther
    have exceeds :=
      (exceedsSafe_iff (inDomain_value.mp inside literal isVisited)).mpr
        exponential
    exact safe rfl literal isVisited exceeds
  · intro noneLarge
    apply Option.ext
    intro bytes
    rw [accepted, accepted, canonicalizeJsonText_eq_ok_iff,
      canonicalizeJsonText_eq_ok_iff]
    constructor
    · rintro ⟨tree, isTree, -, inside, isBytes⟩
      exact ⟨tree, isTree, nofun, inside, isBytes⟩
    · rintro ⟨tree, isTree, -, inside, isBytes⟩
      refine ⟨tree, isTree, ?_, inside, isBytes⟩
      intro _ literal isVisited exceeds
      have exponential :=
        (exceedsSafe_iff (inDomain_value.mp inside literal isVisited)).mp
          exceeds
      exact noneLarge ⟨tree, isTree, inside, literal, isVisited, exponential⟩

/-- `10000000000000000000000` is 10 ^ 22 exactly, and is written `1e+22`. -/
theorem outcome_depends_on_runtime :
    (canonicalizeJsonText true (units "10000000000000000000000")).toOption =
        none ∧
      (canonicalizeJsonText false (units "10000000000000000000000")).toOption =
        some (encodeUtf8 (units "1e+22")) := by
  constructor <;> decide +kernel

/-! ## Ambiguous texts -/

/-- A text that denotes one value only, and the canonical bytes of it. -/
structure Unambiguous (tree : JsonTree) (bytes : List UInt8) : Prop where
  safe : ∀ literal, tree.Contains literal → ¬ ExceedsSafe literal
  namesOnce : tree.NamesOnce
  isCanonical : ∃ value, tree.Denotes value ∧ bytes = canonicalBytes value
  unique : ∀ value other, tree.Denotes value → tree.Denotes other →
    SameValue value other

/-- A safe integer is its own number. -/
theorem exact_of_safe
    {literal : NumberLiteral} (isSafe : ¬ ExceedsSafe literal) :
    literal.Exact := by
  intro negative digits isInteger
  have small : digitsValue 0 digits < 2 ^ 53 := by
    by_contra isLarge
    refine isSafe ⟨negative, digits, isInteger, ?_⟩
    rw [MAX_SAFE]
    omega
  have isNumeral := literal.isNumeral
  rw [isInteger.1] at isNumeral
  have reads := isNumeral.value_integer isInteger.2
  rw [roundToNumber_natCast negative small] at reads
  exact ⟨_, reads, Binary64.negative_ofNat negative small,
    Binary64.magnitude_ofNat negative small⟩

/-- A text without repeated names denotes nothing but its value. -/
theorem sameValue_of_denotes
    {tree : JsonTree} (once : tree.NamesOnce) {value : Json} :
    tree.Denotes value → SameValue tree.value value := by
  induction once generalizing value with
  | null =>
      intro denotes
      cases denotes
      exact .null
  | boolean value =>
      intro denotes
      cases denotes
      exact .boolean value
  | string text =>
      intro denotes
      cases denotes
      exact .string text
  | number literal =>
      intro denotes
      cases denotes
      exact .number rfl
  | array inside inductionHypothesis =>
      intro denotes
      cases denotes with
      | array length denotesItems =>
          rw [JsonTree.value, JsonTree.itemValues_eq_map]
          refine .array ((List.length_map _).trans length) ?_
          intro index first second isFirst isSecond
          rw [List.getElem?_map] at isFirst
          obtain ⟨item, isItem, rfl⟩ := Option.map_eq_some_iff.mp isFirst
          exact inductionHypothesis item (List.mem_of_getElem? isItem)
            (denotesItems index item second isItem isSecond)
  | @object members distinct inside inductionHypothesis =>
      intro denotes
      cases denotes with
      | @object _ values chosen valuesDistinct names areMembers denotesMembers =>
          rw [JsonTree.value_object, distinct.assignAll_nil]
          refine .object ?_ ?_
          · intro name
            have named := names name
            rw [← isSome_lookup_iff, ← isSome_lookup_iff] at named
            rw [lookup_map_value, Option.isSome_map, Bool.eq_iff_iff, named]
          · intro name first second isFirst isSecond
            rw [lookup_map_value] at isFirst
            obtain ⟨member, isMember, rfl⟩ := Option.map_eq_some_iff.mp isFirst
            have isValue := mem_of_lookup isSecond
            have isChosen := distinct.lookup_eq_some_iff.mpr
              (areMembers _ isValue)
            rw [isMember] at isChosen
            cases isChosen
            exact inductionHypothesis _ (mem_of_lookup isMember)
              (denotesMembers _ isValue)

theorem unambiguous_of_namesOnce
    {tree : JsonTree} (once : tree.NamesOnce)
    (safe : ∀ literal ∈ tree.visited, ¬ ExceedsSafe literal) :
    Unambiguous tree (canonicalBytes tree.value) where
  safe literal contains :=
    safe literal (JsonTree.visited_of_contains once contains)
  namesOnce := once
  isCanonical := by
    refine ⟨tree.value, ?_, rfl⟩
    exact JsonTree.denotes_value once fun literal contains =>
      exact_of_safe (safe literal
        (JsonTree.visited_of_contains once contains))
  unique value other denotes alsoDenotes :=
    (sameValue_of_denotes once denotes).symm.trans
      (sameValue_of_denotes once alsoDenotes)

/-- The bytes returned with the sources at hand are those of an unambiguous
text exactly when no name is repeated in it, or a number rejects it. -/
theorem returns_unambiguous_iff (text : JsString) :
    (∀ bytes, canonicalizeJsonText true text = .ok bytes →
        ∃ tree, parseTree text = some tree ∧ Unambiguous tree bytes) ↔
      ∀ tree, parseTree text = some tree →
        tree.NamesOnce ∨
          ∃ literal ∈ tree.visited,
            ExceedsSafe literal ∨ OutOfDomain literal.value := by
  constructor
  · intro unambiguous tree isTree
    by_cases rejected : ∃ literal ∈ tree.visited,
        ExceedsSafe literal ∨ OutOfDomain literal.value
    · exact Or.inr rejected
    · left
      push Not at rejected
      have returned : canonicalizeJsonText true text =
          .ok (canonicalBytes tree.value) :=
        canonicalizeJsonText_eq_ok_iff.mpr ⟨tree, isTree,
          fun _ literal isVisited => (rejected literal isVisited).1,
          inDomain_value.mpr fun literal isVisited =>
            (rejected literal isVisited).2, rfl⟩
      obtain ⟨other, isOther, isUnambiguous⟩ := unambiguous _ returned
      rw [isTree] at isOther
      cases isOther
      exact isUnambiguous.namesOnce
  · intro condition bytes returned
    obtain ⟨tree, isTree, safe, inside, rfl⟩ :=
      canonicalizeJsonText_eq_ok_iff.mp returned
    refine ⟨tree, isTree, ?_⟩
    rcases condition tree isTree with once | ⟨literal, isVisited, rejected⟩
    · exact unambiguous_of_namesOnce once (safe rfl)
    · rcases rejected with exceeds | out
      · exact absurd exceeds (safe rfl literal isVisited)
      · exact absurd out (inDomain_value.mp inside literal isVisited)

/-- The member `a` twice, first with the integer 9007199254740993. -/
def overriddenText : JsString :=
  units "\x7b\"a\":9007199254740993,\"a\":1\x7d"

theorem overriddenText_tree :
    ∃ first second : NumberLiteral,
      parseTree overriddenText =
          some (.object
            [(units "a", .number first), (units "a", .number second)]) ∧
        first.source = units "9007199254740993" :=
  ⟨_, _, rfl, rfl⟩

/-- Bytes are returned for a text that repeats a name, and in which the member
that is replaced is no safe integer. -/
theorem overridden_integer_returned :
    (canonicalizeJsonText true overriddenText).toOption =
        some (encodeUtf8 (units "\x7b\"a\":1\x7d")) ∧
      ∃ tree, parseTree overriddenText = some tree ∧ ¬ tree.NamesOnce ∧
        ∃ literal, tree.Contains literal ∧ ExceedsSafe literal := by
  refine ⟨by decide +kernel, ?_⟩
  obtain ⟨first, second, isTree, isSource⟩ := overriddenText_tree
  refine ⟨_, isTree, ?_, first, .member List.mem_cons_self .itself, ?_⟩
  · intro once
    cases once with
    | object distinct _ => exact absurd distinct (by simp [Distinct])
  · refine ⟨false, units "9007199254740993", ⟨isSource, ?_⟩, by decide⟩
    exact ⟨List.all_eq_true.mp rfl,
      Or.inr ⟨0x39, units "007199254740993", rfl, by decide⟩⟩

end AgenId.Core
