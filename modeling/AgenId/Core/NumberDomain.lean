import AgenId.Core.Jcs
import AgenId.Ecma.Integer

/-!
# Numbers out of the domain

A value of data is serialized unless a number inside it is out of the domain
of the protocol or a bigint is, and the only error it can cause is the one for
such a number.  A JSON value has no bigint inside it.
-/

namespace AgenId.Core

open AgenId.Ecma

/-! ## Inside a value -/

/-- A value is the whole value or inside it. -/
inductive Within (inner : Json) : Json → Prop
  | itself : Within inner inner
  | item {item : Json} {items : List Json}
      (isItem : item ∈ items) (within : Within inner item) :
      Within inner (.array items)
  | member {entry : JsString × Json} {members : Members}
      (isMember : entry ∈ members) (within : Within inner entry.2) :
      Within inner (.object members)

theorem within_array {inner : Json} {items : List Json} :
    Within inner (.array items) ↔
      inner = .array items ∨ ∃ item ∈ items, Within inner item := by
  constructor
  · intro within
    cases within with
    | itself => exact Or.inl rfl
    | item isItem within => exact Or.inr ⟨_, isItem, within⟩
  · rintro (rfl | ⟨item, isItem, within⟩)
    · exact .itself
    · exact .item isItem within

theorem within_object {inner : Json} {members : Members} :
    Within inner (.object members) ↔
      inner = .object members ∨ ∃ entry ∈ members, Within inner entry.2 := by
  constructor
  · intro within
    cases within with
    | itself => exact Or.inl rfl
    | member isMember within => exact Or.inr ⟨_, isMember, within⟩
  · rintro (rfl | ⟨entry, isMember, within⟩)
    · exact .itself
    · exact .member isMember within

/-- A number that has no token in the domain: one that is not finite, or is
written as an integer although it is no safe one. -/
def OutOfDomain : JsNumber → Prop
  | .finite datum =>
    isIntegerLiteral (finiteToString datum) = true ∧
      (MAX_SAFE : ℚ) < datum.magnitude
  | _ => True

theorem inDomain_number {number : JsNumber} :
    InDomain (.number number) ↔ ¬ OutOfDomain number := by
  cases number with
  | nan => simp [InDomain, OutOfDomain]
  | infinity negative => simp [InDomain, OutOfDomain]
  | finite datum => simp [InDomain, OutOfDomain]

/-- A value is in the domain when no number inside it is out of it. -/
theorem inDomain_iff {value : Json} :
    InDomain value ↔
      ∀ number, Within (.number number) value → ¬ OutOfDomain number := by
  induction value using Json.inductionOn with
  | null =>
      refine ⟨?_, fun _ => trivial⟩
      intro _ number within
      cases within
  | boolean value =>
      refine ⟨?_, fun _ => trivial⟩
      intro _ number within
      cases within
  | string text =>
      refine ⟨?_, fun _ => trivial⟩
      intro _ number within
      cases within
  | number number =>
      rw [inDomain_number]
      constructor
      · intro inside other within
        cases within
        exact inside
      · intro inside
        exact inside number .itself
  | array items inductionHypothesis =>
      rw [inDomain_array]
      constructor
      · intro inside number within
        cases within with
        | item isItem within =>
            exact (inductionHypothesis _ isItem).mp (inside _ isItem) number
              within
      · intro inside item isItem
        exact (inductionHypothesis item isItem).mpr fun number within =>
          inside number (.item isItem within)
  | object members inductionHypothesis =>
      rw [inDomain_object]
      constructor
      · intro inside number within
        cases within with
        | member isMember within =>
            exact (inductionHypothesis _ isMember).mp (inside _ isMember)
              number within
      · intro inside entry isMember
        exact (inductionHypothesis entry isMember).mpr fun number within =>
          inside number (.member isMember within)

/-! ## Which numbers are out of the domain -/

theorem isIntegerLiteral_whole
    {datum : Binary64} (large : 2 ^ 53 ≤ datum.magnitude)
    (below : datum.magnitude < 10 ^ 21) :
    isIntegerLiteral (finiteToString datum) = true := by
  have plain := finiteToString_whole large below
  have absent : ∀ mark : UInt16, mark ≠ 0x2D → isDigit mark = false →
      includesUnit mark (finiteToString datum) = false := by
    intro mark notSign notDigit
    rw [includesUnit, Bool.eq_false_iff, ne_eq, List.contains_iff_mem]
    intro isMember
    rcases plain mark isMember with isSign | isDigit
    · exact notSign isSign
    · rw [notDigit] at isDigit
      cases isDigit
  rw [isIntegerLiteral, absent 0x2E (by decide) rfl,
    absent 0x65 (by decide) rfl]
  rfl

theorem isIntegerLiteral_exponential
    {datum : Binary64} (large : 10 ^ 21 ≤ datum.magnitude) :
    isIntegerLiteral (finiteToString datum) = false := by
  have present : includesUnit 0x65 (finiteToString datum) = true := by
    rw [includesUnit, List.contains_iff_mem]
    exact finiteToString_exponential large
  rw [isIntegerLiteral, present, Bool.not_true, Bool.and_false]

/-- A number with a fraction is less than `2 ^ 52`. -/
theorem whole_of_large
    {datum : Binary64} (large : (MAX_SAFE : ℚ) < datum.magnitude) :
    ∃ n : Nat, datum.magnitude = n := by
  by_cases whole : 0 ≤ datum.exponent
  · obtain ⟨places, isPlaces⟩ := Int.eq_ofNat_of_zero_le whole
    refine ⟨datum.significand * 2 ^ places, ?_⟩
    rw [Binary64.magnitude, isPlaces, zpow_natCast]
    push_cast
    rfl
  · have small : datum.magnitude ≤ 2 ^ 53 / 2 := by
      have half : (2 : ℚ) ^ datum.exponent ≤ 2 ^ (-1 : Int) :=
        zpow_le_zpow_right₀ (by norm_num) (by omega)
      have below : (datum.significand : ℚ) ≤ 2 ^ 53 := by
        exact_mod_cast datum.canonical.1.le
      rw [Binary64.magnitude]
      calc (datum.significand : ℚ) * 2 ^ datum.exponent
          ≤ 2 ^ 53 * 2 ^ (-1 : Int) := by gcongr
        _ = 2 ^ 53 / 2 := by norm_num
    norm_num [MAX_SAFE] at large small
    linarith

/-- The numbers in the domain: the safe integers, the numbers that are no
integers, and those that are written with an exponent. -/
theorem not_outOfDomain_iff {number : JsNumber} :
    ¬ OutOfDomain number ↔
      ∃ datum, number = .finite datum ∧
        (datum.magnitude ≤ MAX_SAFE ∨ (¬ ∃ n : Nat, datum.magnitude = n) ∨
          10 ^ 21 ≤ datum.magnitude) := by
  cases number with
  | nan => simp [OutOfDomain]
  | infinity negative => simp [OutOfDomain]
  | finite datum =>
      simp only [JsNumber.finite.injEq, exists_eq_left']
      constructor
      · intro inside
        by_contra outside
        simp only [not_or, not_le, not_not] at outside
        obtain ⟨exceeds, ⟨n, isWhole⟩, below⟩ := outside
        have large : 2 ^ 53 ≤ datum.magnitude := by
          rw [isWhole] at exceeds ⊢
          have atLeast : MAX_SAFE < n := by exact_mod_cast exceeds
          have next : 2 ^ 53 ≤ n := by
            rw [MAX_SAFE] at atLeast
            omega
          exact_mod_cast next
        exact inside ⟨isIntegerLiteral_whole large below, exceeds⟩
      · intro inside out
        obtain ⟨isLiteral, exceeds⟩ := out
        rcases inside with safe | fraction | large
        · exact absurd exceeds (not_lt.mpr safe)
        · exact fraction (whole_of_large exceeds)
        · rw [isIntegerLiteral_exponential large] at isLiteral
          cases isLiteral

/-! ## Values without instances -/

/-- A value is the whole value or inside it. -/
inductive Inside (inner : JsValue) : JsValue → Prop
  | itself : Inside inner inner
  | item {item : JsValue} {items : List JsValue}
      (isItem : item ∈ items) (inside : Inside inner item) :
      Inside inner (.array items)
  | member {entry : JsString × JsValue} {members : List (JsString × JsValue)}
      (isMember : entry ∈ members) (inside : Inside inner entry.2) :
      Inside inner (.object members)

/-- A value of data: no value inside it is undefined, a function, a symbol or
an instance. -/
inductive IsData : JsValue → Prop
  | null : IsData .null
  | boolean (value : Bool) : IsData (.boolean value)
  | number (value : JsNumber) : IsData (.number value)
  | bigint : IsData .bigint
  | string (text : JsString) : IsData (.string text)
  | array {items : List JsValue}
      (areData : ∀ item ∈ items, IsData item) : IsData (.array items)
  | object {members : List (JsString × JsValue)}
      (areData : ∀ entry ∈ members, IsData entry.2) : IsData (.object members)

/-- A number out of the domain is inside the value. -/
def HasOutOfDomain (value : JsValue) : Prop :=
  ∃ number, Inside (.number number) value ∧ OutOfDomain number

theorem hasOutOfDomain_number {number : JsNumber} :
    HasOutOfDomain (.number number) ↔ OutOfDomain number := by
  constructor
  · intro has
    obtain ⟨other, inside, out⟩ := has
    cases inside
    exact out
  · intro out
    exact ⟨number, .itself, out⟩

theorem hasOutOfDomain_array {items : List JsValue} :
    HasOutOfDomain (.array items) ↔ ∃ item ∈ items, HasOutOfDomain item := by
  constructor
  · intro has
    obtain ⟨number, inside, out⟩ := has
    cases inside with
    | item isItem inside => exact ⟨_, isItem, number, inside, out⟩
  · intro has
    obtain ⟨item, isItem, number, inside, out⟩ := has
    exact ⟨number, .item isItem inside, out⟩

theorem hasOutOfDomain_object {members : List (JsString × JsValue)} :
    HasOutOfDomain (.object members) ↔
      ∃ entry ∈ members, HasOutOfDomain entry.2 := by
  constructor
  · intro has
    obtain ⟨number, inside, out⟩ := has
    cases inside with
    | member isMember inside => exact ⟨_, isMember, number, inside, out⟩
  · intro has
    obtain ⟨entry, isMember, number, inside, out⟩ := has
    exact ⟨number, .member isMember inside, out⟩

theorem inside_bigint_array {items : List JsValue} :
    Inside .bigint (.array items) ↔ ∃ item ∈ items, Inside .bigint item := by
  constructor
  · intro inside
    cases inside with
    | item isItem inside => exact ⟨_, isItem, inside⟩
  · intro has
    obtain ⟨item, isItem, inside⟩ := has
    exact .item isItem inside

theorem inside_bigint_object {members : List (JsString × JsValue)} :
    Inside .bigint (.object members) ↔
      ∃ entry ∈ members, Inside .bigint entry.2 := by
  constructor
  · intro inside
    cases inside with
    | member isMember inside => exact ⟨_, isMember, inside⟩
  · intro has
    obtain ⟨entry, isMember, inside⟩ := has
    exact .member isMember inside

/-! ## Rejected numbers -/

/-- The serialization of a number was refused. -/
def RejectsNumber {Result : Type} (outcome : Except AgenIdError Result) :
    Prop :=
  ∃ message, outcome = .error (.invalidNumberDomainError message)

theorem RejectsNumber.map
    {α β : Type} {outcome : Except AgenIdError α}
    (rejects : RejectsNumber outcome) (f : α → β) :
    RejectsNumber (outcome.map f) := by
  obtain ⟨message, rfl⟩ := rejects
  exact ⟨message, rfl⟩

theorem assertNumberDomain_rejects
    {number : JsNumber} (out : OutOfDomain number) (path : JsString) :
    RejectsNumber (assertNumberDomain number path) := by
  cases number with
  | nan => exact ⟨_, rfl⟩
  | infinity negative => exact ⟨_, rfl⟩
  | finite datum =>
      exact ⟨_, if_pos out⟩

/-! ## Outcomes of a walk -/

/-- A walk refuses a number when a condition holds, and succeeds when it does
not. -/
def RefusesWhen {Result : Type}
    (outcome : Except AgenIdError Result) (condition : Prop) : Prop :=
  (condition → RejectsNumber outcome) ∧
    (¬ condition → ∃ result, outcome = .ok result)

namespace RefusesWhen

variable {Result : Type} {outcome : Except AgenIdError Result}
  {condition : Prop}

theorem rejects_iff (refuses : RefusesWhen outcome condition) :
    RejectsNumber outcome ↔ condition := by
  constructor
  · intro rejects
    by_contra fails
    obtain ⟨result, isOk⟩ := refuses.2 fails
    obtain ⟨message, isError⟩ := rejects
    rw [isOk] at isError
    cases isError
  · exact refuses.1

theorem ok_iff (refuses : RefusesWhen outcome condition) :
    (∃ result, outcome = .ok result) ↔ ¬ condition := by
  constructor
  · intro isOk holds
    obtain ⟨result, isOk⟩ := isOk
    obtain ⟨message, isError⟩ := refuses.1 holds
    rw [isOk] at isError
    cases isError
  · exact refuses.2

theorem congr
    {other : Prop} (refuses : RefusesWhen outcome condition)
    (same : condition ↔ other) : RefusesWhen outcome other := by
  rwa [← propext same]

theorem ok (result : Result) (fails : ¬ condition) :
    RefusesWhen (.ok result) condition :=
  ⟨fun holds => absurd holds fails, fun _ => ⟨result, rfl⟩⟩

theorem error (message : JsString) (holds : condition) :
    RefusesWhen (.error (.invalidNumberDomainError message) :
      Except AgenIdError Result) condition :=
  ⟨fun _ => ⟨message, rfl⟩, fun fails => absurd holds fails⟩

theorem map
    {Other : Type} (refuses : RefusesWhen outcome condition)
    (f : Result → Other) : RefusesWhen (outcome.map f) condition := by
  constructor
  · intro holds
    exact (refuses.1 holds).map f
  · intro fails
    obtain ⟨result, rfl⟩ := refuses.2 fails
    exact ⟨f result, rfl⟩

/-- One step after another refuses when either does. -/
theorem bind
    {Other : Type} {next : Result → Except AgenIdError Other} {later : Prop}
    (refuses : RefusesWhen outcome condition)
    (nextRefuses : ∀ result, RefusesWhen (next result) later) :
    RefusesWhen (outcome >>= next) (condition ∨ later) := by
  by_cases holds : condition
  · obtain ⟨message, rfl⟩ := refuses.1 holds
    exact error message (Or.inl holds)
  · obtain ⟨result, rfl⟩ := refuses.2 holds
    exact (nextRefuses result).congr (by simp [holds])

/-- A list of steps refuses when one of them does. -/
theorem mapM
    {α : Type} {f : α → Except AgenIdError Result} {refused : α → Prop}
    {items : List α}
    (each : ∀ item ∈ items, RefusesWhen (f item) (refused item)) :
    RefusesWhen (items.mapM f) (∃ item ∈ items, refused item) := by
  induction items with
  | nil => exact ok [] (by simp)
  | cons item rest inductionHypothesis =>
      obtain ⟨first, others⟩ := List.forall_mem_cons.mp each
      rw [List.mapM_cons]
      refine (first.bind fun result =>
        ((inductionHypothesis others).map (result :: ·))).congr ?_
      rw [List.exists_mem_cons_iff]

end RefusesWhen

theorem assertNumberDomain_refuses (number : JsNumber) (path : JsString) :
    RefusesWhen (assertNumberDomain number path) (OutOfDomain number) := by
  constructor
  · intro out
    exact assertNumberDomain_rejects out path
  · intro inside
    cases number with
    | nan => exact absurd trivial inside
    | infinity negative => exact absurd trivial inside
    | finite datum => exact ⟨_, if_neg inside⟩

/-! ## The serializer -/

/-- What the serializer refuses as a number out of the domain. -/
def Unsigned (value : JsValue) : Prop :=
  Inside .bigint value ∨ HasOutOfDomain value

theorem not_unsigned
    {value : JsValue} (noBigint : ¬ Inside .bigint value)
    (noNumber : ∀ number, ¬ Inside (.number number) value) :
    ¬ Unsigned value := by
  intro unsigned
  rcases unsigned with isBigint | ⟨number, inside, -⟩
  · exact noBigint isBigint
  · exact noNumber number inside

theorem unsigned_array {items : List JsValue} :
    Unsigned (.array items) ↔ ∃ item ∈ items, Unsigned item := by
  simp only [Unsigned, inside_bigint_array, hasOutOfDomain_array, and_or_left,
    exists_or]

theorem unsigned_object {members : List (JsString × JsValue)} :
    Unsigned (.object members) ↔ ∃ entry ∈ members, Unsigned entry.2 := by
  simp only [Unsigned, inside_bigint_object, hasOutOfDomain_object,
    and_or_left, exists_or]

theorem unsigned_number_iff {number : JsNumber} :
    Unsigned (.number number) ↔ OutOfDomain number := by
  have noBigint : ¬ Inside .bigint (.number number) := nofun
  rw [Unsigned, hasOutOfDomain_number, or_iff_right noBigint]

theorem serializeItems_refuses
    {items : List JsValue} (areData : ∀ item ∈ items, IsData item)
    (each : ∀ item ∈ items, ∀ path,
      RefusesWhen (serialize item path) (Unsigned item))
    (path : JsString) (index : Nat) :
    RefusesWhen (serializeItems items path index)
      (∃ item ∈ items, Unsigned item) := by
  induction items generalizing index with
  | nil => exact .ok [] (by simp)
  | cons item rest inductionHypothesis =>
      obtain ⟨first, others⟩ := List.forall_mem_cons.mp each
      obtain ⟨isData, othersData⟩ := List.forall_mem_cons.mp areData
      have isType : missingType item = none := by
        cases isData <;> rfl
      simp only [serializeItems, isType]
      refine ((first _).bind fun text =>
        (inductionHypothesis othersData others (index + 1)).bind fun texts =>
          (.ok (text :: texts) id : RefusesWhen _ False)).congr ?_
      rw [List.exists_mem_cons_iff, or_false]

theorem serializeMembers_map
    (members : List (JsString × JsValue)) (path : JsString) :
    serializeMembers members path =
      members.map fun entry => (entry.1,
        (serialize entry.2 (path ++ units "." ++ entry.1)).map
          fun text => quote entry.1 ++ 0x3A :: text) := by
  induction members with
  | nil => rfl
  | cons entry rest inductionHypothesis =>
      rw [serializeMembers, inductionHypothesis, List.map_cons]

theorem sortedMembers_refuse
    {members : List (JsString × JsValue)}
    (each : ∀ entry ∈ members, ∀ path,
      RefusesWhen (serialize entry.2 path) (Unsigned entry.2))
    (path : JsString) :
    RefusesWhen
      (((serializeMembers members path).insertionSort byName).mapM Prod.snd)
      (∃ entry ∈ members, Unsigned entry.2) := by
  have isSorted := List.perm_insertionSort byName
    (serializeMembers members path)
  have written : ∀ entry ∈ members,
      RefusesWhen ((serialize entry.2 (path ++ units "." ++ entry.1)).map
        fun text => quote entry.1 ++ 0x3A :: text) (Unsigned entry.2) :=
    fun entry isMember => (each entry isMember _).map _
  rw [serializeMembers_map] at isSorted ⊢
  have answers : ∀ answer ∈ (members.map fun entry => (entry.1,
        (serialize entry.2 (path ++ units "." ++ entry.1)).map
          fun text => quote entry.1 ++ 0x3A :: text)).insertionSort byName,
      RefusesWhen answer.2 (RejectsNumber answer.2) := by
    intro answer isAnswer
    obtain ⟨entry, isMember, rfl⟩ :=
      List.mem_map.mp (isSorted.mem_iff.mp isAnswer)
    exact (written entry isMember).congr
      (written entry isMember).rejects_iff.symm
  refine (RefusesWhen.mapM answers).congr ?_
  constructor
  · intro refused
    obtain ⟨answer, isAnswer, rejects⟩ := refused
    obtain ⟨entry, isMember, rfl⟩ :=
      List.mem_map.mp (isSorted.mem_iff.mp isAnswer)
    exact ⟨entry, isMember, (written entry isMember).rejects_iff.mp rejects⟩
  · intro refused
    obtain ⟨entry, isMember, unsigned⟩ := refused
    exact ⟨_, isSorted.mem_iff.mpr (List.mem_map_of_mem isMember),
      (written entry isMember).1 unsigned⟩

/-- The serializer refuses, as a number, the numbers out of the domain and
the bigints. -/
theorem serialize_refuses
    {value : JsValue} (data : IsData value) :
    ∀ path, RefusesWhen (serialize value path) (Unsigned value) := by
  have leaf : ∀ (value : JsValue) (text : JsString),
      (∀ path, serialize value path = .ok text) →
      ¬ Inside .bigint value → (∀ number, ¬ Inside (.number number) value) →
      ∀ path, RefusesWhen (serialize value path) (Unsigned value) := by
    intro value text writes noBigint noNumber path
    rw [writes]
    exact .ok text (not_unsigned noBigint noNumber)
  induction data with
  | null =>
      exact leaf .null _ (fun _ => rfl) (by rintro ⟨⟩) (by rintro _ ⟨⟩)
  | boolean value =>
      refine leaf (.boolean value) (units (if value then "true" else "false"))
        ?_ (by rintro ⟨⟩) (by rintro _ ⟨⟩)
      intro path
      cases value <;> rfl
  | string text =>
      exact leaf (.string text) _ (fun _ => rfl) (by rintro ⟨⟩)
        (by rintro _ ⟨⟩)
  | bigint =>
      intro path
      rw [serialize]
      exact .error _ (Or.inl .itself)
  | number number =>
      intro path
      rw [serialize]
      exact (assertNumberDomain_refuses number path).congr
        unsigned_number_iff.symm
  | array areData inductionHypothesis =>
      intro path
      rw [serialize]
      exact ((serializeItems_refuses areData inductionHypothesis path 0).map
        _).congr unsigned_array.symm
  | object areData inductionHypothesis =>
      intro path
      rw [serialize]
      exact ((sortedMembers_refuse inductionHypothesis path).map _).congr
        unsigned_object.symm

/-! ## JSON values -/

theorem ofJsonItems_eq_map (items : List Json) :
    JsValue.ofJsonItems items = items.map .ofJson := by
  induction items with
  | nil => rfl
  | cons item rest inductionHypothesis =>
      rw [JsValue.ofJsonItems, inductionHypothesis, List.map_cons]

theorem ofJsonMembers_eq_map (members : Members) :
    JsValue.ofJsonMembers members =
      members.map fun entry => (entry.1, .ofJson entry.2) := by
  induction members with
  | nil => rfl
  | cons entry rest inductionHypothesis =>
      rw [JsValue.ofJsonMembers, inductionHypothesis, List.map_cons]

theorem isData_ofJson (value : Json) : IsData (.ofJson value) := by
  induction value using Json.inductionOn with
  | null => exact .null
  | boolean value => exact .boolean value
  | string text => exact .string text
  | number number => exact .number number
  | array items inductionHypothesis =>
      rw [JsValue.ofJson, ofJsonItems_eq_map]
      exact .array (List.forall_mem_map.mpr inductionHypothesis)
  | object members inductionHypothesis =>
      rw [JsValue.ofJson, ofJsonMembers_eq_map]
      exact .object (List.forall_mem_map.mpr inductionHypothesis)

theorem unsigned_ofJson (value : Json) :
    Unsigned (.ofJson value) ↔ ¬ InDomain value := by
  induction value using Json.inductionOn with
  | null =>
      exact iff_of_false (not_unsigned (by rintro ⟨⟩) (by rintro _ ⟨⟩))
        (not_not.mpr trivial)
  | boolean value =>
      exact iff_of_false (not_unsigned (by rintro ⟨⟩) (by rintro _ ⟨⟩))
        (not_not.mpr trivial)
  | string text =>
      exact iff_of_false (not_unsigned (by rintro ⟨⟩) (by rintro _ ⟨⟩))
        (not_not.mpr trivial)
  | number number =>
      rw [JsValue.ofJson, unsigned_number_iff, inDomain_number, not_not]
  | array items inductionHypothesis =>
      rw [JsValue.ofJson, ofJsonItems_eq_map, unsigned_array, inDomain_array]
      simp only [List.mem_map, exists_exists_and_eq_and, not_forall,
        exists_prop]
      exact exists_congr fun item => and_congr_right (inductionHypothesis item)
  | object members inductionHypothesis =>
      rw [JsValue.ofJson, ofJsonMembers_eq_map, unsigned_object,
        inDomain_object]
      simp only [List.mem_map, exists_exists_and_eq_and, not_forall,
        exists_prop]
      exact exists_congr fun entry =>
        and_congr_right (inductionHypothesis entry)

theorem canonicalize_rejects {value : Json} (out : ¬ InDomain value) :
    RejectsNumber (canonicalize (.ofJson value)) :=
  (serialize_refuses (isData_ofJson value) (units "$")).1
    ((unsigned_ofJson value).mpr out)

/-- The serializer writes exactly the values in the domain. -/
theorem canonicalize_ofJson_iff {value : Json} {text : JsString} :
    canonicalize (.ofJson value) = .ok text ↔
      InDomain value ∧ text = canonicalText value := by
  by_cases inside : InDomain value
  · rw [canonicalize_ofJson inside]
    simp [inside, eq_comm]
  · obtain ⟨message, isError⟩ := canonicalize_rejects inside
    rw [isError]
    simp [inside]

end AgenId.Core
