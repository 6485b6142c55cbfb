import AgenId.Ecma.Number

/-!
# Integers as numbers

An integer below 2 ^ 53 is a number itself, and rounding never takes a
magnitude below a number that it is not below.  A number from 2 ^ 53 on that
is less than 10 ^ 21 is written with digits alone.  A numeral that has neither a
decimal point nor an exponent is an optional sign and digits, and it reads as
the number nearest to the value of its digits.
-/

namespace AgenId.Ecma

/-! ## Rounding keeps the order -/

theorem floor_le_roundEven (value : ℚ) : ⌊value⌋ ≤ roundEven value := by
  simp only [roundEven]
  split_ifs <;> omega

/-- The magnitude of a rounded number, when it is finite. -/
theorem magnitude_of_round
    {negative : Bool} {magnitude : ℚ} {datum : Binary64}
    (rounds : roundToNumber negative magnitude = .finite datum) :
    datum.magnitude =
      (roundEven (magnitude / 2 ^ placeExponent magnitude)).toNat *
        2 ^ placeExponent magnitude := by
  unfold roundToNumber assembleNumber at rounds
  dsimp only at rounds
  split at rounds
  · rename_i carries
    split at rounds
    · obtain rfl := JsNumber.finite.inj rounds
      rw [Binary64.magnitude, carries, zpow_add₀ (by norm_num)]
      push_cast
      ring
    · cases rounds
  · split at rounds
    · obtain rfl := JsNumber.finite.inj rounds
      rfl
    · cases rounds

theorem placeExponent_mono
    {less more : ℚ} (positive : 0 < less) (order : less ≤ more) :
    placeExponent less ≤ placeExponent more := by
  have logOrder : Int.log 2 less ≤ Int.log 2 more :=
    Int.log_mono_right positive order
  rw [placeExponent, placeExponent, if_neg positive.ne',
    if_neg (positive.trans_le order).ne']
  omega

/-- What is not below a datum is not rounded below it. -/
theorem le_magnitude_of_round
    {negative : Bool} {magnitude : ℚ} {least datum : Binary64}
    (order : least.magnitude ≤ magnitude)
    (rounds : roundToNumber negative magnitude = .finite datum) :
    least.magnitude ≤ datum.magnitude := by
  rw [magnitude_of_round rounds]
  by_cases isZero : least.significand = 0
  · rw [Binary64.magnitude, isZero, Nat.cast_zero, zero_mul]
    positivity
  have positive : 0 < least.magnitude := by
    have : (0 : ℚ) < least.significand := by
      exact_mod_cast Nat.pos_of_ne_zero isZero
    unfold Binary64.magnitude
    positivity
  have samePlace : placeExponent least.magnitude = least.exponent := by
    rcases placeExponent_magnitude least with same | ⟨noDigits, -⟩
    · exact same
    · exact absurd noDigits isZero
  have places := placeExponent_mono positive order
  rw [samePlace] at places
  generalize atPlace : placeExponent magnitude = place at places ⊢
  have placePositive : (0 : ℚ) < 2 ^ place := by positivity
  -- A whole number of places below the magnitude stays below it.
  have keeps : ∀ count : Nat, (count : ℚ) * 2 ^ place ≤ magnitude →
      (count : ℚ) ≤ (roundEven (magnitude / 2 ^ place)).toNat := by
    intro count isBelow
    have isFloor : (count : Int) ≤ ⌊magnitude / 2 ^ place⌋ := by
      rw [Int.le_floor, le_div_iff₀ placePositive]
      exact_mod_cast isBelow
    have := isFloor.trans (floor_le_roundEven _)
    exact_mod_cast (show count ≤ _ by omega)
  rcases places.eq_or_lt with same | above
  · rw [Binary64.magnitude, same] at order ⊢
    gcongr
    exact_mod_cast keeps _ order
  · have fullPlace : place = Int.log 2 magnitude - 52 := by
      have := least.canonical.2.1
      rw [placeExponent, if_neg (positive.trans_le order).ne'] at atPlace
      omega
    have isFull : ((2 ^ 52 : Nat) : ℚ) * 2 ^ place ≤ magnitude := by
      have isLog := Int.zpow_log_le_self (show 1 < 2 by norm_num)
        (positive.trans_le order)
      have parts : Int.log 2 magnitude = 52 + place := by omega
      rw [parts, zpow_add₀ (by norm_num)] at isLog
      exact_mod_cast isLog
    calc least.magnitude
        ≤ (2 : ℚ) ^ (53 : Int) * 2 ^ least.exponent := by
          rw [Binary64.magnitude]
          gcongr
          exact_mod_cast least.canonical.1.le
      _ = 2 ^ (52 : Int) * 2 ^ (least.exponent + 1) := by
          rw [← zpow_add₀ (by norm_num), ← zpow_add₀ (by norm_num)]
          congr 1
          omega
      _ ≤ 2 ^ (52 : Int) * 2 ^ place := by
          gcongr
          · norm_num
          · omega
      _ ≤ (roundEven (magnitude / 2 ^ place)).toNat * 2 ^ place := by
          gcongr
          exact_mod_cast keeps _ isFull

/-! ## Integers that are numbers -/

/-- An integer below 2 ^ 53, with a sign. -/
def Binary64.ofNat (negative : Bool) (n : Nat) (small : n < 2 ^ 53) :
    Binary64 :=
  if isZero : n = 0 then
    ⟨negative, 0, -1074, by omega⟩
  else
    ⟨negative, n * 2 ^ (52 - Nat.log2 n), (Nat.log2 n : Int) - 52, by
      have least := Nat.log2_self_le isZero
      have most : n < 2 ^ (Nat.log2 n + 1) := Nat.lt_log2_self
      have inRange : Nat.log2 n < 53 := (Nat.log2_lt isZero).mpr small
      have lower : 2 ^ 52 ≤ n * 2 ^ (52 - Nat.log2 n) := by
        calc 2 ^ 52 = 2 ^ Nat.log2 n * 2 ^ (52 - Nat.log2 n) := by
              rw [← Nat.pow_add]
              congr 1
              omega
          _ ≤ n * 2 ^ (52 - Nat.log2 n) := Nat.mul_le_mul_right _ least
      have upper : n * 2 ^ (52 - Nat.log2 n) < 2 ^ 53 := by
        calc n * 2 ^ (52 - Nat.log2 n)
            < 2 ^ (Nat.log2 n + 1) * 2 ^ (52 - Nat.log2 n) :=
              Nat.mul_lt_mul_of_pos_right most (Nat.two_pow_pos _)
          _ = 2 ^ 53 := by
              rw [← Nat.pow_add]
              congr 1
              omega
      exact ⟨upper, by omega, by omega, Or.inl lower⟩⟩

@[simp]
theorem Binary64.negative_ofNat
    (negative : Bool) {n : Nat} (small : n < 2 ^ 53) :
    (Binary64.ofNat negative n small).negative = negative := by
  unfold Binary64.ofNat
  split <;> rfl

@[simp]
theorem Binary64.magnitude_ofNat
    (negative : Bool) {n : Nat} (small : n < 2 ^ 53) :
    (Binary64.ofNat negative n small).magnitude = n := by
  unfold Binary64.ofNat
  split
  · rename_i isZero
    simp [Binary64.magnitude, isZero]
  · rename_i nonzero
    have inRange : Nat.log2 n < 53 := (Nat.log2_lt nonzero).mpr small
    have places : ((52 - Nat.log2 n : Nat) : Int) + ((Nat.log2 n : Int) - 52) =
        0 := by
      omega
    simp only [Binary64.magnitude, Nat.cast_mul, Nat.cast_pow,
      Nat.cast_ofNat]
    rw [mul_assoc, ← zpow_natCast, ← zpow_add₀ (by norm_num), places,
      zpow_zero, mul_one]

/-- An integer below 2 ^ 53 is not rounded. -/
theorem roundToNumber_natCast
    (negative : Bool) {n : Nat} (small : n < 2 ^ 53) :
    roundToNumber negative n = .finite (.ofNat negative n small) := by
  simpa using roundToNumber_magnitude (.ofNat negative n small)

/-- The number 2 ^ 53. -/
def firstUnsafe : Binary64 := ⟨false, 2 ^ 52, 1, by decide⟩

/-- The number 10 ^ 21. -/
def firstExponential : Binary64 := ⟨false, 7629394531250000, 17, by decide⟩

theorem magnitude_firstUnsafe : firstUnsafe.magnitude = 2 ^ 53 := by
  norm_num [firstUnsafe, Binary64.magnitude]

theorem magnitude_firstExponential :
    firstExponential.magnitude = 10 ^ 21 := by
  norm_num [firstExponential, Binary64.magnitude]

/-! ## Integers that are written with digits alone -/

theorem decimal_length_le {n : Nat} (positive : 0 < n) :
    10 ^ ((decimal n).length - 1) ≤ n := by
  induction n using decimal.induct with
  | case1 n small =>
      rw [decimal, if_pos small]
      exact positive
  | case2 n large inductionHypothesis =>
      have shorter := inductionHypothesis (by omega)
      obtain ⟨head, rest, spelled, -⟩ :=
        decimal_head (show 0 < n / 10 by omega)
      rw [decimal, if_neg large]
      simp only [List.length_append, List.length_singleton,
        Nat.add_sub_cancel]
      rw [spelled, List.length_cons, Nat.add_sub_cancel] at shorter
      rw [spelled, List.length_cons, Nat.pow_succ]
      omega

theorem scale_le_decimalOfLength
    {value : Binary64} {count : Nat} {found : Nat × Int}
    (isFound : decimalOfLength value count = some found) :
    Int.log 10 value.magnitude + 1 - count ≤ found.2 := by
  unfold decimalOfLength at isFound
  dsimp only at isFound
  split at isFound
  · cases isFound
  · split at isFound
    · obtain rfl := Option.some.inj isFound
      dsimp only
      omega
    · obtain rfl := Option.some.inj isFound
      exact le_rfl

/-- A whole number is found with all the digits of its integer part. -/
theorem decimalOfLength_whole
    {value : Binary64} (whole : 0 ≤ value.exponent) {count : Nat}
    (isCount : (count : Int) = Int.log 10 value.magnitude + 1) :
    ∃ found, decimalOfLength value count = some found := by
  obtain ⟨places, isPlaces⟩ := Int.eq_ofNat_of_zero_le whole
  have isInteger : value.magnitude =
      ((value.significand * 2 ^ places : Nat) : Int) := by
    rw [Binary64.magnitude, isPlaces, zpow_natCast]
    push_cast
    rfl
  have reads : readsAs value (value.significand * 2 ^ places) 0 = true := by
    have exact := roundToNumber_magnitude value
    rw [isInteger] at exact
    simpa [readsAs] using exact
  unfold decimalOfLength
  dsimp only
  rw [← isCount, sub_self, zpow_zero, div_one, isInteger, roundEven_intCast,
    Int.toNat_natCast]
  simp only [List.find?_cons, reads]
  split <;> exact ⟨_, rfl⟩

/-- The shortest decimal of a whole number has no fraction. -/
theorem shortestDecimal_whole
    {value : Binary64} (whole : 0 ≤ value.exponent)
    (atLeastOne : 1 ≤ value.magnitude) :
    0 ≤ (shortestDecimal value).2 := by
  unfold shortestDecimal
  split
  · rename_i found isFound
    obtain ⟨earlier, index, later, isRange, foundHere, notEarlier⟩ :=
      List.findSome?_eq_some_iff.mp isFound
    have isScale := scale_le_decimalOfLength foundHere
    have isNonnegative : 0 ≤ Int.log 10 value.magnitude :=
      (Int.zpow_le_iff_le_log (show 1 < 10 by norm_num)
        (by linarith)).mp (by simpa using atLeastOne)
    obtain ⟨digits, isDigits⟩ := Int.eq_ofNat_of_zero_le isNonnegative
    rw [isDigits] at isScale
    by_cases within : index ≤ digits
    · omega
    · -- All the digits of the integer part would have been tried before.
      have isEarlier : digits ∈ earlier := by
        have ascends := @List.pairwise_lt_range 17
        have inRange : index < 17 := List.mem_range.mp (by
          rw [isRange]
          simp)
        have isMember : digits ∈ List.range 17 :=
          List.mem_range.mpr (by omega)
        rw [isRange, List.pairwise_append, List.pairwise_cons] at ascends
        rw [isRange, List.mem_append, List.mem_cons] at isMember
        rcases isMember with isEarlier | isIndex | isLater
        · exact isEarlier
        · omega
        · have := ascends.2.1.1 digits isLater
          omega
      have isCount : ((digits + 1 : Nat) : Int) =
          Int.log 10 value.magnitude + 1 := by
        rw [isDigits]
        rfl
      obtain ⟨shorter, isShorter⟩ := decimalOfLength_whole whole isCount
      rw [notEarlier digits isEarlier] at isShorter
      cases isShorter
  · rw [exactDecimal, if_pos whole]

/-- A whole number from 2 ^ 53 on that is less than 10 ^ 21 is written with a
sign and digits. -/
theorem finiteToString_whole
    {value : Binary64} (large : 2 ^ 53 ≤ value.magnitude)
    (below : value.magnitude < 10 ^ 21) :
    ∀ unit ∈ finiteToString value, unit = 0x2D ∨ isDigit unit = true := by
  have nonzero : value.significand ≠ 0 := by
    intro isZero
    rw [Binary64.magnitude, isZero] at large
    norm_num at large
  have whole : 0 ≤ value.exponent := by
    by_contra isFraction
    have small : value.magnitude < 2 ^ 53 := by
      calc value.magnitude
          ≤ value.significand * 1 := by
            rw [Binary64.magnitude]
            gcongr
            exact zpow_le_one_of_nonpos₀ (by norm_num) (by omega)
        _ < 2 ^ 53 := by
            rw [mul_one]
            exact_mod_cast value.canonical.1
    linarith
  have isWhole := shortestDecimal_whole whole (by linarith)
  have positive := shortestDecimal_positive nonzero
  have fits : (shortestDecimal value).2 +
      ((decimal (shortestDecimal value).1).length : Int) ≤ 21 := by
    by_contra tooLong
    have least := decimal_length_le positive
    obtain ⟨scale, isScale⟩ := Int.eq_ofNat_of_zero_le isWhole
    have order : firstExponential.magnitude ≤
        (shortestDecimal value).1 * 10 ^ (shortestDecimal value).2 := by
      rw [magnitude_firstExponential, isScale, zpow_natCast]
      rw [isScale] at tooLong
      calc (10 : ℚ) ^ 21
          ≤ 10 ^ ((decimal (shortestDecimal value).1).length - 1 + scale) :=
            pow_le_pow_right₀ (by norm_num) (by omega)
        _ ≤ (shortestDecimal value).1 * 10 ^ scale := by
            rw [pow_add]
            gcongr
            exact_mod_cast least
    have large := le_magnitude_of_round order (shortestDecimal_reads value)
    rw [magnitude_firstExponential] at large
    linarith
  have laidOut : layoutDigits (decimal (shortestDecimal value).1)
      ((shortestDecimal value).2 +
        (decimal (shortestDecimal value).1).length) =
      decimal (shortestDecimal value).1 ++ zeros _ :=
    if_pos ⟨by omega, fits⟩
  unfold finiteToString
  rw [if_neg nonzero]
  dsimp only
  rw [laidOut]
  intro unit isUnit
  rcases List.mem_append.mp isUnit with isSign | isDigits
  · left
    split at isSign
    · exact List.mem_singleton.mp isSign
    · cases isSign
  · right
    rcases List.mem_append.mp isDigits with isDigit | isZero
    · exact decimal_digits _ unit isDigit
    · exact zeros_digits _ unit isZero

/-! ## The values of digits -/

theorem digitsValue_eq (initial : Nat) (digits : JsString) :
    digitsValue initial digits =
      initial * 10 ^ digits.length + digitsValue 0 digits := by
  induction digits generalizing initial with
  | nil => simp [digitsValue]
  | cons unit rest inductionHypothesis =>
      have step : ∀ start, digitsValue start (unit :: rest) =
          digitsValue (start * 10 + (unit.toNat - 0x30)) rest := fun _ => rfl
      rw [step, step, inductionHypothesis,
        inductionHypothesis (0 * 10 + (unit.toNat - 0x30)), List.length_cons]
      ring

theorem digitsValue_lt
    {digits : JsString} (areDigits : ∀ unit ∈ digits, isDigit unit = true) :
    digitsValue 0 digits < 10 ^ digits.length := by
  induction digits with
  | nil => simp [digitsValue]
  | cons unit rest inductionHypothesis =>
      obtain ⟨isFirst, areRest⟩ := List.forall_mem_cons.mp areDigits
      have restSmall := inductionHypothesis areRest
      have bound := isDigit_iff.mp isFirst
      have step : digitsValue 0 (unit :: rest) =
          digitsValue (0 * 10 + (unit.toNat - 0x30)) rest := rfl
      have most : (unit.toNat - 0x30) * 10 ^ rest.length ≤
          9 * 10 ^ rest.length :=
        Nat.mul_le_mul_right _ (by omega)
      rw [step, digitsValue_eq, Nat.zero_mul, Nat.zero_add, List.length_cons,
        Nat.pow_succ]
      omega

/-- Digits in the same number are ordered as their values are. -/
theorem digitsValue_lt_iff
    {left right : JsString} (sameLength : left.length = right.length)
    (leftDigits : ∀ unit ∈ left, isDigit unit = true)
    (rightDigits : ∀ unit ∈ right, isDigit unit = true) (initial : Nat) :
    digitsValue initial left < digitsValue initial right ↔ left < right := by
  induction left generalizing right initial with
  | nil =>
      have isNil : right = [] := List.length_eq_zero_iff.mp sameLength.symm
      simp [isNil]
  | cons first firsts inductionHypothesis =>
      cases right with
      | nil => cases sameLength
      | cons second seconds =>
          have sameRest : firsts.length = seconds.length := by
            simpa using sameLength
          obtain ⟨isFirst, areFirsts⟩ := List.forall_mem_cons.mp leftDigits
          obtain ⟨isSecond, areSeconds⟩ := List.forall_mem_cons.mp rightDigits
          have firstBound := isDigit_iff.mp isFirst
          have secondBound := isDigit_iff.mp isSecond
          have firstsSmall := digitsValue_lt areFirsts
          have secondsSmall := digitsValue_lt areSeconds
          have step : ∀ unit rest, digitsValue initial (unit :: rest) =
              digitsValue (initial * 10 + (unit.toNat - 0x30)) rest :=
            fun _ _ => rfl
          rw [List.cons_lt_cons_iff, step, step]
          rcases lt_trichotomy first second with less | rfl | greater
          · have less' := UInt16.lt_iff_toNat_lt.mp less
            simp only [less, true_or, iff_true]
            rw [digitsValue_eq, digitsValue_eq _ seconds, sameRest]
            rw [sameRest] at firstsSmall
            have carry : (initial * 10 + (first.toNat - 0x30) + 1) *
                10 ^ seconds.length ≤
                (initial * 10 + (second.toNat - 0x30)) *
                  10 ^ seconds.length :=
              Nat.mul_le_mul_right _ (by omega)
            rw [Nat.add_mul, Nat.one_mul] at carry
            omega
          · rw [inductionHypothesis sameRest areFirsts areSeconds]
            simp
          · have greater' := UInt16.lt_iff_toNat_lt.mp greater
            have notLess : ¬ first < second := lt_asymm greater
            have different : first ≠ second := ne_of_gt greater
            simp only [notLess, different, false_and, or_self, iff_false]
            rw [digitsValue_eq, digitsValue_eq _ seconds, sameRest]
            have carry : (initial * 10 + (second.toNat - 0x30) + 1) *
                10 ^ seconds.length ≤
                (initial * 10 + (first.toNat - 0x30)) *
                  10 ^ seconds.length :=
              Nat.mul_le_mul_right _ (by omega)
            rw [Nat.add_mul, Nat.one_mul] at carry
            omega

/-! ## Numbers that are written with an exponent -/

theorem length_decimal_gt {n k : Nat} (large : 10 ^ k ≤ n) :
    k < (decimal n).length := by
  have value := digitsValue_decimal 0 n
  rw [Nat.zero_mul, Nat.zero_add] at value
  have below := digitsValue_lt (decimal_digits n)
  rw [value] at below
  exact (Nat.pow_lt_pow_iff_right (by decide)).mp (large.trans_lt below)

theorem magnitude_positive
    {value : Binary64} (nonzero : value.significand ≠ 0) :
    0 < value.magnitude := by
  have positive : (0 : ℚ) < value.significand := by
    exact_mod_cast Nat.pos_of_ne_zero nonzero
  rw [Binary64.magnitude]
  positivity

/-- A decimal that is found is not less than the power of ten below the
number. -/
theorem pow_log_le_decimalOfLength
    {value : Binary64} (nonzero : value.significand ≠ 0) {count : Nat}
    {found : Nat × Int}
    (isFound : decimalOfLength value (count + 1) = some found) :
    (10 : ℚ) ^ Int.log 10 value.magnitude ≤ found.1 * 10 ^ found.2 := by
  have atLeast : (10 : ℚ) ^ Int.log 10 value.magnitude ≤ value.magnitude := by
    exact_mod_cast Int.zpow_log_le_self (by decide)
      (magnitude_positive nonzero)
  have isPower : (10 : ℚ) ^ count *
      10 ^ (Int.log 10 value.magnitude + 1 - (count + 1 : Nat)) =
        10 ^ Int.log 10 value.magnitude := by
    rw [← zpow_natCast, ← zpow_add₀ (by norm_num)]
    congr 1
    push_cast
    ring
  have scalePositive : (0 : ℚ) <
      10 ^ (Int.log 10 value.magnitude + 1 - (count + 1 : Nat)) := by
    positivity
  have isFloor : ((10 ^ count : Nat) : Int) ≤
      ⌊value.magnitude /
        10 ^ (Int.log 10 value.magnitude + 1 - (count + 1 : Nat))⌋ := by
    rw [Int.le_floor, le_div_iff₀ scalePositive, Int.cast_natCast,
      Nat.cast_pow, Nat.cast_ofNat, isPower]
    exact atLeast
  have enough : ∀ digits : Nat, 10 ^ count ≤ digits →
      (10 : ℚ) ^ Int.log 10 value.magnitude ≤ digits *
        10 ^ (Int.log 10 value.magnitude + 1 - (count + 1 : Nat)) := by
    intro digits many
    rw [← isPower]
    gcongr
    exact_mod_cast many
  unfold decimalOfLength at isFound
  dsimp only at isFound
  split at isFound
  · cases isFound
  · rename_i digits isFirst
    have notBelow := floor_le_roundEven (value.magnitude /
      10 ^ (Int.log 10 value.magnitude + 1 - (count + 1 : Nat)))
    have many : 10 ^ count ≤ digits := by
      have isMember := List.mem_of_find?_eq_some isFirst
      simp only [List.mem_cons, List.not_mem_nil, or_false] at isMember
      omega
    split at isFound
    · rename_i isNext
      obtain rfl := Option.some.inj isFound
      have order := enough digits many
      rw [isNext] at order
      dsimp only
      rw [zpow_add₀ (by norm_num), zpow_natCast]
      push_cast at order ⊢
      linarith
    · obtain rfl := Option.some.inj isFound
      exact enough digits many

theorem pow_log_le_shortestDecimal
    {value : Binary64} (nonzero : value.significand ≠ 0) :
    (10 : ℚ) ^ Int.log 10 value.magnitude ≤
      (shortestDecimal value).1 * 10 ^ (shortestDecimal value).2 := by
  unfold shortestDecimal
  split
  · rename_i found isFound
    obtain ⟨index, -, foundHere⟩ :=
      List.exists_of_findSome?_eq_some isFound
    exact pow_log_le_decimalOfLength nonzero foundHere
  · rw [exactDecimal_value]
    exact_mod_cast Int.zpow_log_le_self (by decide)
      (magnitude_positive nonzero)

/-- The decimal point stands after the digits of the integer part. -/
theorem log_lt_point
    {value : Binary64} (nonzero : value.significand ≠ 0) :
    Int.log 10 value.magnitude < (shortestDecimal value).2 +
      ((decimal (shortestDecimal value).1).length : Int) := by
  have below : (shortestDecimal value).1 <
      10 ^ (decimal (shortestDecimal value).1).length := by
    by_contra large
    have longer := length_decimal_gt (not_lt.mp large)
    omega
  have order := pow_log_le_shortestDecimal nonzero
  have less : (10 : ℚ) ^ Int.log 10 value.magnitude <
      10 ^ ((shortestDecimal value).2 +
        ((decimal (shortestDecimal value).1).length : Int)) := by
    calc (10 : ℚ) ^ Int.log 10 value.magnitude
        ≤ (shortestDecimal value).1 * 10 ^ (shortestDecimal value).2 := order
      _ < 10 ^ (decimal (shortestDecimal value).1).length *
            10 ^ (shortestDecimal value).2 := by
          gcongr
          exact_mod_cast below
      _ = 10 ^ ((shortestDecimal value).2 +
            ((decimal (shortestDecimal value).1).length : Int)) := by
          rw [zpow_add₀ (by norm_num), zpow_natCast, mul_comm]
  exact (zpow_lt_zpow_iff_right₀ (by norm_num)).mp less

/-- A number from 10 ^ 21 on is written with an exponent. -/
theorem finiteToString_exponential
    {value : Binary64} (large : 10 ^ 21 ≤ value.magnitude) :
    0x65 ∈ finiteToString value := by
  have nonzero : value.significand ≠ 0 := by
    intro isZero
    rw [Binary64.magnitude, isZero] at large
    norm_num at large
  have isLog : 21 ≤ Int.log 10 value.magnitude := by
    have positive := magnitude_positive nonzero
    exact (Int.zpow_le_iff_le_log (by decide) positive).mp
      (by exact_mod_cast large)
  have point := log_lt_point nonzero
  have isMark : (0x65 : UInt16) ∈ units "e" := by decide
  rw [finiteToString, if_neg nonzero]
  apply List.mem_append_right
  rw [layoutDigits, if_neg (by omega), if_neg (by omega), if_neg (by omega)]
  have inExponent : ∀ sign digits : JsString,
      (0x65 : UInt16) ∈ units "e" ++ sign ++ digits := by
    intro sign digits
    exact List.mem_append_left _ (List.mem_append_left _ isMark)
  dsimp only
  split
  · exact List.mem_append_right _ (inExponent _ _)
  · exact List.mem_append_right _ (inExponent _ _)

/-! ## Numerals that are integers -/

/-- The digits of an integer, with no zero in front of others. -/
structure IntegerDigits (digits : JsString) : Prop where
  areDigits : ∀ unit ∈ digits, isDigit unit = true
  head : digits = [0x30] ∨ ∃ head rest, digits = head :: rest ∧ head ≠ 0x30

theorem IntegerDigits.le_digitsValue
    {digits : JsString} (isInteger : IntegerDigits digits)
    (isLonger : 1 < digits.length) :
    10 ^ (digits.length - 1) ≤ digitsValue 0 digits := by
  rcases isInteger.head with rfl | ⟨head, rest, rfl, nonzero⟩
  · simp at isLonger
  · have bound := isDigit_iff.mp (isInteger.areDigits head List.mem_cons_self)
    have isPositive : 0x30 ≠ head.toNat := by
      intro isZero
      exact nonzero (UInt16.toNat_inj.mp isZero.symm)
    have step : digitsValue 0 (head :: rest) =
        digitsValue (0 * 10 + (head.toNat - 0x30)) rest := rfl
    have least : 1 * 10 ^ rest.length ≤
        (head.toNat - 0x30) * 10 ^ rest.length :=
      Nat.mul_le_mul_right _ (by omega)
    rw [step, digitsValue_eq, Nat.zero_mul, Nat.zero_add, List.length_cons,
      Nat.add_sub_cancel]
    omega

/-- Whether a numeral has a decimal point or an exponent. -/
def HasMark (source : JsString) : Prop :=
  ∃ unit ∈ source, unit = 0x2E ∨ unit = 0x65 ∨ unit = 0x45

theorem HasMark.mono
    {inner outer : JsString} (marked : HasMark inner)
    (inside : ∀ unit ∈ inner, unit ∈ outer) :
    HasMark outer := by
  obtain ⟨unit, isUnit, isMark⟩ := marked
  exact ⟨unit, inside unit isUnit, isMark⟩

theorem readSomeDigits_parts
    {text digits rest : JsString}
    (read : readSomeDigits text = some (digits, rest)) :
    text = digits ++ rest ∧ digits ≠ [] ∧
      ∀ unit ∈ digits, isDigit unit = true := by
  unfold readSomeDigits at read
  split at read
  · cases read
  · rename_i nonempty
    cases read
    refine ⟨List.takeWhile_append_dropWhile.symm, nonempty, ?_⟩
    intro unit isUnit
    exact List.mem_takeWhile_imp isUnit

theorem readWhole_parts
    {text whole rest : JsString}
    (read : readWhole text = some (whole, rest)) :
    text = whole ++ rest ∧ IntegerDigits whole := by
  unfold readWhole at read
  split at read
  · cases read
  · rename_i head others
    split at read
    · rename_i isZero
      cases read
      exact ⟨rfl, by rw [isZero]; exact zero_digits, Or.inl (by rw [isZero])⟩
    · rename_i nonzero
      obtain ⟨isSplit, nonempty, areDigits⟩ := readSomeDigits_parts read
      refine ⟨isSplit, areDigits, Or.inr ?_⟩
      cases whole with
      | nil => exact absurd rfl nonempty
      | cons first digits =>
          obtain ⟨rfl, -⟩ := List.cons.inj isSplit
          exact ⟨head, digits, rfl, nonzero⟩

theorem readDecimals_parts
    {text decimals rest : JsString}
    (read : readDecimals text = some (decimals, rest)) :
    decimals = [] ∧ text = rest ∨
      ∃ used, text = used ++ rest ∧ HasMark used := by
  unfold readDecimals at read
  split at read
  · cases read
    exact Or.inl ⟨rfl, rfl⟩
  · split at read
    · rename_i head others isPoint
      obtain ⟨isSplit, -⟩ := readSomeDigits_parts read
      exact Or.inr ⟨head :: decimals, by rw [isSplit]; rfl, head,
        List.mem_cons_self, Or.inl isPoint⟩
    · cases read
      exact Or.inl ⟨rfl, rfl⟩

/-- The digits of an exponent end a numeral with a mark. -/
theorem exponentDigits_parts
    {head : UInt16} (isMark : head = 0x65 ∨ head = 0x45)
    (sign : JsString) {text rest : JsString} {exponent : Int}
    {value : JsString × JsString → Int}
    (read : (readSomeDigits text).map (fun parts => (value parts, parts.2)) =
      some (exponent, rest)) :
    ∃ used, head :: (sign ++ text) = used ++ rest ∧ HasMark used := by
  obtain ⟨parts, found, same⟩ := Option.map_eq_some_iff.mp read
  obtain ⟨isSplit, -⟩ := readSomeDigits_parts found
  cases same
  refine ⟨head :: (sign ++ parts.1), ?_, head, List.mem_cons_self,
    Or.inr isMark⟩
  rw [isSplit, List.cons_append, List.append_assoc]

theorem readExponent_parts
    {text rest : JsString} {exponent : Int}
    (read : readExponent text = some (exponent, rest)) :
    exponent = 0 ∧ text = rest ∨
      ∃ used, text = used ++ rest ∧ HasMark used := by
  unfold readExponent at read
  split at read
  · cases read
    exact Or.inl ⟨rfl, rfl⟩
  · split at read
    · rename_i isMark
      right
      split at read
      · cases read
      · split at read
        · exact exponentDigits_parts isMark [_] read
        · split at read
          · exact exponentDigits_parts isMark [_] read
          · exact exponentDigits_parts isMark [] read
    · cases read
      exact Or.inl ⟨rfl, rfl⟩

theorem readMagnitude_parts
    {text rest : JsString} {magnitude : ℚ}
    (read : readMagnitude text = some (magnitude, rest)) :
    ∃ used, text = used ++ rest ∧
      (HasMark used ∨
        IntegerDigits used ∧ magnitude = digitsValue 0 used) := by
  unfold readMagnitude at read
  simp only [Option.bind_eq_bind, Option.bind_eq_some_iff] at read
  obtain ⟨⟨whole, afterWhole⟩, isWhole, ⟨decimals, afterDecimals⟩, isDecimals,
    ⟨exponent, afterExponent⟩, isExponent, same⟩ := read
  cases same
  obtain ⟨rfl, isInteger⟩ := readWhole_parts isWhole
  rcases readDecimals_parts isDecimals with ⟨rfl, rfl⟩ | ⟨used, rfl, marked⟩
  · rcases readExponent_parts isExponent with ⟨rfl, rfl⟩ | ⟨used, rfl, marked⟩
    · exact ⟨whole, rfl, Or.inr ⟨isInteger, by simp⟩⟩
    · exact ⟨whole ++ used, (List.append_assoc _ _ _).symm,
        Or.inl (marked.mono fun _ => List.mem_append_right _)⟩
  · rcases readExponent_parts isExponent with ⟨rfl, rfl⟩ | ⟨others, rfl, -⟩
    · exact ⟨whole ++ used, (List.append_assoc _ _ _).symm,
        Or.inl (marked.mono fun _ => List.mem_append_right _)⟩
    · exact ⟨whole ++ used ++ others, by simp,
        Or.inl (marked.mono fun _ isUnit =>
          List.mem_append_left _ (List.mem_append_right _ isUnit))⟩

/-- An integer as a numeral. -/
def integerText (negative : Bool) (digits : JsString) : JsString :=
  (if negative then [0x2D] else []) ++ digits

/-- A numeral with a mark, or an integer with the number nearest to it. -/
def IsNumeral (source : JsString) (value : JsNumber) : Prop :=
  HasMark source ∨
    ∃ negative digits,
      source = integerText negative digits ∧ IntegerDigits digits ∧
        value = roundToNumber negative (digitsValue 0 digits)

/-- What is read as a number is a numeral. -/
theorem readNumber_parts
    {text rest : JsString} {value : JsNumber}
    (read : readNumber text = some (value, rest)) :
    ∃ source, text = source ++ rest ∧ IsNumeral source value := by
  unfold readNumber at read
  split at read
  · cases read
  · rename_i head others
    split at read
    · rename_i isSign
      obtain ⟨⟨magnitude, after⟩, found, same⟩ :=
        Option.map_eq_some_iff.mp read
      cases same
      obtain ⟨used, rfl, marked | ⟨isInteger, rfl⟩⟩ :=
        readMagnitude_parts found
      · exact ⟨head :: used, rfl,
          Or.inl (marked.mono fun _ => List.mem_cons_of_mem _)⟩
      · exact ⟨head :: used, rfl,
          Or.inr ⟨true, used, by rw [isSign]; rfl, isInteger, rfl⟩⟩
    · obtain ⟨⟨magnitude, after⟩, found, same⟩ :=
        Option.map_eq_some_iff.mp read
      cases same
      obtain ⟨used, isSplit, marked | ⟨isInteger, rfl⟩⟩ :=
        readMagnitude_parts found
      · exact ⟨used, isSplit, Or.inl marked⟩
      · exact ⟨used, isSplit, Or.inr ⟨false, used, rfl, isInteger, rfl⟩⟩

theorem IntegerDigits.not_sign
    {digits : JsString} (isInteger : IntegerDigits digits) :
    (0x2D : UInt16) ∉ digits := by
  intro isSign
  exact absurd (isInteger.areDigits 0x2D isSign) (by decide)

theorem IntegerDigits.not_hasMark
    {digits : JsString} (isInteger : IntegerDigits digits)
    (negative : Bool) :
    ¬ HasMark (integerText negative digits) := by
  rintro ⟨unit, isUnit, isMark⟩
  have notDigit : isDigit unit = false := by
    rcases isMark with rfl | rfl | rfl <;> rfl
  rcases List.mem_append.mp isUnit with isSign | isDigit
  · cases negative with
    | true =>
        rw [List.mem_singleton.mp isSign] at isMark
        exact absurd isMark (by decide)
    | false => cases isSign
  · rw [isInteger.areDigits unit isDigit] at notDigit
    cases notDigit

/-- The sign and the digits of an integer are seen in its text. -/
theorem integerText_injective
    {negative other : Bool} {digits others : JsString}
    (isInteger : IntegerDigits digits) (alsoInteger : IntegerDigits others)
    (same : integerText negative digits = integerText other others) :
    negative = other ∧ digits = others := by
  cases negative with
  | true =>
      cases other with
      | true => exact ⟨rfl, (List.cons.inj same).2⟩
      | false =>
          have isSign : (0x2D : UInt16) ∈ others := by
            rw [show others = 0x2D :: digits from same.symm]
            exact List.mem_cons_self
          exact absurd isSign alsoInteger.not_sign
  | false =>
      cases other with
      | true =>
          have isSign : (0x2D : UInt16) ∈ digits := by
            rw [show digits = 0x2D :: others from same]
            exact List.mem_cons_self
          exact absurd isSign isInteger.not_sign
      | false => exact ⟨rfl, same⟩

/-- An integer reads as the number nearest to it. -/
theorem IsNumeral.value_integer
    {negative : Bool} {digits : JsString} {value : JsNumber}
    (isNumeral : IsNumeral (integerText negative digits) value)
    (isInteger : IntegerDigits digits) :
    value = roundToNumber negative (digitsValue 0 digits) := by
  rcases isNumeral with marked | ⟨sign, others, same, alsoInteger, isValue⟩
  · exact absurd marked (isInteger.not_hasMark negative)
  · obtain ⟨rfl, rfl⟩ := integerText_injective isInteger alsoInteger same
    exact isValue

end AgenId.Ecma
