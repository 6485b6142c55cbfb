import AgenId.Core.Identified
import AgenId.Ecma.Integer
import AgenId.Library.Positional
import Mathlib.Tactic.IntervalCases

/-!
# ULIDs

The generator of `identifier.ts`: ten digits of base 32 for the time, and ten
random bytes packed into sixteen more.  The buffer of the packing is an
integer of 32 bits that its own shifts overflow; what the loop maintains is
that the low bits which are still counted are the ones not yet written.
-/

namespace AgenId.Core.Ulid

open AgenId.Ecma
open AgenId.Library

/-! ## The generator -/

def CROCKFORD : JsString := units "0123456789ABCDEFGHJKMNPQRSTVWXYZ"

/-- `CROCKFORD[index]`, for an index below 32. -/
def crockfordUnit (index : Nat) : UInt16 :=
  CROCKFORD.getD index 0

/-- The loop over the digits of the time, the last digit first. -/
def writeTime : Nat → Nat → JsString → JsString
  | 0, _, time => time
  | rounds + 1, t, time =>
    writeTime rounds (t / 32) (crockfordUnit (t % 32) :: time)

/-- The loop that writes the whole digits in the buffer, and the number of
bits that it leaves. -/
def writeDigits (bitBuf : BitVec 32) : Nat → JsString × Nat
  | bitCount + 5 =>
    let (rand, left) := writeDigits bitBuf bitCount
    (crockfordUnit (bitBuf >>> bitCount &&& 31).toNat :: rand, left)
  | bitCount => ([], bitCount)

/-- The loop over the random bytes; the buffer is an integer of 32 bits. -/
def writeRandom : List UInt8 → BitVec 32 → Nat → JsString
  | [], _, _ => []
  | byte :: rnd, bitBuf, bitCount =>
    let bitBuf := bitBuf <<< 8 ||| BitVec.ofNat 32 byte.toNat
    let (rand, left) := writeDigits bitBuf (bitCount + 8)
    rand ++ writeRandom rnd bitBuf left

/-- The value of a finite datum. -/
def value (datum : Binary64) : ℚ :=
  if datum.negative then -datum.magnitude else datum.magnitude

/-- What `randomBytes(10)` returns. -/
abbrev RandomBytes := { rnd : List UInt8 // rnd.length = 10 }

/-- `generateUlid(now)`, for the random bytes that are drawn.  The time that
passes the guard is below `2 ^ 48`, so that no division rounds it. -/
def generateUlid (now : JsNumber) (rnd : RandomBytes) :
    Except AgenIdError JsString :=
  let outOfRange : AgenIdError := .invalidIdentifierError
    (units "ULID timestamp must be an integer in [0, 2^48)")
  match now with
  | .finite datum =>
    if (value datum).den ≠ 1 ∨ value datum < 0 ∨
        0xffffffffffff < value datum then
      .error outOfRange
    else
      .ok (writeTime 10 (value datum).num.toNat [] ++ writeRandom rnd.val 0 0)
  | _ => .error outOfRange

/-! ## Digits of base 32 -/

/-- The value of a digit of base 32. -/
def crockfordIndex (unit : UInt16) : Nat :=
  CROCKFORD.idxOf unit

/-- The number that a text of digits of base 32 denotes. -/
def crockfordValue (text : JsString) : Nat :=
  bigEndian 32 (text.map crockfordIndex)

/-- The number that a list of bytes denotes, the first the most
significant. -/
def bytesValue (bytes : List UInt8) : Nat :=
  bigEndian 256 (bytes.map UInt8.toNat)

theorem bytesValue_cons (byte : UInt8) (rest : List UInt8) :
    bytesValue (byte :: rest) =
      byte.toNat * 256 ^ rest.length + bytesValue rest := by
  rw [bytesValue, List.map_cons, bigEndian_cons, List.length_map, bytesValue]

theorem crockfordIndex_crockfordUnit {index : Nat} (small : index < 32) :
    crockfordIndex (crockfordUnit index) = index := by
  have known : ∀ index : Fin 32,
      crockfordIndex (crockfordUnit index) = index := by
    decide
  exact known ⟨index, small⟩

theorem isCrockford_crockfordUnit {index : Nat} (small : index < 32) :
    isCrockford (crockfordUnit index) = true := by
  have known : ∀ index : Fin 32,
      isCrockford (crockfordUnit index) = true := by
    decide
  exact known ⟨index, small⟩

theorem isUlidLead_crockfordUnit {index : Nat} (small : index < 8) :
    isUlidLead (crockfordUnit index) = true := by
  have known : ∀ index : Fin 8, isUlidLead (crockfordUnit index) = true := by
    decide
  exact known ⟨index, small⟩

/-- The alphabet is in the order of its digits. -/
theorem strictMonoOn_crockfordUnit :
    StrictMonoOn crockfordUnit (Set.Iio 32) := by
  have ascending : CROCKFORD.Pairwise (· < ·) := by decide
  have atIndex : ∀ index (small : index < CROCKFORD.length),
      crockfordUnit index = CROCKFORD[index] := by
    intro index small
    simp [crockfordUnit, small]
  intro first firstSmall second secondSmall less
  have isFirst : first < CROCKFORD.length := firstSmall
  have isSecond : second < CROCKFORD.length := secondSmall
  rw [atIndex first isFirst, atIndex second isSecond]
  exact List.pairwise_iff_getElem.mp ascending _ _ isFirst isSecond less

/-- A text of digits of base 32, given by their values. -/
structure IsWritten (text : JsString) (digits : List Nat) : Prop where
  isText : text = digits.map crockfordUnit
  small : ∀ digit ∈ digits, digit < 32

namespace IsWritten

variable {text : JsString} {digits : List Nat}

theorem map_crockfordIndex (written : IsWritten text digits) :
    text.map crockfordIndex = digits := by
  rw [written.isText, List.map_map]
  calc digits.map (crockfordIndex ∘ crockfordUnit)
      = digits.map id := List.map_congr_left fun digit isDigit =>
        crockfordIndex_crockfordUnit (written.small digit isDigit)
    _ = digits := List.map_id digits

theorem crockfordValue_eq (written : IsWritten text digits) :
    crockfordValue text = bigEndian 32 digits := by
  rw [crockfordValue, written.map_crockfordIndex]

theorem length_eq (written : IsWritten text digits) :
    text.length = digits.length := by
  rw [written.isText, List.length_map]

theorem isCrockford (written : IsWritten text digits) :
    ∀ unit ∈ text, isCrockford unit = true := by
  rw [written.isText]
  intro unit isUnit
  obtain ⟨digit, isDigit, rfl⟩ := List.mem_map.mp isUnit
  exact isCrockford_crockfordUnit (written.small digit isDigit)

/-- Written texts of one length are in the order of their numbers. -/
theorem lt_iff
    {other : JsString} {others : List Nat}
    (written : IsWritten text digits) (alsoWritten : IsWritten other others)
    (sameLength : text.length = other.length) :
    text < other ↔ crockfordValue text < crockfordValue other := by
  rw [written.length_eq, alsoWritten.length_eq] at sameLength
  rw [written.crockfordValue_eq, alsoWritten.crockfordValue_eq,
    bigEndian_lt_iff (by decide) sameLength written.small alsoWritten.small,
    written.isText, alsoWritten.isText]
  exact map_lt_map_iff strictMonoOn_crockfordUnit written.small
    alsoWritten.small

end IsWritten

theorem isWritten_nil : IsWritten [] [] :=
  ⟨rfl, List.forall_mem_nil _⟩

theorem isWritten_cons
    {text : JsString} {digits : List Nat} {digit : Nat}
    (small : digit < 32) (written : IsWritten text digits) :
    IsWritten (crockfordUnit digit :: text) (digit :: digits) where
  isText := by rw [List.map_cons, written.isText]
  small := List.forall_mem_cons.mpr ⟨small, written.small⟩

theorem isWritten_append
    {front back : JsString} {firsts seconds : List Nat}
    (isFront : IsWritten front firsts) (isBack : IsWritten back seconds) :
    IsWritten (front ++ back) (firsts ++ seconds) where
  isText := by rw [List.map_append, isFront.isText, isBack.isText]
  small := List.forall_mem_append.mpr ⟨isFront.small, isBack.small⟩

/-! ## The time -/

/-- The loop writes the digits of the time in front of those it has. -/
theorem writeTime_spec (rounds t : Nat) (time : JsString) :
    ∃ text digits, writeTime rounds t time = text ++ time ∧
      IsWritten text digits ∧ digits.length = rounds ∧
      bigEndian 32 digits = t % 32 ^ rounds := by
  induction rounds generalizing t time with
  | zero =>
      refine ⟨[], [], rfl, isWritten_nil, rfl, ?_⟩
      rw [bigEndian_nil, pow_zero, Nat.mod_one]
  | succ rounds inductionHypothesis =>
      obtain ⟨text, digits, isText, written, length, denotes⟩ :=
        inductionHypothesis (t / 32) (crockfordUnit (t % 32) :: time)
      have last : IsWritten [crockfordUnit (t % 32)] [t % 32] :=
        isWritten_cons (Nat.mod_lt t (by decide)) isWritten_nil
      refine ⟨text ++ [crockfordUnit (t % 32)], digits ++ [t % 32], ?_,
        isWritten_append written last, ?_, ?_⟩
      · rw [writeTime, isText, List.append_assoc, List.singleton_append]
      · rw [List.length_append, length, List.length_singleton]
      · rw [bigEndian_append, denotes, bigEndian_cons, bigEndian_nil,
          List.length_singleton, List.length_nil, pow_succ' 32 rounds,
          Nat.mod_mul]
        ring

/-! ## The random bytes -/

/-- The bits of the buffer that are still to be written. -/
def pending (bitBuf : BitVec 32) (bitCount : Nat) : Nat :=
  bitBuf.toNat % 2 ^ bitCount

/-- A byte is appended to the pending bits, whatever the shift throws away
above them. -/
theorem pending_append
    (bitBuf : BitVec 32) {bitCount : Nat} (fits : bitCount + 8 ≤ 32)
    (byte : UInt8) :
    pending (bitBuf <<< 8 ||| BitVec.ofNat 32 byte.toNat) (bitCount + 8) =
      pending bitBuf bitCount * 256 + byte.toNat := by
  have small : byte.toNat < 2 ^ 8 := byte.toNat_lt
  have below : 2 ^ 8 ≤ 2 ^ (bitCount + 8) :=
    Nat.pow_le_pow_right (by decide) (by omega)
  have wraps : 2 ^ (bitCount + 8) ∣ 2 ^ 32 := Nat.pow_dvd_pow 2 fits
  have isShifted : bitBuf.toNat <<< 8 % 2 ^ (bitCount + 8) =
      (bitBuf.toNat % 2 ^ bitCount) <<< 8 := by
    rw [Nat.shiftLeft_eq, Nat.shiftLeft_eq, Nat.pow_add,
      Nat.mul_mod_mul_right]
  rw [pending, BitVec.toNat_or, Nat.or_mod_two_pow, BitVec.toNat_shiftLeft,
    BitVec.toNat_ofNat, Nat.mod_mod_of_dvd _ wraps, Nat.mod_mod_of_dvd _ wraps,
    isShifted, Nat.mod_eq_of_lt (small.trans_le below),
    ← Nat.shiftLeft_add_eq_or_of_lt small, Nat.shiftLeft_eq, pending]

/-- The digit that is written is the next five pending bits. -/
theorem nextDigit (bitBuf : BitVec 32) (bitCount : Nat) :
    (bitBuf >>> bitCount &&& 31).toNat =
      bitBuf.toNat / 2 ^ bitCount % 32 := by
  have isMask : (31 : BitVec 32).toNat = 2 ^ 5 - 1 := by decide
  rw [BitVec.toNat_and, BitVec.toNat_ushiftRight, isMask,
    Nat.and_two_pow_sub_one_eq_mod, Nat.shiftRight_eq_div_pow]

theorem pending_split (bitBuf : BitVec 32) (bitCount : Nat) :
    pending bitBuf (bitCount + 5) =
      bitBuf.toNat / 2 ^ bitCount % 32 * 2 ^ bitCount +
        pending bitBuf bitCount := by
  rw [pending, Nat.pow_add, Nat.mod_mul, pending]
  ring

/-- The digits that are written, and the bits that are left, are the pending
bits. -/
theorem writeDigits_spec (bitBuf : BitVec 32) (bitCount : Nat) :
    ∃ digits, IsWritten (writeDigits bitBuf bitCount).1 digits ∧
      digits.length = bitCount / 5 ∧
      (writeDigits bitBuf bitCount).2 = bitCount % 5 ∧
      bigEndian 32 digits * 2 ^ (bitCount % 5) +
        pending bitBuf (bitCount % 5) = pending bitBuf bitCount := by
  fun_induction writeDigits bitBuf bitCount with
  | case1 bitCount rand left isDrained inductionHypothesis =>
      rw [isDrained] at inductionHypothesis
      obtain ⟨digits, written, length, isLeft, denotes⟩ := inductionHypothesis
      have small : bitBuf.toNat / 2 ^ bitCount % 32 < 32 :=
        Nat.mod_lt _ (by decide)
      have weight : 32 ^ digits.length * 2 ^ (bitCount % 5) =
          2 ^ bitCount := by
        have isPower : (32 : Nat) = 2 ^ 5 := by decide
        rw [length, isPower, ← Nat.pow_mul, ← Nat.pow_add,
          Nat.div_add_mod bitCount 5]
      refine ⟨bitBuf.toNat / 2 ^ bitCount % 32 :: digits, ?_, ?_, ?_, ?_⟩
      · rw [nextDigit]
        exact isWritten_cons small written
      · rw [List.length_cons, length]
        omega
      · exact isLeft.trans (Nat.add_mod_right bitCount 5).symm
      · change bigEndian 32 (_ :: digits) * 2 ^ ((bitCount + 5) % 5) +
          pending bitBuf ((bitCount + 5) % 5) = pending bitBuf (bitCount + 5)
        rw [Nat.add_mod_right, bigEndian_cons, pending_split, ← denotes,
          ← weight]
        ring
  | case2 bitCount isLast =>
      have few : bitCount < 5 := by
        by_contra many
        exact isLast (bitCount - 5) (by omega)
      refine ⟨[], isWritten_nil, (Nat.div_eq_of_lt few).symm,
        (Nat.mod_eq_of_lt few).symm, ?_⟩
      rw [bigEndian_nil, Nat.zero_mul, Nat.zero_add, Nat.mod_eq_of_lt few]

/-- The bits that have been counted, those written and those pending, are the
bits that came in: a run writes the quotient by the place of what is left. -/
theorem writeRandom_spec
    (rnd : List UInt8) (bitBuf : BitVec 32) {bitCount : Nat}
    (few : bitCount < 5) :
    ∃ digits, IsWritten (writeRandom rnd bitBuf bitCount) digits ∧
      digits.length = (bitCount + 8 * rnd.length) / 5 ∧
      bigEndian 32 digits =
        (pending bitBuf bitCount * 256 ^ rnd.length + bytesValue rnd) /
          2 ^ ((bitCount + 8 * rnd.length) % 5) := by
  induction rnd generalizing bitBuf bitCount with
  | nil =>
      refine ⟨[], isWritten_nil, ?_, ?_⟩
      · exact (Nat.div_eq_of_lt few).symm
      · have below : pending bitBuf bitCount < 2 ^ bitCount :=
          Nat.mod_lt _ (Nat.two_pow_pos bitCount)
        rw [bigEndian_nil, bytesValue, List.map_nil, bigEndian_nil,
          List.length_nil, Nat.mul_zero, Nat.add_zero, Nat.pow_zero,
          Nat.mul_one, Nat.add_zero, Nat.mod_eq_of_lt few,
          Nat.div_eq_of_lt below]
  | cons byte rest inductionHypothesis =>
      obtain ⟨firsts, isFirsts, firstLength, isLeft, isFirst⟩ :=
        writeDigits_spec (bitBuf <<< 8 ||| BitVec.ofNat 32 byte.toNat)
          (bitCount + 8)
      obtain ⟨others, areOthers, otherLength, denotes⟩ := inductionHypothesis
        (bitBuf <<< 8 ||| BitVec.ofNat 32 byte.toNat)
        (Nat.mod_lt (bitCount + 8) (by decide : 0 < 5))
      rw [pending_append bitBuf (by omega)] at isFirst
      have total : (bitCount + 8) / 5 +
          ((bitCount + 8) % 5 + 8 * rest.length) / 5 =
          (bitCount + 8 * (byte :: rest).length) / 5 := by
        rw [List.length_cons]
        omega
      have remains : ((bitCount + 8) % 5 + 8 * rest.length) % 5 =
          (bitCount + 8 * (byte :: rest).length) % 5 := by
        rw [List.length_cons]
        omega
      refine ⟨firsts ++ others, ?_, ?_, ?_⟩
      · unfold writeRandom
        dsimp only
        rw [isLeft]
        exact isWritten_append isFirsts areOthers
      · rw [List.length_append, firstLength, otherLength, total]
      · have places : 2 ^ ((bitCount + 8) % 5) * 256 ^ rest.length =
            32 ^ others.length *
              2 ^ (((bitCount + 8) % 5 + 8 * rest.length) % 5) := by
          have isByte : (256 : Nat) = 2 ^ 8 := by decide
          have isDigit : (32 : Nat) = 2 ^ 5 := by decide
          rw [otherLength, isByte, isDigit, ← Nat.pow_mul, ← Nat.pow_mul,
            ← Nat.pow_add, ← Nat.pow_add, Nat.div_add_mod]
        have cameIn : pending bitBuf bitCount *
              256 ^ (byte :: rest).length + bytesValue (byte :: rest) =
            pending (bitBuf <<< 8 ||| BitVec.ofNat 32 byte.toNat)
                ((bitCount + 8) % 5) * 256 ^ rest.length +
              bytesValue rest + bigEndian 32 firsts * 32 ^ others.length *
                2 ^ (((bitCount + 8) % 5 + 8 * rest.length) % 5) := by
          rw [bytesValue_cons, List.length_cons, pow_succ', ← Nat.mul_assoc,
            ← Nat.add_assoc, ← Nat.add_mul, ← isFirst, Nat.mul_assoc
              (bigEndian 32 firsts) (32 ^ others.length), ← places]
          ring
        rw [bigEndian_append, denotes, ← remains, cameIn,
          Nat.add_mul_div_right _ _ (Nat.two_pow_pos _), Nat.add_comm]

/-! ## The text -/

/-- The two halves of a ULID and what they denote. -/
structure Halves (text : JsString) (n : Nat) (rnd : RandomBytes) where
  time : JsString
  rand : JsString
  isText : text = time ++ rand
  timeDigits : List Nat
  timeWritten : IsWritten time timeDigits
  timeLength : time.length = 10
  isTime : crockfordValue time = n
  randDigits : List Nat
  randWritten : IsWritten rand randDigits
  randLength : rand.length = 16
  isRand : crockfordValue rand = bytesValue rnd.val

theorem halves_of_small {n : Nat} (small : n < 2 ^ 48) (rnd : RandomBytes) :
    Nonempty (Halves (writeTime 10 n [] ++ writeRandom rnd.val 0 0) n rnd) := by
  obtain ⟨time, timeDigits, isTime, timeWritten, timeLength, timeDenotes⟩ :=
    writeTime_spec 10 n []
  obtain ⟨randDigits, randWritten, randLength, randDenotes⟩ :=
    writeRandom_spec rnd.val 0 (by decide : 0 < 5)
  have fits : n < 32 ^ 10 := small.trans (by decide)
  have nothingPending : pending 0 0 = 0 := rfl
  rw [rnd.property] at randLength randDenotes
  rw [nothingPending, Nat.zero_mul, Nat.zero_add] at randDenotes
  exact ⟨{
    time := time
    rand := writeRandom rnd.val 0 0
    isText := by rw [isTime, List.append_nil]
    timeDigits := timeDigits
    timeWritten := timeWritten
    timeLength := timeWritten.length_eq.trans timeLength
    isTime := by
      rw [timeWritten.crockfordValue_eq, timeDenotes, Nat.mod_eq_of_lt fits]
    randDigits := randDigits
    randWritten := randWritten
    randLength := randWritten.length_eq.trans randLength
    isRand := by
      rw [randWritten.crockfordValue_eq, randDenotes]
      exact Nat.div_one _ }⟩

theorem bytesValue_injective
    {left right : List UInt8} (sameLength : left.length = right.length)
    (same : bytesValue left = bytesValue right) : left = right := by
  have small : ∀ bytes : List UInt8, ∀ digit ∈ bytes.map UInt8.toNat,
      digit < 256 := by
    intro bytes digit isDigit
    obtain ⟨byte, -, rfl⟩ := List.mem_map.mp isDigit
    exact byte.toNat_lt
  have sameDigits : left.map UInt8.toNat = right.map UInt8.toNat :=
    bigEndian_injective (by decide)
      (by rw [List.length_map, List.length_map, sameLength])
      (small left) (small right) same
  exact List.map_injective_iff.mpr
    (fun _ _ sameByte => UInt8.toNat_inj.mp sameByte) sameDigits

namespace Halves

variable {text : JsString} {n : Nat} {rnd : RandomBytes}

theorem take_eq (halves : Halves text n rnd) : text.take 10 = halves.time :=
  calc text.take 10
      = (halves.time ++ halves.rand).take 10 :=
        congrArg (List.take 10) halves.isText
    _ = halves.time := List.take_left' halves.timeLength

theorem drop_eq (halves : Halves text n rnd) : text.drop 10 = halves.rand :=
  calc text.drop 10
      = (halves.time ++ halves.rand).drop 10 :=
        congrArg (List.drop 10) halves.isText
    _ = halves.rand := List.drop_left' halves.timeLength

/-- A time below `2 ^ 48` begins with a digit below 8. -/
theorem isValidUlid (halves : Halves text n rnd) (small : n < 2 ^ 48) :
    isValidUlid text = true := by
  have count := halves.timeWritten.length_eq.symm.trans halves.timeLength
  have denotes := halves.timeWritten.crockfordValue_eq.symm.trans halves.isTime
  cases isDigits : halves.timeDigits with
  | nil =>
      rw [isDigits] at count
      cases count
  | cons digit rest =>
      have written := halves.timeWritten
      rw [isDigits] at count denotes written
      have restLength : rest.length = 9 := Nat.succ.inj count
      rw [bigEndian_cons, restLength] at denotes
      have leads : digit < 8 := by omega
      have isTime : halves.time =
          crockfordUnit digit :: rest.map crockfordUnit := written.isText
      have timeUnits := written.isCrockford
      rw [isTime] at timeUnits
      refine isValidUlid_iff.mpr ⟨crockfordUnit digit,
        rest.map crockfordUnit ++ halves.rand, ?_,
        isUlidLead_crockfordUnit leads, ?_, ?_⟩
      · exact halves.isText.trans (congrArg (· ++ halves.rand) isTime)
      · rw [List.length_append, List.length_map, restLength,
          halves.randLength]
      · exact List.forall_mem_append.mpr
          ⟨(List.forall_mem_cons.mp timeUnits).2,
            halves.randWritten.isCrockford⟩

/-- The halves of a text determine what it was made of. -/
theorem unique
    {m : Nat} {other : RandomBytes} (halves : Halves text n rnd)
    (others : Halves text m other) : n = m ∧ rnd = other := by
  have sameTime : halves.time = others.time :=
    halves.take_eq.symm.trans others.take_eq
  have sameRand : halves.rand = others.rand :=
    halves.drop_eq.symm.trans others.drop_eq
  have sameLength : rnd.val.length = other.val.length :=
    rnd.property.trans other.property.symm
  constructor
  · rw [← halves.isTime, sameTime, others.isTime]
  · apply Subtype.ext
    apply bytesValue_injective sameLength
    rw [← halves.isRand, sameRand, others.isRand]

end Halves

/-! ## The guard of the time -/

/-- A number is a natural number. -/
def Denotes (now : JsNumber) (n : Nat) : Prop :=
  ∃ datum, now = .finite datum ∧ value datum = n

theorem denotes_ofNat {n : Nat} (safe : n < 2 ^ 53) :
    Denotes (.finite (.ofNat false n safe)) n := by
  refine ⟨_, rfl, ?_⟩
  rw [value, Binary64.negative_ofNat, Binary64.magnitude_ofNat]
  rfl

theorem generateUlid_of_denotes
    {now : JsNumber} {n : Nat} (denotes : Denotes now n) (small : n < 2 ^ 48)
    (rnd : RandomBytes) :
    generateUlid now rnd =
      .ok (writeTime 10 n [] ++ writeRandom rnd.val 0 0) := by
  obtain ⟨datum, rfl, isNumber⟩ := denotes
  have inRange : ¬((value datum).den ≠ 1 ∨ value datum < 0 ∨
      0xffffffffffff < value datum) := by
    have most : (n : ℚ) ≤ 0xffffffffffff := by
      exact_mod_cast Nat.le_of_lt_succ small
    rw [isNumber]
    simp only [Rat.den_natCast, ne_eq, not_true_eq_false, false_or, not_or,
      not_lt]
    exact ⟨Nat.cast_nonneg n, most⟩
  rw [generateUlid, if_neg inRange, isNumber, Rat.num_natCast,
    Int.toNat_natCast]

end AgenId.Core.Ulid
