import AgenId.Core.Identified
import AgenId.Core.Signed
import AgenId.Core.Ulid
import AgenId.Web.ClientCrypto

/-!
# What the browser encodes

The browser's hexadecimal and base64url are the protocol's own, its ULIDs are
ULIDs of the grammar up to the year 10889, and an instant of a year of four
digits is written as a timestamp.
-/

namespace AgenId.Web

open AgenId.Core
open AgenId.Ecma
open AgenId.Validation.Schema
open ClientCrypto (hexText padStart hexEncode base64Unit btoa replaceUnit
  CROCKFORD crockfordUnit encodeTime drainBuffer encodeRandom encodeUlid
  UlidDraw generateUlid)

/-! ## Hexadecimal -/

theorem padStart_hexText (byte : UInt8) :
    padStart 2 (hexText byte) =
      [hexUnit (byte.toNat / 0x10), hexUnit (byte.toNat % 0x10)] := by
  unfold hexText
  by_cases isSmall : byte.toNat < 0x10
  · rw [if_pos isSmall, Nat.div_eq_of_lt isSmall, Nat.mod_eq_of_lt isSmall]
    rfl
  · rw [if_neg isSmall]
    rfl

theorem hexEncode_eq (bytes : List UInt8) : hexEncode bytes = hex bytes := by
  unfold hexEncode hex
  simp only [padStart_hexText]

theorem hexUnit_isLowerHex {digit : Nat} (small : digit < 0x10) :
    isLowerHex (hexUnit digit) = true := by
  have known : ∀ digit : Fin 0x10, isLowerHex (hexUnit digit) = true := by
    decide
  exact known ⟨digit, small⟩

theorem length_hex (bytes : List UInt8) :
    (hex bytes).length = 2 * bytes.length := by
  induction bytes with
  | nil => rfl
  | cons byte rest inductionHypothesis =>
      rw [hex, List.flatMap_cons, List.length_append, ← hex,
        inductionHypothesis, List.length_cons]
      simp only [List.length_cons, List.length_nil]
      omega

theorem isLowerHex_of_mem_hex {bytes : List UInt8} :
    ∀ unit ∈ hex bytes, isLowerHex unit = true := by
  intro unit isUnit
  obtain ⟨byte, -, isDigit⟩ := List.mem_flatMap.mp isUnit
  have bound := byte.toNat_lt
  rcases List.mem_cons.mp isDigit with rfl | isLast
  · exact hexUnit_isLowerHex (by omega)
  · rw [List.mem_singleton.mp isLast]
    exact hexUnit_isLowerHex (by omega)

theorem hexUnit_injective {first second : Nat}
    (firstSmall : first < 0x10) (secondSmall : second < 0x10)
    (same : hexUnit first = hexUnit second) : first = second := by
  have known : ∀ first second : Fin 0x10,
      hexUnit first = hexUnit second → first = second := by
    decide
  exact congrArg Fin.val
    (known ⟨first, firstSmall⟩ ⟨second, secondSmall⟩ same)

theorem hex_injective : Function.Injective hex := by
  intro first
  induction first with
  | nil =>
      intro second same
      cases second with
      | nil => rfl
      | cons byte rest => cases same
  | cons byte rest inductionHypothesis =>
      intro second same
      cases second with
      | nil => cases same
      | cons other others =>
          simp only [hex, List.flatMap_cons, List.cons_append,
            List.nil_append, List.cons.injEq] at same
          obtain ⟨sameHigh, sameLow, sameRest⟩ := same
          have bound := byte.toNat_lt
          have otherBound := other.toNat_lt
          have high := hexUnit_injective (by omega) (by omega) sameHigh
          have low := hexUnit_injective (by omega) (by omega) sameLow
          have sameByte : byte = other := UInt8.toNat_inj.mp (by omega)
          rw [sameByte, inductionHypothesis sameRest]

/-! ## Base64url -/

theorem replaceUnit_base64Unit {value : Nat} (small : value < 64) :
    (let dashed := if base64Unit value = 0x2B then 0x2D else base64Unit value
      if dashed = 0x2F then 0x5F else dashed) = sextetUnit value := by
  have known : ∀ value : Fin 64,
      (let dashed := if base64Unit value = 0x2B then (0x2D : UInt16)
        else base64Unit value
        if dashed = 0x2F then 0x5F else dashed) = sextetUnit value := by
    decide
  exact known ⟨value, small⟩

/-- Padding at the end of a text is dropped whole. -/
theorem rdropWhile_append_replicate
    {α : Type} {drops : α → Bool} {unit : α} (dropped : drops unit = true)
    (text : List α) (count : Nat) :
    (text ++ List.replicate count unit).rdropWhile drops =
      text.rdropWhile drops := by
  induction count with
  | zero => rw [List.replicate_zero, List.append_nil]
  | succ count inductionHypothesis =>
      rw [List.replicate_succ', ← List.append_assoc,
        List.rdropWhile_concat_pos _ _ _ dropped, inductionHypothesis]

theorem b64uEncode_eq (bytes : List UInt8) :
    ClientCrypto.b64uEncode bytes = b64uEncode bytes := by
  have digits : ((sextetsOfBytes bytes).map base64Unit).map
      (fun unit => let dashed := if unit = 0x2B then 0x2D else unit
        if dashed = 0x2F then 0x5F else dashed) =
      b64uEncode bytes := by
    rw [List.map_map, b64uEncode]
    exact List.map_congr_left fun value isSextet =>
      replaceUnit_base64Unit (sextetsOfBytes_lt bytes value isSextet)
  have kept : (b64uEncode bytes).rdropWhile (· == 0x3D) =
      b64uEncode bytes := by
    rw [List.rdropWhile_eq_self_iff]
    intro nonempty isPadding
    obtain ⟨value, isSextet, isLast⟩ :=
      List.mem_map.mp (List.getLast_mem nonempty)
    have notPadding := (sextet_bounds value
      (sextetsOfBytes_lt bytes value isSextet)).2
    rw [isLast] at notPadding
    exact notPadding (beq_iff_eq.mp isPadding)
  unfold ClientCrypto.b64uEncode btoa replaceUnit
  rw [List.map_map, List.map_append, List.map_replicate]
  refine (rdropWhile_append_replicate rfl _ _).trans ?_
  rw [← kept]
  exact congrArg _ digits

theorem sextetUnit_isBase64Url {value : Nat} (small : value < 64) :
    isBase64Url (sextetUnit value) = true := by
  have known : ∀ value : Fin 64, isBase64Url (sextetUnit value) = true := by
    decide
  exact known ⟨value, small⟩

theorem isBase64Url_of_mem_b64uEncode {bytes : List UInt8} :
    ∀ unit ∈ b64uEncode bytes, isBase64Url unit = true := by
  intro unit isUnit
  obtain ⟨value, isSextet, rfl⟩ := List.mem_map.mp isUnit
  exact sextetUnit_isBase64Url (sextetsOfBytes_lt bytes value isSextet)

theorem length_sextetsOfBytes (bytes : List UInt8) :
    (sextetsOfBytes bytes).length = (4 * bytes.length + 2) / 3 := by
  fun_induction sextetsOfBytes bytes with
  | case1 first second third rest inductionHypothesis =>
      simp only [List.length_cons, inductionHypothesis]
      omega
  | case2 first second => simp
  | case3 first => simp
  | case4 => rfl

theorem length_b64uEncode (bytes : List UInt8) :
    (b64uEncode bytes).length = (4 * bytes.length + 2) / 3 := by
  rw [b64uEncode, List.length_map, length_sextetsOfBytes]

/-! ## ULIDs -/

/-- The mask takes the last digit of the time, whatever the bits of the time
that are lost. -/
theorem toNat_mask (t : Nat) :
    (BitVec.ofNat 32 t &&& 0x1F).toNat = t % 32 := by
  have isMask : (0x1F : BitVec 32).toNat = 2 ^ 5 - 1 := by decide
  rw [BitVec.toNat_and, isMask, Nat.and_two_pow_sub_one_eq_mod,
    BitVec.toNat_ofNat]
  exact Nat.mod_mod_of_dvd t (Nat.pow_dvd_pow 2 (by decide))

theorem encodeTime_eq (rounds t : Nat) (ts : JsString) :
    encodeTime rounds t ts = Ulid.writeTime rounds t ts := by
  induction rounds generalizing t ts with
  | zero => rfl
  | succ rounds inductionHypothesis =>
      rw [encodeTime, Ulid.writeTime, toNat_mask, inductionHypothesis]
      rfl

/-- A digit that the buffer holds is the same under a shift that keeps the
sign and under one that does not. -/
theorem sshiftRight_mask
    (buffer : BitVec 32) {bitsInBuffer : Nat} (fits : bitsInBuffer + 5 ≤ 32) :
    buffer.sshiftRight bitsInBuffer &&& 0x1F =
      buffer >>> bitsInBuffer &&& 31 := by
  apply BitVec.eq_of_getLsbD_eq
  intro i small
  change (buffer.sshiftRight bitsInBuffer &&& 31#32).getLsbD i =
    (buffer >>> bitsInBuffer &&& 31#32).getLsbD i
  rw [BitVec.getLsbD_and, BitVec.getLsbD_and, BitVec.getLsbD_sshiftRight,
    BitVec.getLsbD_ushiftRight]
  by_cases kept : i < 5
  · have inBuffer : bitsInBuffer + i < 32 := by omega
    simp [not_le.mpr small, inBuffer]
  · have large : 2 ^ 5 ≤ 2 ^ i := Nat.pow_le_pow_right (by decide) (by omega)
    have masked : (31#32).getLsbD i = false :=
      Nat.testBit_lt_two_pow (Nat.lt_of_lt_of_le (by decide) large)
    rw [masked, Bool.and_false, Bool.and_false]

theorem drainBuffer_eq
    (buffer : BitVec 32) {bitsInBuffer : Nat} (fits : bitsInBuffer ≤ 32) :
    drainBuffer buffer bitsInBuffer =
      Ulid.writeDigits buffer bitsInBuffer := by
  fun_induction drainBuffer buffer bitsInBuffer with
  | case1 bitsInBuffer digits left isDrained inductionHypothesis =>
      have isRest := inductionHypothesis (by omega)
      rw [Ulid.writeDigits, ← isRest, isDrained, sshiftRight_mask buffer fits]
      rfl
  | case2 bitsInBuffer isLast => rw [Ulid.writeDigits.eq_2 _ _ isLast]

theorem encodeRandom_eq
    (random : List UInt8) (buffer : BitVec 32) {bitsInBuffer : Nat}
    (few : bitsInBuffer < 5) :
    encodeRandom random buffer bitsInBuffer =
      Ulid.writeRandom random buffer bitsInBuffer := by
  induction random generalizing buffer bitsInBuffer with
  | nil => rfl
  | cons byte rest inductionHypothesis =>
      obtain ⟨-, -, -, isLeft, -⟩ := Ulid.writeDigits_spec
        (buffer <<< 8 ||| BitVec.ofNat 32 byte.toNat) (bitsInBuffer + 8)
      unfold encodeRandom Ulid.writeRandom
      dsimp only
      rw [drainBuffer_eq _ (by omega), isLeft,
        inductionHypothesis _ (Nat.mod_lt _ (by decide))]

/-- The browser writes what the protocol's generator writes. -/
theorem encodeUlid_eq (time : Nat) (rnd : Ulid.RandomBytes) :
    encodeUlid time rnd.val =
      Ulid.writeTime 10 time [] ++ Ulid.writeRandom rnd.val 0 0 := by
  rw [encodeUlid, List.take_of_length_le rnd.property.le, encodeTime_eq,
    encodeRandom_eq _ _ (by decide)]

/-- A time below `2 ^ 48` and ten random bytes make a ULID. -/
theorem isValidUlid_encodeUlid
    {time : Nat} (small : time < 2 ^ 48) {random : List UInt8}
    (isDrawn : random.length = 10) :
    isValidUlid (encodeUlid time random) = true := by
  obtain ⟨halves⟩ := Ulid.halves_of_small small ⟨random, isDrawn⟩
  rw [encodeUlid_eq time ⟨random, isDrawn⟩]
  exact halves.isValidUlid small

/-- A ULID denotes its time and its random bytes, its first half is in the
order of the times, and the browser writes the same one. -/
theorem ulids_lossless_ordered_shared
    {now : JsNumber} {n : Nat} (denotes : Ulid.Denotes now n)
    (small : n < 2 ^ 48) (rnd : Ulid.RandomBytes) :
    ∃ text, Ulid.generateUlid now rnd = .ok text ∧
      ULID_REGEX.test text = true ∧
      Ulid.crockfordValue (text.take 10) = n ∧
      Ulid.crockfordValue (text.drop 10) = Ulid.bytesValue rnd.val ∧
      encodeUlid n rnd.val = text ∧
      ∀ later m laterRnd other, Ulid.Denotes later m → m < 2 ^ 48 →
        Ulid.generateUlid later laterRnd = .ok other →
        (text.take 10 < other.take 10 ↔ n < m) ∧
          (text = other ↔ n = m ∧ rnd = laterRnd) := by
  obtain ⟨halves⟩ := Ulid.halves_of_small small rnd
  refine ⟨_, Ulid.generateUlid_of_denotes denotes small rnd,
    halves.isValidUlid small, ?_, ?_, encodeUlid_eq n rnd, ?_⟩
  · rw [halves.take_eq]
    exact halves.isTime
  · rw [halves.drop_eq]
    exact halves.isRand
  · intro later m laterRnd other laterDenotes laterSmall isOther
    rw [Ulid.generateUlid_of_denotes laterDenotes laterSmall] at isOther
    obtain rfl := Except.ok.inj isOther
    obtain ⟨others⟩ := Ulid.halves_of_small laterSmall laterRnd
    constructor
    · rw [halves.take_eq, others.take_eq,
        halves.timeWritten.lt_iff others.timeWritten
          (halves.timeLength.trans others.timeLength.symm),
        halves.isTime, others.isTime]
    · constructor
      · intro same
        rw [← same] at others
        exact halves.unique others
      · intro same
        rw [same.1, same.2]

theorem ulids_lossless_ordered_shared_sample :
    ∃ text other, Ulid.generateUlid
        (.finite (.ofNat false 1000000000000 (by decide)))
        ⟨[255, 254, 253, 252, 251, 250, 249, 248, 247, 246], rfl⟩ = .ok text ∧
      Ulid.generateUlid (.finite (.ofNat false 1000000000001 (by decide)))
        ⟨[0, 1, 2, 3, 4, 5, 6, 7, 8, 9], rfl⟩ = .ok other ∧
      text.take 10 < other.take 10 ∧
      encodeUlid 1000000000000
        [255, 254, 253, 252, 251, 250, 249, 248, 247, 246] = text := by
  obtain ⟨text, isText, -, -, -, isShared, ordered⟩ :=
    ulids_lossless_ordered_shared (Ulid.denotes_ofNat (by decide))
      (by decide : 1000000000000 < 2 ^ 48)
      ⟨[255, 254, 253, 252, 251, 250, 249, 248, 247, 246], rfl⟩
  have laterDenotes := Ulid.denotes_ofNat
    (by decide : 1000000000001 < 2 ^ 53)
  have isOther := Ulid.generateUlid_of_denotes laterDenotes (by decide)
    ⟨[0, 1, 2, 3, 4, 5, 6, 7, 8, 9], rfl⟩
  have before := (ordered _ _ _ _ laterDenotes (by decide) isOther).1
  exact ⟨text, _, isText, isOther, before.mpr (by decide), isShared⟩

/-! ## Timestamps -/

theorem padded_digits (width n : Nat) :
    (padded width n).length = width ∧
      ∀ unit ∈ padded width n, isDigit unit = true := by
  induction width generalizing n with
  | zero => exact ⟨rfl, fun _ isUnit => nomatch isUnit⟩
  | succ width inductionHypothesis =>
      obtain ⟨length, areDigits⟩ := inductionHypothesis (n / 10)
      constructor
      · simp [padded, length]
      · intro unit isUnit
        rcases List.mem_append.mp isUnit with isBefore | isLast
        · exact areDigits unit isBefore
        · rw [List.mem_singleton.mp isLast]
          exact isDigit_digitUnit (Nat.mod_lt _ (by decide))

/-- A padded number is matched by as many digits as its width. -/
theorem matchesAt_padded
    {width n : Nat} {pieces : List Piece} {previous : Option UInt16}
    {rest : JsString}
    (follows : ∀ previous, matchesAt pieces previous rest = true) :
    matchesAt (.exactly isDigit width :: pieces) previous
      (padded width n ++ rest) = true := by
  obtain ⟨length, areDigits⟩ := padded_digits width n
  exact matchesAt_exactly_iff.mpr
    ⟨_, _, rfl, areDigits, length, follows _⟩

/-- A literal unit matches itself. -/
theorem matchesAt_unit
    {unit : UInt16} {pieces : List Piece} {previous : Option UInt16}
    {rest : JsString}
    (follows : ∀ previous, matchesAt pieces previous rest = true) :
    matchesAt (.one (· == unit) :: pieces) previous (unit :: rest) =
      true :=
  matchesAt_one_iff.mpr ⟨unit, rest, rfl, by simp, follows _⟩

/-- The fraction of a second, with the letter of the zone after it. -/
theorem matchesAt_milliseconds (n : Nat) (previous : Option UInt16) :
    matchesAt [.run isDigit 1 (some 9), .one (· == 0x5A), .finish] previous
      (padded 3 n ++ [0x5A]) = true := by
  obtain ⟨length, areDigits⟩ := padded_digits 3 n
  refine matchesAt_run_iff.mpr ⟨_, _, rfl, areDigits, by omega, ?_, ?_⟩
  · rw [length]
    rfl
  · exact matchesAt_unit fun _ => rfl

theorem timestampRegex_isoString
    {time : Int} (nonnegative : 0 ≤ yearFromDay (time / 86400000))
    (small : yearFromDay (time / 86400000) ≤ 9999) :
    timestampRegex.test (isoString time) = true := by
  have year : isoYear (yearFromDay (time / 86400000)) =
      padded 4 (yearFromDay (time / 86400000)).natAbs :=
    if_pos ⟨nonnegative, small⟩
  have isMatched : matchesAt (.exactly isDigit 4 :: .one (· == 0x2D) ::
      .exactly isDigit 2 :: .one (· == 0x2D) :: .exactly isDigit 2 ::
      .one (· == 0x54) :: .exactly isDigit 2 :: .one (· == 0x3A) ::
      .exactly isDigit 2 :: .one (· == 0x3A) :: .exactly isDigit 2 ::
      .one (· == 0x2E) :: [.run isDigit 1 (some 9), .one (· == 0x5A),
        .finish]) none (isoString time) = true := by
    unfold isoString
    dsimp only
    rw [year]
    repeat
      apply matchesAt_padded
      intro previous
      apply matchesAt_unit
      intro previous
    exact matchesAt_milliseconds _ _
  exact List.any_eq_true.mpr
    ⟨_, List.mem_cons_of_mem _ List.mem_cons_self, isMatched⟩

section Accepted

variable [Platform]

/-- The times that `toISOString` writes with a year of four digits. -/
def FourDigitYear (time : Int) : Prop :=
  0 ≤ yearFromDay (time / 86400000) ∧ yearFromDay (time / 86400000) ≤ 9999

omit [Platform] in
/-- The years of four digits end with the year 9999. -/
theorem FourDigitYear.bounds {time : Int} (year : FourDigitYear time) :
    -62167219200000 ≤ time ∧ time < 253402300800000 := by
  obtain ⟨nonnegative, small⟩ := year
  obtain ⟨notAfter, before⟩ := yearFromDay_spec (time / 86400000)
  unfold dayFromYear at notAfter before
  omega

theorem dateParse_isoString {time : Int} (year : FourDigitYear time) :
    dateParse (isoString time) = some time := by
  have bounds := year.bounds
  apply parseDate_isoString
  simp only [maxTime]
  omega

/-- An instant of a year of four digits is written as a timestamp. -/
theorem accepts_isoString {time : Int} (year : FourDigitYear time) :
    Rfc3339Utc.accepts (some (.string (isoString time))) =
      some (isoString time) := by
  refine accepts_check_eq_some_iff.mpr
    ⟨accepts_check_eq_some_iff.mpr ⟨accepts_string _, ?_⟩, ?_⟩
  · exact timestampRegex_isoString year.1 year.2
  · rw [dateParse_isoString year]
    rfl

omit [Platform] in
theorem accepts_hex {bytes : List UInt8} (length : bytes.length = 32) :
    Sha256Hex.accepts (some (.string (hex bytes))) = some (hex bytes) := by
  refine accepts_check_eq_some_iff.mpr ⟨accepts_string _, ?_⟩
  exact Regex.test_exactly_iff.mpr
    ⟨by rw [length_hex, length], isLowerHex_of_mem_hex⟩

omit [Platform] in
theorem accepts_signature
    {bytes : List UInt8} (length : bytes.length = 64) :
    Ed25519SignatureB64u.accepts (some (.string (b64uEncode bytes))) =
      some (b64uEncode bytes) := by
  refine accepts_check_eq_some_iff.mpr ⟨accepts_string _, ?_⟩
  exact Regex.test_exactly_iff.mpr
    ⟨by rw [length_b64uEncode, length], isBase64Url_of_mem_b64uEncode⟩

omit [Platform] in
theorem accepts_publicKey
    {bytes : List UInt8} (length : bytes.length = 32) :
    Ed25519PublicKeyB64u.accepts (some (.string (b64uEncode bytes))) =
      some (b64uEncode bytes) := by
  refine accepts_check_eq_some_iff.mpr ⟨accepts_string _, ?_⟩
  exact Regex.test_exactly_iff.mpr
    ⟨by rw [length_b64uEncode, length], isBase64Url_of_mem_b64uEncode⟩

omit [Platform] in
theorem accepts_keyId
    {ulid : JsString} (isUlid : isValidUlid ulid = true) :
    KeyId.accepts (some (.string (units "agenid:key:" ++ ulid))) =
      some (units "agenid:key:" ++ ulid) := by
  have isKeyId : isValidKeyId (units "agenid:key:" ++ ulid) = true :=
    isValidKeyId_iff.mpr ⟨ulid, rfl, isUlid⟩
  refine accepts_check_eq_some_iff.mpr
    ⟨accepts_check_eq_some_iff.mpr ⟨accepts_string _, ?_⟩, isKeyId⟩
  rw [includesUnit_of_isValidKeyId isKeyId]
  rfl

end Accepted

end AgenId.Web
