import AgenId.Ecma.Utf8

/-!
# Decoding UTF-8

`TextDecoder` of the Encoding Standard with its defaults: a byte that cannot
stand where it does becomes U+FFFD, and a byte order mark at the beginning is
dropped.  Decoding undoes encoding.
-/

namespace AgenId.Ecma

/-! ## The decoder -/

/-- A character of which bytes are missing: how many, the bits read so far,
and the bounds of the next byte. -/
structure Utf8Pending where
  missing : ℕ
  point : ℕ
  lower : ℕ
  upper : ℕ

/-- What a byte between characters is. -/
inductive Utf8Lead where
  | scalar (point : ℕ)
  | opening (pending : Utf8Pending)

/-- A byte between characters. -/
def utf8Lead (byte : ℕ) : Utf8Lead :=
  if byte ≤ 0x7F then
    .scalar byte
  else if 0xC2 ≤ byte ∧ byte ≤ 0xDF then
    .opening ⟨1, byte % 0x20, 0x80, 0xBF⟩
  else if 0xE0 ≤ byte ∧ byte ≤ 0xEF then
    .opening ⟨2, byte % 0x10, if byte = 0xE0 then 0xA0 else 0x80,
      if byte = 0xED then 0x9F else 0xBF⟩
  else if 0xF0 ≤ byte ∧ byte ≤ 0xF4 then
    .opening ⟨3, byte % 0x08, if byte = 0xF0 then 0x90 else 0x80,
      if byte = 0xF4 then 0x8F else 0xBF⟩
  else
    .scalar 0xFFFD

/-- The code points of the bytes after a character that is incomplete, if
there is one. -/
def decodePoints : Option Utf8Pending → List UInt8 → List ℕ
  | none, [] => []
  | some _, [] => [0xFFFD]
  | none, byte :: rest =>
    match utf8Lead byte.toNat with
    | .scalar point => point :: decodePoints none rest
    | .opening pending => decodePoints (some pending) rest
  | some pending, byte :: rest =>
    if pending.lower ≤ byte.toNat ∧ byte.toNat ≤ pending.upper then
      let point := pending.point * 0x40 + byte.toNat % 0x40
      if pending.missing = 1 then
        point :: decodePoints none rest
      else
        decodePoints (some ⟨pending.missing - 1, point, 0x80, 0xBF⟩) rest
    else
      -- The byte is read again, as the first of a character.
      match utf8Lead byte.toNat with
      | .scalar point => 0xFFFD :: point :: decodePoints none rest
      | .opening opened => 0xFFFD :: decodePoints (some opened) rest

/-- Bytes without a byte order mark. -/
def withoutMark : List UInt8 → List UInt8
  | 0xEF :: 0xBB :: 0xBF :: rest => rest
  | bytes => bytes

/-- `new TextDecoder().decode(bytes)`. -/
def decodeUtf8 (bytes : List UInt8) : JsString :=
  (decodePoints none (withoutMark bytes)).flatMap unitsOfCodePoint

/-! ## What was encoded -/

/-- A code point that is no surrogate. -/
def IsScalar (point : ℕ) : Prop :=
  point < 0xD800 ∨ 0xE000 ≤ point ∧ point < 0x110000

theorem toNat_byte {n : ℕ} (small : n < 0x100) : (UInt8.ofNat n).toNat = n := by
  rw [UInt8.toNat_ofNat', Nat.mod_eq_of_lt small]

section Bytes

variable {pending : Utf8Pending} {n : ℕ} (rest : List UInt8)

theorem decodePoints_tail
    (isMore : pending.missing ≠ 1) (notBelow : pending.lower ≤ 0x80 + n % 0x40)
    (notAbove : 0x80 + n % 0x40 ≤ pending.upper) :
    decodePoints (some pending) (UInt8.ofNat (0x80 + n % 0x40) :: rest) =
      decodePoints (some ⟨pending.missing - 1,
        pending.point * 0x40 + n % 0x40, 0x80, 0xBF⟩) rest := by
  have isBits : (0x80 + n % 0x40) % 0x40 = n % 0x40 := by omega
  rw [decodePoints, toNat_byte (by omega), if_pos ⟨notBelow, notAbove⟩,
    if_neg isMore, isBits]

theorem decodePoints_last
    (isLast : pending.missing = 1) (notBelow : pending.lower ≤ 0x80 + n % 0x40)
    (notAbove : 0x80 + n % 0x40 ≤ pending.upper) :
    decodePoints (some pending) (UInt8.ofNat (0x80 + n % 0x40) :: rest) =
      (pending.point * 0x40 + n % 0x40) :: decodePoints none rest := by
  have isBits : (0x80 + n % 0x40) % 0x40 = n % 0x40 := by omega
  rw [decodePoints, toNat_byte (by omega), if_pos ⟨notBelow, notAbove⟩,
    if_pos isLast, isBits]

theorem decodePoints_opening
    (small : n < 0x100) (isOpening : utf8Lead n = .opening pending) :
    decodePoints none (UInt8.ofNat n :: rest) =
      decodePoints (some pending) rest := by
  rw [decodePoints, toNat_byte small, isOpening]

theorem decodePoints_scalar
    (small : n ≤ 0x7F) :
    decodePoints none (UInt8.ofNat n :: rest) =
      n :: decodePoints none rest := by
  rw [decodePoints, toNat_byte (by omega), utf8Lead, if_pos small]

theorem utf8Lead_two (atLeast : 2 ≤ n) (below : n < 0x20) :
    utf8Lead (0xC0 + n) = .opening ⟨1, n, 0x80, 0xBF⟩ := by
  have isBits : (0xC0 + n) % 0x20 = n := by omega
  rw [utf8Lead, if_neg (by omega), if_pos (by omega), isBits]

theorem utf8Lead_three (below : n < 0x10) :
    utf8Lead (0xE0 + n) = .opening ⟨2, n, if n = 0 then 0xA0 else 0x80,
      if n = 0xD then 0x9F else 0xBF⟩ := by
  have isBits : (0xE0 + n) % 0x10 = n := by omega
  have isFirst : 0xE0 + n = 0xE0 ↔ n = 0 := by omega
  have isSurrogate : 0xE0 + n = 0xED ↔ n = 0xD := by omega
  rw [utf8Lead, if_neg (by omega), if_neg (by omega), if_pos (by omega),
    isBits]
  simp only [isFirst, isSurrogate]

theorem utf8Lead_four (below : n < 5) :
    utf8Lead (0xF0 + n) = .opening ⟨3, n, if n = 0 then 0x90 else 0x80,
      if n = 4 then 0x8F else 0xBF⟩ := by
  have isBits : (0xF0 + n) % 0x08 = n := by omega
  have isFirst : 0xF0 + n = 0xF0 ↔ n = 0 := by omega
  have isLast : 0xF0 + n = 0xF4 ↔ n = 4 := by omega
  rw [utf8Lead, if_neg (by omega), if_neg (by omega), if_neg (by omega),
    if_pos (by omega), isBits]
  simp only [isFirst, isLast]

end Bytes

/-- The bytes of a scalar value are read as that value. -/
theorem decodePoints_utf8OfScalar
    {point : ℕ} (scalar : IsScalar point) (rest : List UInt8) :
    decodePoints none (utf8OfScalar point ++ rest) =
      point :: decodePoints none rest := by
  unfold IsScalar at scalar
  unfold utf8OfScalar
  split_ifs with isOne isTwo isThree
  · exact decodePoints_scalar rest (by omega)
  · have isPoint : point / 0x40 * 0x40 + point % 0x40 = point := by omega
    change decodePoints none (UInt8.ofNat (0xC0 + point / 0x40) ::
      UInt8.ofNat (0x80 + point % 0x40) :: rest) = _
    rw [decodePoints_opening _ (by omega)
      (utf8Lead_two (by omega) (by omega)),
      decodePoints_last _ rfl (by simp only; omega) (by simp only; omega),
      isPoint]
  · have isPoint : (point / 0x1000 * 0x40 + point / 0x40 % 0x40) * 0x40 +
        point % 0x40 = point := by
      omega
    change decodePoints none (UInt8.ofNat (0xE0 + point / 0x1000) ::
      UInt8.ofNat (0x80 + point / 0x40 % 0x40) ::
        UInt8.ofNat (0x80 + point % 0x40) :: rest) = _
    rw [decodePoints_opening _ (by omega) (utf8Lead_three (by omega)),
      decodePoints_tail _ (by simp) (by dsimp only; split_ifs <;> omega)
        (by dsimp only; split_ifs <;> omega),
      decodePoints_last _ rfl (by simp only; omega) (by simp only; omega),
      isPoint]
  · have isPoint : ((point / 0x40000 * 0x40 + point / 0x1000 % 0x40) * 0x40 +
        point / 0x40 % 0x40) * 0x40 + point % 0x40 = point := by
      omega
    change decodePoints none (UInt8.ofNat (0xF0 + point / 0x40000) ::
      UInt8.ofNat (0x80 + point / 0x1000 % 0x40) ::
        UInt8.ofNat (0x80 + point / 0x40 % 0x40) ::
          UInt8.ofNat (0x80 + point % 0x40) :: rest) = _
    rw [decodePoints_opening _ (by omega) (utf8Lead_four (by omega)),
      decodePoints_tail _ (by simp) (by dsimp only; split_ifs <;> omega)
        (by dsimp only; split_ifs <;> omega),
      decodePoints_tail _ (by simp) (by simp only; omega)
        (by simp only; omega),
      decodePoints_last _ rfl (by simp only; omega) (by simp only; omega),
      isPoint]

theorem decodePoints_flatMap
    {points : List ℕ} (scalars : ∀ point ∈ points, IsScalar point) :
    decodePoints none (points.flatMap utf8OfScalar) = points := by
  induction points with
  | nil => rfl
  | cons point others inductionHypothesis =>
      obtain ⟨isScalar, areScalars⟩ := List.forall_mem_cons.mp scalars
      rw [List.flatMap_cons, decodePoints_utf8OfScalar isScalar,
        inductionHypothesis areScalars]

theorem isScalar_of_mem_scalarValues
    {text : JsString} (paired : isPaired text = true) :
    ∀ point ∈ scalarValues text, IsScalar point := by
  intro point isMember
  have bounds := scalarValues_bounds paired point isMember
  unfold IsScalar
  omega

theorem decodePoints_encodeUtf8
    {text : JsString} (paired : isPaired text = true) :
    decodePoints none (encodeUtf8 text) = scalarValues text :=
  decodePoints_flatMap (isScalar_of_mem_scalarValues paired)

/-- A text that does not begin with a byte order mark is not encoded as one
that does. -/
theorem withoutMark_encodeUtf8
    {text : JsString} (paired : isPaired text = true)
    (noMark : text.head? ≠ some 0xFEFF) :
    withoutMark (encodeUtf8 text) = encodeUtf8 text := by
  have points := decodePoints_encodeUtf8 paired
  unfold withoutMark
  split
  · rename_i rest isEncoded
    rw [isEncoded] at points
    have spelled := flatMap_unitsOfCodePoint paired
    rw [← points] at spelled
    rw [← spelled] at noMark
    exact absurd rfl noMark
  · rfl

/-- Decoding gives a paired text back that does not begin with a byte order
mark. -/
theorem decodeUtf8_encodeUtf8
    {text : JsString} (paired : isPaired text = true)
    (noMark : text.head? ≠ some 0xFEFF) :
    decodeUtf8 (encodeUtf8 text) = text := by
  rw [decodeUtf8, withoutMark_encodeUtf8 paired noMark,
    decodePoints_encodeUtf8 paired, flatMap_unitsOfCodePoint paired]

end AgenId.Ecma
