import AgenId.Core.Identified
import AgenId.Core.Signed

/-!
# Spellings of keys and signatures

The last digit of a text of base64url may have bits that no byte takes, and
the decoder drops them.  Two texts of one length decode to the same bytes when
they agree on every other bit, and a text is the encoding of its bytes when
those bits are zero.
-/

namespace AgenId.Core

open AgenId.Ecma
open AgenId.Validation
open AgenId.Validation.Schema

/-! ## Digits and bits -/

/-- The number of bits of a text of base64url that no byte takes. -/
def spareBits (text : JsString) : Nat :=
  6 * text.length % 8

/-- The value of the last digit of a text. -/
def lastSextet (text : JsString) : Nat :=
  (text.getLast?.bind sextet?).getD 0

/-- The value of the bits that no byte takes. -/
def unusedBits (text : JsString) : Nat :=
  lastSextet text % 2 ^ spareBits text

/-- Texts agree on every bit that a byte takes. -/
def SameUsedBits (left right : JsString) : Prop :=
  left.dropLast = right.dropLast ∧
    lastSextet left / 2 ^ spareBits left =
      lastSextet right / 2 ^ spareBits right

instance (left right : JsString) : Decidable (SameUsedBits left right) :=
  inferInstanceAs (Decidable (_ ∧ _))

/-- Different texts differ in bits that no byte takes only. -/
def DiffersUnused (left right : JsString) : Prop :=
  left ≠ right ∧ SameUsedBits left right

theorem exists_sextetUnit
    {unit : UInt16} (isDigit : isBase64Url unit = true) :
    ∃ value < 64, unit = sextetUnit value := by
  have ranges : 0x41 ≤ unit.toNat ∧ unit.toNat ≤ 0x5A ∨
      0x61 ≤ unit.toNat ∧ unit.toNat ≤ 0x7A ∨
      0x30 ≤ unit.toNat ∧ unit.toNat ≤ 0x39 ∨
      unit.toNat = 0x5F ∨ unit.toNat = 0x2D := by
    rw [isBase64Url, Bool.or_eq_true, isAlphanumeric_iff] at isDigit
    rcases isDigit with isAlphanumeric | isMark
    · omega
    · have marks : unit.toNat = 0x5F ∨ unit.toNat = 0x2D := by
        simpa [isOneOf] using isMark
      omega
  have isUnit : ∀ n : Nat, unit.toNat = n → UInt16.ofNat n = unit := by
    intro n same
    rw [← same, UInt16.ofNat_toNat]
  rcases ranges with upper | lower | digit | isUnderscore | isHyphen
  · refine ⟨unit.toNat - 0x41, by omega, ?_⟩
    rw [sextetUnit, if_pos (by omega), isUnit _ (by omega)]
  · refine ⟨unit.toNat - 0x47, by omega, ?_⟩
    rw [sextetUnit, if_neg (by omega), if_pos (by omega), isUnit _ (by omega)]
  · refine ⟨unit.toNat + 0x04, by omega, ?_⟩
    rw [sextetUnit, if_neg (by omega), if_neg (by omega), if_pos (by omega),
      isUnit _ (by omega)]
  · exact ⟨63, by decide, (isUnit _ isUnderscore).symm⟩
  · exact ⟨62, by decide, (isUnit _ isHyphen).symm⟩

/-- A text of digits of base64url is written from its sextets. -/
theorem exists_sextets
    {text : JsString} (areDigits : ∀ unit ∈ text, isBase64Url unit = true) :
    ∃ sextets : List Nat, (∀ sextet ∈ sextets, sextet < 64) ∧
      text = sextets.map sextetUnit := by
  induction text with
  | nil => exact ⟨[], List.forall_mem_nil _, rfl⟩
  | cons unit rest inductionHypothesis =>
      obtain ⟨isDigit, areRest⟩ := List.forall_mem_cons.mp areDigits
      obtain ⟨sextet, small, rfl⟩ := exists_sextetUnit isDigit
      obtain ⟨sextets, areSmall, rfl⟩ := inductionHypothesis areRest
      exact ⟨sextet :: sextets, List.forall_mem_cons.mpr ⟨small, areSmall⟩,
        rfl⟩

/-! ## Sextets -/

theorem toNat_firstByte
    {first second : Nat} (firstSmall : first < 64) (secondSmall : second < 64) :
    (UInt8.ofNat (first * 4 + second / 16)).toNat =
      first * 4 + second / 16 := by
  have small : first * 4 + second / 16 < 256 := by omega
  exact UInt8.toNat_ofNat_of_lt small

theorem toNat_secondByte
    {second third : Nat} (thirdSmall : third < 64) :
    (UInt8.ofNat (second % 16 * 16 + third / 4)).toNat =
      second % 16 * 16 + third / 4 := by
  have small : second % 16 * 16 + third / 4 < 256 := by omega
  exact UInt8.toNat_ofNat_of_lt small

theorem toNat_thirdByte
    {third fourth : Nat} (fourthSmall : fourth < 64) :
    (UInt8.ofNat (third % 4 * 64 + fourth)).toNat =
      third % 4 * 64 + fourth := by
  have small : third % 4 * 64 + fourth < 256 := by omega
  exact UInt8.toNat_ofNat_of_lt small

/-- The encoder writes the sextets that were decoded, with zero for the bits
that no byte takes. -/
theorem sextetsOfBytes_bytesOfSextets :
    (initial : List Nat) → ∀ last, (initial.length + 1) % 4 ≠ 1 →
      (∀ sextet ∈ initial, sextet < 64) → last < 64 →
      sextetsOfBytes (bytesOfSextets (initial ++ [last])) =
        initial ++ [last / 2 ^ (6 * (initial.length + 1) % 8) *
          2 ^ (6 * (initial.length + 1) % 8)]
  | [], _, notOne, _, _ => absurd rfl notOne
  | [first], last, _, small, lastSmall => by
      have firstSmall := small first List.mem_cons_self
      simp only [List.cons_append, List.nil_append, bytesOfSextets,
        sextetsOfBytes, toNat_firstByte firstSmall lastSmall,
        List.length_singleton, Nat.reduceAdd, Nat.reduceMul, Nat.reduceMod,
        Nat.reducePow, List.cons.injEq, and_true]
      omega
  | [first, second], last, _, small, lastSmall => by
      obtain ⟨firstSmall, secondSmall, -⟩ := by
        simpa only [List.forall_mem_cons] using small
      simp only [List.cons_append, List.nil_append, bytesOfSextets,
        sextetsOfBytes, toNat_firstByte firstSmall secondSmall,
        toNat_secondByte lastSmall, List.length_cons, List.length_nil,
        Nat.reduceAdd, Nat.reduceMul, Nat.reduceMod, Nat.reducePow,
        List.cons.injEq, and_true]
      omega
  | [first, second, third], last, _, small, lastSmall => by
      obtain ⟨firstSmall, secondSmall, thirdSmall, -⟩ := by
        simpa only [List.forall_mem_cons] using small
      simp only [List.cons_append, List.nil_append, bytesOfSextets,
        sextetsOfBytes, toNat_firstByte firstSmall secondSmall,
        toNat_secondByte thirdSmall, toNat_thirdByte lastSmall,
        List.length_cons, List.length_nil, Nat.reduceAdd, Nat.reduceMul,
        Nat.reduceMod, Nat.reducePow, List.cons.injEq, and_true]
      omega
  | first :: second :: third :: fourth :: rest, last, notOne, small,
      lastSmall => by
      obtain ⟨firstSmall, secondSmall, thirdSmall, fourthSmall, restSmall⟩ :=
        by simpa only [List.forall_mem_cons] using small
      have sameRest : (rest.length + 1) % 4 ≠ 1 := by
        simp only [List.length_cons] at notOne
        omega
      have spare : 6 * ((first :: second :: third :: fourth ::
          rest).length + 1) % 8 = 6 * (rest.length + 1) % 8 := by
        simp only [List.length_cons]
        omega
      have isRest := sextetsOfBytes_bytesOfSextets rest last sameRest
        restSmall lastSmall
      rw [spare]
      simp only [List.cons_append, bytesOfSextets, sextetsOfBytes,
        toNat_firstByte firstSmall secondSmall, toNat_secondByte thirdSmall,
        toNat_thirdByte fourthSmall, isRest, List.cons.injEq, and_true]
      omega

/-! ## Texts -/

/-- A text of base64url that decodes to whole bytes and the bits after them:
no length leaves a single digit over. -/
structure IsSpelling (text : JsString) : Prop where
  areDigits : ∀ unit ∈ text, isBase64Url unit = true
  nonempty : text ≠ []
  notOne : text.length % 4 ≠ 1

/-- The sextets of a spelling, the last of them set apart. -/
structure Sextets (text : JsString) where
  initial : List Nat
  last : Nat
  small : ∀ sextet ∈ initial, sextet < 64
  lastSmall : last < 64
  isText : text = initial.map sextetUnit ++ [sextetUnit last]

theorem IsSpelling.sextets {text : JsString} (spelling : IsSpelling text) :
    Nonempty (Sextets text) := by
  obtain ⟨sextets, small, isText⟩ := exists_sextets spelling.areDigits
  rcases List.eq_nil_or_concat sextets with rfl | ⟨initial, last, rfl⟩
  · exact absurd isText spelling.nonempty
  · rw [List.concat_eq_append] at small isText
    rw [List.map_append] at isText
    obtain ⟨initialSmall, lastSmall⟩ := List.forall_mem_append.mp small
    exact ⟨{
      initial := initial
      last := last
      small := initialSmall
      lastSmall := lastSmall last List.mem_cons_self
      isText := isText }⟩

namespace Sextets

variable {text : JsString} (sextets : Sextets text)

/-- The value of the bits of the last sextet that a byte takes, in their
place. -/
def used : Nat :=
  sextets.last / 2 ^ spareBits text * 2 ^ spareBits text

theorem length_eq : text.length = sextets.initial.length + 1 := by
  have size := congrArg List.length sextets.isText
  simpa using size

theorem lastSextet_eq : lastSextet text = sextets.last := by
  have isLast : text.getLast? = some (sextetUnit sextets.last) :=
    (congrArg List.getLast? sextets.isText).trans List.getLast?_concat
  rw [lastSextet, isLast, Option.bind_some,
    (sextet_bounds sextets.last sextets.lastSmall).1, Option.getD_some]

theorem dropLast_eq : text.dropLast = sextets.initial.map sextetUnit :=
  (congrArg List.dropLast sextets.isText).trans List.dropLast_concat

theorem bounded :
    ∀ sextet ∈ sextets.initial ++ [sextets.last], sextet < 64 :=
  List.forall_mem_append.mpr
    ⟨sextets.small, List.forall_mem_singleton.mpr sextets.lastSmall⟩

theorem decode_eq :
    b64uDecode text = bytesOfSextets (sextets.initial ++ [sextets.last]) := by
  have isText : text =
      (sextets.initial ++ [sextets.last]).map sextetUnit := by
    rw [List.map_append]
    exact sextets.isText
  exact (congrArg b64uDecode isText).trans (b64uDecode_map sextets.bounded)

theorem sextetsOfBytes_decode (spelling : IsSpelling text) :
    sextetsOfBytes (b64uDecode text) =
      sextets.initial ++ [sextets.used] := by
  have notOne := spelling.notOne
  rw [sextets.length_eq] at notOne
  rw [sextets.decode_eq, sextetsOfBytes_bytesOfSextets _ _ notOne
    sextets.small sextets.lastSmall, used, spareBits, sextets.length_eq]

end Sextets

theorem sextetUnit_injective
    {first second : Nat} (firstSmall : first < 64) (secondSmall : second < 64)
    (same : sextetUnit first = sextetUnit second) : first = second := by
  have isFirst := (sextet_bounds first firstSmall).1
  rw [same, (sextet_bounds second secondSmall).1] at isFirst
  exact (Option.some.inj isFirst).symm

/-- A spelling is the encoding of its bytes when its unused bits are zero. -/
theorem b64uEncode_b64uDecode_iff
    {text : JsString} (spelling : IsSpelling text) :
    b64uEncode (b64uDecode text) = text ↔ unusedBits text = 0 := by
  obtain ⟨sextets⟩ := spelling.sextets
  have usedSmall : sextets.used < 64 :=
    Nat.lt_of_le_of_lt (Nat.div_mul_le_self _ _) sextets.lastSmall
  have isEncoded : b64uEncode (b64uDecode text) =
      sextets.initial.map sextetUnit ++ [sextetUnit sextets.used] := by
    rw [b64uEncode, sextets.sextetsOfBytes_decode spelling, List.map_append]
    rfl
  have sameUnit : sextetUnit sextets.used = sextetUnit sextets.last ↔
      sextets.used = sextets.last :=
    ⟨sextetUnit_injective usedSmall sextets.lastSmall, congrArg sextetUnit⟩
  have isUsed : sextets.used = sextets.last ↔
      sextets.last % 2 ^ spareBits text = 0 := by
    have split := Nat.div_add_mod' sextets.last (2 ^ spareBits text)
    rw [Sextets.used]
    omega
  rw [isEncoded, unusedBits, sextets.lastSextet_eq, ← isUsed, ← sameUnit]
  constructor
  · intro same
    have ends := (List.append_inj' (same.trans sextets.isText) rfl).2
    exact List.singleton_injective ends
  · intro same
    rw [same]
    exact sextets.isText.symm

/-- Spellings of one length decode to the same bytes when they agree on the
bits that the bytes take. -/
theorem b64uDecode_eq_iff
    {left right : JsString} (isLeft : IsSpelling left)
    (isRight : IsSpelling right) (sameLength : left.length = right.length) :
    b64uDecode left = b64uDecode right ↔ SameUsedBits left right := by
  obtain ⟨lefts⟩ := isLeft.sextets
  obtain ⟨rights⟩ := isRight.sextets
  have sameSpare : spareBits left = spareBits right := by
    rw [spareBits, spareBits, sameLength]
  have sameDecoded : b64uDecode left = b64uDecode right ↔
      lefts.initial ++ [lefts.used] = rights.initial ++ [rights.used] := by
    rw [← lefts.sextetsOfBytes_decode isLeft,
      ← rights.sextetsOfBytes_decode isRight]
    constructor
    · exact congrArg sextetsOfBytes
    · intro same
      rw [← bytesOfSextets_sextetsOfBytes (b64uDecode left), same,
        bytesOfSextets_sextetsOfBytes]
  have sameUsed : lefts.used = rights.used ↔
      lefts.last / 2 ^ spareBits left = rights.last / 2 ^ spareBits right := by
    rw [Sextets.used, Sextets.used, ← sameSpare]
    exact Nat.mul_left_inj (Nat.two_pow_pos _).ne'
  have sameInitial : lefts.initial.map sextetUnit =
      rights.initial.map sextetUnit ↔ lefts.initial = rights.initial := by
    constructor
    · intro same
      rw [← filterMap_sextetUnit lefts.small, same,
        filterMap_sextetUnit rights.small]
    · exact congrArg (List.map sextetUnit)
  rw [sameDecoded, SameUsedBits, lefts.dropLast_eq, rights.dropLast_eq,
    lefts.lastSextet_eq, rights.lastSextet_eq, sameInitial, ← sameUsed]
  simp

/-! ## Accepted keys and signatures -/

theorem accepts_exactly_iff
    {accepts : UInt16 → Bool} {count : Nat} {message : String}
    {text accepted : JsString} :
    (string.regex (.whole [.exactly accepts count]) message).accepts
        (some (.string text)) = some accepted ↔
      (text.length = count ∧ ∀ unit ∈ text, accepts unit = true) ∧
        accepted = text := by
  rw [Validation.Schema.regex, accepts_check_eq_some_iff, accepts_string,
    Option.some.injEq, ← Regex.test_exactly_iff]
  constructor
  · intro isAccepted
    obtain ⟨rfl, matched⟩ := isAccepted
    exact ⟨matched, rfl⟩
  · intro isAccepted
    obtain ⟨matched, rfl⟩ := isAccepted
    exact ⟨rfl, matched⟩

theorem isSpelling_of_length
    {text : JsString} {count : Nat} (size : text.length = count)
    (areDigits : ∀ unit ∈ text, isBase64Url unit = true)
    (positive : 0 < count) (notOne : count % 4 ≠ 1) : IsSpelling text where
  areDigits := areDigits
  nonempty := by
    intro isNil
    rw [isNil, List.length_nil] at size
    omega
  notOne := by rwa [size]

/-- A text is accepted as a key, or as a signature. -/
structure AcceptedText (schema : Schema JsString) (text : JsString) : Prop where
  isMember : schema = Ed25519PublicKeyB64u ∨ schema = Ed25519SignatureB64u
  accepted : schema.accepts (some (.string text)) = some text

/-- Keys and signatures have a length each, which leaves no digit over. -/
theorem AcceptedText.exists_length
    {schema : Schema JsString} {text : JsString}
    (isText : AcceptedText schema text) :
    ∃ count, 0 < count ∧ count % 4 ≠ 1 ∧ ∀ other,
      schema.accepts (some (.string other)) = some other →
        other.length = count ∧ ∀ unit ∈ other, isBase64Url unit = true := by
  rcases isText.isMember with rfl | rfl
  · refine ⟨43, by decide, by decide, ?_⟩
    intro other accepted
    exact (accepts_exactly_iff.mp accepted).1
  · refine ⟨86, by decide, by decide, ?_⟩
    intro other accepted
    exact (accepts_exactly_iff.mp accepted).1

theorem AcceptedText.isSpelling
    {schema : Schema JsString} {text : JsString}
    (isText : AcceptedText schema text) : IsSpelling text := by
  obtain ⟨count, positive, notOne, sized⟩ := isText.exists_length
  obtain ⟨size, areDigits⟩ := sized text isText.accepted
  exact isSpelling_of_length size areDigits positive notOne

theorem AcceptedText.length_eq
    {schema : Schema JsString} {text other : JsString}
    (isText : AcceptedText schema text) (isOther : AcceptedText schema other) :
    text.length = other.length := by
  obtain ⟨count, -, -, sized⟩ := isText.exists_length
  exact (sized text isText.accepted).1.trans
    (sized other isOther.accepted).1.symm

/-- Accepted texts of one kind are the same bytes when they agree on the bits
that the bytes take. -/
theorem AcceptedText.b64uDecode_eq_iff
    {schema : Schema JsString} {text other : JsString}
    (isText : AcceptedText schema text) (isOther : AcceptedText schema other) :
    b64uDecode text = b64uDecode other ↔ SameUsedBits text other :=
  Core.b64uDecode_eq_iff isText.isSpelling isOther.isSpelling
    (isText.length_eq isOther)

end AgenId.Core
