import AgenId.Core.Identified

/-!
# Key references

The reader of key references accepts exactly the two forms of a key
identifier under one percent-decoding, and the two forms determine each
other.
-/

namespace AgenId.Core

open AgenId.Ecma

/-! ## The two forms -/

theorem keyIdFromWire_eq_ok_iff {wire keyId : JsString} :
    keyIdFromWire wire = .ok keyId ↔
      isValidUlid wire = true ∧ keyId = units "agenid:key:" ++ wire := by
  by_cases isUlid : isValidUlid wire = true
  · simp [keyIdFromWire, isUlid, eq_comm]
  · simp [keyIdFromWire, isUlid]

theorem assertValidKeyId_eq_ok_iff {keyId : JsString} :
    assertValidKeyId keyId = .ok () ↔ isValidKeyId keyId = true := by
  constructor
  · intro asserted
    by_contra invalid
    by_cases hash : includesUnit 0x23 keyId = true
    · simp [assertValidKeyId, hash] at asserted
    · simp [assertValidKeyId, hash, invalid] at asserted
  · exact assertValidKeyId_of_valid

theorem keyIdToWire_eq_ok_iff {wire keyId : JsString} :
    keyIdToWire keyId = .ok wire ↔
      isValidUlid wire = true ∧ keyId = units "agenid:key:" ++ wire := by
  have dropped : ∀ ulid : JsString,
      (units "agenid:key:" ++ ulid).drop (units "agenid:key:").length =
        ulid := fun ulid => List.drop_left
  constructor
  · intro isWire
    cases asserted : assertValidKeyId keyId with
    | error failure =>
        rw [keyIdToWire, asserted] at isWire
        cases isWire
    | ok checked =>
        have isKeyId := assertValidKeyId_eq_ok_iff.mp asserted
        obtain ⟨ulid, rfl, isUlid⟩ := isValidKeyId_iff.mp isKeyId
        rw [keyIdToWire, asserted] at isWire
        have same := Except.ok.inj isWire
        rw [dropped] at same
        rw [← same]
        exact ⟨isUlid, rfl⟩
  · intro isForm
    obtain ⟨isUlid, rfl⟩ := isForm
    have isKeyId : isValidKeyId (units "agenid:key:" ++ wire) = true :=
      isValidKeyId_iff.mpr ⟨wire, rfl, isUlid⟩
    rw [keyIdToWire, assertValidKeyId_of_valid isKeyId]
    exact congrArg Except.ok (dropped wire)

/-- The two conversions are the two directions of one relation. -/
theorem keyIdFromWire_iff_keyIdToWire {wire keyId : JsString} :
    keyIdFromWire wire = .ok keyId ↔ keyIdToWire keyId = .ok wire := by
  rw [keyIdFromWire_eq_ok_iff, keyIdToWire_eq_ok_iff]

theorem keyIdToWire_of_valid
    {keyId : JsString} (isKeyId : isValidKeyId keyId = true) :
    ∃ wire, isValidUlid wire = true ∧ keyIdToWire keyId = .ok wire ∧
      keyIdFromWire wire = .ok keyId := by
  obtain ⟨ulid, isForm, isUlid⟩ := isValidKeyId_iff.mp isKeyId
  exact ⟨ulid, isUlid, keyIdToWire_eq_ok_iff.mpr ⟨isUlid, isForm⟩,
    keyIdFromWire_eq_ok_iff.mpr ⟨isUlid, isForm⟩⟩

theorem keyIdFromWire_of_valid
    {wire : JsString} (isUlid : isValidUlid wire = true) :
    ∃ keyId, isValidKeyId keyId = true ∧ keyIdFromWire wire = .ok keyId ∧
      keyIdToWire keyId = .ok wire :=
  ⟨units "agenid:key:" ++ wire, isValidKeyId_iff.mpr ⟨wire, rfl, isUlid⟩,
    keyIdFromWire_eq_ok_iff.mpr ⟨isUlid, rfl⟩,
    keyIdToWire_eq_ok_iff.mpr ⟨isUlid, rfl⟩⟩

/-! ## Reading a reference -/

/-- A text that names the key of a ULID, bare or in the logical form. -/
def NamesKeyOf (ulid decoded : JsString) : Prop :=
  isValidUlid ulid = true ∧
    (decoded = ulid ∨ decoded = units "agenid:key:" ++ ulid)

theorem NamesKeyOf.notMem
    {ulid decoded : JsString} (names : NamesKeyOf ulid decoded)
    {unit : UInt16} (notAlphanumeric : isAlphanumeric unit = false)
    (notColon : unit ≠ 0x3A) : unit ∉ decoded := by
  obtain ⟨isUlid, rfl | isLogical⟩ := names
  · exact notMem_of_isValidUlid isUlid notAlphanumeric
  · exact notMem_of_isValidKeyId
      (isValidKeyId_iff.mpr ⟨ulid, isLogical, isUlid⟩) notAlphanumeric
      notColon

theorem parseKeyReference_of_namesKeyOf
    {input ulid decoded : JsString}
    (isDecoded : decodeURIComponent input = some decoded)
    (inputNoHash : (0x23 : UInt16) ∉ input)
    (names : NamesKeyOf ulid decoded) :
    parseKeyReference input = .ok (units "agenid:key:" ++ ulid) := by
  have noHash : includesUnit 0x23 decoded = false := by
    simpa [includesUnit] using
      names.notMem (by decide : isAlphanumeric 0x23 = false) (by decide)
  have inputClear : includesUnit 0x23 input = false := by
    simpa [includesUnit] using inputNoHash
  obtain ⟨isUlid, rfl | rfl⟩ := names
  · have nonempty : input.length ≠ 0 := by
      intro isEmpty
      rw [List.length_eq_zero_iff.mp isEmpty] at isDecoded
      rw [← Option.some.inj isDecoded] at isUlid
      cases isUlid
    simp [parseKeyReference, nonempty, isDecoded, noHash, inputClear, isUlid,
      keyIdFromWire]
  · have isKeyId : isValidKeyId (units "agenid:key:" ++ ulid) = true :=
      isValidKeyId_iff.mpr ⟨ulid, rfl, isUlid⟩
    have nonempty : input.length ≠ 0 := by
      intro isEmpty
      rw [List.length_eq_zero_iff.mp isEmpty] at isDecoded
      rw [← Option.some.inj isDecoded] at isKeyId
      cases isKeyId
    simp [parseKeyReference, nonempty, isDecoded, noHash, inputClear,
      not_isValidUlid_of_isValidKeyId isKeyId, isKeyId]

/-- A reference that is read has passed every guard of the reader. -/
theorem namesKeyOf_of_parseKeyReference
    {input keyId : JsString}
    (isRead : parseKeyReference input = .ok keyId) :
    ∃ decoded ulid, decodeURIComponent input = some decoded ∧
      (0x23 : UInt16) ∉ decoded ∧ (0x23 : UInt16) ∉ input ∧
      NamesKeyOf ulid decoded ∧ keyId = units "agenid:key:" ++ ulid := by
  unfold parseKeyReference at isRead
  split at isRead
  · cases isRead
  · split at isRead
    · cases isRead
    · rename_i decoded isDecoded
      by_cases hash : (includesUnit 0x23 decoded ||
          includesUnit 0x23 input) = true
      · rw [if_pos hash] at isRead
        cases isRead
      · rw [if_neg hash] at isRead
        simp only [includesUnit, List.contains_eq_mem, Bool.or_eq_true,
          decide_eq_true_eq, not_or] at hash
        by_cases isBare : isValidUlid decoded = true
        · rw [if_pos isBare] at isRead
          exact ⟨decoded, decoded, isDecoded, hash.1, hash.2,
            ⟨isBare, Or.inl rfl⟩, (keyIdFromWire_eq_ok_iff.mp isRead).2⟩
        · rw [if_neg isBare] at isRead
          by_cases isKeyId : isValidKeyId decoded = true
          · rw [if_pos isKeyId] at isRead
            obtain ⟨ulid, isForm, isUlid⟩ := isValidKeyId_iff.mp isKeyId
            exact ⟨decoded, ulid, isDecoded, hash.1, hash.2,
              ⟨isUlid, Or.inr isForm⟩,
              (Except.ok.inj isRead).symm.trans isForm⟩
          · rw [if_neg isKeyId] at isRead
            cases isRead

theorem parseKeyReference_eq_ok_iff {input keyId : JsString} :
    parseKeyReference input = .ok keyId ↔
      ∃ decoded ulid, decodeURIComponent input = some decoded ∧
        (0x23 : UInt16) ∉ decoded ∧ (0x23 : UInt16) ∉ input ∧
        NamesKeyOf ulid decoded ∧ keyId = units "agenid:key:" ++ ulid := by
  constructor
  · exact namesKeyOf_of_parseKeyReference
  · intro reading
    obtain ⟨decoded, ulid, isDecoded, -, inputNoHash, names, rfl⟩ := reading
    exact parseKeyReference_of_namesKeyOf isDecoded inputNoHash names

/-- What the reader accepts is a key identifier. -/
theorem isValidKeyId_of_parseKeyReference
    {input keyId : JsString}
    (isRead : parseKeyReference input = .ok keyId) :
    isValidKeyId keyId = true := by
  obtain ⟨decoded, ulid, -, -, -, names, isForm⟩ :=
    namesKeyOf_of_parseKeyReference isRead
  exact isValidKeyId_iff.mpr ⟨ulid, isForm, names.1⟩

/-- The percent-encoded form of a key identifier is read as the
identifier. -/
theorem parseKeyReference_of_encodeURIComponent
    {keyId : JsString} (isKeyId : isValidKeyId keyId = true) :
    ∃ escaped, encodeURIComponent keyId = some escaped ∧
      parseKeyReference escaped = .ok keyId := by
  have ascii := ascii_of_isValidKeyId isKeyId
  refine ⟨keyId.flatMap escapeUnit, encodeURIComponent_ascii ascii, ?_⟩
  obtain ⟨ulid, rfl, isUlid⟩ := isValidKeyId_iff.mp isKeyId
  refine parseKeyReference_of_namesKeyOf (decodeURIComponent_escapes ascii)
    ?_ ⟨isUlid, Or.inr rfl⟩
  intro isMember
  obtain ⟨unit, -, inEscape⟩ := List.mem_flatMap.mp isMember
  rcases isUnescaped_of_mem_escapeUnit inEscape with unescaped | isPercent
  · exact absurd unescaped (by decide)
  · exact absurd isPercent (by decide)

/-- Key references are read exactly, and both wire forms of a key identifier
are read as the identifier. -/
theorem keyReferences_exact :
    (∀ input keyId, parseKeyReference input = .ok keyId ↔
      ∃ decoded, decodeURIComponent input = some decoded ∧
        (0x23 : UInt16) ∉ decoded ∧ (0x23 : UInt16) ∉ input ∧
        ∃ ulid, isValidUlid ulid = true ∧
          (decoded = ulid ∨ decoded = units "agenid:key:" ++ ulid) ∧
          keyId = units "agenid:key:" ++ ulid) ∧
    (∀ keyId, isValidKeyId keyId = true →
      (keyIdToWire keyId >>= parseKeyReference) = .ok keyId ∧
      (∃ escaped, encodeURIComponent keyId = some escaped ∧
        parseKeyReference escaped = .ok keyId) ∧
      parseKeyReference keyId = .ok keyId ∧
      (keyIdToWire keyId >>= keyIdFromWire) = .ok keyId) ∧
    (∀ wire, isValidUlid wire = true →
      (keyIdFromWire wire >>= keyIdToWire) = .ok wire) ∧
    (∀ wire keyId,
      keyIdFromWire wire = .ok keyId ↔ keyIdToWire keyId = .ok wire) ∧
    ∀ input keyId, parseKeyReference input = .ok keyId →
      parseKeyReference keyId = .ok keyId := by
  refine ⟨?_, ?_, ?_, ?_, ?_⟩
  · intro input keyId
    rw [parseKeyReference_eq_ok_iff]
    constructor
    · intro reading
      obtain ⟨decoded, ulid, isDecoded, noHash, inputNoHash,
        ⟨isUlid, form⟩, isForm⟩ := reading
      exact ⟨decoded, isDecoded, noHash, inputNoHash, ulid, isUlid, form,
        isForm⟩
    · intro reading
      obtain ⟨decoded, isDecoded, noHash, inputNoHash, ulid, isUlid, form,
        isForm⟩ := reading
      exact ⟨decoded, ulid, isDecoded, noHash, inputNoHash, ⟨isUlid, form⟩,
        isForm⟩
  · intro keyId isKeyId
    obtain ⟨wire, isUlid, isWire, isBack⟩ := keyIdToWire_of_valid isKeyId
    have isForm := (keyIdToWire_eq_ok_iff.mp isWire).2
    refine ⟨?_, parseKeyReference_of_encodeURIComponent isKeyId,
      parseKeyReference_of_isValidKeyId isKeyId, ?_⟩
    · rw [isWire, isForm]
      exact parseKeyReference_of_isValidUlid isUlid
    · rw [isWire]
      exact isBack
  · intro wire isUlid
    obtain ⟨keyId, -, isKeyId, isBack⟩ := keyIdFromWire_of_valid isUlid
    rw [isKeyId]
    exact isBack
  · intro wire keyId
    exact keyIdFromWire_iff_keyIdToWire
  · intro input keyId isRead
    exact parseKeyReference_of_isValidKeyId
      (isValidKeyId_of_parseKeyReference isRead)

/-- A doubly encoded identifier is no reference, and its one encoding is. -/
theorem keyReferences_exact_sample :
    (∃ escaped,
      encodeURIComponent (units "agenid:key:01ARZ3NDEKTSV4RRFFQ69G5FAV") =
        some escaped ∧
      parseKeyReference escaped =
        .ok (units "agenid:key:01ARZ3NDEKTSV4RRFFQ69G5FAV")) ∧
    ∀ keyId, parseKeyReference
      (units "agenid%253Akey%253A01ARZ3NDEKTSV4RRFFQ69G5FAV") ≠ .ok keyId := by
  constructor
  · exact (keyReferences_exact.2.1 _ (by decide)).2.1
  · intro keyId isRead
    obtain ⟨decoded, isDecoded, -, -, ulid, isUlid, form, -⟩ :=
      (keyReferences_exact.1 _ keyId).mp isRead
    obtain rfl : units "agenid%3Akey%3A01ARZ3NDEKTSV4RRFFQ69G5FAV" = decoded :=
      Option.some.inj isDecoded
    rcases form with rfl | isLogical
    · exact absurd isUlid (by decide)
    · exact absurd (isValidKeyId_iff.mpr ⟨ulid, isLogical, isUlid⟩) (by decide)

end AgenId.Core
