import Mathlib.Data.List.Lex
import Mathlib.Order.Lattice

/-!
# ECMAScript strings as code units

An ECMAScript string is a finite sequence of 16-bit code units, which need
not be well-formed UTF-16.  Every operation below is the built-in of that
name, written on the list of code units.
-/

namespace AgenId.Ecma

/-- A string is the sequence of its UTF-16 code units. -/
abbrev JsString := List UInt16

/-- Code units are compared as numbers; the order of `JsString` is then the
lexicographic one, which is what the operator `<` compares strings by. -/
instance instLinearOrderUInt16 : LinearOrder UInt16 where
  le_refl _ := UInt16.le_refl _
  le_trans _ _ _ := UInt16.le_trans
  le_antisymm _ _ := UInt16.le_antisymm
  lt_iff_le_not_ge _ _ := by
    simp only [UInt16.lt_iff_toNat_lt, UInt16.le_iff_toNat_le]
    omega
  le_total _ _ := by
    simp only [UInt16.le_iff_toNat_le]
    omega
  toDecidableLE := inferInstance
  toDecidableEq := inferInstance
  toDecidableLT := inferInstance

instance instLawfulBEqJsString : LawfulBEq JsString :=
  inferInstance

/-! ## Source literals and UTF-8 -/

/-- The code units of one code point: a surrogate pair above U+FFFF. -/
def unitsOfCodePoint (point : Nat) : JsString :=
  if point < 0x10000 then
    [UInt16.ofNat point]
  else
    [UInt16.ofNat (0xD800 + (point - 0x10000) / 0x400),
      UInt16.ofNat (0xDC00 + (point - 0x10000) % 0x400)]

/-- The code units that a well-formed UTF-8 byte sequence spells. -/
def unitsOfUtf8 : List UInt8 → JsString
  | [] => []
  | lead :: rest =>
    if lead.toNat < 0x80 then
      lead.toUInt16 :: unitsOfUtf8 rest
    else
      match rest with
      | [] => []
      | second :: rest =>
        if lead.toNat < 0xE0 then
          unitsOfCodePoint
              ((lead.toNat - 0xC0) * 0x40 + (second.toNat - 0x80)) ++
            unitsOfUtf8 rest
        else
          match rest with
          | [] => []
          | third :: rest =>
            if lead.toNat < 0xF0 then
              unitsOfCodePoint
                  ((lead.toNat - 0xE0) * 0x1000 +
                    (second.toNat - 0x80) * 0x40 + (third.toNat - 0x80)) ++
                unitsOfUtf8 rest
            else
              match rest with
              | [] => []
              | fourth :: rest =>
                unitsOfCodePoint
                    ((lead.toNat - 0xF0) * 0x40000 +
                      (second.toNat - 0x80) * 0x1000 +
                      (third.toNat - 0x80) * 0x40 + (fourth.toNat - 0x80)) ++
                  unitsOfUtf8 rest

/-- The string a source literal denotes. -/
def units (literal : String) : JsString :=
  unitsOfUtf8 literal.toByteArray.data.toList

/-- Whether a code unit is the first half of a surrogate pair. -/
def isHighSurrogate (unit : UInt16) : Bool :=
  decide (0xD800 ≤ unit ∧ unit ≤ 0xDBFF)

/-- Whether a code unit is the second half of a surrogate pair. -/
def isLowSurrogate (unit : UInt16) : Bool :=
  decide (0xDC00 ≤ unit ∧ unit ≤ 0xDFFF)

/-- The scalar values of a string; a surrogate outside a pair counts as
U+FFFD, as in every conversion to a scalar value string. -/
def scalarValues : JsString → List Nat
  | [] => []
  | lead :: rest =>
    if isHighSurrogate lead then
      match rest with
      | [] => [0xFFFD]
      | trail :: after =>
        if isLowSurrogate trail then
          (0x10000 + (lead.toNat - 0xD800) * 0x400 +
            (trail.toNat - 0xDC00)) :: scalarValues after
        else
          0xFFFD :: scalarValues (trail :: after)
    else if isLowSurrogate lead then
      0xFFFD :: scalarValues rest
    else
      lead.toNat :: scalarValues rest

/-- The UTF-8 bytes of one scalar value. -/
def utf8OfScalar (scalar : Nat) : List UInt8 :=
  if scalar < 0x80 then
    [UInt8.ofNat scalar]
  else if scalar < 0x800 then
    [UInt8.ofNat (0xC0 + scalar / 0x40), UInt8.ofNat (0x80 + scalar % 0x40)]
  else if scalar < 0x10000 then
    [UInt8.ofNat (0xE0 + scalar / 0x1000),
      UInt8.ofNat (0x80 + scalar / 0x40 % 0x40),
      UInt8.ofNat (0x80 + scalar % 0x40)]
  else
    [UInt8.ofNat (0xF0 + scalar / 0x40000),
      UInt8.ofNat (0x80 + scalar / 0x1000 % 0x40),
      UInt8.ofNat (0x80 + scalar / 0x40 % 0x40),
      UInt8.ofNat (0x80 + scalar % 0x40)]

/-- `new TextEncoder().encode(text)`. -/
def encodeUtf8 (text : JsString) : List UInt8 :=
  (scalarValues text).flatMap utf8OfScalar

/-! ## Searching and slicing -/

/-- `text.indexOf(needle)`, with `none` for `-1`. -/
def indexOf? (needle : JsString) : JsString → Option Nat
  | [] => if needle = [] then some 0 else none
  | unit :: rest =>
    if needle.isPrefixOf (unit :: rest) then
      some 0
    else
      (indexOf? needle rest).map (· + 1)

/-- `text.lastIndexOf(unit)` for a one-unit needle, with `none` for `-1`. -/
def lastIndexOf? (unit : UInt16) : JsString → Option Nat
  | [] => none
  | head :: rest =>
    match lastIndexOf? unit rest with
    | some index => some (index + 1)
    | none => if head = unit then some 0 else none

/-- `text.split(separator)` for a one-unit separator. -/
def splitOnUnit (separator : UInt16) : JsString → List JsString
  | [] => [[]]
  | head :: rest =>
    if head = separator then
      [] :: splitOnUnit separator rest
    else
      match splitOnUnit separator rest with
      | [] => [[head]]
      | first :: others => (head :: first) :: others

/-- `parts.join(separator)`. -/
def join (separator : JsString) : List JsString → JsString
  | [] => []
  | [part] => part
  | part :: parts => part ++ separator ++ join separator parts

/-- The code unit of a decimal digit. -/
def digitUnit (digit : Nat) : UInt16 :=
  UInt16.ofNat (0x30 + digit)

theorem digitUnit_toNat {digit : Nat} (small : digit < 10) :
    (digitUnit digit).toNat = 0x30 + digit := by
  rw [digitUnit, UInt16.toNat_ofNat_of_lt']
  simp only [UInt16.size]
  omega

/-- The decimal spelling of a natural number. -/
def decimal (n : Nat) : JsString :=
  if n < 10 then
    [digitUnit n]
  else
    decimal (n / 10) ++ [digitUnit (n % 10)]

/-- The decimal spelling of an integer. -/
def decimalInt (n : Int) : JsString :=
  if n < 0 then units "-" ++ decimal n.natAbs else decimal n.natAbs

/-- The last `width` decimal digits of `n`, zeros included: the spelling of
`n` padded to `width` when it has no more digits than that. -/
def padded : Nat → Nat → JsString
  | 0, _ => []
  | width + 1, n => padded width (n / 10) ++ [digitUnit (n % 10)]

end AgenId.Ecma
