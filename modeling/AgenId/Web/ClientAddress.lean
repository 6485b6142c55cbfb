import AgenId.Core.Crypto
import AgenId.Ecma.Splitting
import AgenId.Web.HeaderText
import Mathlib.Data.Nat.Digits.Lemmas

/-!
# The address that a client is counted by

`normalizeClientIp` of `rate-limit.ts`, and the textual forms of an IPv6
address.  The code counts the parts between the colons of a text as the
groups of the address and keeps them as they are written, so that a dotted
IPv4 tail counts as one group and zeros in front of a group matter.
-/

namespace AgenId.Web

open AgenId.Core
open AgenId.Ecma

/-! ## The code -/

section Source

variable [CaseData]

/-- `text.split(":").filter(Boolean)`. -/
def colonParts (text : JsString) : List JsString :=
  (splitOnUnit 0x3A text).filter (· ≠ [])

/-- What `normalizeClientIp` makes of an address without a zone. -/
def addressPrefix (head : JsString) : JsString :=
  let parts := splitOnDouble 0x3A head
  let left := colonParts ((parts[0]?).getD [])
  if parts.length = 1 then
    join [0x3A] (left.take 4) ++ units "::/64"
  else
    let right := colonParts ((parts[1]?).getD [])
    let missing := 8 - left.length - right.length
    let full := left ++ List.replicate missing (units "0") ++ right
    join [0x3A] (full.take 4) ++ units "::/64"

def normalizeClientIp (raw : JsString) : JsString :=
  let ip := toLowerCase (trim raw)
  if 0x3A ∈ ip then addressPrefix ((splitOnUnit 0x25 ip).headD []) else ip

end Source

/-! ## Textual addresses -/

/-- One to four hexadecimal digits, in either case. -/
structure Hextet where
  digits : JsString
  areDigits : ∀ unit ∈ digits, (hexValue? unit).isSome
  nonempty : digits ≠ []
  short : digits.length ≤ 4

namespace Hextet

/-- The group that is written `0`. -/
def zero : Hextet where
  digits := units "0"
  areDigits := List.all_eq_true.mp (by decide)
  nonempty := by decide
  short := by decide

def values (group : Hextet) : List ℕ :=
  group.digits.map fun unit => (hexValue? unit).getD 0

def value (group : Hextet) : ℕ := Nat.ofDigits 16 group.values.reverse

def width (group : Hextet) : ℕ := group.digits.length

end Hextet

/-- An IPv4 address in dotted decimal. -/
structure DottedQuad where
  first : Fin 256
  second : Fin 256
  third : Fin 256
  fourth : Fin 256

namespace DottedQuad

variable (quad : DottedQuad)

def text : JsString :=
  join [0x2E] [decimal quad.first, decimal quad.second, decimal quad.third,
    decimal quad.fourth]

/-- The two groups that it stands for. -/
def pieces : List ℕ :=
  [quad.first * 256 + quad.second, quad.third * 256 + quad.fourth]

end DottedQuad

/-- How many groups a tail stands for, when a dotted one stands for so
many. -/
def tailGroups (perTail : ℕ) (tail : Option DottedQuad) : ℕ :=
  if tail.isSome then perTail else 0

/-- The forms of an address: all its groups, or with `::` for one group of
zeros or more; the last two groups may be written in dotted decimal. -/
inductive Ipv6Body where
  | full (groups : List Hextet) (tail : Option DottedQuad)
    (complete : groups.length + tailGroups 2 tail = 8)
  | compressed (left right : List Hextet) (tail : Option DottedQuad)
    (fits : left.length + right.length + tailGroups 2 tail ≤ 7)

/-- The parts that groups and a tail are written as. -/
def partsOf (groups : List Hextet) (tail : Option DottedQuad) :
    List JsString :=
  groups.map Hextet.digits ++ tail.toList.map DottedQuad.text

namespace Ipv6Body

def text : Ipv6Body → JsString
  | full groups tail _ => join [0x3A] (partsOf groups tail)
  | compressed left right tail _ =>
    join [0x3A] (partsOf left none) ++ units "::" ++
      join [0x3A] (partsOf right tail)

def tail : Ipv6Body → Option DottedQuad
  | full _ tail _ => tail
  | compressed _ _ tail _ => tail

/-- The groups before the tail, with the gap filled up to eight groups when a
dotted tail counts as so many. -/
def groups (perTail : ℕ) : Ipv6Body → List Hextet
  | full groups _ _ => groups
  | compressed left right tail _ =>
    left ++ List.replicate
      (8 - left.length - right.length - tailGroups perTail tail)
      Hextet.zero ++ right

/-- The eight groups of sixteen bits. -/
def pieces (body : Ipv6Body) : List ℕ :=
  (body.groups 2).map Hextet.value ++
    (body.tail.toList.flatMap DottedQuad.pieces)

/-- The address, a number of 128 bits. -/
def address (body : Ipv6Body) : ℕ :=
  Nat.ofDigits (2 ^ 16) body.pieces.reverse

/-- Its first 64 bits. -/
def prefix64 (body : Ipv6Body) : ℕ := body.address / 2 ^ 64

end Ipv6Body

/-- A textual address: one of the forms, and a zone when it has one. -/
structure Ipv6Text where
  body : Ipv6Body
  zone : Option JsString

def Ipv6Text.text (address : Ipv6Text) : JsString :=
  address.body.text ++
    (address.zone.map fun zone => 0x25 :: zone).getD []

/-! ## The units of an address -/

/-- A unit that may stand before a zone. -/
structure IsBodyUnit (unit : UInt16) : Prop where
  graphic : IsGraphic unit
  notPercent : unit ≠ 0x25
  notComma : unit ≠ 0x2C

/-- A part between the colons of an address. -/
structure IsPart (part : JsString) : Prop where
  nonempty : part ≠ []
  areBody : ∀ unit ∈ part, IsBodyUnit unit
  noColon : 0x3A ∉ part

theorem hexDigits_table : ∀ n < 0x67,
    (hexValue? (UInt16.ofNat n)).all (fun value =>
      decide (lowerUnit (UInt16.ofNat n) = hexUnit value ∧ value < 16 ∧
        0x30 ≤ n ∧ n ≠ 0x3A)) = true := by
  decide

/-- A hexadecimal digit in lower case is the digit of its value. -/
theorem hexDigit_unit {unit : UInt16} {value : ℕ}
    (isHex : hexValue? unit = some value) :
    lowerUnit unit = hexUnit value ∧ value < 16 ∧ IsBodyUnit unit ∧
      unit ≠ 0x3A := by
  have small : unit.toNat < 0x67 := by
    unfold hexValue? at isHex
    simp only [UInt16.le_iff_toNat_le, UInt16.reduceToNat] at isHex
    split_ifs at isHex <;> omega
  have row := hexDigits_table unit.toNat small
  rw [UInt16.ofNat_toNat, isHex, Option.all_some, decide_eq_true_iff] at row
  obtain ⟨isLower, below, atLeast, notColon⟩ := row
  have isOther : ∀ other : UInt16, other.toNat < 0x30 → unit ≠ other := by
    intro other isSmall same
    rw [same] at atLeast
    omega
  refine ⟨isLower, below, ⟨⟨by omega, by omega⟩, isOther 0x25 (by decide),
    isOther 0x2C (by decide)⟩, ?_⟩
  rw [ne_eq, ← UInt16.toNat_inj]
  exact notColon

/-- Lower case leaves what may stand in an address, and its colons. -/
theorem lowerUnit_body {unit : UInt16} (isBody : IsBodyUnit unit) :
    IsBodyUnit (lowerUnit unit) ∧ (lowerUnit unit = 0x3A ↔ unit = 0x3A) := by
  have table : ∀ n < 0x7F, 0x21 ≤ n →
      0x21 ≤ (lowerUnit (UInt16.ofNat n)).toNat ∧
        (lowerUnit (UInt16.ofNat n)).toNat ≤ 0x7E ∧
        ∀ other ∈ [0x25, 0x2C, 0x3A],
          (lowerUnit (UInt16.ofNat n)).toNat = other ↔ n = other := by
    decide
  obtain ⟨atLeast, atMost⟩ := isBody.graphic
  obtain ⟨isAbove, isBelow, isSame⟩ := table unit.toNat (by omega) atLeast
  rw [UInt16.ofNat_toNat] at isAbove isBelow isSame
  have keeps : ∀ other : UInt16, other.toNat ∈ [0x25, 0x2C, 0x3A] →
      (lowerUnit unit = other ↔ unit = other) := by
    intro other isMember
    rw [← UInt16.toNat_inj, isSame _ isMember, UInt16.toNat_inj]
  refine ⟨⟨⟨isAbove, isBelow⟩, ?_, ?_⟩, keeps 0x3A (by decide)⟩
  · rw [ne_eq, keeps 0x25 (by decide)]
    exact isBody.notPercent
  · rw [ne_eq, keeps 0x2C (by decide)]
    exact isBody.notComma

theorem IsPart.lower {part : JsString} (isPart : IsPart part) :
    IsPart (part.map lowerUnit) where
  nonempty := by
    rw [ne_eq, List.map_eq_nil_iff]
    exact isPart.nonempty
  areBody := by
    rw [List.forall_mem_map]
    exact fun unit isMember => (lowerUnit_body (isPart.areBody unit isMember)).1
  noColon := by
    intro isMember
    obtain ⟨unit, isUnit, isColon⟩ := List.mem_map.mp isMember
    have same := (lowerUnit_body (isPart.areBody unit isUnit)).2.mp isColon
    rw [same] at isUnit
    exact isPart.noColon isUnit

theorem Hextet.isPart (group : Hextet) : IsPart group.digits where
  nonempty := group.nonempty
  areBody := by
    intro unit isMember
    obtain ⟨value, isHex⟩ :=
      Option.isSome_iff_exists.mp (group.areDigits unit isMember)
    exact (hexDigit_unit isHex).2.2.1
  noColon := by
    intro isMember
    have isHex := group.areDigits 0x3A isMember
    cases isHex

theorem DottedQuad.isPart (quad : DottedQuad) : IsPart quad.text := by
  have areUnits : ∀ unit ∈ quad.text, isDigit unit = true ∨ unit = 0x2E := by
    intro unit isMember
    simp only [DottedQuad.text, join, List.mem_append, List.mem_singleton]
      at isMember
    rcases isMember with (isDigits | isPoint) |
      (isDigits | isPoint) | (isDigits | isPoint) | isDigits
    · exact Or.inl (decimal_digits _ unit isDigits)
    · exact Or.inr isPoint
    · exact Or.inl (decimal_digits _ unit isDigits)
    · exact Or.inr isPoint
    · exact Or.inl (decimal_digits _ unit isDigits)
    · exact Or.inr isPoint
    · exact Or.inl (decimal_digits _ unit isDigits)
  refine ⟨?_, ?_, ?_⟩
  · intro isEmpty
    simp [DottedQuad.text, join] at isEmpty
  · intro unit isMember
    rcases areUnits unit isMember with digit | isPoint
    · rw [isDigit_iff] at digit
      have isOther : ∀ other : UInt16, other.toNat < 0x30 →
          unit ≠ other := by
        intro other isSmall same
        rw [same] at digit
        omega
      exact ⟨⟨by omega, by omega⟩, isOther 0x25 (by decide),
        isOther 0x2C (by decide)⟩
    · rw [isPoint]
      exact ⟨⟨by decide, by decide⟩, by decide, by decide⟩
  · intro isMember
    rcases areUnits 0x3A isMember with digit | isPoint
    · cases digit
    · cases isPoint

theorem isPart_of_partsOf {groups : List Hextet} {tail : Option DottedQuad} :
    ∀ part ∈ partsOf groups tail, IsPart part := by
  intro part isMember
  rcases List.mem_append.mp isMember with isGroup | isTail
  · obtain ⟨group, -, isDigits⟩ := List.mem_map.mp isGroup
    rw [← isDigits]
    exact group.isPart
  · obtain ⟨quad, -, isText⟩ := List.mem_map.mp isTail
    rw [← isText]
    exact quad.isPart

/-! ## What the code counts -/

theorem lower_join (parts : List JsString) :
    (join [0x3A] parts).map lowerUnit =
      join [0x3A] (parts.map (List.map lowerUnit)) := by
  induction parts with
  | nil => rfl
  | cons part others inductionHypothesis =>
      cases others with
      | nil => rfl
      | cons next rest =>
          rw [join_cons_cons, List.map_append, List.map_append,
            inductionHypothesis]
          rfl

section Counting

variable {parts left right : List JsString}

theorem colonParts_join (areParts : ∀ part ∈ parts, IsPart part) :
    colonParts (join [0x3A] parts) = parts := by
  have areNonempty : parts.filter (· ≠ []) = parts := by
    rw [List.filter_eq_self]
    exact fun part isMember => decide_eq_true (areParts part isMember).nonempty
  by_cases isEmpty : parts = []
  · rw [isEmpty]
    rfl
  · rw [colonParts, splitOnUnit_join isEmpty fun part isMember =>
      (areParts part isMember).noColon, areNonempty]

theorem neverTwice_parts (areParts : ∀ part ∈ parts, IsPart part) :
    NeverTwice 0x3A (join [0x3A] parts) :=
  neverTwice_join fun part isMember =>
    ⟨(areParts part isMember).nonempty, (areParts part isMember).noColon⟩

theorem addressPrefix_join (areParts : ∀ part ∈ parts, IsPart part) :
    addressPrefix (join [0x3A] parts) =
      join [0x3A] (parts.take 4) ++ units "::/64" := by
  unfold addressPrefix
  rw [splitOnDouble_of_neverTwice (neverTwice_parts areParts)]
  dsimp only [List.length_singleton, List.getElem?_cons_zero, Option.getD]
  rw [if_pos rfl, colonParts_join areParts]

theorem addressPrefix_gap (areLeft : ∀ part ∈ left, IsPart part)
    (areRight : ∀ part ∈ right, IsPart part) :
    addressPrefix (join [0x3A] left ++ units "::" ++ join [0x3A] right) =
      join [0x3A] ((left ++
        List.replicate (8 - left.length - right.length) (units "0") ++
          right).take 4) ++ units "::/64" := by
  have isSplit : splitOnDouble 0x3A
      (join [0x3A] left ++ units "::" ++ join [0x3A] right) =
        [join [0x3A] left, join [0x3A] right] := by
    rw [List.append_assoc]
    change splitOnDouble 0x3A
      (join [0x3A] left ++ 0x3A :: 0x3A :: join [0x3A] right) = _
    rw [splitOnDouble_append (neverTwice_parts areLeft),
      splitOnDouble_of_neverTwice (neverTwice_parts areRight)]
  unfold addressPrefix
  rw [isSplit]
  have isTwo : ¬ [join [0x3A] left, join [0x3A] right].length = 1 := by
    simp
  dsimp only [List.getElem?_cons_zero, List.getElem?_cons_succ, Option.getD]
  rw [if_neg isTwo, colonParts_join areLeft, colonParts_join areRight]

end Counting

/-- A group as the code keeps it. -/
def Hextet.lowered (group : Hextet) : JsString := group.digits.map lowerUnit

/-- The first four groups as the code counts them: a dotted tail is one
group. -/
def Ipv6Body.counted (body : Ipv6Body) : List Hextet := (body.groups 1).take 4

theorem tailGroups_le (perTail : ℕ) (tail : Option DottedQuad) :
    tailGroups perTail tail ≤ perTail := by
  unfold tailGroups
  split_ifs <;> omega

theorem Ipv6Body.length_groups (body : Ipv6Body) :
    (body.groups 2).length + tailGroups 2 body.tail = 8 := by
  cases body with
  | full groups tail complete => exact complete
  | compressed left right tail fits =>
      simp only [Ipv6Body.groups, Ipv6Body.tail, List.length_append,
        List.length_replicate]
      omega

theorem Ipv6Body.length_counted (body : Ipv6Body) :
    body.counted.length = 4 := by
  rw [counted, List.length_take, Nat.min_eq_left]
  cases body with
  | full groups tail complete =>
      have small := tailGroups_le 2 tail
      simp only [Ipv6Body.groups]
      omega
  | compressed left right tail fits =>
      have small := tailGroups_le 1 tail
      simp only [Ipv6Body.groups, List.length_append, List.length_replicate]
      omega

section Lowered

variable (groups : List Hextet) (tail : Option DottedQuad)

/-- The groups and the dotted tail as the code keeps them. -/
def loweredParts : List JsString :=
  groups.map Hextet.lowered ++
    (tail.toList.map DottedQuad.text).map (List.map lowerUnit)

theorem lower_partsOf :
    (partsOf groups tail).map (List.map lowerUnit) =
      loweredParts groups tail := by
  rw [partsOf, List.map_append, List.map_map]
  rfl

theorem isPart_loweredParts :
    ∀ part ∈ loweredParts groups tail, IsPart part := by
  rw [← lower_partsOf, List.forall_mem_map]
  exact fun whole isWhole => (isPart_of_partsOf whole isWhole).lower

theorem length_loweredParts :
    (loweredParts groups tail).length = groups.length + tailGroups 1 tail := by
  rw [loweredParts, List.length_append, List.length_map, List.length_map,
    List.length_map]
  cases tail <;> rfl

/-- Four groups hide the tail. -/
theorem take_loweredParts (long : 4 ≤ groups.length) :
    (loweredParts groups tail).take 4 =
      (groups.take 4).map Hextet.lowered := by
  have isLong : 4 ≤ (groups.map Hextet.lowered).length := by
    rwa [List.length_map]
  rw [loweredParts, List.take_append_of_le_length isLong, ← List.map_take]

end Lowered

/-- What the code makes of an address in lower case. -/
theorem addressPrefix_lower (body : Ipv6Body) :
    addressPrefix (body.text.map lowerUnit) =
      join [0x3A] (body.counted.map Hextet.lowered) ++ units "::/64" := by
  cases body with
  | full groups tail complete =>
      have small := tailGroups_le 2 tail
      rw [Ipv6Body.text, lower_join, lower_partsOf,
        addressPrefix_join (isPart_loweredParts groups tail),
        take_loweredParts groups tail (by omega)]
      rfl
  | compressed left right tail fits =>
      have isText : (Ipv6Body.compressed left right tail fits).text.map
          lowerUnit = join [0x3A] (loweredParts left none) ++ units "::" ++
            join [0x3A] (loweredParts right tail) := by
        rw [Ipv6Body.text, List.map_append, List.map_append, lower_join,
          lower_join, lower_partsOf, lower_partsOf]
        rfl
      have isZero : units "0" = Hextet.zero.lowered := rfl
      have twoOrNone : tailGroups 2 tail = 2 * tailGroups 1 tail := by
        cases tail <;> rfl
      have long : 4 ≤ ((Ipv6Body.compressed left right tail fits).groups
          1).length := by
        simp only [Ipv6Body.groups, List.length_append, List.length_replicate]
        omega
      -- the code fills the gap as if the tail were one group
      have isFull : loweredParts left none ++
          List.replicate (8 - (loweredParts left none).length -
            (loweredParts right tail).length) (units "0") ++
          loweredParts right tail =
            loweredParts ((Ipv6Body.compressed left right tail fits).groups 1)
              tail := by
        have noTail : tailGroups 1 none = 0 := rfl
        rw [length_loweredParts, length_loweredParts, noTail, isZero]
        simp only [loweredParts, Ipv6Body.groups, Option.toList_none,
          List.map_append, List.map_replicate, List.map_nil, List.append_nil,
          List.append_assoc, Nat.sub_sub, Nat.add_assoc, Nat.add_zero]
      rw [isText, addressPrefix_gap (isPart_loweredParts left none)
        (isPart_loweredParts right tail), isFull,
        take_loweredParts _ tail long]
      rfl

theorem isBodyUnit_colon : IsBodyUnit 0x3A :=
  ⟨⟨by decide, by decide⟩, by decide, by decide⟩

theorem isBodyUnit_join {parts : List JsString}
    (areParts : ∀ part ∈ parts, IsPart part) :
    ∀ unit ∈ join [0x3A] parts, IsBodyUnit unit := by
  induction parts with
  | nil => exact fun unit isMember => absurd isMember List.not_mem_nil
  | cons part others inductionHypothesis =>
      obtain ⟨isPart, areOthers⟩ := List.forall_mem_cons.mp areParts
      cases others with
      | nil => exact isPart.areBody
      | cons next rest =>
          rw [join_cons_cons]
          intro unit isMember
          rcases List.mem_append.mp isMember with inFront | isLater
          · rcases List.mem_append.mp inFront with inPart | isColon
            · exact isPart.areBody unit inPart
            · rw [List.mem_singleton.mp isColon]
              exact isBodyUnit_colon
          · exact inductionHypothesis areOthers unit isLater

theorem Ipv6Body.isBodyUnit_text (body : Ipv6Body) :
    ∀ unit ∈ body.text, IsBodyUnit unit := by
  cases body with
  | full groups tail complete => exact isBodyUnit_join isPart_of_partsOf
  | compressed left right tail fits =>
      intro unit isMember
      rcases List.mem_append.mp isMember with inFront | isRight
      · rcases List.mem_append.mp inFront with isLeft | isGap
        · exact isBodyUnit_join isPart_of_partsOf unit isLeft
        · have isColon : unit = 0x3A := by
            rcases List.mem_cons.mp isGap with isColon | isColon
            · exact isColon
            · exact List.mem_singleton.mp isColon
          rw [isColon]
          exact isBodyUnit_colon
      · exact isBodyUnit_join isPart_of_partsOf unit isRight

theorem Ipv6Body.colon_mem_text (body : Ipv6Body) : 0x3A ∈ body.text := by
  cases body with
  | full groups tail complete =>
      have small := tailGroups_le 2 tail
      match groups, complete with
      | [], complete => exact absurd complete (by simp; omega)
      | [only], complete => exact absurd complete (by simp; omega)
      | first :: second :: rest, _ =>
          refine List.mem_append_left _ (List.mem_append_right _ ?_)
          exact List.mem_singleton_self _
  | compressed left right tail fits =>
      refine List.mem_append_left _ (List.mem_append_right _ ?_)
      exact List.mem_cons_self

section Key

variable [CaseData]

omit [CaseData] in
theorem graphic_percent {text : JsString}
    (graphic : ∀ unit ∈ text, IsGraphic unit) :
    ∀ unit ∈ text ++ [0x25], IsGraphic unit := by
  rw [List.forall_mem_append]
  refine ⟨graphic, ?_⟩
  rw [List.forall_mem_singleton]
  exact ⟨by decide, by decide⟩

/-- An address is kept as its first four groups in lower case, a dotted tail
counted as one group, whatever the zone. -/
theorem normalizeClientIp_text (address : Ipv6Text) :
    normalizeClientIp address.text =
      join [0x3A] (address.body.counted.map Hextet.lowered) ++
        units "::/64" := by
  obtain ⟨body, zone⟩ := address
  have graphic : ∀ unit ∈ body.text, IsGraphic unit :=
    fun unit isMember => (body.isBodyUnit_text unit isMember).graphic
  have noPercent : 0x25 ∉ body.text.map lowerUnit := by
    intro isMember
    obtain ⟨unit, isUnit, isPercent⟩ := List.mem_map.mp isMember
    exact (lowerUnit_body (body.isBodyUnit_text unit
      isUnit)).1.notPercent isPercent
  have hasColon : 0x3A ∈ body.text.map lowerUnit :=
    List.mem_map.mpr ⟨0x3A, body.colon_mem_text, by decide⟩
  rw [← addressPrefix_lower, normalizeClientIp]
  cases zone with
  | none =>
      have isText : Ipv6Text.text ⟨body, none⟩ = body.text :=
        List.append_nil _
      dsimp only
      rw [isText, trim_of_graphic graphic,
        toLowerCase_ascii (isAscii_of_graphic graphic), if_pos hasColon,
        splitOnUnit_of_notMem noPercent, List.headD_cons]
  | some zone =>
      have withPercent := graphic_percent graphic
      obtain ⟨rest, isTrimmed⟩ := trim_graphic_append withPercent zone
      obtain ⟨others, isLower⟩ :=
        toLowerCase_ascii_append (isAscii_of_graphic withPercent) rest
      have isText : Ipv6Text.text ⟨body, some zone⟩ =
          body.text ++ 0x25 :: zone := rfl
      rw [List.append_assoc, List.singleton_append, List.map_append,
        List.append_assoc] at isLower
      change _ = body.text.map lowerUnit ++ 0x25 :: others at isLower
      dsimp only
      rw [isText, isTrimmed, isLower, if_pos (List.mem_append_left _ hasColon),
        splitOnUnit_append_unit noPercent, List.headD_cons]

end Key

/-! ## The first 64 bits -/

theorem Hextet.values_lt (group : Hextet) :
    ∀ digit ∈ group.values.reverse, digit < 16 := by
  intro digit isMember
  rw [List.mem_reverse] at isMember
  obtain ⟨unit, isUnit, isDigit⟩ := List.mem_map.mp isMember
  obtain ⟨value, isHex⟩ :=
    Option.isSome_iff_exists.mp (group.areDigits unit isUnit)
  rw [← isDigit, isHex]
  exact (hexDigit_unit isHex).2.1

theorem Hextet.value_lt (group : Hextet) : group.value < 2 ^ 16 := by
  have below := Nat.ofDigits_lt_base_pow_length (by omega) group.values_lt
  rw [List.length_reverse, Hextet.values, List.length_map] at below
  have atMost : 16 ^ group.digits.length ≤ 16 ^ 4 :=
    Nat.pow_le_pow_right (by omega) group.short
  exact lt_of_lt_of_le below atMost

theorem DottedQuad.pieces_lt (quad : DottedQuad) :
    ∀ piece ∈ quad.pieces, piece < 2 ^ 16 := by
  intro piece isMember
  have first := quad.first.isLt
  have second := quad.second.isLt
  have third := quad.third.isLt
  have fourth := quad.fourth.isLt
  rcases List.mem_cons.mp isMember with isFirst | isSecond
  · omega
  · have isLast := List.mem_singleton.mp isSecond
    omega

theorem Hextet.lowered_eq (group : Hextet) :
    group.lowered = group.values.map hexUnit := by
  rw [Hextet.values, List.map_map]
  apply List.map_congr_left
  intro unit isUnit
  obtain ⟨value, isHex⟩ :=
    Option.isSome_iff_exists.mp (group.areDigits unit isUnit)
  rw [Function.comp_apply, isHex]
  exact (hexDigit_unit isHex).1

theorem Hextet.values_eq (group : Hextet) :
    group.values =
      group.lowered.map fun unit => (hexValue? unit).getD 0 := by
  have readsBack : ∀ digit ∈ group.values,
      ((fun unit => (hexValue? unit).getD 0) ∘ hexUnit) digit = id digit := by
    intro digit isDigit
    have small := group.values_lt digit (List.mem_reverse.mpr isDigit)
    rw [Function.comp_apply, hexValue?_hexUnit small]
    rfl
  rw [group.lowered_eq, List.map_map, List.map_congr_left readsBack,
    List.map_id]

/-- Groups are the same in lower case when they have one value and one
width. -/
theorem Hextet.lowered_eq_iff {first second : Hextet} :
    first.lowered = second.lowered ↔
      first.value = second.value ∧ first.width = second.width := by
  constructor
  · intro same
    refine ⟨?_, ?_⟩
    · rw [Hextet.value, Hextet.value, first.values_eq, second.values_eq, same]
    · have lengths := congrArg List.length same
      rwa [Hextet.lowered, Hextet.lowered, List.length_map, List.length_map]
        at lengths
  · rintro ⟨sameValue, sameWidth⟩
    have sameLength : first.values.reverse.length =
        second.values.reverse.length := by
      rw [List.length_reverse, List.length_reverse, Hextet.values,
        Hextet.values, List.length_map, List.length_map]
      exact sameWidth
    have sameDigits := Nat.ofDigits_inj_of_len_eq (by omega) sameLength
      first.values_lt second.values_lt sameValue
    rw [first.lowered_eq, second.lowered_eq,
      List.reverse_injective sameDigits]

theorem map_lowered_eq_iff {first second : List Hextet} :
    first.map Hextet.lowered = second.map Hextet.lowered ↔
      first.map Hextet.value = second.map Hextet.value ∧
        first.map Hextet.width = second.map Hextet.width := by
  induction first generalizing second with
  | nil => cases second <;> simp
  | cons group others inductionHypothesis =>
      cases second with
      | nil => simp
      | cons next rest =>
          simp only [List.map_cons, List.cons.injEq, inductionHypothesis,
            Hextet.lowered_eq_iff]
          exact and_and_and_comm

namespace Ipv6Body

variable (body : Ipv6Body)

theorem pieces_lt : ∀ piece ∈ body.pieces, piece < 2 ^ 16 := by
  intro piece isMember
  rcases List.mem_append.mp isMember with isGroup | isTail
  · obtain ⟨group, -, isValue⟩ := List.mem_map.mp isGroup
    rw [← isValue]
    exact group.value_lt
  · obtain ⟨quad, -, isPiece⟩ := List.mem_flatMap.mp isTail
    exact quad.pieces_lt piece isPiece

theorem length_pieces : body.pieces.length = 8 := by
  have complete := body.length_groups
  rw [pieces, List.length_append, List.length_map]
  cases isTail : body.tail with
  | none =>
      rw [isTail] at complete
      exact complete
  | some quad =>
      rw [isTail] at complete
      exact complete

/-- The first four groups of the address. -/
def leading : List ℕ := ((body.groups 2).take 4).map Hextet.value

theorem take_pieces : body.pieces.take 4 = body.leading := by
  have complete := body.length_groups
  have small := tailGroups_le 2 body.tail
  have long : 4 ≤ ((body.groups 2).map Hextet.value).length := by
    rw [List.length_map]
    omega
  rw [pieces, List.take_append_of_le_length long, ← List.map_take, leading]

theorem length_leading : body.leading.length = 4 := by
  rw [← take_pieces, List.length_take, length_pieces]
  rfl

theorem leading_lt : ∀ piece ∈ body.leading.reverse, piece < 2 ^ 16 := by
  intro piece isMember
  rw [List.mem_reverse, ← take_pieces] at isMember
  exact body.pieces_lt piece (List.mem_of_mem_take isMember)

theorem prefix64_eq :
    body.prefix64 = Nat.ofDigits (2 ^ 16) body.leading.reverse := by
  have isSplit : body.pieces.reverse =
      (body.pieces.drop 4).reverse ++ body.leading.reverse := by
    rw [← take_pieces, ← List.reverse_append, List.take_append_drop]
  have isRest : (body.pieces.drop 4).reverse.length = 4 := by
    rw [List.length_reverse, List.length_drop, length_pieces]
  have small : ∀ piece ∈ (body.pieces.drop 4).reverse, piece < 2 ^ 16 := by
    intro piece isMember
    rw [List.mem_reverse] at isMember
    exact body.pieces_lt piece (List.mem_of_mem_drop isMember)
  have below := Nat.ofDigits_lt_base_pow_length (by omega) small
  have isPower : (2 ^ 64 : ℕ) = (2 ^ 16) ^ 4 := by decide
  rw [prefix64, address, isSplit, Nat.ofDigits_append, isRest, isPower,
    Nat.add_mul_div_left _ _ (by omega), Nat.div_eq_of_lt (by
      rwa [isRest] at below), Nat.zero_add]

variable {body} {other : Ipv6Body}

theorem prefix64_eq_iff :
    body.prefix64 = other.prefix64 ↔ body.leading = other.leading := by
  constructor
  · intro same
    rw [prefix64_eq, prefix64_eq] at same
    have sameLength : body.leading.reverse.length =
        other.leading.reverse.length := by
      rw [List.length_reverse, List.length_reverse, length_leading,
        length_leading]
    exact List.reverse_injective (Nat.ofDigits_inj_of_len_eq (by omega)
      sameLength body.leading_lt other.leading_lt same)
  · intro same
    rw [prefix64_eq, prefix64_eq, same]

end Ipv6Body

/-! ## One key for one prefix -/

section Keyed

variable (first second : Ipv6Text)

/-- The first four groups of two addresses have the same values, a dotted
tail counted as one group. -/
def CountedAlike : Prop :=
  first.body.counted.map Hextet.value = second.body.counted.map Hextet.value

/-- The first four groups of two addresses are written with equally many
digits, one for a group of the gap. -/
def EquallyWide : Prop :=
  first.body.counted.map Hextet.width = second.body.counted.map Hextet.width

/-- A dotted tail stands behind `::` and three groups or more, so that it
moves the first four groups when it counts as one. -/
def IsLate : Ipv6Body → Prop
  | .full _ _ _ => False
  | .compressed _ right tail _ => tail.isSome ∧ 3 ≤ right.length

/-- What keeps the spelling of two addresses from showing: addresses of one
prefix are written alike, and where a dotted tail moves the groups of one of
them, addresses of two prefixes are not. -/
structure SpellingHidden : Prop where
  together : first.body.prefix64 = second.body.prefix64 →
    CountedAlike first second ∧ EquallyWide first second
  apart : IsLate first.body ∨ IsLate second.body →
    first.body.prefix64 ≠ second.body.prefix64 →
      CountedAlike first second → ¬ EquallyWide first second

theorem counted_of_not_late {body : Ipv6Body} (notLate : ¬ IsLate body) :
    body.counted.map Hextet.value = body.leading := by
  cases body with
  | full groups tail complete => rfl
  | compressed left right tail fits =>
      cases tail with
      | none => rfl
      | some quad =>
          have few : right.length < 3 := by
            by_contra many
            exact notLate ⟨rfl, not_lt.mp many⟩
          have room : 4 ≤ left.length +
              (8 - left.length - right.length - 2) := by
            omega
          have isTake : ∀ count,
              4 ≤ left.length + count →
              (left ++ List.replicate count Hextet.zero ++ right).take 4 =
                (left ++ List.replicate 4 Hextet.zero).take 4 := by
            intro count enough
            rw [List.take_append_of_le_length (by simp; omega),
              List.take_append, List.take_append, List.take_replicate,
              List.take_replicate]
            congr 2
            omega
          unfold Ipv6Body.counted Ipv6Body.leading
          simp only [Ipv6Body.groups, tailGroups, Option.isSome_some, if_true]
          rw [isTake _ (by omega), isTake _ room]

theorem normalized_eq_iff [CaseData] :
    normalizeClientIp first.text = normalizeClientIp second.text ↔
      CountedAlike first second ∧ EquallyWide first second := by
  have nonempty : ∀ address : Ipv6Text,
      address.body.counted.map Hextet.lowered ≠ [] := by
    intro address isEmpty
    have long := address.body.length_counted
    rw [List.map_eq_nil_iff] at isEmpty
    rw [isEmpty] at long
    cases long
  have clean : ∀ address : Ipv6Text,
      ∀ part ∈ address.body.counted.map Hextet.lowered, 0x3A ∉ part := by
    intro address part isMember
    obtain ⟨group, -, isLowered⟩ := List.mem_map.mp isMember
    rw [← isLowered]
    exact group.isPart.lower.noColon
  rw [normalizeClientIp_text, normalizeClientIp_text, List.append_left_inj,
    join_inj (nonempty first) (nonempty second) (clean first) (clean second),
    map_lowered_eq_iff]
  rfl

/-- Two texts are one client exactly when they have the same first 64 bits,
if and only if their spelling does not show. -/
theorem keyed_by_prefix_iff [CaseData] :
    (normalizeClientIp first.text = normalizeClientIp second.text ↔
      first.body.prefix64 = second.body.prefix64) ↔
        SpellingHidden first second := by
  rw [normalized_eq_iff]
  constructor
  · intro keyed
    exact ⟨keyed.mpr, fun _ differ alike wide => differ (keyed.mp
      ⟨alike, wide⟩)⟩
  · intro spelled
    refine ⟨?_, spelled.together⟩
    rintro ⟨alike, wide⟩
    by_contra differ
    by_cases late : IsLate first.body ∨ IsLate second.body
    · exact spelled.apart late differ alike wide
    · rw [not_or] at late
      have same : first.body.leading = second.body.leading := by
        rw [← counted_of_not_late late.1, ← counted_of_not_late late.2]
        exact alike
      exact differ (Ipv6Body.prefix64_eq_iff.mpr same)

end Keyed

/-! ## Spellings that show -/

/-- A group of given digits. -/
def hextet (digits : String)
    (areDigits : ((units digits).all fun unit =>
      (hexValue? unit).isSome) = true := by decide)
    (nonempty : units digits ≠ [] := by decide)
    (short : (units digits).length ≤ 4 := by decide) : Hextet :=
  ⟨units digits, List.all_eq_true.mp areDigits, nonempty, short⟩

/-- `2001:`, a group, and `::1`. -/
def afterSpecial (group : Hextet) : Ipv6Text where
  body := .compressed [hextet "2001", group] [hextet "1"] none
    (by simp [tailGroups])
  zone := none

/-- `1::`, a group, and `:3:4:5.6.7.8`. -/
def beforeTail (group : Hextet) : Ipv6Text where
  body := .compressed [hextet "1"] [group, hextet "3", hextet "4"]
    (some ⟨5, 6, 7, 8⟩) (by simp [tailGroups])
  zone := none

theorem beforeTail_text (group : Hextet) :
    (beforeTail group).text =
      units "1::" ++ group.digits ++ units ":3:4:5.6.7.8" := by
  have isDigit : ∀ n < 10, decimal n = [digitUnit n] := by
    intro n small
    rw [decimal, if_pos small]
  have isQuad : DottedQuad.text ⟨5, 6, 7, 8⟩ = units "5.6.7.8" := by
    change join [0x2E] [decimal 5, decimal 6, decimal 7, decimal 8] = _
    rw [isDigit 5 (by omega), isDigit 6 (by omega), isDigit 7 (by omega),
      isDigit 8 (by omega)]
    decide
  change units "1" ++ units "::" ++ (group.digits ++ units ":" ++
    (units "3" ++ units ":" ++ (units "4" ++ units ":" ++
      DottedQuad.text ⟨5, 6, 7, 8⟩))) ++ [] = _
  rw [isQuad]
  simp only [List.append_assoc, List.append_nil]
  rfl

/-- A zero in front of a group gives an address a second key, and a dotted
tail lets two prefixes share one. -/
theorem spelling_shows :
    letI := asciiCase
    ((afterSpecial (hextet "db8")).text = units "2001:db8::1" ∧
      (afterSpecial (hextet "0db8")).text = units "2001:0db8::1" ∧
      (afterSpecial (hextet "db8")).body.prefix64 =
        (afterSpecial (hextet "0db8")).body.prefix64 ∧
      normalizeClientIp (units "2001:db8::1") ≠
        normalizeClientIp (units "2001:0db8::1")) ∧
      (beforeTail (hextet "2")).text = units "1::2:3:4:5.6.7.8" ∧
      (beforeTail (hextet "9")).text = units "1::9:3:4:5.6.7.8" ∧
      (beforeTail (hextet "2")).body.prefix64 ≠
        (beforeTail (hextet "9")).body.prefix64 ∧
      normalizeClientIp (units "1::2:3:4:5.6.7.8") =
        normalizeClientIp (units "1::9:3:4:5.6.7.8") := by
  let := asciiCase
  refine ⟨⟨by decide, by decide, by decide, by decide⟩, ?_, ?_, by decide,
    by decide⟩
  · rw [beforeTail_text]
    decide
  · rw [beforeTail_text]
    decide

end AgenId.Web
