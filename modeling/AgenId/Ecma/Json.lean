import AgenId.Ecma.CodeUnits
import Mathlib.Algebra.Group.Nat.Defs

/-!
# Numbers and JSON values

A number is a binary64 datum.  The finite ones are kept in canonical form, so
that two of them are equal exactly when they are the same datum.  A JSON value
is what `JSON.parse` returns; the members of an object are listed in the order
in which they were created, and no text here depends on the reordering of
integer-like names that an enumeration of properties performs.
-/

namespace AgenId.Ecma

/-- A finite binary64 datum, `± significand * 2 ^ exponent`. -/
structure Binary64 where
  negative : Bool
  significand : Nat
  exponent : Int
  /-- The significand is normalized unless the exponent is the least one. -/
  canonical :
    significand < 2 ^ 53 ∧ -1074 ≤ exponent ∧ exponent ≤ 971 ∧
      (2 ^ 52 ≤ significand ∨ exponent = -1074)
  deriving DecidableEq

/-- A value of type Number. -/
inductive JsNumber where
  | nan
  | infinity (negative : Bool)
  | finite (value : Binary64)
  deriving DecidableEq

/-- A value that JSON text can denote. -/
inductive Json where
  | null
  | boolean (value : Bool)
  | number (value : JsNumber)
  | string (text : JsString)
  | array (items : List Json)
  | object (members : List (JsString × Json))

/-- Induction over a value and the values inside it. -/
@[elab_as_elim]
theorem Json.inductionOn
    {good : Json → Prop} (value : Json)
    (null : good .null)
    (boolean : ∀ value, good (.boolean value))
    (number : ∀ value, good (.number value))
    (string : ∀ text, good (.string text))
    (array : ∀ items : List Json,
      (∀ item ∈ items, good item) → good (.array items))
    (object : ∀ members : List (JsString × Json),
      (∀ entry ∈ members, good entry.2) → good (.object members)) :
    good value :=
  @Json.rec good (fun items => ∀ item ∈ items, good item)
    (fun members => ∀ entry ∈ members, good entry.2)
    (fun entry => good entry.2)
    null boolean number string array object
    (fun _ isMember => nomatch isMember)
    (fun _ _ goodHead goodRest => List.forall_mem_cons.mpr
      ⟨goodHead, goodRest⟩)
    (fun _ isMember => nomatch isMember)
    (fun _ _ goodHead goodRest => List.forall_mem_cons.mpr
      ⟨goodHead, goodRest⟩)
    (fun _ _ goodValue => goodValue)
    value

/-- The members of an object. -/
abbrev Members := List (JsString × Json)

namespace Json

/-- A string value written as a source literal. -/
def literal (text : String) : Json :=
  .string (units text)

/-- `value[name]`, with `none` for `undefined`; a value that is not an object
has none of the names asked for here. -/
def get? (name : JsString) : Json → Option Json
  | .object members => members.lookup name
  | _ => none

/-- The items when `Array.isArray(value)`. -/
def items? : Json → Option (List Json)
  | .array items => some items
  | _ => none

/-- An object literal; a member whose value is `undefined` is left out. -/
def record (entries : List (String × Option Json)) : Json :=
  .object (entries.filterMap fun entry =>
    entry.2.map fun value => (units entry.1, value))

end Json

end AgenId.Ecma
