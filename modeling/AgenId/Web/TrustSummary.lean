import AgenId.Ecma.Number
import AgenId.Web.TrustPresentation

/-!
# The summary of a presentation

`trustSummary`: the placeholders of a summary are replaced by names that come
with the envelope.  A name that is not a string is written as one first, which
fails for an object with a member `toString`.
-/

namespace AgenId.Web

open AgenId.Ecma

/-! ## Values as texts -/

/-- `value` is neither `false`, `null`, `0`, `NaN`, the empty string nor
`undefined`. -/
def isTruthy : Option Json → Bool
  | none | some .null => false
  | some (.boolean value) => value
  | some (.number (.finite value)) => value.significand != 0
  | some (.number .nan) => false
  | some (.number (.infinity _)) => true
  | some (.string text) => !text.isEmpty
  | some (.array _) | some (.object _) => true

mutual

/-- `String(value)`; an object whose own `toString` shadows the inherited one
throws, since what JSON denotes cannot be called. -/
def toText : Json → Option JsString
  | .null => some (units "null")
  | .boolean true => some (units "true")
  | .boolean false => some (units "false")
  | .number value => some (numberToString value)
  | .string text => some text
  | .array items => (itemsText items).map (join (units ","))
  | .object members =>
    if (members.lookup (units "toString")).isSome then none
    else some (units "[object Object]")

/-- The texts that `join` writes of the items of an array. -/
def itemsText : List Json → Option (List JsString)
  | [] => some []
  | .null :: rest => (itemsText rest).map ([] :: ·)
  | item :: rest => do
    let text ← toText item
    let texts ← itemsText rest
    return text :: texts

end

/-! ## Replacement -/

/-- The replacement of a match, with its patterns expanded: `$$`, `$&`, and
the parts of the text before and after the match. -/
def getSubstitution (matched before after : JsString) : JsString → JsString
  | 0x24 :: 0x24 :: rest =>
    0x24 :: getSubstitution matched before after rest
  | 0x24 :: 0x26 :: rest =>
    matched ++ getSubstitution matched before after rest
  | 0x24 :: 0x60 :: rest =>
    before ++ getSubstitution matched before after rest
  | 0x24 :: 0x27 :: rest =>
    after ++ getSubstitution matched before after rest
  | unit :: rest => unit :: getSubstitution matched before after rest
  | [] => []

/-- What follows `before` in a text, after `skipped` units of a match, with
every further match of a literal pattern replaced. -/
def replaceFrom (pattern replacement : JsString) :
    Nat → JsString → JsString → JsString
  | _, _, [] => []
  | skipped + 1, before, unit :: rest =>
    replaceFrom pattern replacement skipped (before ++ [unit]) rest
  | 0, before, unit :: rest =>
    if pattern.isPrefixOf (unit :: rest) then
      getSubstitution pattern before ((unit :: rest).drop pattern.length)
          replacement ++
        replaceFrom pattern replacement (pattern.length - 1)
          (before ++ [unit]) rest
    else
      unit :: replaceFrom pattern replacement 0 (before ++ [unit]) rest

/-- `text.replace(/pattern/g, replacement)`. -/
def replaceEvery (pattern replacement text : JsString) : JsString :=
  replaceFrom pattern replacement 0 [] text

def trustSummary (presentation : TrustPresentation) (name : JsString)
    (operator : Option JsString) : JsString :=
  replaceEvery (units "\x7boperator\x7d")
    (operator.getD (units "its operator"))
    (replaceEvery (units "\x7bname\x7d") name presentation.summary)

/-- A name stands for itself wherever it has no dollar sign. -/
example :
    trustSummary NOT_REGISTERED_TRUST (units "Ada") none =
      units "Ada has no record in this registry." := by
  decide

end AgenId.Web
