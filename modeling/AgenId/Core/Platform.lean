import AgenId.Ecma.Instant
import AgenId.Validation.Schema

/-!
# The platform

What the protocol code calls that is not its own: the hash and the signature
scheme of the runtime, the engine's answer of `Date.parse` outside the
interchange format, its collation, and from the validation library its
expression for electronic mail addresses and its own issue texts.
-/

namespace AgenId.Core

open AgenId.Ecma
open AgenId.Validation

/-- The functions of the runtime and of the validation library. -/
class Platform where
  /-- SHA-256 of a byte sequence. -/
  sha256 : List UInt8 → List UInt8
  /-- PureEdDSA verification of a message under a raw public key of 32 bytes
  and a signature of 64 bytes, with false for a key that is not a point. -/
  ed25519Verify :
    (publicKey message signature : List UInt8) → Bool
  /-- `Date.parse` on a text outside the interchange format. -/
  parseOtherDate : JsString → Option Int
  /-- The check of `z.string().email()`. -/
  isEmail : JsString → Bool
  /-- The library's text of an issue without a text of its own. -/
  issueText : IssueCode → JsString
  /-- `left.localeCompare(right)` in the locale of the runtime. -/
  localeCompare : (left right : JsString) → Ordering

variable [Platform]

/-- `Date.parse(text)`, with `none` for `NaN`. -/
def dateParse (text : JsString) : Option Int :=
  parseDate Platform.parseOtherDate text

/-- `error.issues.map((i) => i.message).join("; ")`. -/
def issueMessages (issues : List Issue) : JsString :=
  join (units "; ") (issues.map (Issue.render Platform.issueText))

end AgenId.Core
