import AgenId.Core.Identifier
import AgenId.Ecma.Search

/-!
# Key references in raw request targets

`raw-key-target.ts`: the path segment and the values of `key_id` as they stand
in a request target, before any framework has decoded them.
-/

namespace AgenId.Registry

open AgenId.Core
open AgenId.Ecma

/-! ## `KEY_ERROR_MESSAGES` -/

namespace KEY_ERROR_MESSAGES

def missing_key_id : String :=
  "key_id query parameter required (percent-encoded logical form " ++
    "agenid:key:<key-ULID>), or use /v1/keys/<key-ULID>"

def duplicate_key_id : String :=
  "key_id must appear exactly once: a repeated parameter is ambiguous, and " ++
    "this registry refuses it rather than guessing which one was meant"

def fragment : String :=
  "key reference must not contain a URI fragment ('#'): fragments are not " ++
    "sent to servers and cannot be resolved (spec §0.A)"

def double_encoded : String :=
  "key reference is percent-encoded more than once: the transport layer " ++
    "decodes it exactly once, and spec §0.A defines only the bare key-ULID " ++
    "and the logical form agenid:key:<key-ULID>"

def path_not_literal : String :=
  "the path segment must be the literal wire form of a key identifier: a " ++
    "bare key-ULID, carrying no percent-encoding (spec §0.A, §9.2). A " ++
    "percent-escape in this position is not a second spelling of a key — it " ++
    "is a different request target whose decoded form only resembles one"

def malformed_escape : String :=
  "key reference contains a malformed percent-escape and is not a key " ++
    "identifier in any spelling defined by spec §0.A"

def target_disagreement : String :=
  "this registry could not establish one unambiguous request target for the " ++
    "key reference and refused rather than guess which reading was meant"

def bad_wire_form : String :=
  "the path segment must be the wire form of a key identifier: a bare " ++
    "key-ULID (spec §0.A, §9.2)"

def bad_logical_form : String :=
  "key_id must be the logical form agenid:key:<key-ULID> (spec §0.A, §9.2)"

def key_not_found : String :=
  "no key document is published under this identifier"

def registry_unavailable : String :=
  "the key registry could not be reached; this key's status is unknown, not " ++
    "disproven"

def key_document_invalid : String :=
  "the stored key document did not validate and was not served"

end KEY_ERROR_MESSAGES

/-! ## Request targets -/

/-- `ENCODED_HASH`; the flag `i` has no letter to act on. -/
def ENCODED_HASH : Regex where
  anchored := false
  alternatives := [literally "%23"]

def originForm (url : JsString) : JsString :=
  match indexOf? (units "://") url with
  | none => url
  | some schemeEnd =>
    match indexOf? (units "/") (url.drop (schemeEnd + 3)) with
    | none => units "/"
    | some offset => url.drop (schemeEnd + 3 + offset)

/-- A target in two parts. -/
structure Target where
  path : JsString
  query : JsString

/-- A `RawTargetResult` that is not ok carries the text of its error. -/
def splitTarget (url : JsString) : Except String Target :=
  let target := originForm url
  if includesUnit 0x23 target then
    .error KEY_ERROR_MESSAGES.fragment
  else
    let q := indexOf? (units "?") target
    .ok
      { path := q.elim target target.take
        query := q.elim [] fun index => target.drop (index + 1) }

def rawKeyPathSegment (url : JsString) : Except String JsString := do
  let split ← splitTarget url
  let path := split.path
  let segment := path.drop ((lastIndexOf? 0x2F path).elim 0 (· + 1))
  if ENCODED_HASH.test segment then
    throw KEY_ERROR_MESSAGES.fragment
  if includesUnit 0x25 segment then
    throw KEY_ERROR_MESSAGES.path_not_literal
  return segment

/-- The loop over the pairs of a query. -/
def keyIdValues : List JsString → (values : List JsString) →
    Except String (List JsString)
  | [], values => .ok values
  | pair :: rest, values =>
    if pair.length = 0 then
      keyIdValues rest values
    else
      let eq := indexOf? (units "=") pair
      let rawName := eq.elim pair pair.take
      if rawName ≠ units "key_id" then
        keyIdValues rest values
      else
        let rawValue := eq.elim [] fun index => pair.drop (index + 1)
        if ENCODED_HASH.test rawValue then
          .error KEY_ERROR_MESSAGES.fragment
        else
          match decodeURIComponent rawValue with
          | none => .error KEY_ERROR_MESSAGES.malformed_escape
          | some value => keyIdValues rest (values ++ [value])

def rawKeyQueryValues (url : JsString) :
    Except String (List JsString) := do
  let split ← splitTarget url
  keyIdValues (splitOnUnit 0x26 split.query) []

end AgenId.Registry
