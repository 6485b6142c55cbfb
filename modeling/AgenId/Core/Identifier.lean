import AgenId.Core.Errors
import AgenId.Ecma.Uri

/-!
# Identifiers

The identifier grammar of the protocol and the two wire forms of a key
identifier, after `identifier.ts`.
-/

namespace AgenId.Core

open AgenId.Ecma

/-! ## Grammar -/

/-- `[0-9A-HJKMNP-TV-Z]`, the alphabet of Crockford base 32. -/
def isCrockford (unit : UInt16) : Bool :=
  within '0' '9' unit || within 'A' 'H' unit || within 'J' 'K' unit ||
    within 'M' 'N' unit || within 'P' 'T' unit || within 'V' 'Z' unit

/-- The first code unit of a ULID, which keeps its time below `2 ^ 48`. -/
def isUlidLead (unit : UInt16) : Bool :=
  within '0' '7' unit

/-- An identifier made of a namespace and a ULID. -/
def ulidRegex (namespaceText : String) : Regex :=
  .whole (literally namespaceText ++
    [.one isUlidLead, .exactly isCrockford 25])

def ULID_REGEX : Regex := ulidRegex ""

def AGENT_ID_REGEX : Regex := ulidRegex "agenid:"

def KEY_ID_REGEX : Regex := ulidRegex "agenid:key:"

def ASSERTION_ID_REGEX : Regex := ulidRegex "assertion:"

def PRINCIPAL_ID_REGEX : Regex := ulidRegex "agenid:principal:"

def GRANT_ID_REGEX : Regex := ulidRegex "grant:"

def REVOCATION_ID_REGEX : Regex := ulidRegex "revocation:"

/-- `[a-z0-9]`. -/
def isLowerAlphanumeric (unit : UInt16) : Bool :=
  within 'a' 'z' unit || within '0' '9' unit

def AUTHORITY_ID_REGEX : Regex :=
  .whole (literally "agenid:authority:" ++
    [.one isLowerAlphanumeric,
      .run (fun unit => isLowerAlphanumeric unit || isOneOf ['-'] unit)
        0 (some 62)])

/-- `[A-Za-z0-9_-]`, which is also the alphabet of base64url. -/
def isBase64Url (unit : UInt16) : Bool :=
  isAlphanumeric unit || isOneOf ['_', '-'] unit

def DEPLOYMENT_ID_REGEX : Regex :=
  .whole (literally "dep_" ++ [.run isBase64Url 1 (some 64)])

def isValidUlid (value : JsString) : Bool := ULID_REGEX.test value

def isValidAgentId (value : JsString) : Bool := AGENT_ID_REGEX.test value

def isValidKeyId (value : JsString) : Bool := KEY_ID_REGEX.test value

/-- One label of a host name, which no hyphen begins or ends. -/
def isHostLabel (label : JsString) : Bool :=
  decide (1 ≤ label.length ∧ label.length ≤ 63) &&
    (label.all fun unit => isAlphanumeric unit || isOneOf ['-'] unit) &&
    decide (label.head? ≠ some 0x2D ∧ label.getLast? ≠ some 0x2D)

/-- `isValidHostname(value)`: at least two labels in at most 253 code units. -/
def isValidHostname (value : JsString) : Bool :=
  decide (1 ≤ value.length ∧ value.length ≤ 253) &&
    decide (2 ≤ (splitOnUnit 0x2E value).length) &&
    (splitOnUnit 0x2E value).all isHostLabel

/-! ## Key identifiers on the wire -/

/-- Whether a text contains a code unit. -/
def includesUnit (unit : UInt16) (text : JsString) : Bool :=
  text.contains unit

def assertValidKeyId (value : JsString) : Except AgenIdError Unit :=
  if includesUnit 0x23 value then
    .error (.invalidKeyIdError (units
        "key_id must not contain a URI fragment ('#'): fragments are not " ++
      units "sent to servers and cannot be resolved (§0.A)"))
  else if !isValidKeyId value then
    .error (.invalidKeyIdError
      (units "Not a valid key identifier: " ++ quote value))
  else
    .ok ()

def keyIdToWire (keyId : JsString) : Except AgenIdError JsString := do
  assertValidKeyId keyId
  return keyId.drop (units "agenid:key:").length

def keyIdFromWire (wire : JsString) : Except AgenIdError JsString :=
  if !isValidUlid wire then
    .error (.invalidKeyIdError
      (units "Wire key identifier must be a bare ULID, got " ++ quote wire))
  else
    .ok (units "agenid:key:" ++ wire)

def keyResolverPath (keyId : JsString) : Except AgenIdError JsString := do
  let wire ← keyIdToWire keyId
  return units "/v1/keys/" ++ wire

/-- `keyResolverQuery(keyId)`.  A valid key identifier is all ASCII, so that
`encodeURIComponent` does not throw. -/
def keyResolverQuery (keyId : JsString) : Except AgenIdError JsString := do
  assertValidKeyId keyId
  return units "/v1/keys?key_id=" ++ (encodeURIComponent keyId).getD []

def parseKeyReference (input : JsString) : Except AgenIdError JsString :=
  if input.length = 0 then
    .error (.invalidKeyIdError (units "empty key reference"))
  else
    match decodeURIComponent input with
    | none =>
      .error (.invalidKeyIdError
        (units "key reference is not valid percent-encoding"))
    | some decoded =>
      if includesUnit 0x23 decoded || includesUnit 0x23 input then
        .error (.invalidKeyIdError
          (units "key reference must not contain a URI fragment ('#')"))
      else if isValidUlid decoded then
        keyIdFromWire decoded
      else if isValidKeyId decoded then
        .ok decoded
      else
        .error (.invalidKeyIdError
          (units "Unresolvable key reference: " ++ quote input))

def wellKnownKeysUrl (domain : JsString) : Except AgenIdError JsString :=
  if !isValidHostname domain then
    .error (.invalidIdentifierError
      (units "Not a valid hostname: " ++ quote domain))
  else
    .ok (units "https://" ++ domain ++ units "/.well-known/agenid/keys.json")

end AgenId.Core
