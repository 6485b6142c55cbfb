import AgenId.Core.Schemas
import AgenId.Registry.RawKeyTarget

/-!
# Key discovery

`serve-key.ts`: from a key reference to the document that is served, or to the
error that is.
-/

namespace AgenId.Registry

open AgenId.Core
open AgenId.Ecma
open AgenId.Validation

/-- Where a reference was read from. -/
inductive KeyReferencePosition where
  | path
  | query
  deriving DecidableEq

/-- Whether a reference has the form that its position defines. -/
def KeyReferencePosition.isForm : KeyReferencePosition → JsString → Bool
  | .path, ref => isValidUlid ref
  | .query, ref => isValidKeyId ref

/-- The text of the error of a reference without that form. -/
def KeyReferencePosition.badForm : KeyReferencePosition → String
  | .path => KEY_ERROR_MESSAGES.bad_wire_form
  | .query => KEY_ERROR_MESSAGES.bad_logical_form

/-- The text of the error of no reference at all. -/
def KeyReferencePosition.missing : KeyReferencePosition → String
  | .path => KEY_ERROR_MESSAGES.bad_wire_form
  | .query => KEY_ERROR_MESSAGES.missing_key_id

/-- The error is always `invalid_key_id`; its text differs. -/
def canonicalKeyReference (ref : Option JsString)
    (position : KeyReferencePosition) : Except String JsString :=
  match ref with
  | none | some [] => .error position.missing
  | some ref =>
    if includesUnit 0x23 ref then
      .error KEY_ERROR_MESSAGES.fragment
    else if includesUnit 0x25 ref then
      .error KEY_ERROR_MESSAGES.double_encoded
    else if !position.isForm ref then
      .error position.badForm
    else
      match parseKeyReference ref with
      | .error _ => .error position.badForm
      | .ok keyId => .ok keyId

/-- The statuses of an answer without a document: 400, 404 and 503. -/
inductive KeyFailureStatus where
  | badRequest
  | notFound
  | unavailable
  deriving DecidableEq

def KeyFailureStatus.code : KeyFailureStatus → Nat
  | .badRequest => 400
  | .notFound => 404
  | .unavailable => 503

/-- The answer to a key request: a document, or a status with an error, its
text, and the key that was not found. -/
inductive KeyResolution where
  | found (document : KeyDocument)
  | failed (status : KeyFailureStatus) (error message : String)
    (keyId : Option JsString)
  deriving DecidableEq

def KeyResolution.status : KeyResolution → Nat
  | .found _ => 200
  | .failed status _ _ _ => status.code

/-- `KeyReader`: what `getKey` resolves to, `none` for `undefined`; or that it
throws. -/
abbrev KeyReader := JsString → Except Unit (Option Json)

section ServeKey

variable [Platform]

def resolveKeyDocument (reader : KeyReader) (ref : Option JsString)
    (position : KeyReferencePosition) : KeyResolution :=
  match canonicalKeyReference ref position with
  | .error message => .failed .badRequest "invalid_key_id" message none
  | .ok keyId =>
    match reader keyId with
    | .error _ => .failed .unavailable "registry_unavailable"
      KEY_ERROR_MESSAGES.registry_unavailable none
    | .ok none | .ok (some .null) => .failed .notFound "key_not_found"
      KEY_ERROR_MESSAGES.key_not_found (some keyId)
    | .ok (some raw) =>
      match KeyDocument.schema.safeParse (some raw) with
      | .error _ => .failed .unavailable "key_document_invalid"
        KEY_ERROR_MESSAGES.key_document_invalid none
      | .ok document =>
        if document.keyId ≠ keyId then
          .failed .unavailable "key_document_invalid"
            KEY_ERROR_MESSAGES.key_document_invalid none
        else
          .found document

def resolveKeyFromQuery (reader : KeyReader) (values : List JsString) :
    KeyResolution :=
  if 1 < values.length then
    .failed .badRequest "invalid_key_id" KEY_ERROR_MESSAGES.duplicate_key_id none
  else
    resolveKeyDocument reader values.head? .query

def invalidTarget (message : String) : KeyResolution :=
  .failed .badRequest "invalid_key_id" message none

def resolveKeyFromRawPath (reader : KeyReader) (rawUrl : JsString)
    (frameworkSegment : Option JsString) : KeyResolution :=
  match rawKeyPathSegment rawUrl with
  | .error message => invalidTarget message
  | .ok raw =>
    if frameworkSegment.any (· ≠ raw) then
      invalidTarget KEY_ERROR_MESSAGES.target_disagreement
    else
      resolveKeyDocument reader (some raw) .path

def resolveKeyFromRawQuery (reader : KeyReader) (rawUrl : JsString) :
    KeyResolution :=
  match rawKeyQueryValues rawUrl with
  | .error message => invalidTarget message
  | .ok values => resolveKeyFromQuery reader values

end ServeKey

end AgenId.Registry
