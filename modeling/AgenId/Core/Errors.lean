import AgenId.Validation.Schema

/-!
# Protocol errors

The errors of `errors.ts`: input and programming errors.  The outcome of a
verification is a value and never one of these.
-/

namespace AgenId.Core

open AgenId.Ecma
open AgenId.Validation

/-- `AgenIdError` and its subclasses. -/
inductive AgenIdError where
  | agenIdError (code : String) (message : JsString)
  | invalidNumberDomainError (message : JsString)
  | unserializableValueError (message : JsString)
  | invalidIdentifierError (message : JsString)
  | invalidKeyIdError (message : JsString)
  | keyRoleError (message : JsString)
  | schemaValidationError (message : JsString) (issues : List Issue)
  deriving DecidableEq

/-- `error.code`. -/
def AgenIdError.code : AgenIdError → String
  | .agenIdError code _ => code
  | .invalidNumberDomainError _ => "invalid_number_domain"
  | .unserializableValueError _ => "unserializable_value"
  | .invalidIdentifierError _ => "invalid_identifier"
  | .invalidKeyIdError _ => "invalid_key_id"
  | .keyRoleError _ => "key_role_mismatch"
  | .schemaValidationError _ _ => "schema_validation_failed"

/-- `error.message`. -/
def AgenIdError.message : AgenIdError → JsString
  | .agenIdError _ message
  | .invalidNumberDomainError message
  | .unserializableValueError message
  | .invalidIdentifierError message
  | .invalidKeyIdError message
  | .keyRoleError message
  | .schemaValidationError message _ => message

end AgenId.Core
