import AgenId.Core.Schemas

/-!
# The document of an operator's keys

`KeysDocument` of `schemas.ts`: what an operator publishes on its own domain.
-/

namespace AgenId.Core

open AgenId.Ecma
open AgenId.Validation
open AgenId.Validation.Schema

variable [Platform]

def KEYS_SCHEMA_ID : String := "https://agenid.com/schemas/v1.1.1/keys.json"

structure KeysDocument where
  controllerDomain : JsString
  keys : List KeyDocument
  deriving DecidableEq

/-- The schema `KeysDocument`. -/
def KeysDocument.schema : Schema KeysDocument :=
  strictObject ["$schema", "controller_domain", "keys"] fun members =>
    field "$schema" (literal KEYS_SCHEMA_ID) members *>
      (KeysDocument.mk <$>
        field "controller_domain" Hostname members <*>
        field "keys" (array KeyDocument.schema 1 none) members)

end AgenId.Core
