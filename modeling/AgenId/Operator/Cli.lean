import AgenId.Core.KeyMaterial
import AgenId.Ecma.JsonFile
import AgenId.Registry.Register

/-!
# The command line of an operator

`agenid init` makes a key on the operator's machine, signs a manifest of what
the operator attests, checks the proof before it claims anything, and writes
four files.  `agenid dns-token` draws the value of a TXT record.
-/

namespace AgenId.Operator.Cli

open AgenId.Core
open AgenId.Core.KeyMaterial
open AgenId.Ecma
open AgenId.Registry (Clock nowIso)
open AgenId.Validation
open AgenId.Validation.Schema

/-! ## Arguments -/

/-- What `parseArgs` reads from the command line, less the directory. -/
structure Values where
  domain : Option JsString
  operator : Option JsString
  name : Option JsString
  purpose : Option JsString
  contact : Option JsString
  discloses : Bool
  escalates : Bool

/-- How a run ends early: by `die(msg)`, or with an exception of the protocol,
of the validation library or of `toISOString`. -/
inductive Failure where
  | died (msg : JsString)
  | agenIdError (error : AgenIdError)
  | zodError (issues : List Issue)
  | rangeError

/-- `value ?? die(msg)`. -/
def orDie (value : Option JsString) (msg : String) :
    Except Failure JsString :=
  value.elim (.error (.died (units msg))) .ok

def PROOF_TTL_DAYS : ℤ := 90

/-! ## `dns-token` -/

/-- What `randomBytes(24)` returns. -/
abbrev TokenBytes := { bytes : List UInt8 // bytes.length = 24 }

/-- The token that is printed. -/
def dnsToken (random : TokenBytes) : JsString :=
  units "aid_" ++ b64uEncode random.val

/-- The host of the record that is printed. -/
def dnsHost (domain : Option JsString) : JsString :=
  units "_agenid." ++ domain.getD (units "<your-domain>")

/-- The value of the record that is printed. -/
def dnsValue (random : TokenBytes) : JsString :=
  units "agenid-site-verification=" ++ dnsToken random

/-! ## `init` -/

/-- What a run reads of its machine: the clock twice, the seed, and for each
identifier the clock and ten random bytes. -/
structure Draws where
  started : Clock
  expiryBase : Clock
  seed : SeedBytes
  agentNow : JsNumber
  agentRandom : Ulid.RandomBytes
  keyNow : JsNumber
  keyRandom : Ulid.RandomBytes

/-- The files that are written, and the identifiers and the digest that are
printed. -/
structure Written where
  manifest : List UInt8
  manifestProof : List UInt8
  keyDocument : List UInt8
  operatorPrivateKey : List UInt8
  agentId : JsString
  keyId : JsString
  manifestSha256 : JsString

/-- What the manifest is parsed from. -/
def manifestInput (values : Values)
    (agentId domain operator agentName purpose : JsString) : Json :=
  .record
    [("manifest_version", some (.literal "1.0")),
      ("agent_id", some (.string agentId)),
      ("identity", some (.record [("name", some (.string agentName))])),
      ("ownership", some (.record
        [("operator", some (.string operator)),
          ("operator_domain", some (.string domain)),
          ("contact", (values.contact.filter fun contact =>
            !contact.isEmpty).map .string)])),
      ("purpose", some (.record
        [("summary", some (.string purpose)),
          ("channels", some (.array [.literal "voice"]))])),
      ("disclosure", some (.record
        [("is_ai", some (.boolean true)),
          ("discloses_to_user", some (.boolean values.discloses)),
          ("human_escalation", some (.boolean values.escalates))]))]

section Init

variable [SigningPlatform]

omit [SigningPlatform] in
/-- `new Date(Date.now() + PROOF_TTL_DAYS * 86_400_000).toISOString()`. -/
def expiresIso (now : Clock) : Except Failure JsString :=
  (timeClip (now.time + PROOF_TTL_DAYS * 86400000)).elim (.error .rangeError)
    fun time => .ok (isoString time)

/-- `Manifest.parse(input)`. -/
def parseManifest (input : Json) : Except Failure Manifest :=
  (Manifest.schema.safeParse (some input)).mapError .zodError

/-- The program behind `agenid init`. -/
def init (values : Values) (draws : Draws) : Except Failure Written := do
  let domain ← orDie values.domain "--domain is required"
  let operator ← orDie values.operator "--operator is required"
  let agentName ← orDie values.name "--name is required"
  let purpose ← orDie values.purpose "--purpose is required"
  if isValidHostname domain = false then
    throw (.died (units "--domain \"" ++ domain ++
      units "\" is not a valid hostname"))
  let createdAt := nowIso draws.started
  let expiresAt ← expiresIso draws.expiryBase
  let kp ← (generateKeyPair draws.seed).mapError .agenIdError
  let agentId ← (generateAgentId draws.agentNow draws.agentRandom).mapError
    .agenIdError
  let keyId ← (generateKeyId draws.keyNow draws.keyRandom).mapError
    .agenIdError
  let keyDocument ← (makeKeyDocument keyId kp.publicKey .operator agentId
    createdAt).mapError .agenIdError
  let manifest ← parseManifest
    (manifestInput values agentId domain operator agentName purpose)
  let proof ← (signManifestProof (some manifest.toJson)
    ⟨kp.privateKey, some keyDocument.toJson⟩ createdAt expiresAt).mapError
      .agenIdError
  let check ← (verifyManifestProof (some proof.toJson)
    (some manifest.toJson) (some keyDocument.toJson) createdAt).mapError
      .agenIdError
  match check with
  | .fail code message =>
    throw (.died (units "self-verification failed (" ++ units code.text ++
      units "): " ++ message))
  | .ok _ _ => do
    let manifestSha256 ← (manifestDigestHex manifest).mapError .agenIdError
    return {
      manifest := jsonFile manifest.toJson
      manifestProof := jsonFile proof.toJson
      keyDocument := jsonFile keyDocument.toJson
      operatorPrivateKey := encodeUtf8 (b64uEncode kp.privateKey ++ [0x0A])
      agentId := agentId
      keyId := keyId
      manifestSha256 := manifestSha256 }

end Init

end AgenId.Operator.Cli
