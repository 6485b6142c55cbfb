import AgenId.Core.Verified
import AgenId.Registry.Store

/-!
# The resolution envelope

`envelope.ts`: what a verifier is told about an agent.  The level is the
highest one of the assertions that verify at the clock against the stored
keys and the current manifest.  The envelope shows the documents in the form
in which the store returns them.
-/

namespace AgenId.Registry

open AgenId.Core
open AgenId.Ecma
open AgenId.Library

def LEVEL_RANK : VerificationLevel → Nat
  | .L1_REGISTERED => 1
  | .L2_DOMAIN_VERIFIED => 2
  | .L3_ORGANIZATION_VERIFIED => 3
  | .L4_DEPLOYMENT_VERIFIED => 4

/-- `check` of a view: `{ ok: true }` or `{ ok: false, code }`. -/
inductive Check where
  | ok
  | failed (code : String)
  deriving DecidableEq

/-- The check that a verification result is shown as. -/
def Check.ofResult : VerifyResult → Check
  | .ok _ _ => .ok
  | .fail code _ => .failed code.text

/-- `AssertionView`, with the assertion as it is shown. -/
structure ViewOf (Shown : Type) where
  assertion : Shown
  check : Check

/-- `ResolutionEnvelope`, but for its version and its instructions, which are
fixed texts, with its documents as they are shown. -/
structure EnvelopeOf (Manifest Proof Key Assertion : Type) where
  agentId : JsString
  status : AgentStatus
  registeredAt : JsString
  manifest : Manifest
  manifestDigest : JsString
  proof : Proof
  proofCheck : Check
  operatorKeyId : JsString
  operatorKeyDocument : Option Key
  registryPath : JsString
  wellKnownUrl : JsString
  level : VerificationLevel
  validAssertions : Nat
  totalAssertions : Nat
  assertions : List (ViewOf Assertion)

/-- The accumulators of the loop over the stored assertions. -/
structure TallyOf (Shown : Type) where
  views : List (ViewOf Shown)
  level : VerificationLevel
  valid : Nat

/-- One turn of the loop: a view, and a valid assertion counted. -/
def TallyOf.count {Shown : Type} (tally : TallyOf Shown) (shown : Shown)
    (level : VerificationLevel) (check : Check) : TallyOf Shown where
  views := tally.views ++ [⟨shown, check⟩]
  level :=
    if check = .ok ∧ LEVEL_RANK tally.level < LEVEL_RANK level then
      level
    else
      tally.level
  valid := if check = .ok then tally.valid + 1 else tally.valid

/-- How a store returns its documents, and how an envelope shows them. -/
structure ShownForm
    (Record Key Assertion ShownManifest ShownProof ShownAssertion : Type)
    extends StoredForm Record Key Assertion where
  manifest : Record → ShownManifest
  proof : Record → ShownProof
  shown : Assertion → ShownAssertion

/-- Documents that are returned and shown as they were given. -/
@[reducible]
def ShownForm.documents : ShownForm AgentRecord KeyDocument
    VerificationAssertion Manifest ManifestProof VerificationAssertion where
  toStoredForm := .documents
  manifest := AgentRecord.manifest
  proof := AgentRecord.proof
  shown assertion := assertion

section Envelope

variable [Platform]
  {Record Key Assertion ShownManifest ShownProof ShownAssertion : Type}

/-! ## Checks -/

section Checks

variable (form : StoredForm Record Key Assertion)

/-- The check of the operator's proof. -/
def StoredForm.checkProof (record : Record) (opKey : Option Key)
    (now : JsString) : Except AgenIdError Check :=
  match opKey with
  | none => .ok (.failed "key_unavailable")
  | some key => (verifyManifestProof (some (form.proofJson record))
      (some (form.manifestJson record)) (some (form.keyJson key))
      now).map Check.ofResult

/-- The check of an assertion against its stored key, and against a manifest
where one is given. -/
def StoredForm.checkAssertion (manifest : Option Json) (now : JsString)
    (assertion : Assertion) (auKey : Option Key) :
    Except AgenIdError Check :=
  match auKey with
  | none => .ok (.failed "key_unavailable")
  | some key => (verifyVerificationAssertion
      (some (form.assertionJson assertion)) (some (form.keyJson key)) now
      manifest).map Check.ofResult

end Checks

/-! ## The envelope -/

section Building

variable (form : ShownForm Record Key Assertion ShownManifest ShownProof
  ShownAssertion)

/-- The loop over the stored assertions. -/
def ShownForm.tallyAssertions (record : Record) (now : JsString) :
    List Assertion → TallyOf ShownAssertion →
      Program (StoreCall.ReplyIn Record Key Assertion)
        (Except AgenIdError (TallyOf ShownAssertion))
  | [], tally => return .ok tally
  | assertion :: rest, tally => do
    let auKey : Option Key ← call (.getKey (form.assertion assertion).keyId)
    match form.checkAssertion (some (form.manifestJson record)) now assertion
        auKey with
    | .error thrown => return .error thrown
    | .ok check =>
      ShownForm.tallyAssertions record now rest
        (tally.count (form.shown assertion) (form.assertion assertion).level
          check)

def ShownForm.buildEnvelope (record : Record) (now : JsString) :
    Program (StoreCall.ReplyIn Record Key Assertion)
      (Except AgenIdError
        (EnvelopeOf ShownManifest ShownProof Key ShownAssertion)) := do
  let read := form.record record
  let opKey : Option Key ← call (.getKey read.proof.keyId)
  match form.checkProof record opKey now with
  | .error thrown => return .error thrown
  | .ok proofCheck =>
    let stored : List Assertion ←
      call (.listAssertionsForSubject read.agentId)
    match ← form.tallyAssertions record now stored
        ⟨[], .L1_REGISTERED, 0⟩ with
    | .error thrown => return .error thrown
    | .ok tally =>
      return do
        let registryPath ← keyResolverPath read.proof.keyId
        let wellKnownUrl ←
          wellKnownKeysUrl read.manifest.ownership.operatorDomain
        return {
          agentId := read.agentId
          status := read.status
          registeredAt := read.registeredAt
          manifest := form.manifest record
          manifestDigest := read.manifestDigest
          proof := form.proof record
          proofCheck := proofCheck
          operatorKeyId := read.proof.keyId
          operatorKeyDocument := opKey
          registryPath := registryPath
          wellKnownUrl := wellKnownUrl
          level := tally.level
          validAssertions := tally.valid
          totalAssertions := stored.length
          assertions := tally.views }

end Building

/-! ## On a store of documents -/

abbrev AssertionView := ViewOf VerificationAssertion

abbrev ResolutionEnvelope :=
  EnvelopeOf Manifest ManifestProof KeyDocument VerificationAssertion

abbrev Tally := TallyOf VerificationAssertion

/-- One turn of the loop: a view, and a valid assertion counted. -/
def Tally.add (tally : Tally) (assertion : VerificationAssertion)
    (check : Check) : Tally :=
  tally.count assertion assertion.level check

def checkProof (record : AgentRecord) (opKey : Option KeyDocument)
    (now : JsString) : Except AgenIdError Check :=
  StoredForm.documents.checkProof record opKey now

/-- The check of an assertion against its stored key and the manifest of the
record. -/
def checkAssertion (record : AgentRecord) (now : JsString)
    (assertion : VerificationAssertion) (auKey : Option KeyDocument) :
    Except AgenIdError Check :=
  StoredForm.documents.checkAssertion (some record.manifest.toJson) now
    assertion auKey

def tallyAssertions (record : AgentRecord) (now : JsString)
    (assertions : List VerificationAssertion) (tally : Tally) :
    StoreProgram (Except AgenIdError Tally) :=
  ShownForm.documents.tallyAssertions record now assertions tally

def buildEnvelope (record : AgentRecord) (now : JsString) :
    StoreProgram (Except AgenIdError ResolutionEnvelope) :=
  ShownForm.documents.buildEnvelope record now

end Envelope

end AgenId.Registry
