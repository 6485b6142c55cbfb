import AgenId.Registry.SigningInput
import AgenId.Web.Issuance

/-!
# Signing logs

What the holders of keys have made with the signers of the protocol and of
the browser.  A document is accepted over its canonical bytes; when no text in
what was sent is a signature of bytes that the holder of its key has not
signed, the holder has made that very document, but for the spelling of its
signature.
-/

namespace AgenId.Web

open AgenId.Core
open AgenId.Ecma
open AgenId.Library
open AgenId.Registry
open AgenId.Validation
open AgenId.Validation.Schema

/-! ## Shaped objects -/

/-- An object of the domain that names its kind. -/
structure Shaped (kind : SignedKind) (object : Json) : Prop where
  wellFormed : WellFormed object
  inDomain : InDomain object
  members : ∃ members, object = .object members ∧
    members.lookup (units "$schema") = kind.schemaId.map .literal

/-- Shaped objects with one signing input are of one kind and agree. -/
theorem Shaped.agree
    {firstKind secondKind : SignedKind} {first second : Json}
    (isFirst : Shaped firstKind first) (isSecond : Shaped secondKind second)
    (sameBytes : signingBytes first = signingBytes second) :
    firstKind = secondKind ∧ AgreeExcept "signature" first second := by
  have same := (signingBytes_eq_iff isFirst.wellFormed isFirst.inDomain
    isSecond.wellFormed isSecond.inDomain).mp sameBytes
  obtain ⟨firstMembers, rfl, firstSchema⟩ := isFirst.members
  obtain ⟨secondMembers, rfl, secondSchema⟩ := isSecond.members
  have agree : AgreeExcept "signature" (.object firstMembers)
      (.object secondMembers) := sameValue_omitMember_iff.mp same
  refine ⟨?_, agree⟩
  have related := agree (units "$schema") (by decide)
  simp only [Json.get?] at related
  rw [secondSchema] at related
  have sameId := eq_of_rel_literal related
  rw [firstSchema] at sameId
  exact SignedKind.eq_of_schemaId sameId

theorem shaped_of_accepts
    [Platform] {kind : SignedKind} {object : Json}
    (wellFormed : WellFormed object) (accepted : kind.Accepts object) :
    Shaped kind object :=
  let ⟨inDomain, members⟩ := accepted.object wellFormed
  ⟨wellFormed, inDomain, members⟩

/-! ## Texts inside values -/

theorem within_trans
    {inner middle outer : Json} (first : Within inner middle)
    (second : Within middle outer) : Within inner outer := by
  induction second with
  | itself => exact first
  | item isItem _ inductionHypothesis =>
      exact .item isItem inductionHypothesis
  | member isMember _ inductionHypothesis =>
      exact .member isMember inductionHypothesis

theorem within_of_get
    {name : JsString} {value found : Json}
    (isFound : value.get? name = some found) : Within found value := by
  cases value with
  | object members =>
      exact .member (mem_of_lookup isFound) .itself
  | null | boolean | number | string | array => cases isFound

theorem wellFormed_of_get
    {name : JsString} {value found : Json} (wellFormed : WellFormed value)
    (isFound : value.get? name = some found) : WellFormed found := by
  cases value with
  | object members =>
      exact (wellFormed_object.mp wellFormed).2 _ (mem_of_lookup isFound)
  | null | boolean | number | string | array => cases isFound

/-- A text that a value has under a name is inside whatever is the same
value. -/
theorem within_text
    {left right : Json} (same : SameValue left right) {name text : JsString}
    (isText : right.get? name = some (.string text)) :
    Within (.string text) left := by
  cases left with
  | object members =>
      cases right with
      | object others =>
          have related := sameValue_object_iff.mp same name
          simp only [Json.get?] at isText
          rw [isText] at related
          cases isFound : members.lookup name with
          | none =>
              rw [isFound] at related
              cases related
          | some found =>
              rw [isFound] at related
              cases related with
              | some sameText =>
                  cases sameText
                  exact .member (mem_of_lookup isFound) .itself
      | null | boolean | number | string | array => cases isText
  | null | boolean | number | string | array =>
      cases same
      cases isText

/-! ## What is made -/

section Making

variable [SigningPlatform]

/-- What the signers make with the private key of a seed. -/
inductive Makes (seed : List UInt8) : SignedKind → Json → Prop
  | proof {manifestInput document : Option Json}
      {createdAt expiresAt : JsString} {proof : ManifestProof}
      (signs : signManifestProof manifestInput ⟨seed, document⟩ createdAt
        expiresAt = .ok proof) :
      Makes seed .manifestProof proof.toJson
  | assertion {payloadInput document : Option Json}
      {assertion : VerificationAssertion}
      (signs : signVerificationAssertion payloadInput ⟨seed, document⟩ =
        .ok assertion) :
      Makes seed .verificationAssertion assertion.toJson
  | grant {payloadInput document : Option Json} {grant : AuthorizationGrant}
      (signs : signAuthorizationGrant payloadInput ⟨seed, document⟩ =
        .ok grant) :
      Makes seed .authorizationGrant grant.toJson
  | revocation {payloadInput document : Option Json}
      {revocation : Revocation}
      (signs : signRevocation payloadInput ⟨seed, document⟩ =
        .ok revocation) :
      Makes seed .revocation revocation.toJson
  | agent {keyPair : ClientCrypto.ClientKeyPair}
      {agentName : JsString} {input : ClientCrypto.ManifestInput}
      {now : Option Int} {agentDraw keyDraw : ClientCrypto.UlidDraw}
      {signed : ClientCrypto.SignedAgent}
      (isSeed : keyPair.privateKey = seed)
      (signs : ClientCrypto.signAgent keyPair agentName input now agentDraw
        keyDraw = .ok signed) :
      Makes seed .manifestProof signed.proof
  | consent {keyPair : ClientCrypto.ClientKeyPair}
      {agentId keyId : JsString} {listed : Bool} {now : Option Int}
      {consent : Json}
      (isSeed : keyPair.privateKey = seed)
      (signs : ClientCrypto.signDirectoryConsent keyPair agentId keyId listed
        now = .ok consent) :
      Makes seed .directoryConsent consent

/-- What the seed of a signed object has signed: the canonical bytes of the
object without its signature. -/
structure SignedBy (seed : List UInt8) (object : Json) : Prop where
  seedLength : seed.length = 32
  signature : object.get? (units "signature") = some (.string (b64uEncode
    (SigningPlatform.ed25519Sign seed (signingBytes object))))

/-- What is read back of a signed payload, with its signature, is signed by
the seed. -/
theorem signPayload_signedBy
    {seed : List UInt8} {payload signed : Json} (domain : InDomain payload)
    (signs : signPayload seed payload = .ok signed) :
    ∃ signature, signed = withSignature signature payload ∧
      ∀ document, WellFormed signed → WellFormed document →
        InDomain document → SameValue signed document →
        document.get? (units "signature") = some (.string signature) →
          SignedBy seed document := by
  obtain ⟨seedLength, rfl⟩ := (signPayload_eq_ok_iff domain).mp signs
  refine ⟨_, rfl, ?_⟩
  intro document signedWellFormed wellFormed inDomain same isSignature
  have sameBytes : signingBytes document = signingBytes payload := by
    rw [← same.signingBytes_eq signedWellFormed wellFormed inDomain,
      signingBytes, omitMember_withSignature]
    rfl
  refine ⟨seedLength, ?_⟩
  rw [isSignature, sameBytes]

theorem signManifestProof_makes
    {manifestInput : Option Json} {key : SigningKey}
    {createdAt expiresAt : JsString} {proof : ManifestProof}
    (signs :
      signManifestProof manifestInput key createdAt expiresAt = .ok proof) :
    Shaped .manifestProof proof.toJson ∧
      SignedBy key.privateKey proof.toJson := by
  simp only [signManifestProof, manifestDigestHex_eq, except_ok_bind,
    except_bind_eq_ok_iff, parseOrThrow_eq_ok_iff, throw_guard_eq_ok_iff]
    at signs
  obtain ⟨_, -, _, -, -, -, payload, -, signed, isSigned, accepted⟩ := signs
  obtain ⟨signature, rfl, signedBy⟩ := signPayload_signedBy
    (inDomain_ManifestProofPayload payload) isSigned
  rw [withSignature_proof] at accepted signedBy
  have wellFormed := wellFormed_ManifestProof (payload.signed signature)
  have same := faithful_ManifestProof.encoded wellFormed accepted
  have sameSignature : signature = proof.signature :=
    same.text "signature" rfl rfl
  refine ⟨⟨wellFormed_ManifestProof proof, inDomain_ManifestProof proof,
    _, rfl, rfl⟩, ?_⟩
  exact signedBy _ wellFormed (wellFormed_ManifestProof proof)
    (inDomain_ManifestProof proof) same (sameSignature ▸ rfl)

theorem signVerificationAssertion_makes
    {payloadInput : Option Json} {key : SigningKey}
    {assertion : VerificationAssertion}
    (signs : signVerificationAssertion payloadInput key = .ok assertion) :
    Shaped .verificationAssertion assertion.toJson ∧
      SignedBy key.privateKey assertion.toJson := by
  simp only [signVerificationAssertion, except_bind_eq_ok_iff,
    parseOrThrow_eq_ok_iff, throw_guard_eq_ok_iff] at signs
  obtain ⟨payload, -, _, -, -, -, -, signed, isSigned, accepted⟩ := signs
  obtain ⟨signature, rfl, signedBy⟩ := signPayload_signedBy
    (inDomain_VerificationAssertionPayload payload) isSigned
  rw [withSignature_assertion] at accepted signedBy
  have wellFormed :=
    wellFormed_VerificationAssertion (payload.signed signature)
  have same := faithful_VerificationAssertion.encoded wellFormed accepted
  have sameSignature : signature = assertion.signature :=
    same.text "signature" rfl rfl
  refine ⟨⟨wellFormed_VerificationAssertion assertion,
    inDomain_VerificationAssertion assertion, _, rfl, rfl⟩, ?_⟩
  exact signedBy _ wellFormed (wellFormed_VerificationAssertion assertion)
    (inDomain_VerificationAssertion assertion) same (sameSignature ▸ rfl)

theorem signAuthorizationGrant_makes
    {payloadInput : Option Json} {key : SigningKey}
    {grant : AuthorizationGrant}
    (signs : signAuthorizationGrant payloadInput key = .ok grant) :
    Shaped .authorizationGrant grant.toJson ∧
      SignedBy key.privateKey grant.toJson := by
  simp only [signAuthorizationGrant, except_bind_eq_ok_iff,
    parseOrThrow_eq_ok_iff, throw_guard_eq_ok_iff] at signs
  obtain ⟨payload, -, _, -, -, -, -, signed, isSigned, accepted⟩ := signs
  obtain ⟨signature, rfl, signedBy⟩ := signPayload_signedBy
    (inDomain_AuthorizationGrantPayload payload) isSigned
  rw [withSignature_grant] at accepted signedBy
  have wellFormed := wellFormed_AuthorizationGrant (payload.signed signature)
  have same := faithful_AuthorizationGrant.encoded wellFormed accepted
  have sameSignature : signature = grant.signature :=
    same.text "signature" (AuthorizationGrant.get?_signature _)
      (AuthorizationGrant.get?_signature _)
  refine ⟨⟨wellFormed_AuthorizationGrant grant,
    inDomain_AuthorizationGrant grant, _, rfl, rfl⟩, ?_⟩
  exact signedBy _ wellFormed (wellFormed_AuthorizationGrant grant)
    (inDomain_AuthorizationGrant grant) same
    (sameSignature ▸ AuthorizationGrant.get?_signature grant)

theorem signRevocation_makes
    {payloadInput : Option Json} {key : SigningKey} {revocation : Revocation}
    (signs : signRevocation payloadInput key = .ok revocation) :
    Shaped .revocation revocation.toJson ∧
      SignedBy key.privateKey revocation.toJson := by
  simp only [signRevocation, except_bind_eq_ok_iff, parseOrThrow_eq_ok_iff,
    throw_guard_eq_ok_iff] at signs
  obtain ⟨payload, -, _, -, -, -, signed, isSigned, accepted⟩ := signs
  obtain ⟨signature, rfl, signedBy⟩ := signPayload_signedBy
    (inDomain_RevocationPayload payload) isSigned
  rw [withSignature_revocation] at accepted signedBy
  have wellFormed := wellFormed_Revocation (payload.signed signature)
  have same := faithful_Revocation.encoded wellFormed accepted
  have sameSignature : signature = revocation.signature :=
    same.text "signature" rfl rfl
  refine ⟨⟨wellFormed_Revocation revocation,
    inDomain_Revocation revocation, _, rfl, rfl⟩, ?_⟩
  exact signedBy _ wellFormed (wellFormed_Revocation revocation)
    (inDomain_Revocation revocation) same (sameSignature ▸ rfl)

/-! ## What the browser makes -/

/-- What the browser signs of a payload that has no signature. -/
theorem clientSignature_signedBy
    {keyPair : ClientCrypto.ClientKeyPair} {payload : Json}
    {payloadBytes signature : List UInt8} (domain : InDomain payload)
    (isUnsigned : omitMember "signature" payload = payload)
    (isSignature : (withSignature (ClientCrypto.b64uEncode signature)
      payload).get? (units "signature") =
        some (.string (ClientCrypto.b64uEncode signature)))
    (isBytes : ClientCrypto.canonicalizeToBytes (.ofJson payload) =
      .ok payloadBytes)
    (signs : ClientCrypto.edSign payloadBytes keyPair.privateKey =
      .ok signature) :
    SignedBy keyPair.privateKey
      (withSignature (ClientCrypto.b64uEncode signature) payload) := by
  rw [canonicalizeToBytes_client domain] at isBytes
  obtain rfl := Except.ok.inj isBytes
  unfold ClientCrypto.edSign at signs
  split at signs
  · cases signs
  rename_i seedLength
  obtain rfl := Except.ok.inj signs
  refine ⟨not_not.mp seedLength, ?_⟩
  rw [isSignature, b64uEncode_eq, signingBytes,
    omitMember_withSignature, isUnsigned]

theorem signAgent_makes
    {keyPair : ClientCrypto.ClientKeyPair} {agentName : JsString}
    {input : ClientCrypto.ManifestInput} {now : Option Int}
    {agentDraw keyDraw : ClientCrypto.UlidDraw}
    {signed : ClientCrypto.SignedAgent}
    (signs : ClientCrypto.signAgent keyPair agentName input now agentDraw
      keyDraw = .ok signed) :
    Shaped .manifestProof signed.proof ∧
      SignedBy keyPair.privateKey signed.proof := by
  simp only [ClientCrypto.signAgent, except_bind_eq_ok_iff, pure_eq_ok_iff]
    at signs
  obtain ⟨createdAt, -, expiresAt, -, manifestBytes, -, _, isBytes,
    signature, isSignature, rfl⟩ := signs
  let payload : ManifestProofPayload := {
    agentId := units "agenid:" ++ ClientCrypto.generateUlid agentDraw
    manifestDigest :=
      ClientCrypto.hexEncode (Platform.sha256 manifestBytes)
    keyId := units "agenid:key:" ++ ClientCrypto.generateUlid keyDraw
    createdAt := createdAt
    expiresAt := expiresAt }
  have signedBy := @clientSignature_signedBy _ keyPair payload.toJson _ _
    (inDomain_ManifestProofPayload payload) rfl rfl isBytes isSignature
  rw [withSignature_proof] at signedBy
  let proof := payload.signed (ClientCrypto.b64uEncode signature)
  exact ⟨⟨wellFormed_ManifestProof proof, inDomain_ManifestProof proof, _,
    rfl, rfl⟩, signedBy⟩

theorem signDirectoryConsent_makes
    {keyPair : ClientCrypto.ClientKeyPair} {agentId keyId : JsString}
    {listed : Bool} {now : Option Int} {consent : Json}
    (signs : ClientCrypto.signDirectoryConsent keyPair agentId keyId listed
      now = .ok consent) :
    Shaped .directoryConsent consent ∧
      SignedBy keyPair.privateKey consent := by
  simp only [ClientCrypto.signDirectoryConsent, except_bind_eq_ok_iff,
    pure_eq_ok_iff] at signs
  obtain ⟨createdAt, -, _, isBytes, signature, isSignature, rfl⟩ := signs
  have signedBy := clientSignature_signedBy
    (by simp [ClientCrypto.consentPayload]) rfl rfl isBytes isSignature
  let made : DirectoryConsent := {
    object := []
    agentId := agentId
    keyId := keyId
    listed := listed
    createdAt := createdAt
    signature := ClientCrypto.b64uEncode signature }
  have isMade : withSignature (ClientCrypto.b64uEncode signature)
      (ClientCrypto.consentPayload agentId keyId listed createdAt) =
        made.toJson := rfl
  rw [isMade] at signedBy ⊢
  refine ⟨⟨?_, inDomain_DirectoryConsent made, _, rfl, rfl⟩, signedBy⟩
  apply wellFormed_record (of_decide_eq_true rfl)
  simp

/-- Whatever a signer makes is shaped as its kind, and is signed by the
seed. -/
theorem Makes.signed
    {seed : List UInt8} {kind : SignedKind} {object : Json}
    (makes : Makes seed kind object) :
    Shaped kind object ∧ SignedBy seed object := by
  cases makes with
  | proof signs => exact signManifestProof_makes signs
  | assertion signs => exact signVerificationAssertion_makes signs
  | grant signs => exact signAuthorizationGrant_makes signs
  | revocation signs => exact signRevocation_makes signs
  | agent isSeed signs => exact isSeed ▸ signAgent_makes signs
  | consent isSeed signs => exact isSeed ▸ signDirectoryConsent_makes signs

/-! ## Logs -/

/-- One signing with the private key of a public key. -/
structure Act where
  publicKey : List UInt8
  kind : SignedKind
  object : Json

/-- An act of one of the signers. -/
def Act.Made (act : Act) : Prop :=
  ∃ seed, act.publicKey = SigningPlatform.ed25519PublicKey seed ∧
    Makes seed act.kind act.object

end Making

section Unforged

variable [Platform]

/-- No text in a value is a signature, under a key that is held, of bytes that
the holder has not signed. -/
def Unforged (held : List UInt8 → Prop) (acts : List Act) (value : Json) :
    Prop :=
  ∀ text, Within (.string text) value → ∀ publicKey, held publicKey →
    ∀ message, verifyBytes publicKey message (b64uDecode text) = true →
      ∃ act ∈ acts, act.publicKey = publicKey ∧
        signingBytes act.object = message

/-- A body that may be sent: it was read from JSON, and no text in it is a
signature that a held key has not made. -/
def Sendable (held : List UInt8 → Prop) (acts : List Act)
    (body : Option Json) : Prop :=
  ∀ value ∈ body, WellFormed value ∧ Unforged held acts value

/-- The holder of a key has made an object of a kind, but for the text of its
signature. -/
def Authored (acts : List Act) (publicKey : List UInt8) (kind : SignedKind)
    (object : Json) : Prop :=
  ∃ act ∈ acts, act.publicKey = publicKey ∧ act.kind = kind ∧
    AgreeExcept "signature" act.object object

/-- An object with a signature was made by the holder of every held key under
which the signature verifies. -/
def Genuine (held : List UInt8 → Prop) (acts : List Act) (kind : SignedKind)
    (object : Json) (signature : JsString) : Prop :=
  ∀ publicKey, held publicKey →
    verifyBytes publicKey (signingBytes object) (b64uDecode signature) =
      true → Authored acts publicKey kind object

variable {held : List UInt8 → Prop} {acts later : List Act}

omit [Platform] in
theorem Authored.mono
    {publicKey : List UInt8} {kind : SignedKind} {object : Json}
    (authored : Authored acts publicKey kind object)
    (grows : acts ⊆ later) : Authored later publicKey kind object := by
  obtain ⟨act, isAct, isKey, isKind, agree⟩ := authored
  exact ⟨act, grows isAct, isKey, isKind, agree⟩

theorem Genuine.mono
    {kind : SignedKind} {object : Json} {signature : JsString}
    (genuine : Genuine held acts kind object signature)
    (grows : acts ⊆ later) : Genuine held later kind object signature := by
  intro publicKey isHeld verifies
  exact (genuine publicKey isHeld verifies).mono grows

theorem Unforged.mono
    {value : Json} (unforged : Unforged held acts value)
    (grows : acts ⊆ later) : Unforged held later value := by
  intro text within publicKey isHeld message verifies
  obtain ⟨act, isAct, signed⟩ :=
    unforged text within publicKey isHeld message verifies
  exact ⟨act, grows isAct, signed⟩

theorem Sendable.mono
    {body : Option Json} (sendable : Sendable held acts body)
    (grows : acts ⊆ later) : Sendable held later body := by
  intro value isBody
  obtain ⟨wellFormed, unforged⟩ := sendable value isBody
  exact ⟨wellFormed, unforged.mono grows⟩

end Unforged

/-- An object of a kind whose signature was sent unforged is genuine, when
every act of the log is one of the signers. -/
theorem genuine_of_unforged
    [SigningPlatform] {held : List UInt8 → Prop} {acts : List Act}
    (made : ∀ act ∈ acts, act.Made) {value : Json}
    (unforged : Unforged held acts value) {kind : SignedKind} {object : Json}
    (shaped : Shaped kind object) {signature : JsString}
    (within : Within (.string signature) value) :
    Genuine held acts kind object signature := by
  intro publicKey isHeld verifies
  obtain ⟨act, isAct, isKey, sameBytes⟩ :=
    unforged signature within publicKey isHeld _ verifies
  obtain ⟨seed, -, makes⟩ := made act isAct
  obtain ⟨sameKind, agree⟩ := makes.signed.1.agree shaped sameBytes
  exact ⟨act, isAct, isKey, sameKind, agree⟩

/-! ## A holder of one signature -/

/-- The runtime on a holder that signs one object: its key verifies the signing
input of the object and no other message. -/
@[reducible]
def holderPlatform (object : Json) (publicKey signature : List UInt8) :
    SigningPlatform :=
  { samplePlatform with
    ed25519Verify := fun _ message _ =>
      decide (message = signingBytes object)
    ed25519PublicKey := fun _ => publicKey
    ed25519Sign := fun _ _ => signature }

theorem verifyBytes_holder
    {object : Json} {publicKey signature : List UInt8}
    {key message text : List UInt8} :
    letI := holderPlatform object publicKey signature
    verifyBytes key message text = true ↔
      text.length = 64 ∧ key.length = 32 ∧ message = signingBytes object := by
  let := holderPlatform object publicKey signature
  unfold verifyBytes
  split
  · rename_i wrongLength
    simp [wrongLength]
  · split
    · rename_i wrongLength
      simp [wrongLength]
    · rename_i textLength keyLength
      rw [not_not] at textLength keyLength
      exact ⟨fun verifies => ⟨textLength, keyLength,
        of_decide_eq_true verifies⟩,
        fun isMessage => decide_eq_true isMessage.2.2⟩

/-- Anything may be sent once the holder has signed the object. -/
theorem sendable_holder
    {object : Json} {publicKey signature : List UInt8} {acts : List Act}
    {act : Act} (isAct : act ∈ acts) (isKey : act.publicKey = publicKey)
    (isObject : act.object = object) {body : Json}
    (wellFormed : WellFormed body) :
    letI := holderPlatform object publicKey signature
    Sendable (· = publicKey) acts (some body) := by
  let := holderPlatform object publicKey signature
  intro value isBody
  obtain rfl := Option.some.inj isBody
  refine ⟨wellFormed, ?_⟩
  intro text _ key isHeld message verifies
  obtain ⟨-, -, rfl⟩ := verifyBytes_holder.mp verifies
  exact ⟨act, isAct, isKey.trans isHeld.symm, congrArg _ isObject⟩

end AgenId.Web
