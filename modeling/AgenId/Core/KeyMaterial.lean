import AgenId.Core.Signed
import AgenId.Core.Ulid

/-!
# Key material

How an operator comes to a key: the pair from a seed, the identifiers that are
drawn beside it, and the key document that publishes it.
-/

namespace AgenId.Core.KeyMaterial

open AgenId.Ecma
open AgenId.Validation
open AgenId.Validation.Schema

/-! ## Identifiers -/

/-- `generateAgentId()`, for the clock and the random bytes that are read. -/
def generateAgentId (now : JsNumber) (rnd : Ulid.RandomBytes) :
    Except AgenIdError JsString := do
  let ulid ← Ulid.generateUlid now rnd
  return units "agenid:" ++ ulid

/-- `generateKeyId()`. -/
def generateKeyId (now : JsNumber) (rnd : Ulid.RandomBytes) :
    Except AgenIdError JsString := do
  let ulid ← Ulid.generateUlid now rnd
  return units "agenid:key:" ++ ulid

theorem generateUlid_valid
    {now : JsNumber} {n : ℕ} (denotes : Ulid.Denotes now n)
    (small : n < 2 ^ 48) (rnd : Ulid.RandomBytes) :
    ∃ ulid, Ulid.generateUlid now rnd = .ok ulid ∧
      isValidUlid ulid = true := by
  obtain ⟨halves⟩ := Ulid.halves_of_small small rnd
  exact ⟨_, Ulid.generateUlid_of_denotes denotes small rnd,
    halves.isValidUlid small⟩

theorem generateAgentId_valid
    {now : JsNumber} {n : ℕ} (denotes : Ulid.Denotes now n)
    (small : n < 2 ^ 48) (rnd : Ulid.RandomBytes) :
    ∃ agentId, generateAgentId now rnd = .ok agentId ∧
      isValidAgentId agentId = true := by
  obtain ⟨ulid, isUlid, valid⟩ := generateUlid_valid denotes small rnd
  refine ⟨units "agenid:" ++ ulid, ?_, ?_⟩
  · rw [generateAgentId, isUlid]
    rfl
  · exact ulidRegex_test_iff.mpr ⟨ulid, rfl, valid⟩

theorem generateKeyId_valid
    {now : JsNumber} {n : ℕ} (denotes : Ulid.Denotes now n)
    (small : n < 2 ^ 48) (rnd : Ulid.RandomBytes) :
    ∃ keyId, generateKeyId now rnd = .ok keyId ∧
      isValidKeyId keyId = true := by
  obtain ⟨ulid, isUlid, valid⟩ := generateUlid_valid denotes small rnd
  refine ⟨units "agenid:key:" ++ ulid, ?_, ?_⟩
  · rw [generateKeyId, isUlid]
    rfl
  · exact isValidKeyId_iff.mpr ⟨ulid, rfl, valid⟩

/-! ## Keys -/

structure Ed25519KeyPair where
  privateKey : List UInt8
  publicKey : List UInt8

/-- `makeKeyDocument(args)`. -/
def makeKeyDocument [Platform] (keyId : JsString) (publicKey : List UInt8)
    (role : KeyRole) (controller createdAt : JsString) :
    Except AgenIdError KeyDocument :=
  parseOrThrow KeyDocument.schema
    (some (KeyDocument.toJson {
      keyId := keyId
      publicKeyB64u := b64uEncode publicKey
      role := role
      controller := controller
      createdAt := createdAt
      status := .active
      retiredAt := none
      revokedAt := none })) "KeyDocument"

section Keys

variable [SigningPlatform]

/-- `keyPairFromSeed(seed)`. -/
def keyPairFromSeed (seed : List UInt8) : Except AgenIdError Ed25519KeyPair :=
  if seed.length ≠ 32 then
    .error (.agenIdError "invalid_seed"
      (units "Ed25519 seed must be exactly 32 bytes"))
  else
    .ok ⟨seed, SigningPlatform.ed25519PublicKey seed⟩

/-- What `randomBytes(32)` returns. -/
abbrev SeedBytes := { seed : List UInt8 // seed.length = 32 }

/-- `generateKeyPair()`, for the seed that is drawn. -/
def generateKeyPair (seed : SeedBytes) : Except AgenIdError Ed25519KeyPair :=
  keyPairFromSeed seed.val

theorem keyPairFromSeed_eq_ok_iff
    {seed : List UInt8} {keyPair : Ed25519KeyPair} :
    keyPairFromSeed seed = .ok keyPair ↔
      seed.length = 32 ∧
        keyPair = ⟨seed, SigningPlatform.ed25519PublicKey seed⟩ := by
  unfold keyPairFromSeed
  by_cases seedLength : seed.length = 32
  · rw [if_neg (not_not.mpr seedLength)]
    constructor
    · intro isPair
      exact ⟨seedLength, (Except.ok.inj isPair).symm⟩
    · intro isPair
      rw [isPair.2]
  · rw [if_pos seedLength]
    constructor
    · intro impossible
      cases impossible
    · intro isPair
      exact absurd isPair.1 seedLength

theorem generateKeyPair_eq (seed : SeedBytes) :
    generateKeyPair seed =
      .ok ⟨seed.val, SigningPlatform.ed25519PublicKey seed.val⟩ :=
  keyPairFromSeed_eq_ok_iff.mpr ⟨seed.property, rfl⟩

end Keys

end AgenId.Core.KeyMaterial
