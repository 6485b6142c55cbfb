import AgenId.Core.Accepted

/-!
# What identifiers are

A registry identifier is a namespace followed by a ULID, and a ULID is made
of letters and digits only.  An accepted document therefore names a key that
has a resolver path, and an operator domain that has a well-known location.
-/

namespace AgenId.Core

open AgenId.Ecma
open AgenId.Validation
open AgenId.Validation.Schema

/-! ## ULIDs -/

theorem isValidUlid_iff {value : JsString} :
    isValidUlid value = true ↔
      ∃ head tail, value = head :: tail ∧ isUlidLead head = true ∧
        tail.length = 25 ∧ ∀ unit ∈ tail, isCrockford unit = true :=
  Regex.test_prefixed_iff "" isUlidLead isCrockford 25 value

theorem ulidRegex_test_iff {namespaceText : String} {value : JsString} :
    (ulidRegex namespaceText).test value = true ↔
      ∃ ulid, value = units namespaceText ++ ulid ∧
        isValidUlid ulid = true := by
  have spelled := Regex.test_prefixed_iff namespaceText isUlidLead
    isCrockford 25 value
  constructor
  · intro matched
    obtain ⟨head, tail, isValue, lead, size, others⟩ := spelled.mp matched
    exact ⟨head :: tail, isValue,
      isValidUlid_iff.mpr ⟨head, tail, rfl, lead, size, others⟩⟩
  · intro isNamed
    obtain ⟨ulid, isValue, isUlid⟩ := isNamed
    obtain ⟨head, tail, rfl, lead, size, others⟩ := isValidUlid_iff.mp isUlid
    exact spelled.mpr ⟨head, tail, isValue, lead, size, others⟩

theorem isAlphanumeric_iff {unit : UInt16} :
    isAlphanumeric unit = true ↔
      0x41 ≤ unit.toNat ∧ unit.toNat ≤ 0x5A ∨
        0x61 ≤ unit.toNat ∧ unit.toNat ≤ 0x7A ∨
        0x30 ≤ unit.toNat ∧ unit.toNat ≤ 0x39 := by
  simp [isAlphanumeric, within, or_assoc]

theorem isAlphanumeric_of_isCrockford
    {unit : UInt16} (crockford : isCrockford unit = true) :
    isAlphanumeric unit = true := by
  have ranges : isCrockford unit = true →
      0x41 ≤ unit.toNat ∧ unit.toNat ≤ 0x5A ∨
        0x30 ≤ unit.toNat ∧ unit.toNat ≤ 0x39 := by
    simp only [isCrockford, within, Bool.or_eq_true, decide_eq_true_eq,
      Char.reduceToNat]
    omega
  have inRange := ranges crockford
  rw [isAlphanumeric_iff]
  omega

theorem isAlphanumeric_of_isUlidLead
    {unit : UInt16} (lead : isUlidLead unit = true) :
    isAlphanumeric unit = true := by
  have range : 0x30 ≤ unit.toNat ∧ unit.toNat ≤ 0x37 := by
    simpa [isUlidLead, within] using lead
  rw [isAlphanumeric_iff]
  omega

theorem alphanumeric_of_isValidUlid
    {ulid : JsString} (isUlid : isValidUlid ulid = true) :
    ∀ unit ∈ ulid, isAlphanumeric unit = true := by
  obtain ⟨head, tail, rfl, lead, -, others⟩ := isValidUlid_iff.mp isUlid
  intro unit isMember
  rcases List.mem_cons.mp isMember with rfl | inTail
  · exact isAlphanumeric_of_isUlidLead lead
  · exact isAlphanumeric_of_isCrockford (others unit inTail)

theorem length_of_isValidUlid
    {ulid : JsString} (isUlid : isValidUlid ulid = true) :
    ulid.length = 26 := by
  obtain ⟨head, tail, rfl, -, size, -⟩ := isValidUlid_iff.mp isUlid
  rw [List.length_cons, size]

/-! ## Key identifiers -/

theorem isValidKeyId_iff {keyId : JsString} :
    isValidKeyId keyId = true ↔
      ∃ ulid, keyId = units "agenid:key:" ++ ulid ∧
        isValidUlid ulid = true :=
  ulidRegex_test_iff

theorem notMem_of_isValidUlid
    {ulid : JsString} (isUlid : isValidUlid ulid = true) {unit : UInt16}
    (notAlphanumeric : isAlphanumeric unit = false) : unit ∉ ulid := by
  intro isMember
  have alphanumeric := alphanumeric_of_isValidUlid isUlid unit isMember
  rw [notAlphanumeric] at alphanumeric
  cases alphanumeric

theorem notMem_of_isValidKeyId
    {keyId : JsString} (isKeyId : isValidKeyId keyId = true) {unit : UInt16}
    (notAlphanumeric : isAlphanumeric unit = false)
    (notColon : unit ≠ 0x3A) : unit ∉ keyId := by
  obtain ⟨ulid, rfl, isUlid⟩ := isValidKeyId_iff.mp isKeyId
  rw [List.mem_append, not_or]
  refine ⟨?_, notMem_of_isValidUlid isUlid notAlphanumeric⟩
  intro isMember
  have ofPrefix : (units "agenid:key:").all
      (fun other => isAlphanumeric other || other == 0x3A) = true := by decide
  have atUnit := List.all_eq_true.mp ofPrefix unit isMember
  rw [Bool.or_eq_true, beq_iff_eq] at atUnit
  rcases atUnit with alphanumeric | isColon
  · rw [notAlphanumeric] at alphanumeric
    cases alphanumeric
  · exact notColon isColon

theorem includesUnit_of_isValidKeyId
    {keyId : JsString} (isKeyId : isValidKeyId keyId = true) :
    includesUnit 0x23 keyId = false := by
  have notMember : (0x23 : UInt16) ∉ keyId :=
    notMem_of_isValidKeyId isKeyId (by decide) (by decide)
  simp [includesUnit, notMember]

theorem assertValidKeyId_of_valid
    {keyId : JsString} (isKeyId : isValidKeyId keyId = true) :
    assertValidKeyId keyId = .ok () := by
  simp [assertValidKeyId, includesUnit_of_isValidKeyId isKeyId, isKeyId]

theorem keyResolverPath_of_valid
    {ulid : JsString} (isUlid : isValidUlid ulid = true) :
    keyResolverPath (units "agenid:key:" ++ ulid) =
      .ok (units "/v1/keys/" ++ ulid) := by
  have isKeyId : isValidKeyId (units "agenid:key:" ++ ulid) = true :=
    isValidKeyId_iff.mpr ⟨ulid, rfl, isUlid⟩
  unfold keyResolverPath keyIdToWire
  rw [assertValidKeyId_of_valid isKeyId]
  change Except.ok (units "/v1/keys/" ++
    (units "agenid:key:" ++ ulid).drop (units "agenid:key:").length) = _
  rw [List.drop_left]

theorem keyResolverPath_ok
    {keyId : JsString} (isKeyId : isValidKeyId keyId = true) :
    ∃ path, keyResolverPath keyId = .ok path := by
  obtain ⟨ulid, rfl, isUlid⟩ := isValidKeyId_iff.mp isKeyId
  exact ⟨_, keyResolverPath_of_valid isUlid⟩

/-- The two forms of a key reference are distinct. -/
theorem not_isValidUlid_of_isValidKeyId
    {keyId : JsString} (isKeyId : isValidKeyId keyId = true) :
    isValidUlid keyId = false := by
  obtain ⟨ulid, rfl, -⟩ := isValidKeyId_iff.mp isKeyId
  apply Bool.eq_false_of_not_eq_true
  intro isUlid
  have hasColon : (0x3A : UInt16) ∈ units "agenid:key:" ++ ulid :=
    List.mem_append_left _ (by decide)
  exact notMem_of_isValidUlid isUlid (by decide) hasColon

theorem parseKeyReference_of_isValidUlid
    {ulid : JsString} (isUlid : isValidUlid ulid = true) :
    parseKeyReference ulid = .ok (units "agenid:key:" ++ ulid) := by
  have nonempty : ulid.length ≠ 0 := by
    rw [length_of_isValidUlid isUlid]
    decide
  have isDecoded : decodeURIComponent ulid = some ulid :=
    decodeURIComponent_of_notMem (notMem_of_isValidUlid isUlid (by decide))
  have noHash : includesUnit 0x23 ulid = false := by
    simpa [includesUnit] using
      notMem_of_isValidUlid isUlid (by decide : isAlphanumeric 0x23 = false)
  simp [parseKeyReference, nonempty, isDecoded, noHash, isUlid,
    keyIdFromWire]

theorem parseKeyReference_of_isValidKeyId
    {keyId : JsString} (isKeyId : isValidKeyId keyId = true) :
    parseKeyReference keyId = .ok keyId := by
  have nonempty : keyId.length ≠ 0 := by
    obtain ⟨ulid, rfl, isUlid⟩ := isValidKeyId_iff.mp isKeyId
    rw [List.length_append, length_of_isValidUlid isUlid]
    omega
  have isDecoded : decodeURIComponent keyId = some keyId :=
    decodeURIComponent_of_notMem
      (notMem_of_isValidKeyId isKeyId (by decide) (by decide))
  simp [parseKeyReference, nonempty, isDecoded,
    includesUnit_of_isValidKeyId isKeyId, isKeyId,
    not_isValidUlid_of_isValidKeyId isKeyId]

theorem ascii_of_isAlphanumeric
    {unit : UInt16} (alphanumeric : isAlphanumeric unit = true) :
    unit.toNat < 0x80 := by
  have ranges := isAlphanumeric_iff.mp alphanumeric
  omega

theorem ascii_of_isValidKeyId
    {keyId : JsString} (isKeyId : isValidKeyId keyId = true) :
    ∀ unit ∈ keyId, unit.toNat < 0x80 := by
  intro unit isMember
  by_cases alphanumeric : isAlphanumeric unit = true
  · exact ascii_of_isAlphanumeric alphanumeric
  · by_cases isColon : unit = 0x3A
    · rw [isColon]
      decide
    · exact absurd isMember (notMem_of_isValidKeyId isKeyId
        (Bool.eq_false_of_not_eq_true alphanumeric) isColon)

theorem keyResolverQuery_of_isValidKeyId
    {keyId : JsString} (isKeyId : isValidKeyId keyId = true) :
    keyResolverQuery keyId =
      .ok (units "/v1/keys?key_id=" ++ keyId.flatMap escapeUnit) := by
  unfold keyResolverQuery
  rw [assertValidKeyId_of_valid isKeyId,
    encodeURIComponent_ascii (ascii_of_isValidKeyId isKeyId)]
  rfl

/-- No identifier names both an agent and a deployment. -/
theorem not_deployment_of_isValidAgentId
    {value : JsString} (isAgentId : isValidAgentId value = true) :
    DEPLOYMENT_ID_REGEX.test value = false := by
  obtain ⟨ulid, rfl, -⟩ := ulidRegex_test_iff.mp isAgentId
  apply Bool.eq_false_of_not_eq_true
  intro isDeployment
  obtain ⟨rest, same⟩ := Regex.exists_of_test_literal isDeployment
  have agent : units "agenid:" = 0x61 :: (units "agenid:").tail := by decide
  have deployment : units "dep_" = 0x64 :: (units "dep_").tail := by decide
  rw [agent, deployment] at same
  exact absurd (List.cons.inj same).1 (by decide)

/-! ## Identifiers of accepted documents -/

theorem isValidKeyId_of_accepts
    {input : Option Json} {keyId : JsString}
    (accepted : KeyId.accepts input = some keyId) :
    isValidKeyId keyId = true :=
  (accepts_check_eq_some_iff.mp accepted).2

section Documents

variable [Platform] {input : Option Json}

theorem ManifestProof.keyId_valid
    {proof : ManifestProof}
    (accepted : ManifestProof.schema.accepts input = some proof) :
    isValidKeyId proof.keyId = true := by
  obtain ⟨isObject, -⟩ := accepts_check_eq_some_iff.mp accepted
  obtain ⟨members, rfl, -, fields⟩ :=
    accepts_strictObject_eq_some_iff.mp isObject
  simp only [Parse.accepted_seq_eq_some_iff,
    Parse.accepted_seqLeft_eq_some_iff, Parse.accepted_seqRight_eq_some_iff,
    Parse.accepted_map_eq_some_iff] at fields
  obtain ⟨-, _, -, _, ⟨_, -, _, ⟨_, -, _, ⟨keyId, isKeyId, _, ⟨_, -, _,
    ⟨⟨_, -, rfl⟩, -⟩, rfl⟩, rfl⟩, rfl⟩, rfl⟩, rfl⟩ := fields
  rw [accepted_field] at isKeyId
  exact isValidKeyId_of_accepts isKeyId

theorem Ownership.operatorDomain_valid
    {ownership : Ownership}
    (accepted : Ownership.schema.accepts input = some ownership) :
    isValidHostname ownership.operatorDomain = true := by
  obtain ⟨members, rfl, -, fields⟩ :=
    accepts_strictObject_eq_some_iff.mp accepted
  simp only [Parse.accepted_seq_eq_some_iff,
    Parse.accepted_map_eq_some_iff] at fields
  obtain ⟨_, -, _, ⟨domain, isDomain, _, ⟨_, -, rfl⟩, rfl⟩, rfl⟩ := fields
  rw [accepted_field] at isDomain
  exact (accepts_check_eq_some_iff.mp isDomain).2

theorem Manifest.accepted_members
    {manifest : Manifest}
    (accepted : Manifest.schema.accepts input = some manifest) :
    ∃ members : Members,
      AgentId.accepts (members.lookup (units "agent_id")) =
          some manifest.agentId ∧
        Ownership.schema.accepts (members.lookup (units "ownership")) =
          some manifest.ownership := by
  obtain ⟨members, rfl, -, fields⟩ :=
    accepts_strictObject_eq_some_iff.mp accepted
  simp only [Parse.accepted_seq_eq_some_iff,
    Parse.accepted_seqRight_eq_some_iff,
    Parse.accepted_map_eq_some_iff] at fields
  obtain ⟨-, _, -, _, ⟨_, -, _, ⟨ownership, isOwnership, _, ⟨_, -, _,
    ⟨agentId, isAgentId, rfl⟩, rfl⟩, rfl⟩, rfl⟩, rfl⟩ := fields
  rw [accepted_field] at isAgentId isOwnership
  exact ⟨members, isAgentId, isOwnership⟩

theorem Manifest.operatorDomain_valid
    {manifest : Manifest}
    (accepted : Manifest.schema.accepts input = some manifest) :
    isValidHostname manifest.ownership.operatorDomain = true := by
  obtain ⟨_, -, isOwnership⟩ := accepted_members accepted
  exact Ownership.operatorDomain_valid isOwnership

theorem Manifest.agentId_valid
    {manifest : Manifest}
    (accepted : Manifest.schema.accepts input = some manifest) :
    isValidAgentId manifest.agentId = true := by
  obtain ⟨_, isAgentId, -⟩ := accepted_members accepted
  exact (accepts_check_eq_some_iff.mp isAgentId).2

end Documents

end AgenId.Core
