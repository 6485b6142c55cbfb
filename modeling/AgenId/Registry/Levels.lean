import AgenId.Registry.Invariant
import AgenId.Registry.Resolution

/-!
# Verification levels

A level above the first comes from a stored assertion that passes, an
assertion is stored only with the authority token, and no assertion about an
agent can claim the level of a deployment.
-/

namespace AgenId.Registry

open AgenId.Core
open AgenId.Ecma
open AgenId.Library
open AgenId.Validation
open AgenId.Validation.Schema

/-! ## The token -/

/-- The header with which a request comes. -/
def Request.authorization : Request → Option JsString
  | .authorityKeys authorization _
  | .assertions authorization _ _ _ _ _ => authorization
  | _ => none

/-- A request carries the token that the registry is configured with. -/
def Request.CarriesToken (authorityToken : Option JsString)
    (request : Request) : Prop :=
  ∃ token, authorityToken = some token ∧ token ≠ [] ∧
    request.authorization = some (units "Bearer " ++ token)

theorem carries_of_requireAuthority
    {authorityToken authorization : Option JsString}
    (isAuthorized :
      requireAuthority authorityToken authorization = none) :
    ∃ token, authorityToken = some token ∧ token ≠ [] ∧
      authorization = some (units "Bearer " ++ token) := by
  unfold requireAuthority at isAuthorized
  split at isAuthorized
  · cases isAuthorized
  · rename_i token isToken
    obtain ⟨isConfigured, nonempty⟩ := Option.filter_eq_some_iff.mp isToken
    by_cases other : authorization.getD [] ≠ units "Bearer " ++ token
    · rw [if_pos other] at isAuthorized
      cases isAuthorized
    · have same := not_not.mp other
      refine ⟨token, isConfigured, by simpa using nonempty, ?_⟩
      cases authorization with
      | none =>
          have impossible := congrArg List.length same
          have bearer : (units "Bearer ").length = 7 := by decide
          rw [List.length_append, bearer] at impossible
          simp only [Option.getD_none, List.length_nil] at impossible
          omega
      | some header => exact congrArg some same

theorem Request.Authorized.carriesToken
    {authorityToken : Option JsString} {request : Request}
    (isAuthorized : request.Authorized authorityToken) :
    request.CarriesToken authorityToken := by
  cases request with
  | agents | register => exact isAuthorized.elim
  | authorityKeys | assertions =>
      exact carries_of_requireAuthority isAuthorized

section Levels

variable [Platform]

/-! ## Without the token -/

/-- No authority key and no assertion is stored. -/
structure WithoutAuthority (store : MemoryStore) : Prop where
  keys : ∀ keyId doc, store.getKey keyId = some doc → doc.role ≠ .authority
  assertions : ∀ assertionId, store.getAssertion assertionId = none

theorem WithoutAuthority.effect
    {authorized : Prop} {store next : MemoryStore}
    (without : WithoutAuthority store) (notAuthorized : ¬ authorized)
    (effect : Effect authorized store next) : WithoutAuthority next := by
  cases effect with
  | nothing => exact without
  | register registration ts keyUlid agentUlid registrable usable free =>
      refine ⟨?_, without.assertions⟩
      intro keyId doc found
      have isKey : (registered registration ts keyUlid agentUlid store).getKey
          keyId = if keyId = registration.keyDocument.keyId then
            some registration.keyDocument else store.getKey keyId := by
        simp [registered]
      rw [isKey] at found
      split at found
      · obtain rfl := Option.some.inj found
        rw [registrable.bound.role]
        decide
      · exact without.keys keyId doc found
  | publish doc isAuthorized => exact absurd isAuthorized notAuthorized
  | issue record issued key agentId clock ulid occurredAt isAuthorized =>
      exact absurd isAuthorized notAuthorized

theorem withoutAuthority_serveAll
    {authorityToken : Option JsString} {requests : List Request}
    (noToken : ∀ request ∈ requests,
      ¬ request.CarriesToken authorityToken) :
    WithoutAuthority (serveAll authorityToken requests .empty) := by
  apply serveAll_induction
  · intro request isMember store next without effect
    apply without.effect _ effect
    intro isAuthorized
    exact noToken request isMember isAuthorized.carriesToken
  · refine ⟨?_, fun _ => rfl⟩
    intro keyId doc found
    cases found

theorem mem_listAssertionsForSubject_iff
    {store : MemoryStore} {subject : JsString}
    {issued : VerificationAssertion} :
    issued ∈ store.listAssertionsForSubject subject ↔
      issued.subject = subject ∧
        ∃ assertionId, store.getAssertion assertionId = some issued := by
  rw [MemoryStore.listAssertionsForSubject, List.mem_mergeSort,
    List.mem_filter, OrderedMap.mem_values_iff]
  simp [and_comm, MemoryStore.getAssertion]

theorem listAssertionsForSubject_eq_nil
    {store : MemoryStore} (without : WithoutAuthority store)
    (subject : JsString) :
    store.listAssertionsForSubject subject = [] := by
  apply List.eq_nil_iff_forall_not_mem.mpr
  intro issued isMember
  obtain ⟨-, assertionId, found⟩ :=
    mem_listAssertionsForSubject_iff.mp isMember
  rw [without.assertions assertionId] at found
  cases found

/-! ## The highest level -/

section Maximum

variable {Value : Type} [LinearOrder Value]

omit [Platform] in
theorem foldl_max_le_iff (values : List Value) (start bound : Value) :
    values.foldl max start ≤ bound ↔
      start ≤ bound ∧ ∀ value ∈ values, value ≤ bound := by
  induction values generalizing start with
  | nil => simp
  | cons value rest inductionHypothesis =>
      rw [List.foldl_cons, inductionHypothesis, max_le_iff,
        List.forall_mem_cons, and_assoc]

omit [Platform] in
theorem foldl_max_mem (values : List Value) (start : Value) :
    values.foldl max start ∈ start :: values := by
  induction values generalizing start with
  | nil => exact List.mem_singleton_self start
  | cons value rest inductionHypothesis =>
      rw [List.foldl_cons]
      have isMember := inductionHypothesis (max start value)
      rcases List.mem_cons.mp isMember with isStart | inRest
      · rw [isStart]
        rcases max_choice start value with isLeft | isRight
        · rw [isLeft]
          exact List.mem_cons_self
        · rw [isRight]
          exact List.mem_cons_of_mem start List.mem_cons_self
      · exact List.mem_cons_of_mem start (List.mem_cons_of_mem value inRest)

omit [Platform] in
theorem foldl_max_perm
    {values others : List Value} (reordered : others.Perm values)
    (start : Value) : others.foldl max start = values.foldl max start :=
  reordered.foldl_eq start

end Maximum

omit [Platform] in
theorem registered_le (level : VerificationLevel) :
    .L1_REGISTERED ≤ level := by
  change LEVEL_RANK .L1_REGISTERED ≤ LEVEL_RANK level
  cases level <;> decide

/-! ## What an envelope reports -/

section Report

variable {answers : (request : StoreCall) → request.Reply}
  {record : AgentRecord} {now : JsString} {envelope : ResolutionEnvelope}

theorem buildEnvelope_reports
    (isEnvelope :
      (buildEnvelope record now).answered answers = .ok envelope) :
    envelope.level = ((passingAssertions answers record now).map
        VerificationAssertion.level).foldl max .L1_REGISTERED ∧
      envelope.validAssertions =
        (passingAssertions answers record now).length ∧
      envelope.totalAssertions =
        (answers (.listAssertionsForSubject record.agentId)).length ∧
      envelope.assertions.map ViewOf.assertion =
        answers (.listAssertionsForSubject record.agentId) := by
  obtain ⟨proofCheck, views, -, areViews, isAnswered⟩ :=
    buildEnvelope_answered answers record now
  rw [isAnswered] at isEnvelope
  cases isPath : keyResolverPath record.proof.keyId with
  | error thrown =>
      rw [isPath] at isEnvelope
      cases isEnvelope
  | ok path =>
      rw [isPath] at isEnvelope
      cases isUrl : wellKnownKeysUrl
          record.manifest.ownership.operatorDomain with
      | error thrown =>
          rw [isUrl] at isEnvelope
          cases isEnvelope
      | ok url =>
          rw [isUrl] at isEnvelope
          obtain rfl := Except.ok.inj isEnvelope
          exact ⟨rfl, rfl, rfl, areViews⟩

theorem registered_lt_level_iff
    (isEnvelope :
      (buildEnvelope record now).answered answers = .ok envelope) :
    .L1_REGISTERED < envelope.level ↔
      ∃ issued ∈ passingAssertions answers record now,
        .L1_REGISTERED < issued.level := by
  obtain ⟨isLevel, -⟩ := buildEnvelope_reports isEnvelope
  have bounded := foldl_max_le_iff ((passingAssertions answers record now).map
    VerificationAssertion.level) .L1_REGISTERED .L1_REGISTERED
  rw [← isLevel] at bounded
  rw [← not_le, bounded]
  simp

/-- The level is the one of registered agents when nothing passes, and else
the greatest one of what passes. -/
theorem level_isGreatest
    (isEnvelope :
      (buildEnvelope record now).answered answers = .ok envelope) :
    (∀ issued ∈ passingAssertions answers record now,
        issued.level ≤ envelope.level) ∧
      (passingAssertions answers record now = [] ∧
          envelope.level = .L1_REGISTERED ∨
        ∃ issued ∈ passingAssertions answers record now,
          issued.level = envelope.level) := by
  obtain ⟨isLevel, -⟩ := buildEnvelope_reports isEnvelope
  have bounded : ∀ issued ∈ passingAssertions answers record now,
      issued.level ≤ envelope.level := by
    have isBound := (foldl_max_le_iff _ _ _).mp isLevel.symm.le
    intro issued isPassing
    exact isBound.2 _ (List.mem_map_of_mem isPassing)
  refine ⟨bounded, ?_⟩
  have attained := foldl_max_mem ((passingAssertions answers record now).map
    VerificationAssertion.level) .L1_REGISTERED
  rw [← isLevel] at attained
  rcases List.mem_cons.mp attained with isStart | isPassing
  · cases isList : passingAssertions answers record now with
    | nil => exact Or.inl ⟨rfl, isStart⟩
    | cons issued rest =>
        have isMember : issued ∈ passingAssertions answers record now := by
          rw [isList]
          exact List.mem_cons_self
        have notAbove := bounded issued isMember
        rw [isStart] at notAbove
        refine Or.inr ⟨issued, List.mem_cons_self, ?_⟩
        rw [isStart]
        exact le_antisymm notAbove (registered_le issued.level)
  · exact Or.inr (List.mem_map.mp isPassing)

/-- The order in which a store lists the assertions has no part in the level
and in the number of those that pass. -/
theorem buildEnvelope_perm
    {others : (request : StoreCall) → request.Reply}
    (sameKeys : keysOf others = keysOf answers)
    (reordered : (others (.listAssertionsForSubject record.agentId)).Perm
      (answers (.listAssertionsForSubject record.agentId)))
    (isEnvelope :
      (buildEnvelope record now).answered answers = .ok envelope) :
    ∃ other, (buildEnvelope record now).answered others = .ok other ∧
      other.level = envelope.level ∧
      other.validAssertions = envelope.validAssertions := by
  obtain ⟨isLevel, isCount, -⟩ := buildEnvelope_reports isEnvelope
  have samePassing : (passingAssertions others record now).Perm
      (passingAssertions answers record now) := by
    unfold passingAssertions
    rw [sameKeys]
    exact reordered.filter _
  obtain ⟨proofCheck, views, -, -, isAnswered⟩ :=
    buildEnvelope_answered answers record now
  obtain ⟨otherCheck, otherViews, -, -, isOther⟩ :=
    buildEnvelope_answered others record now
  rw [isAnswered] at isEnvelope
  cases isPath : keyResolverPath record.proof.keyId with
  | error thrown =>
      rw [isPath] at isEnvelope
      cases isEnvelope
  | ok path =>
      cases isUrl : wellKnownKeysUrl
          record.manifest.ownership.operatorDomain with
      | error thrown =>
          rw [isPath, isUrl] at isEnvelope
          cases isEnvelope
      | ok url =>
          rw [isPath, isUrl] at isOther
          refine ⟨_, isOther, ?_, ?_⟩
          · rw [isLevel]
            exact foldl_max_perm
              (samePassing.map VerificationAssertion.level) _
          · rw [isCount]
            exact samePassing.length_eq

end Report

/-! ## Agents never reach the level of deployments -/

theorem buildEnvelope_of_sound
    {store : MemoryStore} {agentId : JsString} {record : AgentRecord}
    (sound : SoundAgent store agentId record) (now : JsString) :
    ∃ envelope, (buildEnvelope record now).run MemoryStore.handle store =
        (.ok envelope, store) ∧
      (buildEnvelope record now).answered store.answers = .ok envelope := by
  obtain ⟨proofCheck, views, -, -, isAnswered⟩ :=
    buildEnvelope_answered store.answers record now
  obtain ⟨path, isPath⟩ :=
    keyResolverPath_ok (ManifestProof.keyId_valid sound.proof)
  have isHostname := Manifest.operatorDomain_valid sound.manifest
  have isUrl : ∃ url, wellKnownKeysUrl
      record.manifest.ownership.operatorDomain = .ok url := by
    simp [wellKnownKeysUrl, isHostname]
  obtain ⟨url, isUrl⟩ := isUrl
  rw [isPath, isUrl] at isAnswered
  refine ⟨_, ?_, isAnswered⟩
  rw [buildEnvelope_run, isAnswered]
  rfl

theorem level_ne_deployment
    {issued : VerificationAssertion} {input : Option Json}
    (accepted : VerificationAssertion.schema.accepts input = some issued)
    (isAgentId : isValidAgentId issued.subject = true) :
    issued.level ≠ .L4_DEPLOYMENT_VERIFIED := by
  obtain ⟨-, clean⟩ := accepts_superRefine_eq_some_iff.mp accepted
  simp only [assertionRules, List.append_eq_nil_iff, ruleIssue_eq_nil_iff,
    decide_eq_true_eq] at clean
  obtain ⟨⟨⟨isSubject, isLevel⟩, -⟩, -⟩ := clean
  intro isDeployment
  rw [isLevel.mpr isDeployment,
    not_deployment_of_isValidAgentId isAgentId] at isSubject
  cases isSubject

theorem Sound.passing_level
    {store : MemoryStore} (sound : Sound store) {agentId : JsString}
    {record : AgentRecord} (found : store.getAgent agentId = some record)
    {now : JsString} {issued : VerificationAssertion}
    (isPassing : issued ∈ passingAssertions store.answers record now) :
    issued.level ≠ .L4_DEPLOYMENT_VERIFIED := by
  have soundAgent := sound.agents agentId record found
  have isListed : issued ∈ store.listAssertionsForSubject record.agentId :=
    List.mem_of_mem_filter isPassing
  obtain ⟨isSubject, assertionId, isStored⟩ :=
    mem_listAssertionsForSubject_iff.mp isListed
  apply level_ne_deployment (sound.assertions _ _ isStored).accepted
  rw [isSubject, soundAgent.named, ← soundAgent.manifestNamed]
  exact Manifest.agentId_valid soundAgent.manifest

/-! ## No level without authority -/

variable (authorityToken : Option JsString)

/-- While no request carries the token, no authority key and no assertion is
stored and every envelope reports the first level and no assertion.  In any
store the level is above the first exactly when a stored assertion that passes
has a level above it; it is the greatest level of what passes, what passes is
counted, and neither depends on the order of the list.  After any requests
every agent has an envelope, and none has the level of a deployment. -/
theorem no_level_without_authority :
    (∀ requests : List Request,
      (∀ request ∈ requests, ¬ request.CarriesToken authorityToken) →
      let store := serveAll authorityToken requests .empty
      (∀ keyId doc, store.getKey keyId = some doc →
        doc.role ≠ .authority) ∧
      (∀ assertionId, store.getAssertion assertionId = none) ∧
      ∀ agentId record now, store.getAgent agentId = some record →
        ∃ envelope, (buildEnvelope record now).run MemoryStore.handle store =
            (.ok envelope, store) ∧
          envelope.level = .L1_REGISTERED ∧
          envelope.totalAssertions = 0 ∧ envelope.validAssertions = 0 ∧
          envelope.assertions = []) ∧
    (∀ (answers : (request : StoreCall) → request.Reply)
      (record : AgentRecord) (now : JsString) (envelope : ResolutionEnvelope),
      (buildEnvelope record now).answered answers = .ok envelope →
      (.L1_REGISTERED < envelope.level ↔
        ∃ issued ∈ answers (.listAssertionsForSubject record.agentId),
          Passes (keysOf answers) record now issued ∧
            .L1_REGISTERED < issued.level) ∧
      (∀ issued ∈ passingAssertions answers record now,
        issued.level ≤ envelope.level) ∧
      (passingAssertions answers record now = [] ∧
          envelope.level = .L1_REGISTERED ∨
        ∃ issued ∈ passingAssertions answers record now,
          issued.level = envelope.level) ∧
      envelope.validAssertions =
        (passingAssertions answers record now).length ∧
      ∀ others : (request : StoreCall) → request.Reply,
        keysOf others = keysOf answers →
        (others (.listAssertionsForSubject record.agentId)).Perm
          (answers (.listAssertionsForSubject record.agentId)) →
        ∃ other, (buildEnvelope record now).answered others = .ok other ∧
          other.level = envelope.level ∧
          other.validAssertions = envelope.validAssertions) ∧
    (∀ (requests : List Request) (agentId : JsString) (record : AgentRecord)
      (now : JsString),
      let store := serveAll authorityToken requests .empty
      store.getAgent agentId = some record →
      ∃ envelope, (buildEnvelope record now).run MemoryStore.handle store =
          (.ok envelope, store) ∧
        (buildEnvelope record now).answered store.answers = .ok envelope ∧
        envelope.level ≠ .L4_DEPLOYMENT_VERIFIED) := by
  refine ⟨?_, ?_, ?_⟩
  · intro requests noToken store
    have without : WithoutAuthority store :=
      withoutAuthority_serveAll noToken
    have sound : Sound store := sound_serveAll authorityToken requests
    refine ⟨without.keys, without.assertions, ?_⟩
    intro agentId record now found
    obtain ⟨envelope, isRun, isEnvelope⟩ :=
      buildEnvelope_of_sound (sound.agents agentId record found) now
    have nothing : store.answers (.listAssertionsForSubject record.agentId) =
        [] := listAssertionsForSubject_eq_nil without record.agentId
    have nonePass : passingAssertions store.answers record now = [] := by
      rw [passingAssertions, nothing]
      rfl
    obtain ⟨isLevel, isCount, isTotal, areViews⟩ :=
      buildEnvelope_reports isEnvelope
    rw [nonePass] at isLevel isCount
    rw [nothing] at isTotal areViews
    exact ⟨envelope, isRun, isLevel, isTotal, isCount,
      List.map_eq_nil_iff.mp areViews⟩
  · intro answers record now envelope isEnvelope
    obtain ⟨bounded, attained⟩ := level_isGreatest isEnvelope
    refine ⟨?_, bounded, attained, (buildEnvelope_reports isEnvelope).2.1, ?_⟩
    · rw [registered_lt_level_iff isEnvelope]
      simp [passingAssertions, passing, and_assoc]
    · intro others sameKeys reordered
      exact buildEnvelope_perm sameKeys reordered isEnvelope
  · intro requests agentId record now store found
    have sound : Sound store := sound_serveAll authorityToken requests
    obtain ⟨envelope, isRun, isEnvelope⟩ :=
      buildEnvelope_of_sound (sound.agents agentId record found) now
    refine ⟨envelope, isRun, isEnvelope, ?_⟩
    intro isDeployment
    rcases (level_isGreatest isEnvelope).2 with ⟨-, isFirst⟩ | isAttained
    · rw [isFirst] at isDeployment
      cases isDeployment
    · obtain ⟨issued, isPassing, sameLevel⟩ := isAttained
      exact sound.passing_level found isPassing (sameLevel.trans isDeployment)

end Levels

end AgenId.Registry
