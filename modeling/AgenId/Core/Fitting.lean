import AgenId.Core.Accepted
import AgenId.Core.Identified

/-!
# Manifests that fit

A manifest that is written from its parts is accepted exactly when each of its
texts is, and it is read back as it was written.
-/

namespace AgenId.Core

open AgenId.Ecma
open AgenId.Validation
open AgenId.Validation.Schema

/-- A schema accepts what is written of a value exactly when the value fits,
and reads the value itself. -/
structure AcceptsFitting {α : Type} (schema : Schema α) (encode : α → Json)
    (fits : α → Prop) : Prop where
  accepts_iff : ∀ value other,
    schema.accepts (some (encode value)) = some other ↔
      fits value ∧ value = other

namespace AcceptsFitting

variable {α : Type} {schema : Schema α} {encode : α → Json} {fits : α → Prop}

theorem check (fitting : AcceptsFitting schema encode fits)
    (holds : α → Bool) (issue : Issue) :
    AcceptsFitting (schema.check holds issue) encode
      fun value => fits value ∧ holds value = true where
  accepts_iff := by
    intro value other
    rw [accepts_check_eq_some_iff, fitting.accepts_iff]
    constructor
    · rintro ⟨⟨isFitting, rfl⟩, isHeld⟩
      exact ⟨⟨isFitting, isHeld⟩, rfl⟩
    · rintro ⟨⟨isFitting, isHeld⟩, rfl⟩
      exact ⟨⟨isFitting, rfl⟩, isHeld⟩

theorem weaken {others : α → Prop}
    (fitting : AcceptsFitting schema encode fits)
    (same : ∀ value, fits value ↔ others value) :
    AcceptsFitting schema encode others where
  accepts_iff := by
    intro value other
    rw [fitting.accepts_iff, same]

theorem optional_iff (fitting : AcceptsFitting schema encode fits)
    (value other : Option α) :
    schema.optional.accepts (value.map encode) = some other ↔
      (∀ found ∈ value, fits found) ∧ value = other := by
  cases value with
  | none =>
      rw [Option.map_none, accepts_optional_none, Option.some.injEq]
      simp
  | some found =>
      rw [Option.map_some, accepts_optional_some, Option.map_eq_some_iff]
      simp only [fitting.accepts_iff, Option.mem_some_iff, forall_eq']
      constructor
      · rintro ⟨read, ⟨isFitting, rfl⟩, rfl⟩
        exact ⟨isFitting, rfl⟩
      · rintro ⟨isFitting, rfl⟩
        exact ⟨found, ⟨isFitting, rfl⟩, rfl⟩

end AcceptsFitting

theorem fitting_string : AcceptsFitting string .string fun _ => True where
  accepts_iff := by
    intro text other
    rw [accepts_string, Option.some.injEq, true_and]

/-- A text that is left out when it is empty. -/
theorem mem_filter_nonempty_iff {text : Option JsString} {shown : JsString} :
    shown ∈ text.filter (fun other => !other.isEmpty) ↔
      shown ∈ text ∧ shown ≠ [] := by
  rw [Option.mem_filter_iff, Bool.not_eq_true', List.isEmpty_eq_false_iff]

/-- A text that `FreeText(max)` accepts. -/
structure IsFreeText (max : ℕ) (text : JsString) : Prop where
  nonempty : 1 ≤ text.length
  bounded : text.length ≤ max
  clean : noSecrets text = true

theorem fitting_FreeText (max : ℕ) :
    AcceptsFitting (FreeText max) .string (IsFreeText max) := by
  refine AcceptsFitting.weaken
    (((fitting_string.check _ _).check _ _).check _ _) ?_
  intro text
  simp only [true_and, decide_eq_true_eq]
  constructor
  · rintro ⟨⟨nonempty, bounded⟩, clean⟩
    exact ⟨nonempty, bounded, clean⟩
  · rintro ⟨nonempty, bounded, clean⟩
    exact ⟨⟨nonempty, bounded⟩, clean⟩

theorem fitting_Hostname : AcceptsFitting Hostname .string
    fun text => isValidHostname text = true := by
  refine (fitting_string.check isValidHostname _).weaken ?_
  intro text
  rw [true_and]

theorem fitting_email [Platform] :
    AcceptsFitting (string.check Platform.isEmail
        ⟨[], .invalidString "email", none⟩) .string
      fun text => Platform.isEmail text = true := by
  refine (fitting_string.check Platform.isEmail _).weaken ?_
  intro text
  rw [true_and]

/-- A manifest each of whose texts is accepted. -/
structure Manifest.Fits [Platform] (manifest : Manifest) : Prop where
  agentId : isValidAgentId manifest.agentId = true
  name : IsFreeText 200 manifest.identity.name
  description : ∀ description ∈ manifest.identity.description,
    IsFreeText 1000 description
  operator : IsFreeText 300 manifest.ownership.operator
  operatorDomain : isValidHostname manifest.ownership.operatorDomain = true
  contact : ∀ contact ∈ manifest.ownership.contact,
    Platform.isEmail contact = true
  summary : IsFreeText 500 manifest.purpose.summary
  channels : manifest.purpose.channels ≠ []

/-! ## Parts -/

theorem fitting_Identity :
    AcceptsFitting Identity.schema Identity.toJson fun identity =>
      IsFreeText 200 identity.name ∧
        ∀ description ∈ identity.description,
          IsFreeText 1000 description := by
  refine ⟨?_⟩
  intro identity other
  obtain ⟨name, description⟩ := identity
  have spelled : ∃ members, Identity.toJson ⟨name, description⟩ =
        .object members ∧
      members.lookup (units "name") = some (.string name) ∧
      members.lookup (units "description") = description.map .string ∧
      unknownNames ["name", "description"] members = [] := by
    cases description <;> exact ⟨_, rfl, rfl, rfl, rfl⟩
  obtain ⟨members, isObject, isName, isDescription, known⟩ := spelled
  unfold Identity.schema
  rw [isObject, accepts_strictObject, if_pos known]
  simp only [Parse.accepted_seq_eq_some_iff, Parse.accepted_map_eq_some_iff,
    accepted_field, isName, isDescription,
    (fitting_FreeText 200).accepts_iff,
    (fitting_FreeText 1000).optional_iff]
  constructor
  · rintro ⟨_, ⟨isFitting, rfl⟩, _, ⟨_, ⟨isText, rfl⟩, rfl⟩, rfl⟩
    exact ⟨⟨isText, isFitting⟩, rfl⟩
  · rintro ⟨⟨isText, isFitting⟩, rfl⟩
    exact ⟨_, ⟨isFitting, rfl⟩, _, ⟨_, ⟨isText, rfl⟩, rfl⟩, rfl⟩

theorem fitting_Ownership [Platform] :
    AcceptsFitting Ownership.schema Ownership.toJson fun ownership =>
      IsFreeText 300 ownership.operator ∧
        isValidHostname ownership.operatorDomain = true ∧
        ∀ contact ∈ ownership.contact, Platform.isEmail contact = true := by
  refine ⟨?_⟩
  intro ownership other
  obtain ⟨operator, operatorDomain, contact⟩ := ownership
  have spelled : ∃ members,
      Ownership.toJson ⟨operator, operatorDomain, contact⟩ =
        .object members ∧
      members.lookup (units "operator") = some (.string operator) ∧
      members.lookup (units "operator_domain") =
        some (.string operatorDomain) ∧
      members.lookup (units "contact") = contact.map .string ∧
      unknownNames ["operator", "operator_domain", "contact"] members =
        [] := by
    cases contact <;> exact ⟨_, rfl, rfl, rfl, rfl, rfl⟩
  obtain ⟨members, isObject, isOperator, isDomain, isContact, known⟩ :=
    spelled
  unfold Ownership.schema
  rw [isObject, accepts_strictObject, if_pos known]
  simp only [Parse.accepted_seq_eq_some_iff, Parse.accepted_map_eq_some_iff,
    accepted_field, isOperator, isDomain, isContact,
    (fitting_FreeText 300).accepts_iff, fitting_Hostname.accepts_iff,
    fitting_email.optional_iff]
  constructor
  · rintro ⟨_, ⟨isEmail, rfl⟩, _, ⟨_, ⟨isHost, rfl⟩, _, ⟨_, ⟨isText, rfl⟩,
      rfl⟩, rfl⟩, rfl⟩
    exact ⟨⟨isText, isHost, isEmail⟩, rfl⟩
  · rintro ⟨⟨isText, isHost, isEmail⟩, rfl⟩
    exact ⟨_, ⟨isEmail, rfl⟩, _, ⟨_, ⟨isHost, rfl⟩, _, ⟨_, ⟨isText, rfl⟩,
      rfl⟩, rfl⟩, rfl⟩

theorem mapM_accepts
    {α : Type} {schema : Schema α} {encode : α → Json}
    (accepts : ∀ value, schema.accepts (some (encode value)) = some value)
    (values : List α) :
    (values.map encode).mapM (fun item => schema.accepts (some item)) =
      some values := by
  induction values with
  | nil => rfl
  | cons value rest inductionHypothesis =>
      rw [List.map_cons, List.mapM_cons, accepts, inductionHypothesis]
      rfl

theorem accepts_channels_iff (channels others : List Channel) :
    ((enumerationOf Channel.all Channel.text).array 1 none).accepts
        (some (.array (channels.map fun channel =>
          .literal channel.text))) = some others ↔
      channels ≠ [] ∧ channels = others := by
  have reads : ∀ channel : Channel,
      (enumerationOf Channel.all Channel.text).accepts
        (some (.literal channel.text)) = some channel := by
    intro channel
    cases channel <;> rfl
  have accepted := mapM_accepts reads channels
  rw [accepts_array, accepted]
  cases channels with
  | nil => simp [lengthIssues]
  | cons channel rest => simp [lengthIssues]

theorem fitting_Purpose :
    AcceptsFitting Purpose.schema Purpose.toJson fun purpose =>
      IsFreeText 500 purpose.summary ∧ purpose.channels ≠ [] := by
  refine ⟨?_⟩
  intro purpose other
  obtain ⟨summary, channels⟩ := purpose
  obtain ⟨members, isObject, isSummary, areChannels, known⟩ :
      ∃ members, Purpose.toJson ⟨summary, channels⟩ = .object members ∧
        members.lookup (units "summary") = some (.string summary) ∧
        members.lookup (units "channels") = some (.array
          (channels.map fun channel => .literal channel.text)) ∧
        unknownNames ["summary", "channels"] members = [] :=
    ⟨_, rfl, rfl, rfl, rfl⟩
  unfold Purpose.schema
  rw [isObject, accepts_strictObject, if_pos known]
  simp only [Parse.accepted_seq_eq_some_iff, Parse.accepted_map_eq_some_iff,
    accepted_field, isSummary, areChannels,
    (fitting_FreeText 500).accepts_iff, accepts_channels_iff]
  constructor
  · rintro ⟨_, ⟨nonempty, rfl⟩, _, ⟨_, ⟨isText, rfl⟩, rfl⟩, rfl⟩
    exact ⟨⟨isText, nonempty⟩, rfl⟩
  · rintro ⟨⟨isText, nonempty⟩, rfl⟩
    exact ⟨_, ⟨nonempty, rfl⟩, _, ⟨_, ⟨isText, rfl⟩, rfl⟩, rfl⟩

theorem fitting_Disclosure :
    AcceptsFitting Disclosure.schema Disclosure.toJson fun _ => True := by
  refine ⟨?_⟩
  intro disclosure other
  obtain ⟨isAi, disclosesToUser, humanEscalation⟩ := disclosure
  have accepted : Disclosure.schema.accepts (some (Disclosure.toJson
      ⟨isAi, disclosesToUser, humanEscalation⟩)) =
        some ⟨isAi, disclosesToUser, humanEscalation⟩ := rfl
  rw [accepted, Option.some.injEq, true_and]

/-! ## Manifests -/

/-- A manifest is accepted as it is written exactly when it fits. -/
theorem fitting_Manifest [Platform] :
    AcceptsFitting Manifest.schema Manifest.toJson Manifest.Fits := by
  refine ⟨?_⟩
  intro manifest other
  obtain ⟨agentId, identity, ownership, purpose, disclosure⟩ := manifest
  obtain ⟨members, isObject, isVersion, isAgentId, isIdentity, isOwnership,
      isPurpose, isDisclosure, known⟩ :
      ∃ members, Manifest.toJson ⟨agentId, identity, ownership, purpose,
          disclosure⟩ = .object members ∧
        members.lookup (units "manifest_version") = some (.literal "1.0") ∧
        members.lookup (units "agent_id") = some (.string agentId) ∧
        members.lookup (units "identity") = some identity.toJson ∧
        members.lookup (units "ownership") = some ownership.toJson ∧
        members.lookup (units "purpose") = some purpose.toJson ∧
        members.lookup (units "disclosure") = some disclosure.toJson ∧
        unknownNames ["manifest_version", "agent_id", "identity",
          "ownership", "purpose", "disclosure"] members = [] :=
    ⟨_, rfl, rfl, rfl, rfl, rfl, rfl, rfl, rfl⟩
  have fittingAgentId : AcceptsFitting AgentId .string
      fun text => True ∧ isValidAgentId text = true :=
    fitting_string.check _ _
  unfold Manifest.schema
  rw [isObject, accepts_strictObject, if_pos known]
  simp only [Parse.accepted_seqRight_eq_some_iff,
    Parse.accepted_seq_eq_some_iff, Parse.accepted_map_eq_some_iff,
    accepted_field, isVersion, isAgentId, isIdentity, isOwnership, isPurpose,
    isDisclosure, fittingAgentId.accepts_iff, fitting_Identity.accepts_iff,
    fitting_Ownership.accepts_iff, fitting_Purpose.accepts_iff,
    fitting_Disclosure.accepts_iff, accepts_literal]
  constructor
  · rintro ⟨-, _, ⟨-, rfl⟩, _, ⟨_, ⟨⟨summary, channels⟩, rfl⟩, _,
      ⟨_, ⟨⟨operator, domain, contact⟩, rfl⟩, _,
        ⟨_, ⟨⟨name, description⟩, rfl⟩, _,
          ⟨_, ⟨⟨-, valid⟩, rfl⟩, rfl⟩, rfl⟩, rfl⟩, rfl⟩, rfl⟩
    exact ⟨⟨valid, name, description, operator, domain, contact, summary,
      channels⟩, rfl⟩
  · rintro ⟨fits, rfl⟩
    exact ⟨⟨(), trivial⟩, _, ⟨trivial, rfl⟩, _,
      ⟨_, ⟨⟨fits.summary, fits.channels⟩, rfl⟩, _,
        ⟨_, ⟨⟨fits.operator, fits.operatorDomain, fits.contact⟩, rfl⟩, _,
          ⟨_, ⟨⟨fits.name, fits.description⟩, rfl⟩, _,
            ⟨_, ⟨⟨trivial, fits.agentId⟩, rfl⟩, rfl⟩, rfl⟩, rfl⟩, rfl⟩, rfl⟩

end AgenId.Core
