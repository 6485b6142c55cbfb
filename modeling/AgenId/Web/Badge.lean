import AgenId.Web.TrustSummary

/-!
# The embedded badge

`/badge.js`: a script generated from the table of presentations, which paints
a colour and a label for the envelope it is answered.  It decides anew what
`presentEnvelopeTrust` decides.
-/

namespace AgenId.Web

open AgenId.Ecma

/-! ## The generated table -/

/-- What the script has of a presentation. -/
structure WirePresentation where
  color : JsString
  label : JsString
  deriving DecidableEq

def wire (presentation : TrustPresentation) : WirePresentation :=
  ⟨presentation.color, presentation.embedLabel⟩

/-- The table that is serialized into the script. -/
structure BadgeTable where
  levels : List (JsString × WirePresentation)
  statuses : RecognizedStatuses
  unknown : WirePresentation
  proofInvalid : WirePresentation
  unavailable : WirePresentation
  revokedColor : JsString

/-- The table of `buildScript()`. -/
def badgeTable : BadgeTable where
  levels := supportedTrustLevels.map fun level =>
    (level, wire (presentTrustLevel (some (.string level))))
  statuses := recognizedStatuses
  unknown := wire UNKNOWN_TRUST
  proofInvalid := wire PROOF_INVALID_TRUST
  unavailable := wire UNAVAILABLE_TRUST
  revokedColor := (revokedTrust (units "REVOKED")).color

/-! ## The script -/

/-- What a badge shows: a colour, a label and, when one is given, a title. -/
structure PaintedBadge where
  color : JsString
  label : JsString
  title : JsString

def paint (presentation : WirePresentation) (title : JsString) :
    PaintedBadge :=
  ⟨presentation.color, presentation.label, title⟩

/-- `value && value[name]`. -/
def andMember (value : Option Json) (name : String) : Option Json :=
  if isTruthy value then value.bind (Json.get? (units name)) else value

/-- `name || agent`, written as a text; an object may throw. -/
def titleName (agent : JsString) (name : Option Json) : Option JsString :=
  if isTruthy name then name.bind toText else some agent

/-- `operator ? " — operated by " + operator : ""`. -/
def titleOperator (operator : Option Json) : Option JsString :=
  if isTruthy operator then
    (operator.bind toText).map (units " — operated by " ++ ·)
  else
    some []

def badgeTitle (agent : JsString) (name operator : Option Json) :
    Option JsString := do
  let shown ← titleName agent name
  let operated ← titleOperator operator
  return shown ++ operated

/-- What the script has of the level of an envelope: an own property of the
table, or the unknown state. -/
def levelPresentation (table : BadgeTable) (verification : Option Json) :
    WirePresentation :=
  match andMember verification "level" with
  | some (.string level) => (table.levels.lookup level).getD table.unknown
  | _ => table.unknown

/-- What the script paints of an envelope in a healthy state; it may throw. -/
def paintChecked (table : BadgeTable) (agent : JsString) (env : Json) :
    Option PaintedBadge :=
  let proofCheck := env.get? (units "proof_check")
  match isTruthy proofCheck, proofCheck.bind (Json.get? (units "ok")) with
  | true, some (.boolean true) =>
    let manifest := env.get? (units "manifest")
    (badgeTitle agent (andMember (andMember manifest "identity") "name")
      (andMember (andMember manifest "ownership") "operator")).map
        (paint (levelPresentation table (env.get? (units "verification"))))
  | _, _ => some (paint table.proofInvalid
      (units "The operator proof for this agent does not verify."))

/-- What the script paints of the envelope it is answered; it may throw. -/
def paintEnvelope (table : BadgeTable) (agent : JsString) (env : Json) :
    Option PaintedBadge :=
  match andMember (some env) "status" with
  | some (.string status) =>
    if status ∈ table.statuses.alert then
      some (paint ⟨table.revokedColor, units "AGENID " ++ status⟩
        (units "This identity is " ++ toLowerCase status ++
          units ". Click to see the record."))
    else if status ∉ table.statuses.healthy then
      some (paint table.unavailable (units <|
        "This registry reports a lifecycle state this badge does not " ++
          "recognize. Treat it as unverified."))
    else
      paintChecked table agent env
  | _ => some (paint table.unavailable
      (units "This registry returned no lifecycle status for this identity."))

/-- What a request over HTTP comes to; the body may not be JSON. -/
inductive HttpAnswer where
  | response (status : Nat) (body : Option Json)
  | networkError

/-- `response.ok`. -/
def isOkStatus (status : Nat) : Bool :=
  200 ≤ status && status ≤ 299

/-- What the script of `/badge.js` paints for an agent, given what
`/api/resolve` answers; whatever fails is caught. -/
def badgeScript (table : BadgeTable) (agent : JsString)
    (answer : HttpAnswer) : PaintedBadge :=
  let unreachable := paint table.unavailable (units <|
    "This registry could not be reached. The identity's status is unknown, " ++
      "not disproven.")
  match answer with
  | .response status (some env) =>
    if isOkStatus status then
      (paintEnvelope table agent env).getD unreachable
    else
      unreachable
  | _ => unreachable

/-! ## One decision -/

/-- A badge shows what the table has of a presentation. -/
def PaintedBadge.Shows (painted : PaintedBadge)
    (presentation : TrustPresentation) : Prop :=
  painted.color = presentation.color ∧
    painted.label = presentation.embedLabel

/-- A value is a string or absent. -/
def TextOrAbsent (value : Option Json) : Prop :=
  ∀ found, value = some found → ∃ text, found = .string text

/-- A value is absent or can be written as a text. -/
def Writable (value : Option Json) : Prop :=
  ∀ found, value = some found → (toText found).isSome

theorem TextOrAbsent.writable
    {value : Option Json} (isText : TextOrAbsent value) : Writable value := by
  intro found isFound
  obtain ⟨text, rfl⟩ := isText found isFound
  rw [toText]
  rfl

/-- `envelope.manifest.identity.name`, where it is one. -/
def envelopeName (env : Json) : Option Json :=
  ((env.get? (units "manifest")).bind (Json.get? (units "identity"))).bind
    (Json.get? (units "name"))

/-- `envelope.manifest.ownership.operator`, where it is one. -/
def envelopeOperator (env : Json) : Option Json :=
  ((env.get? (units "manifest")).bind (Json.get? (units "ownership"))).bind
    (Json.get? (units "operator"))

theorem andMember_twice (value : Option Json) (first second : String) :
    andMember (andMember value first) second =
        (value.bind (Json.get? (units first))).bind
          (Json.get? (units second)) ∨
      isTruthy (andMember (andMember value first) second) = false := by
  by_cases isOuter : isTruthy value = true
  · have inner : andMember value first =
        value.bind (Json.get? (units first)) := if_pos isOuter
    rw [inner]
    by_cases isInner :
        isTruthy (value.bind (Json.get? (units first))) = true
    · exact Or.inl (if_pos isInner)
    · right
      rw [andMember, if_neg isInner]
      exact Bool.eq_false_of_not_eq_true isInner
  · have inner : andMember value first = value := if_neg isOuter
    right
    rw [inner, andMember, if_neg isOuter]
    exact Bool.eq_false_of_not_eq_true isOuter

theorem Writable.text_of_shown
    {value found : Option Json} (writable : Writable found)
    (isFound : value = found ∨ isTruthy value = false)
    (isShown : isTruthy value = true) :
    ∃ text, value.bind toText = some text := by
  rcases isFound with rfl | isHidden
  · cases value with
    | none => cases isShown
    | some json =>
        exact Option.isSome_iff_exists.mp (writable json rfl)
  · rw [isShown] at isHidden
    cases isHidden

/-- Names that can be written make a title. -/
theorem badgeTitle_isSome
    {agent : JsString} {name operator foundName foundOperator : Option Json}
    (isName : Writable foundName)
    (nameFound : name = foundName ∨ isTruthy name = false)
    (isOperator : Writable foundOperator)
    (operatorFound : operator = foundOperator ∨ isTruthy operator = false) :
    ∃ title, badgeTitle agent name operator = some title := by
  have isShown : ∃ shown, titleName agent name = some shown := by
    unfold titleName
    by_cases named : isTruthy name = true
    · rw [if_pos named]
      exact isName.text_of_shown nameFound named
    · exact ⟨agent, if_neg named⟩
  have isOperated : ∃ operated, titleOperator operator = some operated := by
    unfold titleOperator
    by_cases known : isTruthy operator = true
    · obtain ⟨text, isText⟩ := isOperator.text_of_shown operatorFound known
      rw [if_pos known, isText]
      exact ⟨_, rfl⟩
    · exact ⟨[], if_neg known⟩
  obtain ⟨shown, isShown⟩ := isShown
  obtain ⟨operated, isOperated⟩ := isOperated
  refine ⟨shown ++ operated, ?_⟩
  rw [badgeTitle, isShown, isOperated]
  rfl

/-- The table in the script has the levels of the canonical one. -/
theorem badgeTable_lookup (level : JsString) :
    (badgeTable.levels.lookup level).getD badgeTable.unknown =
      wire (presentTrustLevel (some (.string level))) := by
  have isPresented : LEVELS.all (fun entry =>
      presentTrustLevel (some (.string entry.1)) = entry.2) = true := by
    decide
  have sameTable : badgeTable.levels =
      LEVELS.map fun entry => (entry.1, wire entry.2) := by
    unfold badgeTable supportedTrustLevels
    rw [List.map_map]
    apply List.map_congr_left
    intro entry isEntry
    have same := of_decide_eq_true
      (List.all_eq_true.mp isPresented entry isEntry)
    exact congrArg (fun presented => (entry.1, wire presented)) same
  rw [sameTable, Library.lookup_map_value]
  exact Option.getD_map wire UNKNOWN_TRUST (LEVELS.lookup level)

theorem wire_shows
    {presentation : TrustPresentation} {title : JsString} :
    (paint (wire presentation) title).Shows presentation :=
  ⟨rfl, rfl⟩

/-- The script shows what is no object as unavailable. -/
theorem paintEnvelope_other
    {agent : JsString} {env : Json}
    (noObject : ∀ members, env ≠ .object members) :
    ∃ painted, paintEnvelope badgeTable agent env = some painted ∧
      painted.Shows UNAVAILABLE_TRUST := by
  have noMember : env.get? (units "status") = none := by
    cases env with
    | object members => exact absurd rfl (noObject members)
    | _ => rfl
  by_cases present : isTruthy (some env) = true
  · have noStatus : andMember (some env) "status" = none := by
      rw [andMember, if_pos present]
      exact noMember
    rw [paintEnvelope, noStatus]
    exact ⟨_, rfl, wire_shows⟩
  · have itself : andMember (some env) "status" = some env := if_neg present
    rw [paintEnvelope, itself]
    cases env with
    | string status =>
        cases status with
        | nil => exact ⟨_, rfl, wire_shows⟩
        | cons unit rest => exact absurd rfl present
    | _ => exact ⟨_, rfl, wire_shows⟩

/-- What the script makes of the level of an envelope. -/
theorem levelPresentation_eq (verification : Option Json) :
    levelPresentation badgeTable verification =
      wire (presentTrustLevel
        (verification.bind (Json.get? (units "level")))) := by
  unfold levelPresentation
  by_cases present : isTruthy verification = true
  · have isMember : andMember verification "level" =
        verification.bind (Json.get? (units "level")) := if_pos present
    rw [isMember]
    cases verification.bind (Json.get? (units "level")) with
    | none => rfl
    | some found =>
        cases found with
        | string level => exact badgeTable_lookup level
        | _ => rfl
  · have itself : andMember verification "level" = verification :=
      if_neg present
    rw [itself]
    cases verification with
    | none => rfl
    | some found =>
        cases found with
        | string level =>
            cases level with
            | nil => exact badgeTable_lookup []
            | cons unit rest => exact absurd rfl present
        | array items => exact absurd rfl present
        | object members => exact absurd rfl present
        | _ => rfl

/-- A member is read of an object only. -/
theorem isTruthy_of_member
    {value : Option Json} {name : JsString} {found : Json}
    (isMember : value.bind (Json.get? name) = some found) :
    isTruthy value = true := by
  obtain ⟨json, rfl, isFound⟩ := Option.bind_eq_some_iff.mp isMember
  cases json with
  | object members => rfl
  | _ => cases isFound

/-- What the script paints of an envelope in a healthy state. -/
theorem paintChecked_shows
    {agent : JsString} {members : Members}
    (isName : Writable (envelopeName (.object members)))
    (isOperator : Writable (envelopeOperator (.object members))) :
    ∃ painted, paintChecked badgeTable agent (.object members) =
        some painted ∧
      painted.Shows (match (members.lookup (units "proof_check")).bind
          (Json.get? (units "ok")) with
        | some (.boolean true) => presentTrustLevel
            ((members.lookup (units "verification")).bind
              (Json.get? (units "level")))
        | _ => PROOF_INVALID_TRUST) := by
  have isCheck : (Json.object members).get? (units "proof_check") =
      members.lookup (units "proof_check") := rfl
  have isVerification : (Json.object members).get? (units "verification") =
      members.lookup (units "verification") := rfl
  obtain ⟨title, isTitle⟩ := @badgeTitle_isSome agent _ _ _ _ isName
    (andMember_twice _ "identity" "name") isOperator
    (andMember_twice _ "ownership" "operator")
  unfold paintChecked
  rw [isCheck, isVerification]
  dsimp only
  rw [isTitle, levelPresentation_eq]
  cases isOk : (members.lookup (units "proof_check")).bind
      (Json.get? (units "ok")) with
  | none =>
      cases isTruthy (members.lookup (units "proof_check")) with
      | true => exact ⟨_, rfl, wire_shows⟩
      | false => exact ⟨_, rfl, wire_shows⟩
  | some found =>
      rw [isTruthy_of_member isOk]
      cases found with
      | boolean value =>
          cases value with
          | true => exact ⟨_, rfl, wire_shows⟩
          | false => exact ⟨_, rfl, wire_shows⟩
      | _ => exact ⟨_, rfl, wire_shows⟩

/-- For an envelope whose names can be written, the script paints what the
canonical module presents. -/
theorem paintEnvelope_shows
    {agent : JsString} {env : Json}
    (isName : Writable (envelopeName env))
    (isOperator : Writable (envelopeOperator env)) :
    ∃ painted, paintEnvelope badgeTable agent env = some painted ∧
      painted.Shows (presentEnvelopeTrust (some env)) := by
  cases env with
  | object members =>
      have isStatus : andMember (some (.object members)) "status" =
          members.lookup (units "status") := rfl
      have alerts : badgeTable.statuses.alert = ALERT_STATUSES := rfl
      have healthy : badgeTable.statuses.healthy = HEALTHY_STATUSES := rfl
      rw [paintEnvelope, isStatus, alerts, healthy, presentEnvelopeTrust]
      cases members.lookup (units "status") with
      | none => exact ⟨_, rfl, wire_shows⟩
      | some found =>
          cases found with
          | string status =>
              dsimp only
              by_cases isAlert : status ∈ ALERT_STATUSES
              · rw [if_pos isAlert, if_pos isAlert]
                exact ⟨_, rfl, rfl, rfl⟩
              rw [if_neg isAlert, if_neg isAlert]
              by_cases isHealthy : status ∈ HEALTHY_STATUSES
              · rw [if_neg (not_not.mpr isHealthy),
                  if_neg (not_not.mpr isHealthy)]
                exact paintChecked_shows isName isOperator
              · rw [if_pos isHealthy, if_pos isHealthy]
                exact ⟨_, rfl, wire_shows⟩
          | _ => exact ⟨_, rfl, wire_shows⟩
  | _ =>
      apply paintEnvelope_other
      intro members isObject
      cases isObject

/-! ## Verified presentations -/

/-- The levels that stand for an independent verification. -/
def VERIFIED_LEVELS : List JsString :=
  [units "L2_DOMAIN_VERIFIED", units "L3_ORGANIZATION_VERIFIED",
    units "L4_DEPLOYMENT_VERIFIED"]

/-- An envelope states a healthy status, a proof that checks and a verified
level. -/
structure StatesVerified (env : Json) : Prop where
  healthy : ∃ status ∈ HEALTHY_STATUSES,
    env.get? (units "status") = some (.string status)
  proofChecks : (env.get? (units "proof_check")).bind
    (Json.get? (units "ok")) = some (.boolean true)
  isVerified : ∃ level ∈ VERIFIED_LEVELS,
    (env.get? (units "verification")).bind (Json.get? (units "level")) =
      some (.string level)

/-- Only a verified level is presented as verified or in mint. -/
theorem level_of_mint
    {found : Option Json}
    (isMint : (presentTrustLevel found).verified = true ∨
      (presentTrustLevel found).color = TRUST_COLORS.mint) :
    ∃ level ∈ VERIFIED_LEVELS, found = some (.string level) := by
  have only : LEVELS.all (fun entry =>
      decide (entry.2.verified = true ∨ entry.2.color = TRUST_COLORS.mint →
        entry.1 ∈ VERIFIED_LEVELS)) = true := by
    decide
  have unknown : ¬ (UNKNOWN_TRUST.verified = true ∨
      UNKNOWN_TRUST.color = TRUST_COLORS.mint) := by
    decide
  unfold presentTrustLevel at isMint
  split at isMint
  · rename_i level
    refine ⟨level, ?_, rfl⟩
    cases isEntry : LEVELS.lookup level with
    | none =>
        rw [isEntry] at isMint
        exact absurd isMint unknown
    | some presentation =>
        rw [isEntry] at isMint
        have holds := List.all_eq_true.mp only _
          (Library.mem_of_lookup isEntry)
        exact of_decide_eq_true holds isMint
  · exact absurd isMint unknown

theorem statesVerified_of_mint
    {env : Json}
    (isMint : (presentEnvelopeTrust (some env)).verified = true ∨
      (presentEnvelopeTrust (some env)).color = TRUST_COLORS.mint) :
    StatesVerified env := by
  have unavailable : ¬ (UNAVAILABLE_TRUST.verified = true ∨
      UNAVAILABLE_TRUST.color = TRUST_COLORS.mint) := by
    decide
  have invalid : ¬ (PROOF_INVALID_TRUST.verified = true ∨
      PROOF_INVALID_TRUST.color = TRUST_COLORS.mint) := by
    decide
  have alert : ∀ status, ¬ ((revokedTrust status).verified = true ∨
      (revokedTrust status).color = TRUST_COLORS.mint) := by
    intro status isShown
    have notMint : TRUST_COLORS.red ≠ TRUST_COLORS.mint := by decide
    rcases isShown with isVerified | isMint
    · cases isVerified
    · exact notMint isMint
  cases env with
  | object members =>
      unfold presentEnvelopeTrust at isMint
      dsimp only at isMint
      split at isMint
      · rename_i status isStatus
        by_cases isAlert : status ∈ ALERT_STATUSES
        · rw [if_pos isAlert] at isMint
          exact absurd isMint (alert status)
        rw [if_neg isAlert] at isMint
        by_cases isHealthy : status ∈ HEALTHY_STATUSES
        · rw [if_neg (not_not.mpr isHealthy)] at isMint
          split at isMint
          · rename_i isOk
            exact ⟨⟨status, isHealthy, isStatus⟩, isOk, level_of_mint isMint⟩
          · exact absurd isMint invalid
        · rw [if_pos isHealthy] at isMint
          exact absurd isMint unavailable
      · exact absurd isMint unavailable
  | _ => exact absurd isMint unavailable

/-- For every JSON value that the resolver answers as an envelope, with names
that are strings or absent, the script paints the colour and the label of the
canonical presentation; and a verified presentation or the verified colour
comes only of a healthy status, a proof that checks and a verified level. -/
theorem badge_agrees
    {env : Json} (isName : TextOrAbsent (envelopeName env))
    (isOperator : TextOrAbsent (envelopeOperator env))
    {status : Nat} (isOk : isOkStatus status = true) (agent : JsString) :
    let presentation := presentEnvelopeTrust (some env)
    let painted := badgeScript badgeTable agent (.response status (some env))
    painted.color = presentation.color ∧
      painted.label = presentation.embedLabel ∧
      (presentation.verified = true ∨
          presentation.color = TRUST_COLORS.mint ∨
          painted.color = TRUST_COLORS.mint →
        StatesVerified env) := by
  intro presentation painted
  obtain ⟨drawn, isDrawn, sameColor, sameLabel⟩ :=
    @paintEnvelope_shows agent env isName.writable isOperator.writable
  have isPainted : painted = drawn := by
    simp only [painted, badgeScript, isOk, isDrawn, if_true,
      Option.getD_some]
  rw [isPainted]
  refine ⟨sameColor, sameLabel, ?_⟩
  intro isVerified
  apply statesVerified_of_mint
  rcases isVerified with isVerified | isMint | isMint
  · exact Or.inl isVerified
  · exact Or.inr isMint
  · exact Or.inr (sameColor ▸ isMint)

/-- An envelope of a verified agent. -/
def sampleEnvelope : Json :=
  .record
    [("status", some (.literal "ACTIVE")),
      ("proof_check", some (.record [("ok", some (.boolean true))])),
      ("verification",
        some (.record [("level", some (.literal "L2_DOMAIN_VERIFIED"))])),
      ("manifest", some (.record
        [("identity", some (.record [("name", some (.literal "Ada"))]))]))]

theorem badge_agrees_sample :
    (badgeScript badgeTable (units "agenid:01J8Z3K3F2QZ9X6V7R4T8N2W5Y")
      (.response 200 (some sampleEnvelope))).label =
        units "AGENID VERIFIED · L2" ∧
      StatesVerified sampleEnvelope := by
  have isName : TextOrAbsent (envelopeName sampleEnvelope) := by
    intro found isFound
    have isAda : envelopeName sampleEnvelope = some (.literal "Ada") := rfl
    rw [isAda] at isFound
    exact ⟨_, (Option.some.inj isFound).symm⟩
  have isOperator : TextOrAbsent (envelopeOperator sampleEnvelope) := by
    intro found isFound
    cases isFound
  obtain ⟨-, sameLabel, verified⟩ := badge_agrees isName isOperator
    (by decide : isOkStatus 200 = true) (units "agenid:01J8Z3K3F2QZ9X6V7R4T8N2W5Y")
  have isVerified :
      (presentEnvelopeTrust (some sampleEnvelope)).verified = true := by
    decide
  refine ⟨sameLabel.trans ?_, verified (Or.inl isVerified)⟩
  decide

end AgenId.Web
