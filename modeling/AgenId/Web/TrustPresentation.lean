import AgenId.Registry.Envelope

/-!
# The presentation of trust

`trust-presentation.ts`: what a person is shown of an envelope.  An envelope
or a status that is not recognized shows as unavailable, a suspended or
revoked agent and a proof that does not check as alerts, and a level only if
it is one of the table.
-/

namespace AgenId.Web

open AgenId.Core
open AgenId.Ecma
open AgenId.Registry

inductive TrustTone where
  | verified | declared | neutral | alert
  deriving DecidableEq

structure TrustPresentation where
  level : Option JsString
  verified : Bool
  tone : TrustTone
  color : JsString
  badgeLabel : JsString
  embedLabel : JsString
  cardLabel : JsString
  pillLabel : JsString
  summary : JsString
  deriving DecidableEq

namespace TRUST_COLORS

def slate : JsString := units "#94a3b8"
def amber : JsString := units "#f59e0b"
def mint : JsString := units "#10b981"
def red : JsString := units "#ef4444"

end TRUST_COLORS

def LEVELS : List (JsString × TrustPresentation) :=
  [(units "L1_REGISTERED",
      { level := some (units "L1_REGISTERED")
        verified := false
        tone := .declared
        color := TRUST_COLORS.amber
        badgeLabel := units "REGISTERED"
        embedLabel := units "AGENID REGISTERED"
        cardLabel := units "L1 · Registered"
        pillLabel := units "REGISTERED · not yet verified"
        summary := units <| "\x7bname\x7d — registered by " ++
          "\x7boperator\x7d. Self-declared, not independently verified." }),
    (units "L2_DOMAIN_VERIFIED",
      { level := some (units "L2_DOMAIN_VERIFIED")
        verified := true
        tone := .verified
        color := TRUST_COLORS.mint
        badgeLabel := units "VERIFIED L2"
        embedLabel := units "AGENID VERIFIED · L2"
        cardLabel := units "L2 · Domain Verified"
        pillLabel := units "AGENID VERIFIED"
        summary := units <| "\x7bname\x7d — operated by " ++
          "\x7boperator\x7d. Domain control verified by an authority." }),
    (units "L3_ORGANIZATION_VERIFIED",
      { level := some (units "L3_ORGANIZATION_VERIFIED")
        verified := true
        tone := .verified
        color := TRUST_COLORS.mint
        badgeLabel := units "VERIFIED L3"
        embedLabel := units "AGENID VERIFIED · L3"
        cardLabel := units "L3 · Organization Verified"
        pillLabel := units "AGENID VERIFIED"
        summary := units <| "\x7bname\x7d — operated by " ++
          "\x7boperator\x7d. Legal entity verified by an authority." }),
    (units "L4_DEPLOYMENT_VERIFIED",
      { level := some (units "L4_DEPLOYMENT_VERIFIED")
        verified := true
        tone := .verified
        color := TRUST_COLORS.mint
        badgeLabel := units "VERIFIED L4"
        embedLabel := units "AGENID VERIFIED · L4"
        cardLabel := units "L4 · Deployment Verified"
        pillLabel := units "AGENID VERIFIED"
        summary := units <| "\x7bname\x7d — operated by " ++
          "\x7boperator\x7d. Deployment verified by an authority." })]

def HEALTHY_STATUSES : List JsString :=
  [units "ACTIVE", units "CHANGED", units "STALE"]

def ALERT_STATUSES : List JsString :=
  [units "SUSPENDED", units "REVOKED"]

def UNKNOWN_TRUST : TrustPresentation where
  level := none
  verified := false
  tone := .neutral
  color := TRUST_COLORS.slate
  badgeLabel := units "UNVERIFIED"
  embedLabel := units "AGENID · UNVERIFIED"
  cardLabel := units "Unrecognized verification state"
  pillLabel := units "NOT VERIFIED"
  summary := units <| "\x7bname\x7d — this registry reports a " ++
    "verification state this page does not recognize. Treat it as " ++
    "unverified."

def NOT_REGISTERED_TRUST : TrustPresentation where
  level := none
  verified := false
  tone := .neutral
  color := TRUST_COLORS.slate
  badgeLabel := units "NOT REGISTERED"
  embedLabel := units "AGENID · NOT REGISTERED"
  cardLabel := units "Not registered"
  pillLabel := units "NOT REGISTERED"
  summary := units "\x7bname\x7d has no record in this registry."

def MALFORMED_ID_TRUST : TrustPresentation where
  level := none
  verified := false
  tone := .neutral
  color := TRUST_COLORS.slate
  badgeLabel := units "NOT AN AGENID"
  embedLabel := units "AGENID · NOT AN AGENID"
  cardLabel := units "Not an AgenID"
  pillLabel := units "NOT AN AGENID"
  summary := units "Not a well-formed agenid:<ULID>."

def UNAVAILABLE_TRUST : TrustPresentation where
  level := none
  verified := false
  tone := .neutral
  color := TRUST_COLORS.slate
  badgeLabel := units "UNAVAILABLE"
  embedLabel := units "AGENID · unavailable"
  cardLabel := units "Registry unavailable"
  pillLabel := units "UNAVAILABLE"
  summary := units <| "This registry could not be reached. The " ++
    "identity's status is unknown, not disproven."

def PROOF_INVALID_TRUST : TrustPresentation where
  level := none
  verified := false
  tone := .alert
  color := TRUST_COLORS.red
  badgeLabel := units "PROOF INVALID"
  embedLabel := units "AGENID PROOF INVALID"
  cardLabel := units "Proof invalid"
  pillLabel := units "PROOF INVALID"
  summary := units "The operator proof for this agent does not verify."

/-- `status.toLowerCase()` on the capital letters of a status. -/
def toLowerCase (status : JsString) : JsString :=
  status.map fun unit => if within 'A' 'Z' unit then unit + 0x20 else unit

def revokedTrust (status : JsString) : TrustPresentation where
  level := none
  verified := false
  tone := .alert
  color := TRUST_COLORS.red
  badgeLabel := status
  embedLabel := units "AGENID " ++ status
  cardLabel := status
  pillLabel := status
  summary := units "This identity is " ++ toLowerCase status ++ units "."

def presentTrustLevel : Option Json → TrustPresentation
  | some (.string level) => (LEVELS.lookup level).getD UNKNOWN_TRUST
  | _ => UNKNOWN_TRUST

/-- The statuses that are recognized. -/
structure RecognizedStatuses where
  healthy : List JsString
  alert : List JsString

def recognizedStatuses : RecognizedStatuses where
  healthy := HEALTHY_STATUSES
  alert := ALERT_STATUSES

def supportedTrustLevels : List JsString :=
  LEVELS.map Prod.fst

def presentEnvelopeTrust : Option Json → TrustPresentation
  | some (.object env) =>
    match env.lookup (units "status") with
    | some (.string status) =>
      if status ∈ ALERT_STATUSES then
        revokedTrust status
      else if status ∉ HEALTHY_STATUSES then
        UNAVAILABLE_TRUST
      else
        match (env.lookup (units "proof_check")).bind
            (Json.get? (units "ok")) with
        | some (.boolean true) => presentTrustLevel
            ((env.lookup (units "verification")).bind
              (Json.get? (units "level")))
        | _ => PROOF_INVALID_TRUST
    | _ => UNAVAILABLE_TRUST
  | _ => UNAVAILABLE_TRUST

/-! ## Envelopes -/

/-- The check of a proof as a JSON value. -/
def checkJson : Check → Json
  | .ok => .record [("ok", some (.boolean true))]
  | .failed code =>
    .record [("ok", some (.boolean false)), ("code", some (.literal code))]

/-- The members of an envelope that its presentation reads. -/
def presented (envelope : ResolutionEnvelope) : Json :=
  .record
    [("status", some (.literal envelope.status.text)),
      ("proof_check", some (checkJson envelope.proofCheck)),
      ("verification", some (.record
        [("level", some (.literal envelope.level.text))]))]

theorem presentTrustLevel_ne_proofInvalid (level : VerificationLevel) :
    presentTrustLevel (some (.literal level.text)) ≠ PROOF_INVALID_TRUST := by
  cases level <;> decide

theorem presentEnvelopeTrust_presented (envelope : ResolutionEnvelope) :
    presentEnvelopeTrust (some (presented envelope)) =
      if units envelope.status.text ∈ ALERT_STATUSES then
        revokedTrust (units envelope.status.text)
      else if units envelope.status.text ∉ HEALTHY_STATUSES then
        UNAVAILABLE_TRUST
      else if envelope.proofCheck = .ok then
        presentTrustLevel (some (.literal envelope.level.text))
      else
        PROOF_INVALID_TRUST := by
  let members : Members :=
    [(units "status", .literal envelope.status.text),
      (units "proof_check", checkJson envelope.proofCheck),
      (units "verification",
        .object [(units "level", .literal envelope.level.text)])]
  have isObject : presented envelope = .object members := rfl
  have isStatus : members.lookup (units "status") =
      some (.literal envelope.status.text) := rfl
  have isCheck : members.lookup (units "proof_check") =
      some (checkJson envelope.proofCheck) := rfl
  have isLevel : (members.lookup (units "verification")).bind
      (Json.get? (units "level")) = some (.literal envelope.level.text) := rfl
  rw [isObject]
  simp only [presentEnvelopeTrust, isStatus, isCheck, isLevel]
  cases envelope.proofCheck with
  | ok => rfl
  | failed code => rfl

theorem alert_of_mem {status : JsString} (isAlert : status ∈ ALERT_STATUSES) :
    status ∉ HEALTHY_STATUSES ∧ revokedTrust status ≠ PROOF_INVALID_TRUST := by
  rw [ALERT_STATUSES, List.mem_cons, List.mem_singleton] at isAlert
  rcases isAlert with rfl | rfl <;> decide

/-- An envelope shows an invalid proof exactly when its agent is in a healthy
state and its proof does not check. -/
theorem presentEnvelopeTrust_eq_proofInvalid_iff
    (envelope : ResolutionEnvelope) :
    presentEnvelopeTrust (some (presented envelope)) = PROOF_INVALID_TRUST ↔
      units envelope.status.text ∈ HEALTHY_STATUSES ∧
        envelope.proofCheck ≠ .ok := by
  rw [presentEnvelopeTrust_presented]
  by_cases isAlert : units envelope.status.text ∈ ALERT_STATUSES
  · obtain ⟨unhealthy, differs⟩ := alert_of_mem isAlert
    simp [isAlert, unhealthy, differs]
  rw [if_neg isAlert]
  by_cases isHealthy : units envelope.status.text ∈ HEALTHY_STATUSES
  · rw [if_neg (not_not.mpr isHealthy)]
    by_cases passes : envelope.proofCheck = .ok
    · have differs := presentTrustLevel_ne_proofInvalid envelope.level
      simp [passes, differs]
    · simp [passes, isHealthy]
  · have differs : UNAVAILABLE_TRUST ≠ PROOF_INVALID_TRUST := by decide
    simp [isHealthy, differs]

end AgenId.Web
