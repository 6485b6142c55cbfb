import AgenId.Core.Platform

/-!
# The clock of a registration

`registration-time.ts`: the instant at which the proof of a registration is
evaluated.  A proof made a little ahead of the registry's clock is evaluated
at its own instant, one made too far ahead is refused, and any other at the
registry's clock.
-/

namespace AgenId.Registry

open AgenId.Core
open AgenId.Ecma

def MAX_FORWARD_SKEW_MS : Int := 120000

/-- `RegistrationTime`; a refusal has the code `clock_skew_too_large`. -/
inductive RegistrationTime where
  | ok (now registeredAt : JsString)
  | fail (message : JsString)
  deriving DecidableEq

/-- The text of a refusal; `Math.round` rounds a half up. -/
def skewMessage (aheadBy : Int) : JsString :=
  units "proof.created_at is " ++ decimalInt ((aheadBy + 500) / 1000) ++
    units "s ahead of this registry's clock (limit " ++
    decimalInt (MAX_FORWARD_SKEW_MS / 1000) ++
    units "s). Check the signing machine's system time."

variable [Platform]

/-- `registrationTime(proofCreatedAt, serverNow)`, on the time value of the
date `serverNow`; without one, `serverNow.toISOString()` throws. -/
def registrationTime (proofCreatedAt : JsString) :
    Option Int → Option RegistrationTime
  | none => none
  | some time =>
    let registeredAt := isoString time
    match dateParse proofCreatedAt with
    | none => some (.ok registeredAt registeredAt)
    | some created =>
      let aheadBy := created - time
      if MAX_FORWARD_SKEW_MS < aheadBy then
        some (.fail (skewMessage aheadBy))
      else
        some (.ok (if 0 < aheadBy then proofCreatedAt else registeredAt)
          registeredAt)

theorem registrationTime_registeredAt
    {proofCreatedAt now registeredAt : JsString} {time : Int}
    (isOk : registrationTime proofCreatedAt (some time) =
      some (.ok now registeredAt)) :
    registeredAt = isoString time := by
  simp only [registrationTime] at isOk
  split at isOk
  · exact (RegistrationTime.ok.inj (Option.some.inj isOk)).2.symm
  · split at isOk
    · simp at isOk
    · exact (RegistrationTime.ok.inj (Option.some.inj isOk)).2.symm

/-- A proof is evaluated at the registry's clock, or at its own instant when
that is ahead of the clock. -/
theorem registrationTime_now
    {proofCreatedAt now registeredAt : JsString} {time : Int}
    (isOk : registrationTime proofCreatedAt (some time) =
      some (.ok now registeredAt)) :
    now = if dateLess (some time) (dateParse proofCreatedAt) then
      proofCreatedAt else registeredAt := by
  cases isCreated : dateParse proofCreatedAt with
  | none =>
      simp only [registrationTime, isCreated] at isOk
      obtain ⟨sameNow, sameRegistered⟩ :=
        RegistrationTime.ok.inj (Option.some.inj isOk)
      rw [dateLess_none_right, if_neg Bool.false_ne_true, ← sameNow,
        sameRegistered]
  | some created =>
      simp only [registrationTime, isCreated] at isOk
      split at isOk
      · simp at isOk
      · obtain ⟨sameNow, sameRegistered⟩ :=
          RegistrationTime.ok.inj (Option.some.inj isOk)
        rw [← sameNow, ← sameRegistered]
        simp only [Int.sub_pos, dateLess_some, decide_eq_true_eq]

end AgenId.Registry
