import AgenId.Web.RateCounters
import AgenId.Web.RateLimit

/-!
# Both layers of the limiter

`checkRateLimit` on the instances of a deployment, which count in their own
memories and share the durable counters.  A call on an instance is refused by
its memory, or decided by the counters, or, when these fail, allowed.
-/

namespace AgenId.Web

open AgenId.Ecma
open AgenId.Library

/-! ## Calls -/

/-- A call of `checkRateLimit` on one of the instances, and whether the
durable layer is healthy at it. -/
structure ServedCall where
  host : ℕ
  policy : RateLimitPolicy
  subject : JsString
  now : ℤ
  sweep : Bool
  healthy : Bool
  failure : JsString

namespace ServedCall

variable (call : ServedCall)

def bucket : JsString := bucketOf call.policy call.subject

/-- `rate_limit_hit` as the client calls it; the arguments must be of type
`integer`, and the instant is one of whole milliseconds. -/
def hitCounters (bucket : JsString) (policy : RateLimitPolicy) (now : ℤ)
    (counters : RateLimitCounters) :
    Option RateLimitRow × RateLimitCounters :=
  if policy.windowSeconds ≤ maxInteger ∧ policy.limit ≤ maxInteger then
    rateLimitHit bucket (.ofNat policy.windowSeconds) (.ofNat policy.limit)
      (now * 1000) counters
  else
    (none, counters)

/-- A row as the client reads it, with the reset in milliseconds. -/
def readRow (row : RateLimitRow) : RpcRow :=
  ⟨row.allowed, row.hits, some (row.resetAt.fdiv 1000)⟩

/-- How the durable layer answers during a call. -/
def handle : Program.Handler DurableCall.Reply RateLimitCounters
  | .hit bucket policy (some now), counters =>
    if call.healthy then
      match hitCounters bucket policy now counters with
      | (none, after) => (.error call.failure, after)
      | (some row, after) => (.ok (some (readRow row)), after)
    else
      (.error call.failure, counters)
  | .hit _ _ none, counters => (.error call.failure, counters)
  | .sweep olderThan, counters =>
    if call.healthy then
      (.ok (), rateLimitSweep (olderThan * 1000) counters)
    else
      (.error call.failure, counters)

end ServedCall

/-- The memories of the instances, and the durable counters. -/
structure Fleet where
  memories : ℕ → LimiterMemory
  counters : RateLimitCounters

/-- A deployment that was not called. -/
def Fleet.start : Fleet := ⟨fun _ => .empty, .empty⟩

/-- A deployment whose instance remembers something else. -/
def Fleet.remember (fleet : Fleet) (host : ℕ) (memory : LimiterMemory) :
    ℕ → LimiterMemory :=
  Function.update fleet.memories host memory

/-- The decision on a call, and the deployment after it. -/
def ServedCall.serve (call : ServedCall) (fleet : Fleet) :
    RateLimitDecision × Fleet :=
  let checked := checkRateLimit call.policy call.subject (some call.now)
    call.sweep (fleet.memories call.host)
  let ended := checked.1.run call.handle fleet.counters
  (ended.1, ⟨fleet.remember call.host checked.2, ended.2⟩)

/-- The deployment after calls one after another. -/
def serveAll (calls : List ServedCall) (fleet : Fleet) : Fleet :=
  calls.foldl (fun fleet call => (call.serve fleet).2) fleet

/-! ## What a call does -/

variable {call : ServedCall} {fleet : Fleet}

/-- What the memory of the instance answers to a call. -/
def ServedCall.remembered (call : ServedCall) (fleet : Fleet) :
    Bool × LimiterMemory :=
  memoryHit call.bucket call.policy (some call.now)
    (fleet.memories call.host)

/-- The counters after a sweep that a call may make. -/
def MaySweep (call : ServedCall) (before after : RateLimitCounters) : Prop :=
  after = before ∨
    after = rateLimitSweep ((call.now - SWEEP_RETENTION_MS) * 1000) before

/-- The counters answer a call with a row. -/
structure Answers (call : ServedCall) (fleet : Fleet) (row : RateLimitRow)
    (after : RateLimitCounters) : Prop where
  healthy : call.healthy = true
  isHit : ServedCall.hitCounters call.bucket call.policy call.now
    fleet.counters = (some row, after)

/-- A call that the counters do not answer leaves them. -/
theorem hitCounters_fails
    {bucket : JsString} {policy : RateLimitPolicy} {now : ℤ}
    {counters after : RateLimitCounters}
    (fails : ServedCall.hitCounters bucket policy now counters =
      (none, after)) :
    after = counters := by
  unfold ServedCall.hitCounters rateLimitHit at fails
  split at fails
  · split at fails
    · exact (Prod.mk.inj fails).2.symm
    · dsimp only at fails
      split at fails
      · exact (Prod.mk.inj fails).2.symm
      · cases (Prod.mk.inj fails).1
  · exact (Prod.mk.inj fails).2.symm

/-- A sweep ends without an error, whether it reaches the counters or not. -/
theorem sweepExpired_run
    (healthy : call.healthy = true) (counted : RateLimitCounters) :
    ∃ swept, MaySweep call counted swept ∧
      (sweepExpired (some call.now)).run call.handle counted =
        ((), swept) := by
  unfold sweepExpired
  dsimp only
  by_cases inRange : (call.now - SWEEP_RETENTION_MS).natAbs ≤ maxTime.natAbs
  · refine ⟨_, Or.inr rfl, ?_⟩
    rw [if_pos inRange, Program.perform_bind, Program.run_call]
    simp only [ServedCall.handle, healthy, if_true]
    rfl
  · refine ⟨counted, Or.inl rfl, ?_⟩
    rw [if_neg inRange]
    rfl

/-- What a hit of the counters does, with the sweep that may follow it. -/
theorem durableHit_cases
    (call : ServedCall) (fleet : Fleet) :
    let ended := (durableHit call.bucket call.policy (some call.now)
      call.sweep).run call.handle fleet.counters
    ((∀ row after, ¬ Answers call fleet row after) ∧
        ∃ message, ended = (.error message, fleet.counters)) ∨
      ∃ row counted swept, Answers call fleet row counted ∧
        MaySweep call counted swept ∧
        ended = (.ok ⟨row.allowed, row.hits,
          secondsUntil (some (row.resetAt.fdiv 1000)) (some call.now)⟩,
            swept) := by
  dsimp only
  unfold durableHit
  rw [Program.perform_bind, Program.run_call]
  cases isHealthy : call.healthy with
  | false =>
      left
      refine ⟨?_, call.failure, ?_⟩
      · intro row after answers
        have healthy := answers.healthy
        rw [isHealthy] at healthy
        cases healthy
      · simp [ServedCall.handle, isHealthy]
  | true =>
      rcases isHit : ServedCall.hitCounters call.bucket call.policy call.now
        fleet.counters with ⟨found, counted⟩
      cases found with
      | none =>
          left
          refine ⟨?_, call.failure, ?_⟩
          · intro row after answers
            have answered := answers.isHit
            rw [isHit] at answered
            cases (Prod.mk.inj answered).1
          · simp [ServedCall.handle, isHealthy, isHit,
              hitCounters_fails isHit]
      | some row =>
          right
          simp only [ServedCall.handle, isHealthy, isHit, if_true]
          cases isSweep : call.sweep with
          | false =>
              exact ⟨row, counted, counted, ⟨isHealthy, isHit⟩, Or.inl rfl,
                rfl⟩
          | true =>
              obtain ⟨swept, maySweep, isSwept⟩ :=
                sweepExpired_run isHealthy counted
              refine ⟨row, counted, swept, ⟨isHealthy, isHit⟩, maySweep, ?_⟩
              rw [if_pos rfl, Program.run_bind, isSwept]
              rfl

/-- A call is refused by the memory, allowed without an answer of the counters,
or decided by their row. -/
theorem ServedCall.serve_cases (call : ServedCall) (fleet : Fleet) :
    (call.remembered fleet).1 = false ∧
        call.serve fleet =
          (refusedByInstance call.policy,
            ⟨fleet.remember call.host (call.remembered fleet).2,
              fleet.counters⟩) ∨
      (call.remembered fleet).1 = true ∧
        ((∀ row after, ¬ Answers call fleet row after) ∧
            call.serve fleet =
              (degradedDecision call.policy,
                ⟨fleet.remember call.host (call.remembered fleet).2,
                  fleet.counters⟩) ∨
          ∃ row counted swept, Answers call fleet row counted ∧
            MaySweep call counted swept ∧
            call.serve fleet =
              (decidedByRegistry call.policy
                  ⟨row.allowed, row.hits,
                    secondsUntil (some (row.resetAt.fdiv 1000))
                      (some call.now)⟩,
                ⟨fleet.remember call.host (call.remembered fleet).2,
                  swept⟩)) := by
  rw [ServedCall.serve, checkRateLimit]
  dsimp only
  rw [← ServedCall.bucket, ← ServedCall.remembered]
  cases (call.remembered fleet).1 with
  | false => exact Or.inl ⟨rfl, rfl⟩
  | true =>
      right
      refine ⟨rfl, ?_⟩
      rw [if_pos rfl, Program.run_bind]
      rcases durableHit_cases call fleet with
        ⟨noAnswer, message, isEnded⟩ |
          ⟨row, counted, swept, answers, maySweep, isEnded⟩
      · rw [isEnded]
        exact Or.inl ⟨noAnswer, rfl⟩
      · rw [isEnded]
        exact Or.inr ⟨row, counted, swept, answers, maySweep, rfl⟩

/-! ## What the layers count -/

/-- The milliseconds of a window. -/
def RateLimitPolicy.windowMs (policy : RateLimitPolicy) : ℤ :=
  ((policy.windowSeconds * 1000 : ℕ) : ℤ)

/-- The start of the window of a call, in milliseconds. -/
def ServedCall.start (call : ServedCall) : ℤ :=
  windowStart call.policy.windowMs call.now

/-- The calls that a memory has counted for a bucket in the window of a
start. -/
def memoryCount (memory : LimiterMemory) (bucket : JsString) (start : ℤ) :
    ℕ :=
  match memory.get bucket with
  | none => 0
  | some window =>
    if window.windowStart = some start then window.count else 0

/-- The hits that the counters hold for a bucket in the window of a start. -/
def durableCount (counters : RateLimitCounters) (bucket : JsString)
    (start : ℤ) : ℕ :=
  (counters.get (bucket, start * 1000)).getD 0

theorem memoryWindowStart_of_positive
    (positive : 0 < call.policy.windowSeconds) :
    memoryWindowStart call.policy (some call.now) = some call.start :=
  if_neg positive.ne'

theorem ServedCall.start_le (positive : 0 < call.policy.windowSeconds) :
    call.start ≤ call.now := by
  apply windowStart_le
  unfold RateLimitPolicy.windowMs
  omega

theorem ServedCall.lt_start_add
    (positive : 0 < call.policy.windowSeconds) :
    call.now < call.start + call.policy.windowMs := by
  apply lt_windowStart_add
  unfold RateLimitPolicy.windowMs
  omega

theorem eq_of_sameInstant
    {first second : Option ℤ} (same : sameInstant first second = true) :
    first = second := by
  cases first with
  | none => cases same
  | some first =>
      cases second with
      | none => cases same
      | some second => exact congrArg some (of_decide_eq_true same)

/-- The memory of the instance allows the calls of a window up to the burst,
and counts each. -/
theorem remembered_counts
    (positive : 0 < call.policy.windowSeconds)
    (positiveBurst : 0 < call.policy.burst) :
    let count := memoryCount (fleet.memories call.host) call.bucket call.start
    (call.remembered fleet).1 = decide (count + 1 ≤ call.policy.burst) ∧
      memoryCount (call.remembered fleet).2 call.bucket call.start =
        count + 1 := by
  unfold ServedCall.remembered memoryHit memoryCount
  rw [memoryWindowStart_of_positive positive]
  cases isFound : (fleet.memories call.host).get call.bucket with
  | none =>
      dsimp only
      rw [OrderedMap.get_set, if_pos rfl]
      exact ⟨(decide_eq_true positiveBurst).symm, if_pos rfl⟩
  | some window =>
      dsimp only
      by_cases same : window.windowStart = some call.start
      · have isSame : sameInstant window.windowStart (some call.start) =
            true := by
          rw [same]
          exact decide_eq_true rfl
        rw [if_pos isSame, OrderedMap.get_set, if_pos rfl, if_pos same]
        exact ⟨rfl, if_pos same⟩
      · have isOther : sameInstant window.windowStart (some call.start) =
            false :=
          Bool.eq_false_of_not_eq_true fun isSame =>
            same (eq_of_sameInstant isSame)
        rw [isOther, if_neg Bool.false_ne_true, OrderedMap.get_set,
          if_pos rfl, if_neg same]
        exact ⟨(decide_eq_true positiveBurst).symm, if_pos rfl⟩

/-- The memory keeps what it holds of another bucket, or drops it. -/
theorem remembered_other
    {bucket : JsString} (isOther : bucket ≠ call.bucket)
    {window : MemoryWindow}
    (isHeld : (call.remembered fleet).2.get bucket = some window) :
    (fleet.memories call.host).get bucket = some window := by
  unfold ServedCall.remembered memoryHit at isHeld
  have keptOrDropped : ∀ memory : LimiterMemory,
      (withRoom memory).get bucket = some window →
        memory.get bucket = some window := by
    intro memory isKept
    unfold withRoom at isKept
    split at isKept
    · cases isKept
    · exact isKept
  dsimp only at isHeld
  split at isHeld
  · rw [OrderedMap.get_set, if_neg isOther] at isHeld
    exact keptOrDropped _ isHeld
  · split at isHeld
    · rwa [OrderedMap.get_set, if_neg isOther] at isHeld
    · rw [OrderedMap.get_set, if_neg isOther] at isHeld
      exact keptOrDropped _ isHeld

theorem upsertCount_eq (counters : RateLimitCounters) (key : JsString × ℤ) :
    upsertCount counters key =
      if (counters.get key).getD 0 + 1 ≤ maxInteger then
        some ((counters.get key).getD 0 + 1)
      else
        none := by
  unfold upsertCount
  cases counters.get key <;> rfl

theorem toInt_ofNat_of_le {value : ℕ} (fits : value ≤ maxInteger) :
    (Int32.ofNat value).toInt = value := by
  apply Int32.toInt_ofNat_of_lt
  unfold maxInteger at fits
  omega

theorem ofNat_eq_zero_iff {value : ℕ} (fits : value ≤ maxInteger) :
    Int32.ofNat value = 0 ↔ value = 0 := by
  constructor
  · intro isZero
    have isInteger := toInt_ofNat_of_le fits
    rw [isZero] at isInteger
    exact Int.ofNat_eq_zero.mp isInteger.symm
  · rintro rfl
    rfl

/-- What the counters answer to a hit: an error when a parameter or the count
is beyond the integers, or the window has no length. -/
theorem hitCounters_eq
    (bucket : JsString) (policy : RateLimitPolicy) (now : ℤ)
    (counters : RateLimitCounters) :
    let start := windowStart policy.windowMs now
    let count := durableCount counters bucket start + 1
    ServedCall.hitCounters bucket policy now counters =
      if 0 < policy.windowSeconds ∧ policy.windowSeconds ≤ maxInteger ∧
          policy.limit ≤ maxInteger ∧ count ≤ maxInteger then
        (some ⟨decide (count ≤ policy.limit), count,
          (start + policy.windowMs) * 1000⟩,
          counters.set (bucket, start * 1000) count)
      else
        (none, counters) := by
  dsimp only
  unfold ServedCall.hitCounters
  by_cases fits : policy.windowSeconds ≤ maxInteger ∧
      policy.limit ≤ maxInteger
  · obtain ⟨windowFits, limitFits⟩ := fits
    rw [if_pos ⟨windowFits, limitFits⟩]
    unfold rateLimitHit
    by_cases isZero : policy.windowSeconds = 0
    · rw [if_pos ((ofNat_eq_zero_iff windowFits).mpr isZero),
        if_neg fun condition => condition.1.ne' isZero]
    · have positive := Nat.pos_of_ne_zero isZero
      have notZero : Int32.ofNat policy.windowSeconds ≠ 0 := by
        rwa [ne_eq, ofNat_eq_zero_iff windowFits]
      have isLength : (policy.windowSeconds : ℤ) * usecsPerSec =
          policy.windowMs * 1000 := by
        unfold usecsPerSec RateLimitPolicy.windowMs
        push_cast
        ring
      have isStart : alignedStart policy.windowSeconds (now * 1000) =
          windowStart policy.windowMs now * 1000 := by
        rw [alignedStart, isLength]
        exact windowStart_mul (by decide)
      rw [if_neg notZero, toInt_ofNat_of_le windowFits,
        toInt_ofNat_of_le limitFits, isStart, isLength]
      dsimp only
      rw [← add_mul, upsertCount_eq]
      unfold durableCount
      by_cases inRange : (counters.get
          (bucket, windowStart policy.windowMs now * 1000)).getD 0 + 1 ≤
            maxInteger
      · rw [if_pos inRange,
          if_pos ⟨positive, windowFits, limitFits, inRange⟩]
        simp only [Nat.cast_le]
      · rw [if_neg inRange, if_neg fun condition => inRange condition.2.2.2]
  · rw [if_neg fits,
      if_neg fun condition => fits ⟨condition.2.1, condition.2.2.1⟩]

/-- The row of a hit, and the counters after it. -/
theorem hitCounters_eq_some_iff
    {bucket : JsString} {policy : RateLimitPolicy} {now : ℤ}
    {counters after : RateLimitCounters} {row : RateLimitRow} :
    ServedCall.hitCounters bucket policy now counters = (some row, after) ↔
      let start := windowStart policy.windowMs now
      let count := durableCount counters bucket start + 1
      (0 < policy.windowSeconds ∧ policy.windowSeconds ≤ maxInteger ∧
          policy.limit ≤ maxInteger ∧ count ≤ maxInteger) ∧
        row = ⟨decide (count ≤ policy.limit), count,
          (start + policy.windowMs) * 1000⟩ ∧
        after = counters.set (bucket, start * 1000) count := by
  have isHit := hitCounters_eq bucket policy now counters
  dsimp only at isHit ⊢
  rw [isHit]
  split
  · rename_i condition
    rw [Prod.mk.injEq, Option.some.injEq]
    constructor
    · intro ⟨isRow, isAfter⟩
      exact ⟨condition, isRow.symm, isAfter.symm⟩
    · intro ⟨_, isRow, isAfter⟩
      exact ⟨isRow.symm, isAfter.symm⟩
  · rename_i condition
    refine iff_of_false ?_ fun answered => condition answered.1
    intro impossible
    cases (Prod.mk.inj impossible).1

end AgenId.Web
