import AgenId.Ecma.Instant
import AgenId.Library.Entries
import AgenId.Library.Program
import AgenId.Library.Windows

/-!
# The rate limiter of an instance

`rate-limit.ts`: an instance counts the calls of each bucket in its own memory
first, and asks the durable counters when its own count allows the call.  When
the durable counters fail, the count of the instance alone decides; it is
dropped when the instance remembers too many buckets.
-/

namespace AgenId.Web

open AgenId.Ecma
open AgenId.Library

structure RateLimitPolicy where
  name : JsString
  limit : ℕ
  windowSeconds : ℕ
  burst : ℕ

namespace POLICIES

def register : RateLimitPolicy := ⟨units "register", 30, 60, 10⟩

def bindBatch : RateLimitPolicy := ⟨units "bind-batch", 10, 60, 5⟩

def relay : RateLimitPolicy := ⟨units "relay", 12, 60, 4⟩

def probe : RateLimitPolicy := ⟨units "probe", 40, 60, 15⟩

def read : RateLimitPolicy := ⟨units "read", 240, 60, 80⟩

end POLICIES

/-! ## The memory of an instance -/

/-- The window that a bucket was last counted in; its start may be `NaN`. -/
structure MemoryWindow where
  windowStart : Option ℤ
  count : ℕ

abbrev LimiterMemory := OrderedMap JsString MemoryWindow

def MEMORY_MAX_KEYS : ℕ := 10000

/-- `Math.floor(nowMs / windowMs) * windowMs`, where a window without length
starts at `NaN`.  The quotient of integers below `2 ^ 53` is not rounded
across an integer. -/
def memoryWindowStart (policy : RateLimitPolicy) (nowMs : Option ℤ) :
    Option ℤ :=
  if policy.windowSeconds = 0 then
    none
  else
    nowMs.map (windowStart ((policy.windowSeconds * 1000 : ℕ) : ℤ))

/-- `first === second`, which is false of `NaN`. -/
def sameInstant : Option ℤ → Option ℤ → Bool
  | some first, some second => decide (first = second)
  | _, _ => false

/-- The memory without the generation that fills it, when it is full. -/
def withRoom (memory : LimiterMemory) : LimiterMemory :=
  if MEMORY_MAX_KEYS ≤ memory.size then .empty else memory

/-- `memoryHit(bucket, policy, nowMs)`. -/
def memoryHit (bucket : JsString) (policy : RateLimitPolicy)
    (nowMs : Option ℤ) (memory : LimiterMemory) : Bool × LimiterMemory :=
  let start := memoryWindowStart policy nowMs
  let opened := (true, (withRoom memory).set bucket ⟨start, 1⟩)
  match memory.get bucket with
  | none => opened
  | some existing =>
    if sameInstant existing.windowStart start then
      (decide (existing.count + 1 ≤ policy.burst),
        memory.set bucket { existing with count := existing.count + 1 })
    else
      opened

/-! ## The durable layer -/

/-- A row of `rate_limit_hit` as the client reads it; the instant of its reset
may be invalid. -/
structure RpcRow where
  allowed : Bool
  hits : ℕ
  resetAt : Option ℤ

/-- The remote procedures of the durable counters. -/
inductive DurableCall where
  | hit (bucket : JsString) (policy : RateLimitPolicy) (nowMs : Option ℤ)
  | sweep (olderThan : ℤ)

/-- What a remote procedure answers, or why it fails. -/
@[reducible]
def DurableCall.Reply : DurableCall → Type
  | .hit _ _ _ => Except JsString (Option RpcRow)
  | .sweep _ => Except JsString Unit

abbrev DurableProgram (Result : Type) := Program DurableCall.Reply Result

def SWEEP_RETENTION_MS : ℤ := 24 * 60 * 60 * 1000

/-- `sweepExpired(supabase, nowMs)`: a failure is logged and dropped, and so
is the error of an instant that cannot be written. -/
def sweepExpired (nowMs : Option ℤ) : DurableProgram Unit :=
  match nowMs with
  | none => return ()
  | some now =>
    if (now - SWEEP_RETENTION_MS).natAbs ≤ maxTime.natAbs then do
      let _ ← Program.perform (DurableCall.sweep (now - SWEEP_RETENTION_MS))
      return ()
    else
      return ()

/-- What `durableHit` returns. -/
structure DurableHit where
  allowed : Bool
  hits : ℕ
  resetSeconds : Option ℤ

/-- `Math.max(0, Math.ceil((resetAt - now) / 1000))`. -/
def secondsUntil (resetAt nowMs : Option ℤ) : Option ℤ := do
  let reset ← resetAt
  let now ← nowMs
  return max 0 (-(now - reset).fdiv 1000)

/-- `durableHit(bucket, policy, nowIso, sweep)`; an error is thrown. -/
def durableHit (bucket : JsString) (policy : RateLimitPolicy)
    (nowMs : Option ℤ) (sweep : Bool) :
    DurableProgram (Except JsString DurableHit) := do
  match ← Program.perform (DurableCall.hit bucket policy nowMs) with
  | .error message => return .error message
  | .ok row =>
    if sweep then
      sweepExpired nowMs
    match row with
    | none => return .error (units "rate_limit_hit returned no row")
    | some row =>
      return .ok ⟨row.allowed, row.hits, secondsUntil row.resetAt nowMs⟩

/-! ## Decisions -/

/-- The layer that refuses a call. -/
inductive RefusingLayer where
  | instance : RefusingLayer
  | registry
  deriving DecidableEq

structure RateLimitDecision where
  allowed : Bool
  limit : ℕ
  remaining : ℕ
  resetSeconds : Option ℤ
  refusedBy : Option RefusingLayer
  degraded : Bool

/-- The bucket of a policy and a subject. -/
def bucketOf (policy : RateLimitPolicy) (subject : JsString) : JsString :=
  policy.name ++ units ":" ++ subject

/-- The decision when the memory of the instance refuses. -/
def refusedByInstance (policy : RateLimitPolicy) : RateLimitDecision where
  allowed := false
  limit := policy.limit
  remaining := 0
  resetSeconds := some policy.windowSeconds
  refusedBy := some .instance
  degraded := false

/-- The decision when the durable counters answer. -/
def decidedByRegistry (policy : RateLimitPolicy) (durable : DurableHit) :
    RateLimitDecision where
  allowed := durable.allowed
  limit := policy.limit
  remaining := policy.limit - durable.hits
  resetSeconds := durable.resetSeconds
  refusedBy := if durable.allowed then none else some .registry
  degraded := false

/-- The decision when the durable counters fail. -/
def degradedDecision (policy : RateLimitPolicy) : RateLimitDecision where
  allowed := true
  limit := policy.limit
  remaining := policy.burst - 1
  resetSeconds := some policy.windowSeconds
  refusedBy := none
  degraded := true

/-- `checkRateLimit` for a client key, on the time value of the clock: the
memory of the instance after it, and what it asks and decides. -/
def checkRateLimit (policy : RateLimitPolicy) (subject : JsString)
    (nowMs : Option ℤ) (sweep : Bool) (memory : LimiterMemory) :
    DurableProgram RateLimitDecision × LimiterMemory :=
  let bucket := bucketOf policy subject
  let hit := memoryHit bucket policy nowMs memory
  let program :=
    if hit.1 then do
      match ← durableHit bucket policy nowMs sweep with
      | .error _ => return degradedDecision policy
      | .ok durable => return decidedByRegistry policy durable
    else
      return refusedByInstance policy
  (program, hit.2)

end AgenId.Web
