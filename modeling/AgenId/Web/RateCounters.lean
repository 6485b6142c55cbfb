import AgenId.Ecma.Json
import AgenId.Library.Entries
import AgenId.Library.Windows

/-!
# The durable rate limiter

`0003_rate_limit.sql`: a table counts the hits of each bucket in each window,
and old windows are swept.  Each call is one statement on the row it
touches, so that calls from any number of instances are executed one after
another.  Instants are in microseconds, the resolution of `timestamptz`.
-/

namespace AgenId.Web

open AgenId.Ecma
open AgenId.Library

/-! ## The table and its functions -/

/-- The microseconds of a second. -/
def usecsPerSec : ℤ := 1000000

/-- The greatest `integer`. -/
def maxInteger : ℕ := 2147483647

/-- `rate_limit_counters`: the count of a bucket in the window that starts at
an instant. -/
abbrev RateLimitCounters := OrderedMap (JsString × ℤ) ℕ

/-- A row that `rate_limit_hit` returns. -/
structure RateLimitRow where
  allowed : Bool
  hits : ℕ
  resetAt : ℤ
  deriving DecidableEq

/-- `to_timestamp(floor(extract(epoch from p_now) / p_window_seconds) *
p_window_seconds)`. -/
def alignedStart (windowSeconds now : ℤ) : ℤ :=
  windowStart (windowSeconds * usecsPerSec) now

/-- What the upsert returns: the count of the row after it, which may be out
of range. -/
def upsertCount (counters : RateLimitCounters) (key : JsString × ℤ) :
    Option ℕ :=
  let count :=
    match counters.get key with
    | none => 1
    | some count => count + 1
  if count ≤ maxInteger then some count else none

/-- `rate_limit_hit(p_bucket, p_window_seconds, p_limit, p_now)`; there is no
row when the call fails, and a call that fails changes nothing. -/
def rateLimitHit (bucket : JsString) (windowSeconds limit : Int32) (now : ℤ)
    (counters : RateLimitCounters) :
    Option RateLimitRow × RateLimitCounters :=
  if windowSeconds = 0 then
    (none, counters)
  else
    let start := alignedStart windowSeconds.toInt now
    match upsertCount counters (bucket, start) with
    | none => (none, counters)
    | some count =>
      (some ⟨decide ((count : ℤ) ≤ limit.toInt), count,
          start + windowSeconds.toInt * usecsPerSec⟩,
        counters.set (bucket, start) count)

/-- The rows that `rate_limit_sweep(p_older_than)` leaves. -/
def rateLimitSweep (olderThan : ℤ) (counters : RateLimitCounters) :
    RateLimitCounters :=
  counters.restrict fun key => !decide (key.2 < olderThan)

/-! ## Executions -/

/-- A call of `rate_limit_hit`. -/
structure Hit where
  bucket : JsString
  windowSeconds : Int32
  limit : Int32
  now : ℤ

/-- A call of one of the two functions. -/
inductive Execution where
  | hit (call : Hit)
  | sweep (olderThan : ℤ)

/-- What a hit returns, and the table after it. -/
def Hit.execute (call : Hit) :
    RateLimitCounters → Option RateLimitRow × RateLimitCounters :=
  rateLimitHit call.bucket call.windowSeconds call.limit call.now

/-- The table after a call. -/
def Execution.execute (counters : RateLimitCounters) :
    Execution → RateLimitCounters
  | .hit call => (call.execute counters).2
  | .sweep olderThan => rateLimitSweep olderThan counters

/-- The table after calls one after another. -/
def executeAll (log : List Execution) (counters : RateLimitCounters) :
    RateLimitCounters :=
  log.foldl Execution.execute counters

/-- The hits among calls. -/
def hitsOf : List Execution → List Hit
  | [] => []
  | .hit call :: rest => call :: hitsOf rest
  | .sweep _ :: rest => hitsOf rest

/-- The hits of calls one after another, with what they return. -/
def answersOf :
    List Execution → RateLimitCounters → List (Hit × Option RateLimitRow)
  | [], _ => []
  | .hit call :: rest, counters =>
    (call, (call.execute counters).1) ::
      answersOf rest (call.execute counters).2
  | .sweep olderThan :: rest, counters =>
    answersOf rest (rateLimitSweep olderThan counters)

/-- `SWEEP_RETENTION_MS`, in microseconds. -/
def sweepRetention : ℤ := 24 * 60 * 60 * 1000 * 1000

section Limiter

variable (bucket : JsString) (windowSeconds limit : Int32)

/-- A hit of a bucket falls in the window of a number. -/
def HitInWindow (index : ℤ) (call : Hit) : Prop :=
  let length := windowSeconds.toInt * usecsPerSec
  call.bucket = bucket ∧ index * length ≤ call.now ∧
    call.now < index * length + length

instance (index : ℤ) : DecidablePred (HitInWindow bucket windowSeconds index) :=
  fun _ => inferInstanceAs (Decidable (_ ∧ _ ∧ _))

/-- The hits of a bucket have one window length and one limit. -/
def Uniform (log : List Execution) : Prop :=
  ∀ call ∈ hitsOf log, call.bucket = bucket →
    call.windowSeconds = windowSeconds ∧ call.limit = limit

/-- The clock of a sweep is ahead of the clock of a hit that comes after it by
less than the retention without the window. -/
def SweepsBehind : Execution → Execution → Prop
  | .sweep olderThan, .hit call =>
    call.bucket = bucket →
      ∃ clock, olderThan = clock - sweepRetention ∧
        clock < call.now +
          (sweepRetention - windowSeconds.toInt * usecsPerSec)
  | _, _ => True

/-- What the hit of a number in a window returns. -/
def numberedRow (start : ℤ) (number : ℕ) : Option RateLimitRow :=
  if number + 1 ≤ maxInteger then
    some ⟨decide (((number + 1 : ℕ) : ℤ) ≤ limit.toInt), number + 1,
      start + windowSeconds.toInt * usecsPerSec⟩
  else
    none

/-- What the row of a window holds after a number of hits. -/
def storedCount (number : ℕ) : Option ℕ :=
  if number = 0 then none else some (min number maxInteger)

/-! ## What each call does to the row of a window -/

variable {bucket windowSeconds limit}

/-- The key of the row of a window. -/
abbrev rowKey (bucket : JsString) (windowSeconds : Int32) (index : ℤ) :
    JsString × ℤ :=
  (bucket, index * (windowSeconds.toInt * usecsPerSec))

variable {index : ℤ} {counters : RateLimitCounters} {number : ℕ}

theorem upsertCount_stored
    {key : JsString × ℤ} (stored : counters.get key = storedCount number) :
    upsertCount counters key =
      if number + 1 ≤ maxInteger then some (number + 1) else none := by
  unfold upsertCount
  rw [stored, storedCount]
  by_cases isFirst : number = 0
  · subst isFirst
    rfl
  · rw [if_neg isFirst]
    by_cases inRange : number + 1 ≤ maxInteger
    · have isNumber : min number maxInteger = number := by omega
      simp only [isNumber, if_pos inRange]
    · have tooMany : ¬ min number maxInteger + 1 ≤ maxInteger := by omega
      simp only [if_neg inRange, if_neg tooMany]

theorem alignedStart_eq_iff
    (positive : 0 < windowSeconds.toInt) {now : ℤ} :
    alignedStart windowSeconds.toInt now =
        index * (windowSeconds.toInt * usecsPerSec) ↔
      index * (windowSeconds.toInt * usecsPerSec) ≤ now ∧
        now < index * (windowSeconds.toInt * usecsPerSec) +
          windowSeconds.toInt * usecsPerSec := by
  have length : 0 < windowSeconds.toInt * usecsPerSec := by
    unfold usecsPerSec
    omega
  exact windowStart_eq_iff length

/-- A hit of a window returns its number, and the row counts it. -/
theorem execute_inWindow
    (positive : 0 < windowSeconds.toInt) {call : Hit}
    (isWindow : call.windowSeconds = windowSeconds)
    (isLimit : call.limit = limit)
    (inWindow : HitInWindow bucket windowSeconds index call)
    (stored : counters.get (rowKey bucket windowSeconds index) =
      storedCount number) :
    (call.execute counters).1 = numberedRow windowSeconds limit
        (index * (windowSeconds.toInt * usecsPerSec)) number ∧
      (call.execute counters).2.get (rowKey bucket windowSeconds index) =
        storedCount (number + 1) := by
  obtain ⟨isBucket, after, before⟩ := inWindow
  have isStart := (alignedStart_eq_iff positive).mpr ⟨after, before⟩
  have notZero : windowSeconds ≠ 0 := by
    rintro rfl
    exact absurd positive (by decide)
  have counted := upsertCount_stored stored
  unfold Hit.execute rateLimitHit numberedRow
  rw [isBucket, isWindow, isLimit, if_neg notZero, isStart]
  by_cases inRange : number + 1 ≤ maxInteger
  · rw [if_pos inRange] at counted
    simp only [counted, if_pos inRange, OrderedMap.get_set, if_true]
    refine ⟨trivial, ?_⟩
    have isNumber : min (number + 1) maxInteger = number + 1 := by omega
    rw [storedCount, if_neg (Nat.succ_ne_zero number), isNumber]
  · rw [if_neg inRange] at counted
    simp only [counted, if_neg inRange]
    refine ⟨trivial, ?_⟩
    have isGreatest : min (number + 1) maxInteger = min number maxInteger := by
      omega
    have notFirst : number ≠ 0 := by
      rintro rfl
      exact inRange (by decide)
    rw [stored, storedCount, if_neg notFirst, storedCount,
      if_neg (Nat.succ_ne_zero number), isGreatest]

/-- A hit outside a window leaves its row. -/
theorem execute_elsewhere
    (positive : 0 < windowSeconds.toInt) {call : Hit}
    (sameWindow : call.bucket = bucket → call.windowSeconds = windowSeconds)
    (elsewhere : ¬ HitInWindow bucket windowSeconds index call) :
    (call.execute counters).2.get (rowKey bucket windowSeconds index) =
      counters.get (rowKey bucket windowSeconds index) := by
  have otherKey : rowKey bucket windowSeconds index ≠
      (call.bucket, alignedStart call.windowSeconds.toInt call.now) := by
    intro sameKey
    obtain ⟨isBucket, isStart⟩ := Prod.mk.inj sameKey
    rw [sameWindow isBucket.symm] at isStart
    exact elsewhere
      ⟨isBucket.symm, (alignedStart_eq_iff positive).mp isStart.symm⟩
  unfold Hit.execute rateLimitHit
  by_cases isZero : call.windowSeconds = 0
  · rw [if_pos isZero]
  · rw [if_neg isZero]
    dsimp only
    cases upsertCount counters
        (call.bucket, alignedStart call.windowSeconds.toInt call.now) with
    | none => rfl
    | some count => rw [OrderedMap.get_set, if_neg otherKey]

/-- A sweep whose clock is not too far ahead of a hit leaves the row of its
window. -/
theorem sweep_keeps
    {call : Hit} (inWindow : HitInWindow bucket windowSeconds index call)
    {olderThan : ℤ}
    (behind : SweepsBehind bucket windowSeconds (.sweep olderThan)
      (.hit call)) :
    (rateLimitSweep olderThan counters).get
        (rowKey bucket windowSeconds index) =
      counters.get (rowKey bucket windowSeconds index) := by
  obtain ⟨isBucket, -, before⟩ := inWindow
  obtain ⟨clock, rfl, notAhead⟩ := behind isBucket
  have isYoung : ¬ index * (windowSeconds.toInt * usecsPerSec) <
      clock - sweepRetention := by
    linarith
  rw [rateLimitSweep, OrderedMap.get_restrict, decide_eq_false isYoung,
    Bool.not_false, if_pos rfl]

/-! ## Runs -/

theorem mem_hitsOf {log : List Execution} {call : Hit} :
    call ∈ hitsOf log ↔ .hit call ∈ log := by
  induction log with
  | nil => simp [hitsOf]
  | cons execution rest inductionHypothesis =>
      cases execution with
      | hit other => simp [hitsOf, inductionHypothesis]
      | sweep olderThan => simp [hitsOf, inductionHypothesis]

/-- What the hits of a window return, in their order. -/
def answersIn (bucket : JsString) (windowSeconds : Int32) (index : ℤ)
    (log : List Execution) (counters : RateLimitCounters) :
    List (Option RateLimitRow) :=
  ((answersOf log counters).filter
    fun answer => HitInWindow bucket windowSeconds index answer.1).map Prod.snd

theorem answersIn_hit
    {call : Hit} (inWindow : HitInWindow bucket windowSeconds index call)
    (rest : List Execution) :
    answersIn bucket windowSeconds index (.hit call :: rest) counters =
      (call.execute counters).1 ::
        answersIn bucket windowSeconds index rest
          (call.execute counters).2 := by
  simp [answersIn, answersOf, inWindow]

theorem answersIn_elsewhere
    {call : Hit} (elsewhere : ¬ HitInWindow bucket windowSeconds index call)
    (rest : List Execution) :
    answersIn bucket windowSeconds index (.hit call :: rest) counters =
      answersIn bucket windowSeconds index rest
        (call.execute counters).2 := by
  simp [answersIn, answersOf, elsewhere]

/-- The hits of a window are answered by their numbers, whatever is executed
between them. -/
theorem answersIn_eq
    (positive : 0 < windowSeconds.toInt) {log : List Execution}
    (uniform : Uniform bucket windowSeconds limit log)
    (behind : log.Pairwise (SweepsBehind bucket windowSeconds))
    (stored : (∃ call ∈ hitsOf log, HitInWindow bucket windowSeconds index call) →
      counters.get (rowKey bucket windowSeconds index) =
        storedCount number) :
    ∃ count, answersIn bucket windowSeconds index log counters =
      (List.range' number count).map (numberedRow windowSeconds limit
        (index * (windowSeconds.toInt * usecsPerSec))) := by
  induction log generalizing counters number with
  | nil => exact ⟨0, rfl⟩
  | cons execution rest inductionHypothesis =>
      obtain ⟨first, behindRest⟩ := List.pairwise_cons.mp behind
      cases execution with
      | hit call =>
          have uniformRest : Uniform bucket windowSeconds limit rest :=
            fun other isMember =>
              uniform other (List.mem_cons_of_mem _ isMember)
          by_cases inWindow : HitInWindow bucket windowSeconds index call
          · obtain ⟨isWindow, isLimit⟩ :=
              uniform call List.mem_cons_self inWindow.1
            obtain ⟨isRow, isStored⟩ := execute_inWindow positive isWindow
              isLimit inWindow (stored ⟨call, List.mem_cons_self, inWindow⟩)
            obtain ⟨count, isRest⟩ := inductionHypothesis uniformRest
              behindRest (fun _ => isStored)
            refine ⟨count + 1, ?_⟩
            rw [answersIn_hit inWindow, isRest, isRow, List.range'_succ,
              List.map_cons]
          · have isStored : (∃ other ∈ hitsOf rest,
                HitInWindow bucket windowSeconds index other) →
                (call.execute counters).2.get
                    (rowKey bucket windowSeconds index) =
                  storedCount number := by
              rintro ⟨other, isMember, isLater⟩
              rw [execute_elsewhere positive _ inWindow]
              · exact stored
                  ⟨other, List.mem_cons_of_mem _ isMember, isLater⟩
              · intro isBucket
                exact (uniform call List.mem_cons_self isBucket).1
            obtain ⟨count, isRest⟩ := inductionHypothesis uniformRest
              behindRest isStored
            exact ⟨count, by rw [answersIn_elsewhere inWindow, isRest]⟩
      | sweep olderThan =>
          apply inductionHypothesis uniform behindRest
          rintro ⟨call, isMember, inWindow⟩
          rw [sweep_keeps inWindow (first _ (mem_hitsOf.mp isMember))]
          exact stored ⟨call, isMember, inWindow⟩

/-- A hit is allowed. -/
def isAllowed (answer : Option RateLimitRow) : Bool :=
  answer.any (·.allowed)

/-- What a hit reports. -/
def reportedHits (answer : Option RateLimitRow) : Option ℕ :=
  answer.map (·.hits)

theorem lt_of_isAllowed
    {start : ℤ}
    (allowed : isAllowed (numberedRow windowSeconds limit start number)) :
    number < limit.toInt.toNat := by
  unfold numberedRow at allowed
  by_cases inRange : number + 1 ≤ maxInteger
  · rw [if_pos inRange] at allowed
    have within : ((number + 1 : ℕ) : ℤ) ≤ limit.toInt :=
      of_decide_eq_true allowed
    omega
  · rw [if_neg inRange] at allowed
    cases allowed

theorem isAllowed_of_lt
    {start : ℤ} (below : (number : ℤ) < limit.toInt) :
    isAllowed (numberedRow windowSeconds limit start number) = true := by
  have isInteger := limit.toInt_lt
  have inRange : number + 1 ≤ maxInteger := by
    unfold maxInteger
    omega
  have within : ((number + 1 : ℕ) : ℤ) ≤ limit.toInt := by
    omega
  rw [numberedRow, if_pos inRange]
  exact decide_eq_true within

theorem number_of_reportedHits
    {start : ℤ} {hits : ℕ}
    (isReported : reportedHits (numberedRow windowSeconds limit start number) =
      some hits) :
    hits = number + 1 := by
  unfold numberedRow at isReported
  by_cases inRange : number + 1 ≤ maxInteger
  · rw [if_pos inRange] at isReported
    exact (Option.some.inj isReported).symm
  · rw [if_neg inRange] at isReported
    cases isReported

/-- Whatever hits and sweeps are executed in whatever order, in every window
of a bucket at most the limit of hits are allowed, the first ones are allowed
up to the limit, no two report the same number, and no sweep deletes the row
of a window that is still hit. -/
theorem durable_limit_enforced
    (positiveWindow : 0 < windowSeconds.toInt) {log : List Execution}
    (uniform : Uniform bucket windowSeconds limit log)
    (behind : log.Pairwise (SweepsBehind bucket windowSeconds))
    (index : ℤ) :
    let answers := answersIn bucket windowSeconds index log .empty
    answers.countP isAllowed ≤ limit.toInt.toNat ∧
      (∀ (number : ℕ) answer, answers[number]? = some answer →
        (number : ℤ) < limit.toInt → isAllowed answer = true) ∧
      (answers.filterMap reportedHits).Nodup ∧
      ∀ before olderThan after, log = before ++ .sweep olderThan :: after →
        (∃ call ∈ hitsOf after, HitInWindow bucket windowSeconds index call) →
        (rateLimitSweep olderThan (executeAll before .empty)).get
            (rowKey bucket windowSeconds index) =
          (executeAll before .empty).get
            (rowKey bucket windowSeconds index) := by
  intro answers
  have isNumbered : ∃ count, answers = (List.range' 0 count).map
      (numberedRow windowSeconds limit
        (index * (windowSeconds.toInt * usecsPerSec))) :=
    answersIn_eq positiveWindow uniform behind fun _ => rfl
  obtain ⟨count, isNumbered⟩ := isNumbered
  rw [isNumbered, ← List.range_eq_range']
  refine ⟨?_, ?_, ?_, ?_⟩
  · exact countP_numbered_le (fun number => lt_of_isAllowed) count
  · intro number answer isAnswer below
    rw [List.getElem?_map] at isAnswer
    obtain ⟨other, isOther, rfl⟩ := Option.map_eq_some_iff.mp isAnswer
    obtain ⟨inRange, isNumber⟩ := List.getElem?_eq_some_iff.mp isOther
    rw [List.getElem_range] at isNumber
    rw [← isNumber]
    exact isAllowed_of_lt below
  · apply nodup_reported
    intro first second hits isFirst isSecond
    have one := number_of_reportedHits isFirst
    have two := number_of_reportedHits isSecond
    omega
  · rintro before olderThan after rfl ⟨call, isMember, inWindow⟩
    have later := (List.pairwise_append.mp behind).2.1
    have first := (List.pairwise_cons.mp later).1
    exact sweep_keeps inWindow (first _ (mem_hitsOf.mp isMember))

end Limiter

/-! ## Three hits of one window -/

/-- A hit of a client that may make two of them in a minute. -/
def sampleHit (now : ℤ) : Hit :=
  ⟨units "register:unknown", 60, 2, now⟩

/-- Three hits in three seconds; after the first one the table is swept by an
instance whose clock is an hour ahead. -/
def sampleExecutions : List Execution :=
  [.hit (sampleHit 0), .sweep (3600 * usecsPerSec - sweepRetention),
    .hit (sampleHit 1000000), .hit (sampleHit 2000000)]

theorem sampleExecutions_behind :
    sampleExecutions.Pairwise (SweepsBehind (units "register:unknown") 60) := by
  have behind : ∀ now : ℤ, 0 ≤ now →
      SweepsBehind (units "register:unknown") 60
        (.sweep (3600 * usecsPerSec - sweepRetention))
        (.hit (sampleHit now)) := by
    intro now notBefore _
    have isMinute : (60 : Int32).toInt = 60 := rfl
    refine ⟨3600 * usecsPerSec, rfl, ?_⟩
    simp only [isMinute, sampleHit, usecsPerSec, sweepRetention]
    omega
  simp only [sampleExecutions, List.pairwise_cons, List.forall_mem_cons,
    List.not_mem_nil, false_implies, implies_true, and_true]
  exact ⟨⟨trivial, trivial, trivial⟩, ⟨behind _ (by decide),
    behind _ (by decide)⟩, trivial, trivial, List.Pairwise.nil⟩

theorem durable_limit_enforced_sample :
    (answersIn (units "register:unknown") 60 0 sampleExecutions
        .empty).map isAllowed = [true, true, false] ∧
      (answersIn (units "register:unknown") 60 0 sampleExecutions
        .empty).countP isAllowed ≤ 2 := by
  have uniform :
      Uniform (units "register:unknown") 60 2 sampleExecutions := by
    intro call isMember _
    simp only [sampleExecutions, hitsOf, List.mem_cons, List.not_mem_nil,
      or_false] at isMember
    rcases isMember with rfl | rfl | rfl
    · exact ⟨rfl, rfl⟩
    · exact ⟨rfl, rfl⟩
    · exact ⟨rfl, rfl⟩
  exact ⟨by decide, (durable_limit_enforced (by decide) uniform
    sampleExecutions_behind 0).1⟩

end AgenId.Web
