import AgenId.Web.LimiterFleet

/-!
# What the limiter tells its clients

The remainder that an allowed call reports and the wait that a refused one is
told.  The remainder is that of one layer, so that fewer calls may be allowed
when the other one has less room.  The wait always leads into a window in
which neither layer has counted the client.
-/

namespace AgenId.Web

open AgenId.Ecma
open AgenId.Library

/-- The policies of the table. -/
def POLICIES.all : List RateLimitPolicy :=
  [POLICIES.register, POLICIES.bindBatch, POLICIES.relay, POLICIES.probe,
    POLICIES.read]

/-- What the layers rely on in a policy of the table. -/
structure Regular (policy : RateLimitPolicy) : Prop where
  positiveWindow : 0 < policy.windowSeconds
  shortWindow : policy.windowMs ≤ SWEEP_RETENTION_MS
  windowFits : policy.windowSeconds ≤ maxInteger
  positiveBurst : 0 < policy.burst
  limitFits : policy.limit < maxInteger

theorem regular_of_mem
    {policy : RateLimitPolicy} (isPolicy : policy ∈ POLICIES.all) :
    Regular policy := by
  have each : ∀ policy ∈ POLICIES.all, 0 < policy.windowSeconds ∧
      policy.windowMs ≤ SWEEP_RETENTION_MS ∧
      policy.windowSeconds ≤ maxInteger ∧ 0 < policy.burst ∧
      policy.limit < maxInteger := by
    decide
  obtain ⟨positiveWindow, shortWindow, windowFits, positiveBurst,
    limitFits⟩ := each policy isPolicy
  exact ⟨positiveWindow, shortWindow, windowFits, positiveBurst, limitFits⟩

/-! ## The remainder -/

section Remainder

variable {call : ServedCall} {fleet : Fleet}

/-- The calls that the instance remembers of a client in the window of a
call. -/
def ServedCall.counted (call : ServedCall) (fleet : Fleet) : ℕ :=
  memoryCount (fleet.memories call.host) call.bucket call.start

/-- The hits that the counters hold of a client in the window of a call. -/
def ServedCall.held (call : ServedCall) (fleet : Fleet) : ℕ :=
  durableCount fleet.counters call.bucket call.start

/-- The counters answer a call. -/
def ServedCall.IsAnswered (call : ServedCall) (fleet : Fleet) : Prop :=
  call.healthy = true ∧ call.held fleet + 1 ≤ maxInteger

theorem answers_iff
    (regular : Regular call.policy) {row : RateLimitRow}
    {after : RateLimitCounters} :
    Answers call fleet row after ↔ call.IsAnswered fleet ∧
      row = ⟨decide (call.held fleet + 1 ≤ call.policy.limit),
        call.held fleet + 1, (call.start + call.policy.windowMs) * 1000⟩ ∧
      after = fleet.counters.set (call.bucket, call.start * 1000)
        (call.held fleet + 1) := by
  constructor
  · intro answers
    obtain ⟨⟨-, -, -, inRange⟩, isRow, isAfter⟩ :=
      hitCounters_eq_some_iff.mp answers.isHit
    exact ⟨⟨answers.healthy, inRange⟩, isRow, isAfter⟩
  · rintro ⟨⟨healthy, inRange⟩, isRow, isAfter⟩
    exact ⟨healthy, hitCounters_eq_some_iff.mpr
      ⟨⟨regular.positiveWindow, regular.windowFits, regular.limitFits.le,
        inRange⟩, isRow, isAfter⟩⟩

/-- A sweep at an instant of a window keeps its row. -/
theorem durableCount_of_maySweep
    (regular : Regular call.policy) {before after : RateLimitCounters}
    (maySweep : MaySweep call before after) (bucket : JsString) :
    durableCount after bucket call.start =
      durableCount before bucket call.start := by
  rcases maySweep with rfl | rfl
  · rfl
  · have within := ServedCall.lt_start_add regular.positiveWindow
    have short := regular.shortWindow
    have isYoung : ¬ call.start * 1000 <
        (call.now - SWEEP_RETENTION_MS) * 1000 := by
      omega
    rw [durableCount, rateLimitSweep, OrderedMap.get_restrict,
      decide_eq_false isYoung, Bool.not_false, if_pos rfl, durableCount]

theorem counted_remembered
    (call : ServedCall) (fleet : Fleet) (memory : LimiterMemory)
    (counters : RateLimitCounters) :
    call.counted ⟨fleet.remember call.host memory, counters⟩ =
      memoryCount memory call.bucket call.start := by
  unfold ServedCall.counted Fleet.remember
  dsimp only
  rw [Function.update_self]

/-- What a call of a policy of the table does in its window. -/
theorem serve_counts (regular : Regular call.policy) (fleet : Fleet) :
    let served := call.serve fleet
    call.counted served.2 = call.counted fleet + 1 ∧
      (call.policy.burst < call.counted fleet + 1 ∧
          served.1.allowed = false ∨
        call.counted fleet + 1 ≤ call.policy.burst ∧ call.IsAnswered fleet ∧
          served.1.allowed =
            decide (call.held fleet + 1 ≤ call.policy.limit) ∧
          served.1.remaining =
            call.policy.limit - (call.held fleet + 1) ∧
          call.held served.2 = call.held fleet + 1 ∨
        call.counted fleet + 1 ≤ call.policy.burst ∧
          ¬ call.IsAnswered fleet ∧ served.1.allowed = true ∧
          served.1.remaining = call.policy.burst - 1 ∧
          call.held served.2 = call.held fleet) := by
  obtain ⟨isRemembered, counts⟩ := @remembered_counts call fleet
    regular.positiveWindow regular.positiveBurst
  dsimp only
  rcases call.serve_cases fleet with ⟨isRefused, isServed⟩ |
    ⟨isAdmitted, ⟨noAnswer, isServed⟩ |
      ⟨row, after, swept, answers, maySweep, isServed⟩⟩
  · rw [isServed, counted_remembered]
    rw [isRemembered] at isRefused
    exact ⟨counts, Or.inl ⟨not_le.mp (of_decide_eq_false isRefused), rfl⟩⟩
  · rw [isServed, counted_remembered]
    rw [isRemembered] at isAdmitted
    refine ⟨counts, Or.inr (Or.inr ⟨of_decide_eq_true isAdmitted, ?_, rfl,
      rfl, rfl⟩)⟩
    intro isAnswered
    exact noAnswer _ _ ((answers_iff regular).mpr ⟨isAnswered, rfl, rfl⟩)
  · obtain ⟨isAnswered, isRow, isAfter⟩ := (answers_iff regular).mp answers
    rw [isServed, counted_remembered]
    rw [isRemembered] at isAdmitted
    refine ⟨counts, Or.inr (Or.inl ⟨of_decide_eq_true isAdmitted, isAnswered,
      ?_, ?_, ?_⟩)⟩
    · rw [isRow]
      rfl
    · rw [isRow]
      rfl
    · unfold ServedCall.held
      dsimp only
      rw [durableCount_of_maySweep regular maySweep, isAfter, durableCount,
        OrderedMap.get_set, if_pos rfl, Option.getD_some, ServedCall.held]

/-- A call of the same client on the same instance in the same window, at the
same health of the durable layer. -/
structure Follows (call next : ServedCall) : Prop where
  sameHost : next.host = call.host
  samePolicy : next.policy = call.policy
  sameSubject : next.subject = call.subject
  sameHealth : next.healthy = call.healthy
  sameWindow : next.start = call.start

/-- Every one of calls one after another is allowed. -/
def AllAllowed : List ServedCall → Fleet → Prop
  | [], _ => True
  | call :: rest, fleet =>
    (call.serve fleet).1.allowed = true ∧
      AllAllowed rest (call.serve fleet).2

/-- As many further calls as a call reports to remain are allowed. -/
def Honours (call : ServedCall) (fleet : Fleet) : Prop :=
  ∀ next : List ServedCall,
    next.length = (call.serve fleet).1.remaining →
    (∀ later ∈ next, Follows call later) →
    ((call :: next).Pairwise fun earlier later => earlier.now ≤ later.now) →
      AllAllowed next (call.serve fleet).2

theorem Follows.counted
    {next : ServedCall} (follows : Follows call next) (fleet : Fleet) :
    next.counted fleet = call.counted fleet := by
  unfold ServedCall.counted ServedCall.bucket
  rw [follows.sameHost, follows.samePolicy, follows.sameSubject,
    follows.sameWindow]

theorem Follows.held
    {next : ServedCall} (follows : Follows call next) (fleet : Fleet) :
    next.held fleet = call.held fleet := by
  unfold ServedCall.held ServedCall.bucket
  rw [follows.samePolicy, follows.sameSubject, follows.sameWindow]

theorem Follows.isAnswered_iff
    {next : ServedCall} (follows : Follows call next) (fleet : Fleet) :
    next.IsAnswered fleet ↔ call.IsAnswered fleet := by
  unfold ServedCall.IsAnswered
  rw [follows.sameHealth, follows.held]

/-- Following calls are all allowed when both layers have room for them. -/
theorem allAllowed_iff
    (regular : Regular call.policy) {next : List ServedCall}
    (follow : ∀ later ∈ next, Follows call later) (fleet : Fleet) :
    AllAllowed next fleet ↔ next = [] ∨
      call.counted fleet + next.length ≤ call.policy.burst ∧
        (call.IsAnswered fleet →
          call.held fleet + next.length ≤ call.policy.limit) := by
  induction next generalizing fleet with
  | nil => simp [AllAllowed]
  | cons first rest inductionHypothesis =>
      obtain ⟨follows, followRest⟩ := List.forall_mem_cons.mp follow
      have regularFirst : Regular first.policy := by
        rw [follows.samePolicy]
        exact regular
      obtain ⟨counts, cases⟩ := serve_counts regularFirst fleet
      have others := inductionHypothesis followRest (first.serve fleet).2
      rw [follows.samePolicy, follows.counted, follows.held,
        follows.isAnswered_iff, follows.held] at cases
      rw [follows.counted, follows.counted] at counts
      rw [AllAllowed, others, counts, List.length_cons]
      have limitFits := regular.limitFits
      have isNonempty : first :: rest ≠ [] := List.cons_ne_nil _ _
      simp only [isNonempty, false_or]
      rcases cases with ⟨noRoom, isRefused⟩ |
        ⟨room, isAnswered, isAllowed, -, isHeld⟩ |
          ⟨room, notAnswered, isAllowed, -, isHeld⟩
      · rw [isRefused]
        refine iff_of_false (fun impossible => Bool.false_ne_true
          impossible.1) ?_
        omega
      · rw [isAllowed, isHeld, decide_eq_true_iff]
        have stillAnswered : call.held fleet + 1 ≤ call.policy.limit →
            call.IsAnswered (first.serve fleet).2 := by
          intro below
          refine ⟨isAnswered.1, ?_⟩
          rw [isHeld]
          omega
        constructor
        · rintro ⟨below, isEmpty | ⟨roomFor, atMost⟩⟩
          · subst isEmpty
            exact ⟨room, fun _ => below⟩
          · have within := atMost (stillAnswered below)
            exact ⟨by omega, fun _ => by omega⟩
        · rintro ⟨roomFor, atMost⟩
          have within := atMost isAnswered
          exact ⟨by omega, Or.inr ⟨by omega, fun _ => by omega⟩⟩
      · have stillUnanswered : ¬ call.IsAnswered (first.serve fleet).2 := by
          intro isAnswered
          apply notAnswered
          refine ⟨isAnswered.1, ?_⟩
          rw [← isHeld]
          exact isAnswered.2
        constructor
        · rintro ⟨-, isEmpty | ⟨roomFor, -⟩⟩
          · subst isEmpty
            exact ⟨room, fun isAnswered => absurd isAnswered notAnswered⟩
          · exact ⟨by omega, fun isAnswered =>
              absurd isAnswered notAnswered⟩
        · rintro ⟨roomFor, -⟩
          exact ⟨isAllowed, Or.inr ⟨by omega, fun isAnswered =>
            absurd isAnswered stillUnanswered⟩⟩

/-- Both layers have room for as many calls as an allowed call reports: when
the counters answer, the limit leaves no more than the burst; when they do
not, the instance has not counted the client in the window. -/
def HasRoom (call : ServedCall) (fleet : Fleet) : Prop :=
  (call.IsAnswered fleet → call.policy.limit - call.held fleet ≤
    call.policy.burst - call.counted fleet) ∧
  (¬ call.IsAnswered fleet → call.counted fleet = 0)

theorem follows_refl (call : ServedCall) : Follows call call :=
  ⟨rfl, rfl, rfl, rfl, rfl⟩

/-- The remainder is honoured when both layers have room after the call. -/
theorem honours_iff
    (regular : Regular call.policy) (fleet : Fleet) :
    let served := call.serve fleet
    Honours call fleet ↔ served.1.remaining = 0 ∨
      call.counted served.2 + served.1.remaining ≤ call.policy.burst ∧
        (call.IsAnswered served.2 →
          call.held served.2 + served.1.remaining ≤ call.policy.limit) := by
  dsimp only
  constructor
  · intro honours
    have again := honours
      (List.replicate (call.serve fleet).1.remaining call)
      List.length_replicate
    have follow : ∀ later ∈ List.replicate
        (call.serve fleet).1.remaining call, Follows call later := by
      intro later isMember
      rw [List.eq_of_mem_replicate isMember]
      exact follows_refl call
    have ordered : (call :: List.replicate (call.serve fleet).1.remaining
        call).Pairwise fun earlier later => earlier.now ≤ later.now := by
      rw [← List.replicate_succ]
      exact List.pairwise_replicate.mpr (Or.inr le_rfl)
    have room := (allAllowed_iff regular follow _).mp (again follow ordered)
    rw [List.length_replicate, List.replicate_eq_nil_iff] at room
    exact room
  · intro room next isLength follow _
    rw [allAllowed_iff regular follow, isLength]
    rcases room with isZero | room
    · rw [isZero] at isLength
      exact Or.inl (List.eq_nil_of_length_eq_zero isLength)
    · exact Or.inr room

/-- After any calls, the remainder that an allowed call of a policy of the
table reports is honoured exactly when both layers have room for it. -/
theorem remainder_honoured_iff
    {call : ServedCall} (isPolicy : call.policy ∈ POLICIES.all)
    (before : List ServedCall)
    (isAllowed :
      (call.serve (serveAll before .start)).1.allowed = true) :
    Honours call (serveAll before .start) ↔
      HasRoom call (serveAll before .start) := by
  have regular := regular_of_mem isPolicy
  generalize serveAll before .start = fleet at isAllowed ⊢
  obtain ⟨counts, cases⟩ := serve_counts regular fleet
  refine (honours_iff regular fleet).trans ?_
  rw [counts]
  unfold HasRoom
  rcases cases with ⟨-, isRefused⟩ |
    ⟨room, isAnswered, below, isRemaining, isHeld⟩ |
      ⟨room, notAnswered, -, isRemaining, isHeld⟩
  · rw [isRefused] at isAllowed
    cases isAllowed
  · rw [below, decide_eq_true_iff] at isAllowed
    rw [isRemaining, isHeld]
    constructor
    · intro layers
      refine ⟨fun _ => ?_, fun notAnswered => absurd isAnswered notAnswered⟩
      rcases layers with isZero | ⟨enough, -⟩
      · omega
      · omega
    · rintro ⟨enough, -⟩
      have enough := enough isAnswered
      exact Or.inr ⟨by omega, fun _ => by omega⟩
  · have stillUnanswered : ¬ call.IsAnswered (call.serve fleet).2 := by
      intro isAnswered
      apply notAnswered
      refine ⟨isAnswered.1, ?_⟩
      rw [← isHeld]
      exact isAnswered.2
    rw [isRemaining]
    constructor
    · intro layers
      refine ⟨fun isAnswered => absurd isAnswered notAnswered, fun _ => ?_⟩
      have positive := regular.positiveBurst
      rcases layers with isZero | ⟨enough, -⟩
      · omega
      · omega
    · rintro ⟨-, uncounted⟩
      have isFirst := uncounted notAnswered
      exact Or.inr ⟨by omega, fun isAnswered =>
        absurd isAnswered stillUnanswered⟩

end Remainder

/-- A call of a client of the relay. -/
def relayAt (now : ℤ) (healthy : Bool) : ServedCall where
  host := 0
  policy := POLICIES.relay
  subject := units "unknown"
  now := now
  sweep := false
  healthy := healthy
  failure := units "fetch failed"

theorem relayAt_mem (now : ℤ) (healthy : Bool) :
    (relayAt now healthy).policy ∈ POLICIES.all := by
  simp [relayAt, POLICIES.all]

/-- The first call of a client is told that eleven calls remain, of which the
instance refuses the fourth. -/
theorem remainder_not_honoured :
    (relayAt 0 true).policy ∈ POLICIES.all ∧
      ((relayAt 0 true).serve .start).1.allowed = true ∧
      ((relayAt 0 true).serve .start).1.remaining = 11 ∧
      ¬ Honours (relayAt 0 true) .start := by
  have isPolicy := relayAt_mem 0 true
  have isRemaining : ((relayAt 0 true).serve .start).1.remaining = 11 := by
    decide
  refine ⟨isPolicy, by decide, isRemaining, ?_⟩
  intro honours
  rcases (honours_iff (regular_of_mem isPolicy) _).mp honours with
    isZero | ⟨room, -⟩
  · rw [isRemaining] at isZero
    cases isZero
  · rw [isRemaining] at room
    exact absurd room (by decide)

/-- Four calls of the client on each of two other instances. -/
def callsElsewhere : List ServedCall :=
  List.replicate 4 { relayAt 0 true with host := 1 } ++
    List.replicate 4 { relayAt 0 true with host := 2 }

theorem relayAt_after_callsElsewhere :
    let served := (relayAt 0 true).serve (serveAll callsElsewhere .start)
    served.1.allowed = true ∧ served.1.remaining = 3 ∧
      (relayAt 0 true).held (serveAll callsElsewhere .start) = 8 ∧
      (relayAt 0 true).counted (serveAll callsElsewhere .start) = 0 := by
  decide +kernel

/-- After the calls on the other instances, the first call on an instance is
told that three calls remain, and they do. -/
theorem remainder_honoured_sample :
    ((relayAt 0 true).serve (serveAll callsElsewhere .start)).1.remaining =
        3 ∧
      Honours (relayAt 0 true) (serveAll callsElsewhere .start) := by
  obtain ⟨isAllowed, isRemaining, isHeld, isCounted⟩ :=
    relayAt_after_callsElsewhere
  refine ⟨isRemaining, (remainder_honoured_iff (relayAt_mem 0 true)
    callsElsewhere isAllowed).mpr ⟨?_, ?_⟩⟩
  · intro _
    rw [isHeld, isCounted]
    decide
  · intro _
    exact isCounted

/-! ## The wait -/

section Wait

variable {call : ServedCall} {fleet : Fleet} {bucket : JsString}
  {instant : ℤ}

/-- Neither layer has counted a bucket in a window that starts after an
instant. -/
structure NothingAfter (bucket : JsString) (instant : ℤ) (fleet : Fleet) :
    Prop where
  remembered : ∀ host window start,
    (fleet.memories host).get bucket = some window →
      window.windowStart = some start → start ≤ instant
  held : ∀ start, (fleet.counters.get (bucket, start)).isSome →
    start ≤ instant * 1000

theorem nothingAfter_start (bucket : JsString) (instant : ℤ) :
    NothingAfter bucket instant .start where
  remembered := by
    intro host window start isHeld
    cases isHeld
  held := by
    intro start isHeld
    cases isHeld

/-- A memory holds the bucket of a call in the window of the call. -/
theorem remembered_own
    {window : MemoryWindow}
    (isHeld : (call.remembered fleet).2.get call.bucket = some window) :
    window.windowStart = memoryWindowStart call.policy (some call.now) := by
  unfold ServedCall.remembered memoryHit at isHeld
  dsimp only at isHeld
  split at isHeld
  · rw [OrderedMap.get_set, if_pos rfl] at isHeld
    rw [← Option.some.inj isHeld]
  · rename_i existing isFound
    split at isHeld
    · rename_i same
      rw [OrderedMap.get_set, if_pos rfl] at isHeld
      rw [← Option.some.inj isHeld]
      exact eq_of_sameInstant same
    · rw [OrderedMap.get_set, if_pos rfl] at isHeld
      rw [← Option.some.inj isHeld]

theorem le_of_memoryWindowStart
    {start : ℤ}
    (isStart : memoryWindowStart call.policy (some call.now) = some start) :
    start ≤ call.now := by
  by_cases isZero : call.policy.windowSeconds = 0
  · rw [memoryWindowStart, if_pos isZero] at isStart
    cases isStart
  · have positive := Nat.pos_of_ne_zero isZero
    rw [memoryWindowStart_of_positive positive] at isStart
    rw [← Option.some.inj isStart]
    exact ServedCall.start_le positive

theorem isSome_of_maySweep
    {before after : RateLimitCounters} (maySweep : MaySweep call before after)
    {key : JsString × ℤ} (isHeld : (after.get key).isSome) :
    (before.get key).isSome := by
  rcases maySweep with rfl | rfl
  · exact isHeld
  · rw [rateLimitSweep, OrderedMap.get_restrict] at isHeld
    split at isHeld
    · exact isHeld
    · cases isHeld

/-- The counters after a call hold what they held, and the row of the window
of the call. -/
theorem isSome_of_serve
    {start : ℤ}
    (isHeld : ((call.serve fleet).2.counters.get (bucket, start)).isSome) :
    (fleet.counters.get (bucket, start)).isSome ∨
      bucket = call.bucket ∧ start ≤ call.now * 1000 := by
  rcases call.serve_cases fleet with ⟨-, isServed⟩ |
    ⟨-, ⟨-, isServed⟩ |
      ⟨row, after, swept, answers, maySweep, isServed⟩⟩
  · rw [isServed] at isHeld
    exact Or.inl isHeld
  · rw [isServed] at isHeld
    exact Or.inl isHeld
  · obtain ⟨⟨positive, -⟩, -, isAfter⟩ :=
      hitCounters_eq_some_iff.mp answers.isHit
    rw [isServed] at isHeld
    have isCounted := isSome_of_maySweep maySweep isHeld
    rw [isAfter, OrderedMap.get_set] at isCounted
    split at isCounted
    · rename_i isKey
      obtain ⟨isBucket, isStart⟩ := Prod.mk.inj isKey
      refine Or.inr ⟨isBucket, ?_⟩
      have notAfter : call.start ≤ call.now :=
        ServedCall.start_le positive
      unfold ServedCall.start at notAfter
      omega
    · exact Or.inl isCounted

/-- A call that is not for a bucket, or is not after an instant, leaves
nothing after it. -/
theorem NothingAfter.serve
    (nothing : NothingAfter bucket instant fleet)
    (earlier : call.bucket = bucket → call.now ≤ instant) :
    NothingAfter bucket instant (call.serve fleet).2 where
  remembered := by
    intro host window start isHeld isStart
    have isMemories : (call.serve fleet).2.memories =
        fleet.remember call.host (call.remembered fleet).2 := rfl
    rw [isMemories, Fleet.remember] at isHeld
    by_cases isHost : host = call.host
    · rw [isHost, Function.update_self] at isHeld
      by_cases isBucket : bucket = call.bucket
      · rw [isBucket] at isHeld
        rw [remembered_own isHeld] at isStart
        exact (le_of_memoryWindowStart isStart).trans (earlier isBucket.symm)
      · exact nothing.remembered _ _ _ (remembered_other isBucket isHeld)
          isStart
    · rw [Function.update_of_ne isHost] at isHeld
      exact nothing.remembered _ _ _ isHeld isStart
  held := by
    intro start isHeld
    rcases isSome_of_serve isHeld with before | ⟨isBucket, notAfter⟩
    · exact nothing.held start before
    · have within := earlier isBucket.symm
      omega

theorem NothingAfter.serveAll
    {calls : List ServedCall} (nothing : NothingAfter bucket instant fleet)
    (earlier : ∀ call ∈ calls, call.bucket = bucket → call.now ≤ instant) :
    NothingAfter bucket instant (serveAll calls fleet) := by
  induction calls generalizing fleet with
  | nil => exact nothing
  | cons call rest inductionHypothesis =>
      obtain ⟨isFirst, areRest⟩ := List.forall_mem_cons.mp earlier
      exact inductionHypothesis (nothing.serve isFirst) areRest

/-- A memory refuses only in a window with a length. -/
theorem positive_of_refused (isRefused : (call.remembered fleet).1 = false) :
    0 < call.policy.windowSeconds := by
  apply Nat.pos_of_ne_zero
  intro isZero
  have isStart : memoryWindowStart call.policy (some call.now) = none :=
    if_pos isZero
  have isOther : ∀ found : Option ℤ, sameInstant found none = false := by
    intro found
    cases found <;> rfl
  unfold ServedCall.remembered memoryHit at isRefused
  rw [isStart] at isRefused
  dsimp only at isRefused
  split at isRefused
  · cases isRefused
  · rw [isOther, if_neg Bool.false_ne_true] at isRefused
    cases isRefused

/-- A refused call is told to wait into the next window. -/
theorem refused_waits
    (isRefused : (call.serve fleet).1.allowed = false) :
    0 < call.policy.windowSeconds ∧
      ∃ seconds, (call.serve fleet).1.resetSeconds = some seconds ∧
        1 ≤ seconds ∧
        call.start + call.policy.windowMs ≤ call.now + seconds * 1000 := by
  rcases call.serve_cases fleet with ⟨byMemory, isServed⟩ |
    ⟨-, ⟨-, isServed⟩ | ⟨row, after, swept, answers, -, isServed⟩⟩
  · have positive := positive_of_refused byMemory
    have notAfter := ServedCall.start_le positive
    rw [isServed]
    refine ⟨positive, call.policy.windowSeconds, rfl, ?_, ?_⟩
    · omega
    · unfold RateLimitPolicy.windowMs
      omega
  · rw [isServed] at isRefused
    cases isRefused
  · obtain ⟨⟨positive, -⟩, isRow, -⟩ :=
      hitCounters_eq_some_iff.mp answers.isHit
    have within : call.now < call.start + call.policy.windowMs :=
      ServedCall.lt_start_add positive
    have isReset : row.resetAt.fdiv 1000 =
        call.start + call.policy.windowMs := by
      rw [isRow]
      exact Int.mul_fdiv_cancel _ (by decide)
    rw [isServed, isReset]
    refine ⟨positive, _, rfl, ?_, ?_⟩
    · rw [Int.fdiv_eq_ediv_of_nonneg _ (by decide)]
      omega
    · rw [Int.fdiv_eq_ediv_of_nonneg _ (by decide)]
      omega

/-- A call whose window starts after everything that was counted is
allowed. -/
theorem NothingAfter.allowed
    (nothing : NothingAfter call.bucket instant fleet)
    (positive : 0 < call.policy.windowSeconds)
    (positiveLimit : 0 < call.policy.limit) (later : instant < call.start) :
    (call.serve fleet).1.allowed = true := by
  have isUncounted : durableCount fleet.counters call.bucket call.start =
      0 := by
    unfold durableCount
    cases isHeld : fleet.counters.get (call.bucket, call.start * 1000) with
    | none => rfl
    | some count =>
        have notAfter := nothing.held (call.start * 1000) (by
          rw [isHeld]
          rfl)
        omega
  rcases call.serve_cases fleet with ⟨byMemory, -⟩ |
    ⟨-, ⟨-, isServed⟩ | ⟨row, after, swept, answers, -, isServed⟩⟩
  · unfold ServedCall.remembered memoryHit at byMemory
    rw [memoryWindowStart_of_positive positive] at byMemory
    dsimp only at byMemory
    split at byMemory
    · cases byMemory
    · rename_i existing isFound
      split at byMemory
      · rename_i same
        have notAfter := nothing.remembered _ _ _ isFound
          (eq_of_sameInstant same)
        omega
      · cases byMemory
  · rw [isServed]
    rfl
  · obtain ⟨-, isRow, -⟩ := hitCounters_eq_some_iff.mp answers.isHit
    rw [isServed, isRow]
    refine decide_eq_true ?_
    change durableCount fleet.counters call.bucket call.start + 1 ≤ _
    rw [isUncounted]
    exact positiveLimit

/-- After any calls, a call that is refused at an instant is told to wait for
some seconds, at least one; if the client sends nothing until then, whatever
other clients send, its next call on any instance is allowed. -/
theorem waiting_suffices
    {refused : ServedCall} (positiveLimit : 0 < refused.policy.limit)
    {before : List ServedCall}
    (earlier : ∀ call ∈ before, call.bucket = refused.bucket →
      call.now ≤ refused.now)
    (isRefused :
      (refused.serve (serveAll before .start)).1.allowed = false) :
    ∃ seconds,
      (refused.serve (serveAll before .start)).1.resetSeconds =
          some seconds ∧
        1 ≤ seconds ∧
        ∀ (others : List ServedCall) (next : ServedCall),
          (∀ call ∈ others, call.bucket ≠ refused.bucket) →
          next.policy = refused.policy → next.subject = refused.subject →
          refused.now + seconds * 1000 ≤ next.now →
            (next.serve (serveAll (before ++ refused :: others)
              .start)).1.allowed = true := by
  obtain ⟨positive, seconds, isReset, atLeast, intoNext⟩ :=
    refused_waits isRefused
  refine ⟨seconds, isReset, atLeast, ?_⟩
  intro others next areOther samePolicy sameSubject waited
  have isBucket : next.bucket = refused.bucket := by
    unfold ServedCall.bucket
    rw [samePolicy, sameSubject]
  have noneBefore := (nothingAfter_start refused.bucket
    refused.now).serveAll earlier
  have noneRefused := noneBefore.serve (fun _ => le_refl refused.now)
  have nothing := noneRefused.serveAll fun call isMember isSame =>
    absurd isSame (areOther call isMember)
  have isRun : serveAll (before ++ refused :: others) .start =
      serveAll others (refused.serve (serveAll before .start)).2 :=
    List.foldl_append
  have later : refused.now < next.start := by
    have length : 0 < refused.policy.windowMs := by
      unfold RateLimitPolicy.windowMs
      omega
    have within : refused.now < refused.start + refused.policy.windowMs :=
      ServedCall.lt_start_add positive
    have isLater := windowStart_add_le length (intoNext.trans waited)
    unfold ServedCall.start at within ⊢
    rw [samePolicy]
    omega
  rw [isRun]
  rw [← isBucket] at nothing
  rw [← samePolicy] at positive positiveLimit
  exact nothing.allowed positive positiveLimit later

end Wait

/-- The fifth call of a minute is refused by the instance, and told to wait a
minute. -/
theorem waiting_suffices_sample :
    let before := List.replicate 4 (relayAt 0 true)
    ((relayAt 1000 true).serve (serveAll before .start)).1.allowed = false ∧
      ((relayAt 61000 true).serve
        (serveAll (before ++ [relayAt 1000 true]) .start)).1.allowed =
          true := by
  have isRefused : ((relayAt 1000 true).serve
      (serveAll (List.replicate 4 (relayAt 0 true)) .start)).1.allowed =
        false := by
    decide
  have earlier : ∀ call ∈ List.replicate 4 (relayAt 0 true),
      call.bucket = (relayAt 1000 true).bucket →
        call.now ≤ (relayAt 1000 true).now := by
    intro call isMember _
    rw [List.eq_of_mem_replicate isMember]
    decide
  obtain ⟨seconds, isReset, -, afterwards⟩ :=
    waiting_suffices (by decide) earlier isRefused
  have isMinute : ((relayAt 1000 true).serve
      (serveAll (List.replicate 4 (relayAt 0 true)) .start)).1.resetSeconds =
        some 60 := by
    decide
  rw [isMinute] at isReset
  refine ⟨isRefused, afterwards [] (relayAt 61000 true) ?_ rfl rfl ?_⟩
  · intro call isMember
    cases isMember
  · rw [← Option.some.inj isReset]
    decide

end AgenId.Web
