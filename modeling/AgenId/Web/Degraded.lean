import AgenId.Web.RateLimit

/-!
# The rate limiter without its durable layer

Calls that one instance decides on while every durable call fails.  The memory
of the instance then counts alone: the calls of a bucket in a window are
numbered and allowed below the burst, as long as the memory is not dropped
between them.  It never grows beyond its bound.
-/

namespace AgenId.Web

open AgenId.Ecma
open AgenId.Library

/-! ## Runs -/

/-- A call of `checkRateLimit` at an instant, and why the durable calls that
it makes fail. -/
structure LimitedCall where
  policy : RateLimitPolicy
  subject : JsString
  now : ℤ
  sweep : Bool
  failure : DurableCall → JsString

namespace LimitedCall

variable (call : LimitedCall)

def bucket : JsString := bucketOf call.policy call.subject

/-- What the durable calls answer. -/
def failing : (request : DurableCall) → request.Reply
  | .hit bucket policy nowMs =>
    .error (call.failure (.hit bucket policy nowMs))
  | .sweep olderThan => .error (call.failure (.sweep olderThan))

/-- The decision on a call. -/
def decision (memory : LimiterMemory) : RateLimitDecision :=
  (checkRateLimit call.policy call.subject (some call.now) call.sweep
    memory).1.answered call.failing

/-- The memory after a call. -/
def after (memory : LimiterMemory) : LimiterMemory :=
  (checkRateLimit call.policy call.subject (some call.now) call.sweep
    memory).2

/-- A call drops the memory: it opens a window while the memory is full. -/
def Drops (memory : LimiterMemory) : Prop :=
  MEMORY_MAX_KEYS ≤ memory.size ∧
    ∀ existing, memory.get call.bucket = some existing →
      sameInstant existing.windowStart
        (memoryWindowStart call.policy (some call.now)) = false

end LimitedCall

/-- The memory after calls one after another. -/
def afterCalls (calls : List LimitedCall) (memory : LimiterMemory) :
    LimiterMemory :=
  calls.foldl (fun memory call => call.after memory) memory

/-- Calls one after another, with the decisions on them. -/
def decisionsOf :
    List LimitedCall → LimiterMemory → List (LimitedCall × RateLimitDecision)
  | [], _ => []
  | call :: rest, memory =>
    (call, call.decision memory) :: decisionsOf rest (call.after memory)

/-- No call of a run drops the memory. -/
def NeverDrops : List LimitedCall → LimiterMemory → Prop
  | [], _ => True
  | call :: rest, memory =>
    ¬ call.Drops memory ∧ NeverDrops rest (call.after memory)

/-! ## One call -/

section Call

variable {call : LimitedCall} {memory : LimiterMemory}

theorem after_eq :
    call.after memory =
      (memoryHit call.bucket call.policy (some call.now) memory).2 := rfl

/-- Without the durable layer the memory decides. -/
theorem decision_allowed :
    (call.decision memory).allowed =
      (memoryHit call.bucket call.policy (some call.now) memory).1 := by
  unfold LimitedCall.decision LimitedCall.bucket checkRateLimit
  dsimp only
  cases (memoryHit (bucketOf call.policy call.subject) call.policy
      (some call.now) memory).1 with
  | true => rfl
  | false => rfl

theorem size_withRoom_lt : (withRoom memory).size < MEMORY_MAX_KEYS := by
  unfold withRoom
  by_cases isFull : MEMORY_MAX_KEYS ≤ memory.size
  · rw [if_pos isFull]
    decide
  · rw [if_neg isFull]
    exact not_le.mp isFull

theorem size_withRoom_le : (withRoom memory).size ≤ memory.size := by
  unfold withRoom
  by_cases isFull : MEMORY_MAX_KEYS ≤ memory.size
  · rw [if_pos isFull]
    exact Nat.zero_le _
  · rw [if_neg isFull]

/-- A call counts a bucket that is there, or makes room for one more. -/
theorem size_after_cases (call : LimitedCall) (memory : LimiterMemory) :
    (call.after memory).size = memory.size ∨
      (call.after memory).size ≤ (withRoom memory).size + 1 := by
  rw [after_eq, memoryHit]
  cases isFound : memory.get call.bucket with
  | none => exact Or.inr (OrderedMap.size_set_le _ _ _)
  | some existing =>
      dsimp only
      by_cases same : sameInstant existing.windowStart
          (memoryWindowStart call.policy (some call.now)) = true
      · rw [if_pos same]
        exact Or.inl (OrderedMap.size_set_of_some isFound _)
      · rw [if_neg same]
        exact Or.inr (OrderedMap.size_set_le _ _ _)

/-- A call keeps the memory within its bound. -/
theorem size_after_le
    (call : LimitedCall) (within : memory.size ≤ MEMORY_MAX_KEYS) :
    (call.after memory).size ≤ MEMORY_MAX_KEYS := by
  rcases size_after_cases call memory with same | grows
  · rw [same]
    exact within
  · exact grows.trans size_withRoom_lt

theorem size_after_le_succ (call : LimitedCall) (memory : LimiterMemory) :
    (call.after memory).size ≤ memory.size + 1 := by
  rcases size_after_cases call memory with same | grows
  · rw [same]
    exact Nat.le_succ _
  · exact grows.trans (Nat.succ_le_succ size_withRoom_le)

/-- What a call does that opens a window without dropping the memory. -/
theorem memoryHit_opens
    (keeps : ¬ call.Drops memory)
    (opens : ∀ existing, memory.get call.bucket = some existing →
      sameInstant existing.windowStart
        (memoryWindowStart call.policy (some call.now)) = false) :
    memoryHit call.bucket call.policy (some call.now) memory =
      (true, memory.set call.bucket
        ⟨memoryWindowStart call.policy (some call.now), 1⟩) := by
  have hasRoom : withRoom memory = memory := by
    apply if_neg
    intro isFull
    exact keeps ⟨isFull, opens⟩
  unfold memoryHit
  rw [hasRoom]
  cases isFound : memory.get call.bucket with
  | none => rfl
  | some existing =>
      have isOther := opens existing isFound
      simp only [isOther, Bool.false_eq_true, if_false]

/-- What a call does in the window that its bucket was last counted in. -/
theorem memoryHit_counts
    {existing : MemoryWindow} (isFound : memory.get call.bucket = some existing)
    (same : sameInstant existing.windowStart
      (memoryWindowStart call.policy (some call.now)) = true) :
    memoryHit call.bucket call.policy (some call.now) memory =
      (decide (existing.count + 1 ≤ call.policy.burst),
        memory.set call.bucket
          { existing with count := existing.count + 1 }) := by
  unfold memoryHit
  simp only [isFound, same, if_true]

/-- A call that does not drop the memory sets its bucket, to a window of its
own or to the one that the bucket was last counted in. -/
theorem after_eq_set (keeps : ¬ call.Drops memory) :
    ∃ window, call.after memory = memory.set call.bucket window ∧
      (window.windowStart = memoryWindowStart call.policy (some call.now) ∨
        ∃ existing, memory.get call.bucket = some existing ∧
          window.windowStart = existing.windowStart) := by
  rw [after_eq]
  by_cases opens : ∀ existing, memory.get call.bucket = some existing →
      sameInstant existing.windowStart
        (memoryWindowStart call.policy (some call.now)) = false
  · rw [memoryHit_opens keeps opens]
    exact ⟨_, rfl, Or.inl rfl⟩
  · obtain ⟨existing, notOpening⟩ := not_forall.mp opens
    obtain ⟨isFound, same⟩ := Classical.not_imp.mp notOpening
    rw [memoryHit_counts isFound (Bool.not_eq_false _ ▸ same)]
    exact ⟨_, rfl, Or.inr ⟨existing, isFound, rfl⟩⟩

/-- A call that does not drop the memory leaves the other buckets. -/
theorem get_memoryHit_of_ne
    (keeps : ¬ call.Drops memory) {bucket : JsString}
    (isOther : bucket ≠ call.bucket) :
    (call.after memory).get bucket = memory.get bucket := by
  obtain ⟨window, isSet, -⟩ := after_eq_set keeps
  rw [isSet, OrderedMap.get_set, if_neg isOther]

/-- What the memory holds of a bucket after a number of its calls in the
window of a start. -/
def Counted (start : ℤ) : ℕ → Option MemoryWindow → Prop
  | 0, found => ∀ window, found = some window →
      window.windowStart ≠ some start
  | number + 1, found => found = some ⟨some start, number + 1⟩

variable {start : ℤ} {number : ℕ}

theorem sameInstant_some_iff {found : Option ℤ} :
    sameInstant found (some start) = true ↔ found = some start := by
  cases found with
  | none => simp [sameInstant]
  | some first => simp [sameInstant]

/-- A call in the window is allowed below the burst, and counted. -/
theorem memoryHit_inWindow
    (keeps : ¬ call.Drops memory)
    (isStart : memoryWindowStart call.policy (some call.now) = some start)
    (positive : 0 < call.policy.burst)
    (counted : Counted start number (memory.get call.bucket)) :
    (memoryHit call.bucket call.policy (some call.now) memory).1 =
        decide (number < call.policy.burst) ∧
      Counted start (number + 1) ((call.after memory).get call.bucket) := by
  rw [after_eq]
  cases number with
  | zero =>
      have opens : ∀ existing, memory.get call.bucket = some existing →
          sameInstant existing.windowStart
            (memoryWindowStart call.policy (some call.now)) = false := by
        intro existing isFound
        rw [isStart]
        apply Bool.eq_false_of_not_eq_true
        intro same
        exact counted existing isFound (sameInstant_some_iff.mp same)
      rw [memoryHit_opens keeps opens, isStart]
      refine ⟨(decide_eq_true positive).symm, ?_⟩
      exact (OrderedMap.get_set _ _ _ _).trans (if_pos rfl)
  | succ number =>
      have same : sameInstant (some start)
          (memoryWindowStart call.policy (some call.now)) = true := by
        rw [isStart]
        exact sameInstant_some_iff.mpr rfl
      rw [memoryHit_counts counted same]
      refine ⟨rfl, ?_⟩
      exact (OrderedMap.get_set _ _ _ _).trans (if_pos rfl)

/-- A call of the bucket in another window leaves the window uncounted. -/
theorem counted_zero_of_other
    (keeps : ¬ call.Drops memory)
    (isOther : memoryWindowStart call.policy (some call.now) ≠ some start)
    (counted : Counted start 0 (memory.get call.bucket)) :
    Counted start 0 ((call.after memory).get call.bucket) := by
  obtain ⟨window, isSet, isStart⟩ := after_eq_set keeps
  intro found isHeld
  rw [isSet, OrderedMap.get_set, if_pos rfl] at isHeld
  rw [← Option.some.inj isHeld]
  rcases isStart with isOpened | ⟨existing, isFound, sameStart⟩
  · rw [isOpened]
    exact isOther
  · rw [sameStart]
    exact counted existing isFound

end Call

/-! ## All calls -/

section Bucket

variable {bucket : JsString} {windowSeconds burst : ℕ} {index : ℤ}
  {calls : List LimitedCall} {memory : LimiterMemory} {number : ℕ}

/-- The milliseconds of a window. -/
def windowMs (windowSeconds : ℕ) : ℤ := ((windowSeconds * 1000 : ℕ) : ℤ)

/-- A call for a bucket falls in the window of a number. -/
def LimitedCall.InWindow (bucket : JsString) (windowSeconds : ℕ) (index : ℤ)
    (call : LimitedCall) : Prop :=
  call.bucket = bucket ∧ index * windowMs windowSeconds ≤ call.now ∧
    call.now < index * windowMs windowSeconds + windowMs windowSeconds

instance : DecidablePred (LimitedCall.InWindow bucket windowSeconds index) :=
  fun _ => inferInstanceAs (Decidable (_ ∧ _ ∧ _))

/-- The calls for a bucket have one window length and one burst. -/
def OnePolicy (bucket : JsString) (windowSeconds burst : ℕ)
    (calls : List LimitedCall) : Prop :=
  ∀ call ∈ calls, call.bucket = bucket →
    call.policy.windowSeconds = windowSeconds ∧ call.policy.burst = burst

/-- Whether the calls for a bucket in a window are allowed, in their order. -/
def allowedIn (bucket : JsString) (windowSeconds : ℕ) (index : ℤ)
    (calls : List LimitedCall) (memory : LimiterMemory) : List Bool :=
  ((decisionsOf calls memory).filter
    fun decided => LimitedCall.InWindow bucket windowSeconds index
      decided.1).map fun decided => decided.2.allowed

theorem allowedIn_inWindow
    {call : LimitedCall} (inWindow : call.InWindow bucket windowSeconds index)
    (rest : List LimitedCall) :
    allowedIn bucket windowSeconds index (call :: rest) memory =
      (memoryHit call.bucket call.policy (some call.now) memory).1 ::
        allowedIn bucket windowSeconds index rest (call.after memory) := by
  rw [← decision_allowed]
  simp [allowedIn, decisionsOf, inWindow]

theorem allowedIn_elsewhere
    {call : LimitedCall}
    (elsewhere : ¬ call.InWindow bucket windowSeconds index)
    (rest : List LimitedCall) :
    allowedIn bucket windowSeconds index (call :: rest) memory =
      allowedIn bucket windowSeconds index rest (call.after memory) := by
  simp [allowedIn, decisionsOf, elsewhere]

theorem memoryWindowStart_eq_iff
    {policy : RateLimitPolicy} (isWindow : policy.windowSeconds = windowSeconds)
    (positive : 0 < windowSeconds) {now : ℤ} :
    memoryWindowStart policy (some now) =
        some (index * windowMs windowSeconds) ↔
      index * windowMs windowSeconds ≤ now ∧
        now < index * windowMs windowSeconds + windowMs windowSeconds := by
  have length : 0 < windowMs windowSeconds := by
    unfold windowMs
    omega
  rw [← windowStart_eq_iff length, memoryWindowStart, isWindow,
    if_neg positive.ne', Option.map_some, Option.some_inj]
  rfl

/-- In a run that never drops the memory, the calls of a bucket in a window
are numbered and allowed below the burst. -/
theorem allowedIn_eq
    (positiveWindow : 0 < windowSeconds) (positiveBurst : 0 < burst)
    (onePolicy : OnePolicy bucket windowSeconds burst calls)
    (chronological : calls.Pairwise fun earlier later =>
      earlier.now ≤ later.now)
    (neverDrops : NeverDrops calls memory)
    (begun : number ≠ 0 → ∀ call ∈ calls,
      index * windowMs windowSeconds ≤ call.now)
    (counted : (∃ call ∈ calls, call.InWindow bucket windowSeconds index) →
      Counted (index * windowMs windowSeconds) number (memory.get bucket)) :
    ∃ count, allowedIn bucket windowSeconds index calls memory =
      (List.range' number count).map fun number => decide (number < burst) := by
  induction calls generalizing memory number with
  | nil => exact ⟨0, rfl⟩
  | cons call rest inductionHypothesis =>
      obtain ⟨notBefore, chronologicalRest⟩ :=
        List.pairwise_cons.mp chronological
      obtain ⟨keeps, neverDropsRest⟩ := neverDrops
      have onePolicyRest : OnePolicy bucket windowSeconds burst rest :=
        fun other isMember =>
          onePolicy other (List.mem_cons_of_mem _ isMember)
      by_cases inWindow : call.InWindow bucket windowSeconds index
      · have isCounted := counted ⟨call, List.mem_cons_self, inWindow⟩
        obtain ⟨isBucket, after, before⟩ := inWindow
        obtain ⟨isWindow, isBurst⟩ :=
          onePolicy call List.mem_cons_self isBucket
        have isStart := (memoryWindowStart_eq_iff isWindow
          positiveWindow).mpr ⟨after, before⟩
        rw [← isBucket] at isCounted
        obtain ⟨isAllowed, nextCounted⟩ := memoryHit_inWindow keeps isStart
          (isBurst ▸ positiveBurst) isCounted
        rw [isBucket] at nextCounted
        obtain ⟨count, isRest⟩ := inductionHypothesis onePolicyRest
          chronologicalRest neverDropsRest
          (fun _ other isMember => after.trans (notBefore other isMember))
          (fun _ => nextCounted)
        refine ⟨count + 1, ?_⟩
        rw [allowedIn_inWindow ⟨isBucket, after, before⟩, isRest, isAllowed,
          isBurst, List.range'_succ, List.map_cons]
      · have nextCounted :
            (∃ other ∈ rest, other.InWindow bucket windowSeconds index) →
              Counted (index * windowMs windowSeconds) number
                ((call.after memory).get bucket) := by
          rintro ⟨other, isMember, isLater⟩
          have isCounted := counted
            ⟨other, List.mem_cons_of_mem _ isMember, isLater⟩
          by_cases isBucket : call.bucket = bucket
          · obtain ⟨isWindow, -⟩ :=
              onePolicy call List.mem_cons_self isBucket
            -- A window that was left is not entered again.
            have isFirst : number = 0 := by
              by_contra notFirst
              have after := begun notFirst call List.mem_cons_self
              have before := (notBefore other isMember).trans_lt isLater.2.2
              exact inWindow ⟨isBucket, after, before⟩
            subst isFirst
            rw [← isBucket] at isCounted ⊢
            apply counted_zero_of_other keeps _ isCounted
            intro isStart
            exact inWindow ⟨isBucket,
              (memoryWindowStart_eq_iff isWindow positiveWindow).mp isStart⟩
          · rw [get_memoryHit_of_ne keeps (Ne.symm isBucket)]
            exact isCounted
        have begunRest : number ≠ 0 → ∀ other ∈ rest,
            index * windowMs windowSeconds ≤ other.now :=
          fun notFirst other isMember =>
            begun notFirst other (List.mem_cons_of_mem _ isMember)
        obtain ⟨count, isRest⟩ := inductionHypothesis onePolicyRest
          chronologicalRest neverDropsRest begunRest nextCounted
        exact ⟨count, by rw [allowedIn_elsewhere inWindow, isRest]⟩

/-- The memory stays within its bound in every run. -/
theorem size_afterCalls_le
    (calls : List LimitedCall) (within : memory.size ≤ MEMORY_MAX_KEYS) :
    (afterCalls calls memory).size ≤ MEMORY_MAX_KEYS := by
  induction calls generalizing memory with
  | nil => exact within
  | cons call rest inductionHypothesis =>
      apply inductionHypothesis
      exact size_after_le call within

/-- While the durable layer fails: the memory of the instance never holds more
than its bound, and in a run that never drops it, at most a burst of calls of
a bucket is allowed in a window. -/
theorem degraded_is_bounded
    (chronological : calls.Pairwise fun earlier later =>
      earlier.now ≤ later.now) :
    (afterCalls calls .empty).size ≤ MEMORY_MAX_KEYS ∧
      (NeverDrops calls .empty →
        ∀ bucket windowSeconds burst, 0 < windowSeconds → 0 < burst →
          OnePolicy bucket windowSeconds burst calls → ∀ index,
            (allowedIn bucket windowSeconds index calls .empty).countP id ≤
              burst) := by
  refine ⟨size_afterCalls_le calls (Nat.zero_le _), ?_⟩
  intro neverDrops bucket windowSeconds burst positiveWindow positiveBurst
    onePolicy index
  have isNumbered : ∃ count, allowedIn bucket windowSeconds index calls .empty =
      (List.range' 0 count).map fun number => decide (number < burst) := by
    apply allowedIn_eq positiveWindow positiveBurst onePolicy chronological
      neverDrops
    · intro notFirst
      exact absurd rfl notFirst
    · intro _ window isHeld
      cases isHeld
  obtain ⟨count, isNumbered⟩ := isNumbered
  rw [isNumbered, ← List.range_eq_range']
  apply countP_numbered_le
  intro number isAllowed
  exact of_decide_eq_true isAllowed

/-- Fewer calls than the memory has room for do not drop it. -/
theorem neverDrops_of_room
    (hasRoom : memory.size + calls.length ≤ MEMORY_MAX_KEYS) :
    NeverDrops calls memory := by
  induction calls generalizing memory with
  | nil => trivial
  | cons call rest inductionHypothesis =>
      rw [List.length_cons] at hasRoom
      constructor
      · rintro ⟨isFull, -⟩
        omega
      · apply inductionHypothesis
        have grows := size_after_le_succ call memory
        omega

theorem allowedIn_append (first second : List LimitedCall) :
    allowedIn bucket windowSeconds index (first ++ second) memory =
      allowedIn bucket windowSeconds index first memory ++
        allowedIn bucket windowSeconds index second
          (afterCalls first memory) := by
  induction first generalizing memory with
  | nil => rfl
  | cons call rest inductionHypothesis =>
      have isRest := @inductionHypothesis (call.after memory)
      by_cases inWindow : call.InWindow bucket windowSeconds index
      · rw [List.cons_append, allowedIn_inWindow inWindow,
          allowedIn_inWindow inWindow, isRest]
        rfl
      · rw [List.cons_append, allowedIn_elsewhere inWindow,
          allowedIn_elsewhere inWindow, isRest]
        rfl

end Bucket

/-! ## A flood of clients -/

/-- A call of a client under the policy of the relay. -/
def relayCall (subject : JsString) : LimitedCall where
  policy := POLICIES.relay
  subject := subject
  now := 1789344000000
  sweep := false
  failure := fun _ => units "connection refused"

/-- A client that makes as many calls as a burst allows. -/
def patientCalls : List LimitedCall :=
  List.replicate POLICIES.relay.burst (relayCall (units "b"))

/-- One of many other clients. -/
def otherCall (number : ℕ) : LimitedCall :=
  relayCall (List.replicate number 97)

theorem otherCall_bucket_inj {first second : ℕ}
    (same : (otherCall first).bucket = (otherCall second).bucket) :
    first = second := by
  have subjects : List.replicate first (97 : UInt16) =
      List.replicate second 97 :=
    List.append_cancel_left same
  simpa using congrArg List.length subjects

theorem otherCall_bucket_ne (number : ℕ) :
    (otherCall number).bucket ≠ (relayCall (units "b")).bucket := by
  intro same
  have subjects : List.replicate number (97 : UInt16) = [98] :=
    List.append_cancel_left same
  have isMember : (98 : UInt16) ∈ List.replicate number (97 : UInt16) := by
    rw [subjects]
    exact List.mem_singleton.mpr rfl
  exact absurd (List.eq_of_mem_replicate isMember) (by decide)

/-- The memory after the patient client and some of the others. -/
def flooded (number : ℕ) : LimiterMemory :=
  afterCalls ((List.range number).map otherCall)
    (afterCalls patientCalls .empty)

theorem flooded_succ (number : ℕ) :
    flooded (number + 1) = (otherCall number).after (flooded number) := by
  unfold flooded afterCalls
  rw [List.range_succ, List.map_append, List.foldl_append]
  rfl

/-- Each of the other clients takes room in the memory, as long as there is
some. -/
theorem flooded_grows
    {number : ℕ} (within : number < MEMORY_MAX_KEYS) :
    (flooded number).size = number + 1 ∧
      ∀ later, number ≤ later →
        (flooded number).get (otherCall later).bucket = none := by
  induction number with
  | zero =>
      refine ⟨rfl, ?_⟩
      intro later _
      apply OrderedMap.get_eq_none_iff.mpr
      have keys : (flooded 0).entries.map Prod.fst =
          [(relayCall (units "b")).bucket] := rfl
      rw [keys, List.mem_singleton]
      exact otherCall_bucket_ne later
  | succ number inductionHypothesis =>
      obtain ⟨isSize, isFresh⟩ := inductionHypothesis (by omega)
      have keeps : ¬ (otherCall number).Drops (flooded number) := by
        rintro ⟨isFull, -⟩
        omega
      have isNew := isFresh number le_rfl
      have opens := memoryHit_opens keeps fun existing isFound => by
        rw [isNew] at isFound
        cases isFound
      rw [flooded_succ]
      constructor
      · rw [after_eq, opens, OrderedMap.size_set_of_none isNew, isSize]
      · intro later isLater
        rw [get_memoryHit_of_ne keeps]
        · exact isFresh later (by omega)
        · intro same
          have := otherCall_bucket_inj same
          omega

/-- The client that comes to a full memory drops the count of the patient
one. -/
theorem flooded_forgets :
    (flooded MEMORY_MAX_KEYS).get (relayCall (units "b")).bucket = none := by
  obtain ⟨isSize, isFresh⟩ :=
    @flooded_grows (MEMORY_MAX_KEYS - 1) (by decide)
  have isNew := isFresh (MEMORY_MAX_KEYS - 1) le_rfl
  have isFull : MEMORY_MAX_KEYS ≤ (flooded (MEMORY_MAX_KEYS - 1)).size := by
    rw [isSize]
    decide
  have isLast : flooded MEMORY_MAX_KEYS =
      (otherCall (MEMORY_MAX_KEYS - 1)).after
        (flooded (MEMORY_MAX_KEYS - 1)) := flooded_succ _
  rw [isLast, after_eq, memoryHit, isNew]
  unfold withRoom
  rw [if_pos isFull, OrderedMap.get_set,
    if_neg (Ne.symm (otherCall_bucket_ne _))]
  rfl

/-- The bucket of the patient client. -/
def patientBucket : JsString := bucketOf POLICIES.relay (units "b")

theorem patient_allowed :
    allowedIn patientBucket 60 29822400 patientCalls .empty =
      [true, true, true, true] := by
  decide

theorem allowedIn_others (numbers : List ℕ) (memory : LimiterMemory) :
    allowedIn patientBucket 60 29822400 (numbers.map otherCall) memory =
      [] := by
  induction numbers generalizing memory with
  | nil => rfl
  | cons number rest inductionHypothesis =>
      rw [List.map_cons, allowedIn_elsewhere]
      · exact inductionHypothesis _
      · rintro ⟨isPatient, -⟩
        exact otherCall_bucket_ne number isPatient

theorem allowedIn_forgotten
    {memory : LimiterMemory} (isForgotten : memory.get patientBucket = none) :
    allowedIn patientBucket 60 29822400 [relayCall (units "b")] memory =
      [true] := by
  have inWindow : (relayCall (units "b")).InWindow patientBucket 60
      29822400 := by
    decide
  have isHit : (memoryHit (relayCall (units "b")).bucket POLICIES.relay
      (some 1789344000000) memory).1 = true := by
    unfold memoryHit
    have sameBucket : memory.get (relayCall (units "b")).bucket = none :=
      isForgotten
    rw [sameBucket]
  rw [allowedIn_inWindow inWindow]
  exact congrArg (· :: []) isHit

/-- Alone, the patient client is allowed no more than a burst of calls. -/
theorem degraded_is_bounded_sample :
    (allowedIn patientBucket 60 29822400 (patientCalls ++ patientCalls)
      .empty).countP id ≤ 4 := by
  have isPatient : ∀ call ∈ patientCalls ++ patientCalls,
      call = relayCall (units "b") := by
    intro call isMember
    rcases List.mem_append.mp isMember with isFirst | isSecond
    · exact List.eq_of_mem_replicate isFirst
    · exact List.eq_of_mem_replicate isSecond
  have chronological : (patientCalls ++ patientCalls).Pairwise
      fun earlier later => earlier.now ≤ later.now := by
    apply List.pairwise_of_forall_mem_list
    intro earlier isEarlier later isLater
    rw [isPatient earlier isEarlier, isPatient later isLater]
  have onePolicy : OnePolicy patientBucket 60 4
      (patientCalls ++ patientCalls) := by
    intro call isMember _
    rw [isPatient call isMember]
    exact ⟨rfl, rfl⟩
  exact (degraded_is_bounded chronological).2
    (neverDrops_of_room (by decide)) patientBucket 60 4 (by decide)
    (by decide) onePolicy 29822400

/-- A client of the relay is allowed more than a burst of calls in one window,
when as many other clients as the memory holds call between them. -/
theorem degraded_is_not_bounded :
    ¬ ∀ calls : List LimitedCall,
      (∀ call ∈ calls, call.policy = POLICIES.relay) →
      (calls.Pairwise fun earlier later => earlier.now ≤ later.now) →
      ∀ subject index,
        (allowedIn (bucketOf POLICIES.relay subject)
          POLICIES.relay.windowSeconds index calls .empty).countP id ≤
            POLICIES.relay.burst := by
  intro bounded
  let calls := patientCalls ++
    ((List.range MEMORY_MAX_KEYS).map otherCall ++ [relayCall (units "b")])
  have isRelay : ∀ call ∈ calls, ∃ subject, call = relayCall subject := by
    intro call isMember
    rcases List.mem_append.mp isMember with isPatient | isLater
    · exact ⟨_, List.eq_of_mem_replicate isPatient⟩
    · rcases List.mem_append.mp isLater with isOther | isLast
      · obtain ⟨number, -, rfl⟩ := List.mem_map.mp isOther
        exact ⟨_, rfl⟩
      · exact ⟨_, List.mem_singleton.mp isLast⟩
  have onePolicy : ∀ call ∈ calls, call.policy = POLICIES.relay := by
    intro call isMember
    obtain ⟨subject, rfl⟩ := isRelay call isMember
    rfl
  have chronological : calls.Pairwise fun earlier later =>
      earlier.now ≤ later.now := by
    apply List.pairwise_of_forall_mem_list
    intro earlier isEarlier later isLater
    obtain ⟨first, rfl⟩ := isRelay earlier isEarlier
    obtain ⟨second, rfl⟩ := isRelay later isLater
    exact le_refl _
  have allowed : allowedIn patientBucket 60 29822400 calls .empty =
      [true, true, true, true, true] := by
    have last := allowedIn_forgotten flooded_forgets
    unfold flooded at last
    rw [allowedIn_append, allowedIn_append, patient_allowed,
      allowedIn_others, last]
    rfl
  have atMost := bounded calls onePolicy chronological (units "b") 29822400
  change (allowedIn patientBucket 60 29822400 calls .empty).countP id ≤ 4
    at atMost
  rw [allowed] at atMost
  exact absurd atMost (by decide)

end AgenId.Web
