import AgenId.Core.AssertionSubject
import AgenId.Core.Timestamps
import AgenId.Library.Sorting
import AgenId.Registry.Store
import Mathlib.Data.Int.ConditionallyCompleteOrder

/-!
# The order in which assertions are listed

The memory store sorts the assertions of a subject by the texts of their
times, the database by the times.  The two orders are the same unless a text
repeats another one up to its end and goes on with more digits, or has a day
that its month does not have.
-/

namespace AgenId.Registry

open AgenId.Core
open AgenId.Ecma
open AgenId.Library
open AgenId.Validation
open AgenId.Validation.Schema

/-! ## Texts in order -/

/-- The instants of two texts are in order. -/
def NotAfter (left right : JsString) : Prop :=
  ∀ first ∈ exactTime left, ∀ second ∈ exactTime right, first ≤ second

/-- Two texts of timestamps that are misordered. -/
def MisorderedTexts (left right : JsString) : Prop :=
  ∃ first second : Timestamp,
    first.text = left ∧ second.text = right ∧ first.Misorders second

section Listing

variable [Platform]

/-- A text that `Rfc3339Utc` accepts. -/
def IsRfc3339Utc (text : JsString) : Prop :=
  Rfc3339Utc.accepts (some (.string text)) = some text

/-- The collation of the runtime orders timestamps by their code units: their
separators are at the same places, and the point comes before the digits and
these before the letter. -/
def CollatesTimestamps : Prop :=
  ∀ left right, IsRfc3339Utc left → IsRfc3339Utc right →
    Platform.localeCompare left right = compareOfLessAndEq left right

variable {left right : JsString}

theorem misorderedTexts_iff
    (isLeft : IsRfc3339Utc left) (isRight : IsRfc3339Utc right) :
    MisorderedTexts left right ↔ left < right ∧ ¬ NotAfter left right := by
  constructor
  · rintro ⟨first, second, rfl, rfl, misorders⟩
    have firstTime := isTime_of_accepted isLeft
    have secondTime := isTime_of_accepted isRight
    obtain ⟨less, inverted⟩ :=
      (firstTime.inverted_iff secondTime).mpr misorders
    refine ⟨less, ?_⟩
    intro notAfter
    have inOrder := notAfter _ firstTime.exactTime_text _
      secondTime.exactTime_text
    exact absurd inverted inOrder.not_gt
  · rintro ⟨less, inverted⟩
    obtain ⟨first, rfl, firstTime⟩ := timestamp_of_accepted isLeft
    obtain ⟨second, rfl, secondTime⟩ := timestamp_of_accepted isRight
    refine ⟨first, second, rfl, rfl,
      (firstTime.inverted_iff secondTime).mp ⟨less, ?_⟩⟩
    by_contra notInverted
    apply inverted
    intro start isStart finish isFinish
    rw [firstTime.exactTime_text] at isStart
    rw [secondTime.exactTime_text] at isFinish
    rw [← Option.some.inj isStart, ← Option.some.inj isFinish]
    exact not_lt.mp notInverted

omit [Platform] in
theorem notAfter_refl (text : JsString) : NotAfter text text := by
  intro first isFirst second isSecond
  rw [Option.mem_unique isFirst isSecond]

theorem localeCompare_timestamps
    (collates : CollatesTimestamps)
    (isLeft : IsRfc3339Utc left) (isRight : IsRfc3339Utc right) :
    (Platform.localeCompare left right != .gt) = decide (left ≤ right) := by
  rw [collates left right isLeft isRight, compareOfLessAndEq]
  rcases lt_trichotomy left right with less | same | greater
  · rw [if_pos less, decide_eq_true less.le]
    rfl
  · rw [if_neg same.not_lt, if_pos same, decide_eq_true same.le]
    rfl
  · rw [if_neg greater.not_gt, if_neg greater.ne', decide_eq_false
      greater.not_ge]
    rfl

/-! ## Listings -/

omit [Platform] in
/-- The assertions of a subject, as they are stored. -/
def MemoryStore.assertionsOf (store : MemoryStore) (subject : JsString) :
    List VerificationAssertion :=
  store.assertions.values.filter fun assertion => assertion.subject = subject

/-- What `SupabaseStore.listAssertionsForSubject` may answer: its rows are
ordered by a column that takes the instant of the text. -/
structure SupabaseLists
    (timestamptz : Int → Int) (rows listing : List VerificationAssertion) :
    Prop where
  sameRows : listing.Perm rows
  ordered : listing.Pairwise fun earlier later =>
    ∀ first ∈ exactTime earlier.verifiedAt,
      ∀ second ∈ exactTime later.verifiedAt,
        timestamptz first ≤ timestamptz second

/-- The memory store lists the assertions of a subject by their times, as the
database does. -/
structure ListsChronologically
    (timestamptz : Int → Int) (store : MemoryStore) (subject : JsString) :
    Prop where
  chronological : (store.listAssertionsForSubject subject).Pairwise
    fun earlier later => NotAfter earlier.verifiedAt later.verifiedAt
  asSupabase : SupabaseLists timestamptz (store.assertionsOf subject)
    (store.listAssertionsForSubject subject)

/-- A listing in the order of the times is one that the database may give. -/
theorem listsChronologically_of_chronological
    {timestamptz : Int → Int} (monotone : Monotone timestamptz)
    {store : MemoryStore} {subject : JsString}
    (chronological : (store.listAssertionsForSubject subject).Pairwise
      fun earlier later => NotAfter earlier.verifiedAt later.verifiedAt) :
    ListsChronologically timestamptz store subject := by
  refine ⟨chronological, List.mergeSort_perm _ _, ?_⟩
  refine chronological.imp ?_
  intro earlier later notAfter first isFirst second isSecond
  exact monotone (notAfter first isFirst second isSecond)

/-- Assertions are listed by their texts. -/
theorem chronological_iff
    (collates : CollatesTimestamps) {store : MemoryStore}
    {subject : JsString}
    (areTimes : ∀ assertion ∈ store.assertionsOf subject,
      IsRfc3339Utc assertion.verifiedAt) :
    (store.listAssertionsForSubject subject).Pairwise
        (fun earlier later => NotAfter earlier.verifiedAt later.verifiedAt) ↔
      ∀ first ∈ store.assertionsOf subject,
        ∀ second ∈ store.assertionsOf subject,
          first.verifiedAt < second.verifiedAt →
            NotAfter first.verifiedAt second.verifiedAt := by
  apply pairwise_mergeSort_iff
  · intro first isFirst second isSecond
    exact localeCompare_timestamps collates (areTimes first isFirst)
      (areTimes second isSecond)
  · intro first isFirst second isSecond same
    rw [same]
    exact notAfter_refl _

/-- Assertions are listed by their times exactly when the texts of no two of
them are misordered. -/
theorem listed_chronologically_iff
    (collates : CollatesTimestamps) {timestamptz : Int → Int}
    (monotone : Monotone timestamptz) {store : MemoryStore}
    {subject : JsString}
    (areTimes : ∀ assertion ∈ store.assertionsOf subject,
      IsRfc3339Utc assertion.verifiedAt) :
    ListsChronologically timestamptz store subject ↔
      ∀ first ∈ store.assertionsOf subject,
        ∀ second ∈ store.assertionsOf subject,
          ¬ MisorderedTexts first.verifiedAt second.verifiedAt := by
  have sorted := chronological_iff collates areTimes
  constructor
  · intro lists first isFirst second isSecond misordered
    obtain ⟨less, inverted⟩ := (misorderedTexts_iff (areTimes first isFirst)
      (areTimes second isSecond)).mp misordered
    exact inverted (sorted.mp lists.chronological first isFirst second
      isSecond less)
  · intro ordered
    apply listsChronologically_of_chronological monotone
    rw [sorted]
    intro first isFirst second isSecond less
    by_contra inverted
    exact ordered first isFirst second isSecond
      ((misorderedTexts_iff (areTimes first isFirst)
        (areTimes second isSecond)).mpr ⟨less, inverted⟩)

end Listing

/-! ## Half a second listed first -/

/-- The sample assertion. -/
def wholeSecond : VerificationAssertion :=
  sampleAssertion "agenid:01J8Z3K3F2QZ9X6V7R4T8N2W5Y" ""

/-- Another one, half a second later. -/
def halfSecond : VerificationAssertion :=
  { wholeSecond with
    assertionId := units "assertion:01J8Z3P2K8VW4RN7XTQ6MYD5HD"
    verifiedAt := units "2026-09-13T06:00:00.5Z" }

/-- An instant as the database keeps it, to the microsecond. -/
def toMicrosecond (instant : Int) : Int := (instant + 500) / 1000

theorem monotone_toMicrosecond : Monotone toMicrosecond := by
  intro first second atMost
  unfold toMicrosecond
  omega

theorem sample_collates :
    letI := samplePlatform
    CollatesTimestamps :=
  fun _ _ _ _ => rfl

/-- The later one of two stored assertions is listed first. -/
theorem fraction_listed_first :
    letI := samplePlatform
    let store := (MemoryStore.empty.putAssertion wholeSecond).putAssertion
      halfSecond
    (∀ assertion ∈ store.assertionsOf wholeSecond.subject,
        IsRfc3339Utc assertion.verifiedAt) ∧
      ¬ ListsChronologically toMicrosecond store wholeSecond.subject := by
  let := samplePlatform
  have areStored : ((MemoryStore.empty.putAssertion
      wholeSecond).putAssertion halfSecond).assertionsOf
        wholeSecond.subject = [wholeSecond, halfSecond] := by decide
  have areTimes : ∀ assertion ∈ ((MemoryStore.empty.putAssertion
      wholeSecond).putAssertion halfSecond).assertionsOf wholeSecond.subject,
      IsRfc3339Utc assertion.verifiedAt := by
    rw [areStored]
    exact List.forall_mem_cons.mpr ⟨rfl, List.forall_mem_singleton.mpr rfl⟩
  refine ⟨areTimes, ?_⟩
  intro lists
  have inOrder :=
    (chronological_iff sample_collates areTimes).mp lists.chronological
  rw [areStored] at inOrder
  have notAfter := inOrder halfSecond (by simp) wholeSecond (by simp)
    (by decide) _ rfl _ rfl
  exact absurd notAfter (by decide)

/-- Another one, a second and a quarter later. -/
def quarterSecond : VerificationAssertion :=
  { wholeSecond with
    assertionId := units "assertion:01J8Z3P2K8VW4RN7XTQ6MYD5HE"
    verifiedAt := units "2026-09-13T06:00:01.25Z" }

theorem quarterSecond_not_before :
    NotAfter wholeSecond.verifiedAt quarterSecond.verifiedAt := by
  intro first isFirst second isSecond
  have isStart : exactTime wholeSecond.verifiedAt = some first := isFirst
  have isFinish : exactTime quarterSecond.verifiedAt = some second := isSecond
  cases isStart
  cases isFinish
  decide

/-- Two assertions, of which the later one is stored first and has a fraction,
are listed by their times. -/
theorem listed_chronologically_sample :
    letI := samplePlatform
    let store := (MemoryStore.empty.putAssertion quarterSecond).putAssertion
      wholeSecond
    store.assertionsOf wholeSecond.subject = [quarterSecond, wholeSecond] ∧
      ListsChronologically toMicrosecond store wholeSecond.subject := by
  let := samplePlatform
  have areStored : ((MemoryStore.empty.putAssertion
      quarterSecond).putAssertion wholeSecond).assertionsOf
        wholeSecond.subject = [quarterSecond, wholeSecond] := by decide
  have isWhole : IsRfc3339Utc wholeSecond.verifiedAt := rfl
  have isQuarter : IsRfc3339Utc quarterSecond.verifiedAt := rfl
  refine ⟨areStored, (listed_chronologically_iff sample_collates
    monotone_toMicrosecond ?_).mpr ?_⟩
  · rw [areStored]
    exact List.forall_mem_cons.mpr
      ⟨isQuarter, List.forall_mem_singleton.mpr isWhole⟩
  · rw [areStored]
    simp only [List.forall_mem_cons, List.not_mem_nil, false_implies,
      implies_true, and_true]
    refine ⟨⟨?_, ?_⟩, ?_, ?_⟩
    · rw [misorderedTexts_iff isQuarter isQuarter]
      rintro ⟨less, -⟩
      exact absurd less (lt_irrefl _)
    · rw [misorderedTexts_iff isQuarter isWhole]
      rintro ⟨less, -⟩
      exact absurd less (by decide)
    · rw [misorderedTexts_iff isWhole isQuarter]
      rintro ⟨-, inverted⟩
      exact inverted quarterSecond_not_before
    · rw [misorderedTexts_iff isWhole isWhole]
      rintro ⟨less, -⟩
      exact absurd less (lt_irrefl _)

end AgenId.Registry
