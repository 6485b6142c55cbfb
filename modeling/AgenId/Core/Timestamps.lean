import AgenId.Core.Schemas
import AgenId.Ecma.Timestamp

/-!
# The timestamps of the schemas

A text that `Rfc3339Utc` accepts is the text of a timestamp, and denotes an
instant of which `Date.parse` keeps the whole milliseconds.
-/

namespace AgenId.Core

open AgenId.Ecma
open AgenId.Validation
open AgenId.Validation.Schema

theorem matchesAt_field
    {count : Nat} {separator : UInt16} {pieces : List Piece}
    {previous : Option UInt16} {text : JsString}
    (matched : matchesAt
      (.exactly isDigit count :: .one (· == separator) :: pieces) previous
        text = true) :
    ∃ digits rest, AreDigits count digits ∧
      text = digits ++ separator :: rest ∧
      matchesAt pieces (some separator) rest = true := by
  rcases matchesAt_exactly_iff.mp matched with
    ⟨digits, _, rfl, areDigits, length, follows⟩
  rcases matchesAt_one_iff.mp follows with ⟨unit, rest, rfl, isUnit, after⟩
  have isSeparator : unit = separator := beq_iff_eq.mp isUnit
  rw [isSeparator] at after ⊢
  exact ⟨digits, rest, ⟨length, areDigits⟩, rfl, after⟩

/-- What the expression asks of the last part of a timestamp. -/
theorem exists_ending
    {rest : JsString} {previous : Option UInt16}
    (matched : matchesAt [.one (· == 0x5A), .finish] previous rest = true ∨
      matchesAt [.one (· == 0x2E), .run isDigit 1 (some 9),
        .one (· == 0x5A), .finish] previous rest = true) :
    ∃ fraction, rest = ending fraction ∧
      (∀ unit ∈ fraction, isDigit unit = true) ∧ fraction.length ≤ 9 := by
  have zoneOnly : ∀ {previous : Option UInt16} {text : JsString},
      matchesAt [.one (· == 0x5A), .finish] previous text = true →
        text = [0x5A] := by
    intro previous text isZone
    rcases matchesAt_one_iff.mp isZone with ⟨unit, after, rfl, isUnit, ends⟩
    rw [matchesAt_finish.mp ends, beq_iff_eq.mp isUnit]
  rcases matched with whole | fractional
  · exact ⟨[], zoneOnly whole, by simp, by simp⟩
  · rcases matchesAt_one_iff.mp fractional with
      ⟨point, _, rfl, isPoint, follows⟩
    rcases matchesAt_run_iff.mp follows with
      ⟨fraction, zone, rfl, areDigits, least, most, isZone⟩
    have nonempty : fraction ≠ [] := by
      rintro rfl
      simp at least
    refine ⟨fraction, ?_, areDigits, by simpa [withinMost] using most⟩
    rw [ending, if_neg nonempty, zoneOnly isZone, beq_iff_eq.mp isPoint]

/-- The texts of the expression are those of timestamps. -/
theorem exists_timestamp
    {text : JsString} (matched : timestampRegex.test text = true) :
    ∃ stamp : Timestamp, stamp.text = text := by
  have alternatives : ∃ zone,
      (zone = [.one (· == 0x5A), .finish] ∨
        zone = [.one (· == 0x2E), .run isDigit 1 (some 9),
          .one (· == 0x5A), .finish]) ∧
      matchesAt (.exactly isDigit 4 :: .one (· == 0x2D) ::
        .exactly isDigit 2 :: .one (· == 0x2D) :: .exactly isDigit 2 ::
        .one (· == 0x54) :: .exactly isDigit 2 :: .one (· == 0x3A) ::
        .exactly isDigit 2 :: .one (· == 0x3A) :: .exactly isDigit 2 ::
        zone) none text = true := by
    rcases List.any_eq_true.mp matched with ⟨pieces, isPieces, isMatched⟩
    rcases List.mem_cons.mp isPieces with rfl | isPieces
    · exact ⟨_, Or.inl rfl, isMatched⟩
    · rw [List.mem_singleton.mp isPieces] at isMatched
      exact ⟨_, Or.inr rfl, isMatched⟩
  rcases alternatives with ⟨zone, isZone, isMatched⟩
  rcases matchesAt_field isMatched with ⟨year, _, yearDigits, rfl, afterYear⟩
  rcases matchesAt_field afterYear with
    ⟨month, _, monthDigits, rfl, afterMonth⟩
  rcases matchesAt_field afterMonth with ⟨day, _, dayDigits, rfl, afterDay⟩
  rcases matchesAt_field afterDay with ⟨hour, _, hourDigits, rfl, afterHour⟩
  rcases matchesAt_field afterHour with
    ⟨minute, _, minuteDigits, rfl, afterMinute⟩
  rcases matchesAt_exactly_iff.mp afterMinute with
    ⟨second, rest, rfl, areDigits, length, afterSecond⟩
  have isEnding : matchesAt [.one (· == 0x5A), .finish]
        (second.getLast?.or (some 0x3A)) rest = true ∨
      matchesAt [.one (· == 0x2E), .run isDigit 1 (some 9),
        .one (· == 0x5A), .finish] (second.getLast?.or (some 0x3A)) rest =
          true := by
    rcases isZone with rfl | rfl
    · exact Or.inl afterSecond
    · exact Or.inr afterSecond
  rcases exists_ending isEnding with ⟨fraction, rfl, fractionDigits, short⟩
  refine ⟨⟨year, month, day, hour, minute, second, fraction, yearDigits,
    monthDigits, dayDigits, hourDigits, minuteDigits, ⟨length, areDigits⟩,
    fractionDigits, short⟩, ?_⟩
  simp [Timestamp.text, Timestamp.toSecond]

section Accepted

variable [Platform]

/-- A timestamp that is accepted is read. -/
theorem isTime_of_accepted
    {input : Option Json} {stamp : Timestamp}
    (accepted : Rfc3339Utc.accepts input = some stamp.text) :
    stamp.IsTime := by
  have isRead := (accepts_check_eq_some_iff.mp accepted).2
  rw [dateParse, parseDate, stamp.readInstant_text] at isRead
  exact Timestamp.isTime_of_fields isRead

/-- A text that is accepted is that of a timestamp that is read. -/
theorem timestamp_of_accepted
    {input : Option Json} {text : JsString}
    (accepted : Rfc3339Utc.accepts input = some text) :
    ∃ stamp : Timestamp, stamp.text = text ∧ stamp.IsTime := by
  have isText := (accepts_check_eq_some_iff.mp accepted).1
  obtain ⟨-, isMatched⟩ := accepts_check_eq_some_iff.mp isText
  obtain ⟨stamp, rfl⟩ := exists_timestamp isMatched
  exact ⟨stamp, rfl, isTime_of_accepted accepted⟩

/-- A timestamp that is accepted denotes an instant. -/
theorem exactTime_of_accepted
    {input : Option Json} {text : JsString}
    (accepted : Rfc3339Utc.accepts input = some text) :
    ∃ instant, exactTime text = some instant ∧
      dateParse text = some (instant / 1000000) := by
  obtain ⟨stamp, rfl, isTime⟩ := timestamp_of_accepted accepted
  refine ⟨stamp.instant, isTime.exactTime_text, ?_⟩
  rw [dateParse, stamp.parseDate_text, isTime.exactTime_text, Option.map_some]

end Accepted

end AgenId.Core
