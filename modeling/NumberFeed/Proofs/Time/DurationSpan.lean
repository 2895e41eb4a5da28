import Mathlib.Order.Bounds.Basic
import NumberFeed.Time.Duration
import NumberFeed.Value.Order

/-!
# Durations and calendar spans

A calendar span is told in three parts, days, seconds and microseconds, of which only the days may be
negative. Parts in their ranges are read back from the span that they make
(`Span.parts_of_areParts`), so that a span is settled by them, and the order of spans is the
lexicographic order of the parts (`Span.micros_lt_iff`).

The duration of a span weighs its parts (`Duration.nanos_ofSpan`) and goes back to the same span
(`Duration.toSpan_ofSpan`). The other way a duration is rounded down to whole microseconds, the
greatest number of these that is not above it (`Duration.isGreatest_ofSpan`), unless they make more
days than a calendar takes. `Duration.span_law` puts this together with the order of durations and
with their sums.
-/

namespace NumberFeed

namespace Span

/-- The parts of a span that a calendar takes: days within its range, and seconds and microseconds
that do not make up a day or a second. -/
structure AreParts (days seconds micros : Int) : Prop where
  /-- As many days as a calendar takes, before or after. -/
  days : -999999999 ≤ days ∧ days ≤ 999999999
  /-- Less than a day. -/
  seconds : 0 ≤ seconds ∧ seconds < 86400
  /-- Less than a second. -/
  micros : 0 ≤ micros ∧ micros < 1000000

/-- Parts are read back from the span that they make, which is in range. -/
theorem parts_of_areParts {days seconds micros : Int} (h : AreParts days seconds micros) :
    (ofParts days seconds micros).InRange ∧ (ofParts days seconds micros).days = days ∧
      (ofParts days seconds micros).seconds = seconds ∧
      (ofParts days seconds micros).microseconds = micros := by
  obtain ⟨hdays, hseconds, hmicros⟩ := h
  have hread : (ofParts days seconds micros).days = days := by
    simp only [ofParts, Span.days, microsPerDay]
    omega
  refine ⟨?_, hread, ?_, ?_⟩
  · rw [InRange, hread]
    exact hdays
  · simp only [ofParts, Span.seconds, microsPerDay]
    omega
  · simp only [ofParts, microseconds]
    omega

/-- A span in range is made of such parts. -/
theorem areParts_of_inRange {span : Span} (h : span.InRange) :
    AreParts span.days span.seconds span.microseconds := by
  refine ⟨h, ?_, ?_⟩
  · simp only [seconds, microsPerDay]
    omega
  · simp only [microseconds]
    omega

/-- Spans are ordered by their days, then by their seconds, then by their microseconds. -/
theorem micros_lt_iff (a b : Span) :
    a.micros < b.micros ↔ a.days < b.days ∨ a.days = b.days ∧
      (a.seconds < b.seconds ∨ a.seconds = b.seconds ∧ a.microseconds < b.microseconds) := by
  simp only [days, seconds, microseconds, microsPerDay]
  omega

/-- One span after another, part by part; the sum has to be in range. -/
def plus (a b : Span) : Except Failure Span :=
  let sum := ofParts (a.days + b.days) (a.seconds + b.seconds) (a.microseconds + b.microseconds)
  if sum.InRange then .ok sum else .error .tooLarge

/-- The sum of the parts is the sum of the microseconds. -/
theorem ofParts_add (a b : Span) :
    ofParts (a.days + b.days) (a.seconds + b.seconds) (a.microseconds + b.microseconds) =
      ⟨a.micros + b.micros⟩ := by
  simp only [ofParts, days, seconds, microseconds, microsPerDay, mk.injEq]
  omega

end Span

namespace Duration

/-- The duration of a span weighs its parts. -/
theorem nanos_ofSpan (span : Span) :
    (ofSpan span).nanos =
      ((span.days * 86400 + span.seconds) * 1000000 + span.microseconds) * 1000 := by
  have hparts : ((span.days * 86400 + span.seconds) * 1000000 + span.microseconds) = span.micros :=
    congrArg Span.micros span.ofParts_parts
  rw [hparts]
  rfl

/-- A span in range comes back from its duration. -/
theorem toSpan_ofSpan {span : Span} (h : span.InRange) : (ofSpan span).toSpan = .ok span := by
  have hmicros : span.micros * nanosPerMicro / nanosPerMicro = span.micros :=
    Int.mul_ediv_cancel _ (by decide)
  simp only [toSpan, ofSpan, hmicros]
  rw [if_pos h]

/-- The numbers of nanoseconds that are whole microseconds and not above a duration. -/
def WholeMicrosWithin (duration : Duration) : Set Int :=
  {nanos | nanosPerMicro ∣ nanos ∧ nanos ≤ duration.nanos}

/-- Rounding down finds the greatest of them. -/
theorem isGreatest_ofSpan (duration : Duration) :
    IsGreatest duration.WholeMicrosWithin (ofSpan ⟨duration.nanos / nanosPerMicro⟩).nanos := by
  have hpos : (0 : Int) < nanosPerMicro := by decide
  constructor
  · exact ⟨Int.dvd_mul_left _ _, Int.ediv_mul_le _ (by decide)⟩
  · rintro _ ⟨⟨micros, rfl⟩, hbelow⟩
    -- A whole number below a quotient is not above its floor.
    have hmicros : micros ≤ duration.nanos / nanosPerMicro :=
      (Int.le_ediv_iff_mul_le hpos).mpr (by rwa [Int.mul_comm])
    calc nanosPerMicro * micros = micros * nanosPerMicro := Int.mul_comm _ _
      _ ≤ duration.nanos / nanosPerMicro * nanosPerMicro :=
        Int.mul_le_mul_of_nonneg_right hmicros (by decide)

/-- What the conversions between durations and calendar spans come to. -/
structure SpanLaw (a b : Span) (duration : Duration) : Prop where
  /-- Parts in their ranges make a span that has them, and its duration weighs them. -/
  weighed : ∀ days seconds micros, Span.AreParts days seconds micros →
    let span := Span.ofParts days seconds micros
    span.InRange ∧ span.days = days ∧ span.seconds = seconds ∧ span.microseconds = micros ∧
      (ofSpan span).nanos = ((days * 86400 + seconds) * 1000000 + micros) * 1000
  /-- Every span in range is made of parts in their ranges. -/
  parted : a.InRange → Span.AreParts a.days a.seconds a.microseconds ∧
    Span.ofParts a.days a.seconds a.microseconds = a
  /-- A span in range comes back from its duration. -/
  roundTrip : a.InRange → (ofSpan a).toSpan = .ok a
  /-- A duration has no span just if the days of its whole microseconds, rounded down, are out of
  range. -/
  overflow : (∃ cause, duration.toSpan = .error cause ∧ cause.kind = .overflow) ↔
    ¬ (-999999999 ≤ (duration.nanos.fdiv 1000).fdiv 86400000000 ∧
      (duration.nanos.fdiv 1000).fdiv 86400000000 ≤ 999999999)
  /-- Otherwise it has one, whose duration is the greatest of whole microseconds that is not above
  it. -/
  floor : -999999999 ≤ (duration.nanos.fdiv 1000).fdiv 86400000000 ∧
      (duration.nanos.fdiv 1000).fdiv 86400000000 ≤ 999999999 →
    ∃ span, duration.toSpan = .ok span ∧
      IsGreatest duration.WholeMicrosWithin (ofSpan span).nanos
  /-- Durations of spans stand in the same relations as the spans, -/
  ordered : ∀ relation, Value.relates relation (.duration (ofSpan a)) (.duration (ofSpan b)) =
    Value.relates relation (.span a) (.span b)
  /-- and the shorter one is the one whose parts come first. -/
  strict : (ofSpan a).lt (ofSpan b) = true ↔ a.days < b.days ∨ a.days = b.days ∧
    (a.seconds < b.seconds ∨ a.seconds = b.seconds ∧ a.microseconds < b.microseconds)
  /-- Where the sum of two spans is in range, its duration is the sum of the durations. -/
  additive : (Span.InRange ⟨a.micros + b.micros⟩ → ∃ sum, a.plus b = .ok sum) ∧
    ∀ sum, a.plus b = .ok sum → ofSpan sum = ofSpan a + ofSpan b

/-- Whether a duration has a span is told by the days of its whole microseconds. -/
theorem inRange_floor_iff (duration : Duration) :
    Span.InRange ⟨duration.nanos / nanosPerMicro⟩ ↔
      -999999999 ≤ (duration.nanos.fdiv 1000).fdiv 86400000000 ∧
        (duration.nanos.fdiv 1000).fdiv 86400000000 ≤ 999999999 := by
  have hdays : (duration.nanos.fdiv 1000).fdiv 86400000000 =
      (⟨duration.nanos / nanosPerMicro⟩ : Span).days := by
    rw [Int.fdiv_eq_ediv_of_nonneg _ (by decide), Int.fdiv_eq_ediv_of_nonneg _ (by decide)]
    rfl
  rw [hdays]
  rfl

/-- The duration of the shorter span is the shorter one. -/
theorem nanos_ofSpan_lt_iff (a b : Span) :
    (ofSpan a).nanos < (ofSpan b).nanos ↔ a.micros < b.micros := by
  simp only [ofSpan, nanosPerMicro]
  omega

/-- Durations of spans compare like the spans. -/
theorem compare_ofSpan (a b : Span) :
    compare (ofSpan a).nanos (ofSpan b).nanos = compare a.micros b.micros := by
  rw [Int.compare_eq_ite_lt, Int.compare_eq_ite_lt]
  simp only [nanos_ofSpan_lt_iff]

/-- The duration of a sum of spans is the sum of the durations. -/
theorem ofSpan_of_plus {a b sum : Span} (h : a.plus b = .ok sum) :
    ofSpan sum = ofSpan a + ofSpan b := by
  rw [Span.plus, Span.ofParts_add] at h
  split at h
  · rw [← Except.ok.inj h]
    show (⟨(a.micros + b.micros) * nanosPerMicro⟩ : Duration) = _
    rw [Int.add_mul]
    rfl
  · cases h

/-- All spans and durations obey the law. -/
theorem span_law (a b : Span) (duration : Duration) : SpanLaw a b duration := by
  refine ⟨?_, ?_, toSpan_ofSpan, ?_, ?_, ?_, ?_, ?_, fun _ => ofSpan_of_plus⟩
  · intro days seconds micros hparts
    obtain ⟨hrange, hdays, hseconds, hmicros⟩ := Span.parts_of_areParts hparts
    refine ⟨hrange, hdays, hseconds, hmicros, ?_⟩
    rw [nanos_ofSpan, hdays, hseconds, hmicros]
  · intro hrange
    exact ⟨Span.areParts_of_inRange hrange, a.ofParts_parts⟩
  · rw [← inRange_floor_iff, toSpan]
    split
    · rename_i hrange
      refine iff_of_false ?_ (not_not_intro hrange)
      rintro ⟨cause, hcause, -⟩
      cases hcause
    · rename_i hrange
      exact iff_of_true ⟨.tooLarge, rfl, rfl⟩ hrange
  · intro hfloor
    refine ⟨⟨duration.nanos / nanosPerMicro⟩, ?_, isGreatest_ofSpan duration⟩
    rw [toSpan]
    exact if_pos ((inRange_floor_iff duration).mpr hfloor)
  · intro relation
    show Except.ok (relation.holds (compare (ofSpan a).nanos (ofSpan b).nanos)) = _
    rw [compare_ofSpan]
    rfl
  · rw [← Span.micros_lt_iff, ← nanos_ofSpan_lt_iff]
    exact decide_eq_true_iff
  · intro hrange
    refine ⟨⟨a.micros + b.micros⟩, ?_⟩
    rw [Span.plus, Span.ofParts_add]
    exact if_pos hrange

/-- A duration of less than nothing is rounded down to a whole microsecond less. -/
example : (Duration.mk (-1)).toSpan = .ok ⟨-1⟩ := rfl

end Duration

end NumberFeed
