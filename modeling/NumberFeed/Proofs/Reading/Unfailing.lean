import NumberFeed.Proofs.Input.Validated
import NumberFeed.Proofs.Number.Threshold
import NumberFeed.Proofs.Reading.LimitedCount
import NumberFeed.Proofs.Reading.Life

/-!
# Reads that do not fail

Where limits are checked when they are given, one would not expect a read to fail on their account.
A read of a count whose stamper is total fails for one reason only: its read time does not fit a
double in seconds, which is found out in the first step (`UnboundedInput.reads_without_failure`).
A number of records is never too large.

What keeps a read from failing is an invariant of its reader, `Reader.Safe`: the stamper is total,
the read time fits, and the number of elements yielded so far can be written, so that every stop
record can be put together. One step does not fail and keeps the invariant (`Reader.Safe.step`), and
so does the whole life of the reader (`Reader.Safe.steps`).
-/

namespace NumberFeed

namespace Stamper

/-- A stamper is total if no call on a natural number ever fails, whatever was called before. -/
def Total (stamper : Stamper) : Prop :=
  ∃ keeps : Stamper → Prop, keeps stamper ∧ ∀ s, keeps s → ∀ (number : Nat) around,
    ∃ stamp s' around', s.call number around = (.ok stamp, s', around') ∧ keeps s'

/-- A call of a total stamper gives a timestamp, and leaves a total stamper. -/
theorem Total.call {stamper : Stamper} (h : stamper.Total) (number : Nat) (around : Surroundings) :
    ∃ stamp s' around', stamper.call number around = (.ok stamp, s', around') ∧ s'.Total := by
  obtain ⟨keeps, hkeeps, hcall⟩ := h
  obtain ⟨stamp, s', around', heq, hkept⟩ := hcall stamper hkeeps number around
  exact ⟨stamp, s', around', heq, keeps, hkept, hcall⟩

/-- The stamper that reads the wall clock is total. -/
theorem total_now : Total now :=
  ⟨(· = now), rfl, fun s hs number around => by
    subst hs
    exact ⟨_, now, around.readWall.2, rfl, rfl⟩⟩

end Stamper

namespace Outcome

/-- An element is no failure. -/
theorem yielded_ne_failed {element : Timestamped} (cause : Failure) :
    yielded element ≠ failed cause := by
  intro h
  cases h

/-- The end is no failure. -/
theorem ended_ne_failed (cause : Failure) : ended ≠ failed cause := by
  intro h
  cases h

end Outcome

/-- Surroundings in which the number of elements that a count yields can always be written. -/
def Surroundings.Tellable (around : Surroundings) : Prop := Number.Writable (around.largest + 1)

namespace Reader

/-- A reader of a count that has no reason to fail. -/
inductive Safe : Reader → Prop
  /-- It has ended. -/
  | ended : Safe ended
  /-- It has no limits, and its stamper is total. -/
  | counting {stamper : Stamper} {next : Nat} (total : stamper.Total) :
      Safe (counting stamper next)
  /-- It has not been started, its stamper is total, and its read time fits. -/
  | fresh {limits : Limits} {source stamper : Stamper} (total : stamper.Total)
      (fits : limits.TimeFits) :
      Safe (limited limits (.counting source) .fresh (counting stamper 0))
  /-- It has yielded so many elements, which can be written. -/
  | running {limits : Limits} {source stamper : Stamper} {due : Option Float} {count : Nat}
      (total : stamper.Total) (fits : limits.TimeFits) (told : Number.Writable count) :
      Safe (limited limits (.counting source) (.running due count) (counting stamper count))

section Step

variable {limits : Limits} {source stamper : Stamper} {phase : Phase} {due : Option Float}
  {count : Nat} {moment found : Surroundings}

/-- Stopping with a record that can be put together does not fail. -/
theorem stopWith_safe {message : Except Failure String} (h : ∃ text, message = .ok text)
    (around : Surroundings) :
    (∀ cause, (stopWith message around).outcome ≠ .failed cause) ∧
      Safe (stopWith message around).reader := by
  obtain ⟨text, rfl⟩ := h
  exact ⟨Outcome.ended_ne_failed, .ended⟩

/-- A limited read of a count that knows its deadline does not fail in a step, and stays safe. -/
theorem step_safe_of_deadline (htotal : stamper.Total) (hfits : limits.TimeFits)
    (htold : Number.Writable count) (hmoment : found.Tellable)
    (hdeadline : deadline limits phase moment = (.ok (due, count), found)) :
    let reader := limited limits (.counting source) phase (counting stamper count)
    (∀ cause, (reader.step moment).outcome ≠ .failed cause) ∧ Safe (reader.step moment).reader := by
  intro reader
  -- The order of the step: the number of records first, then the count, then the time.
  rcases hreached : reached? limits count with _ | records
  · by_cases hlargest : (count : Int) ≤ found.largest
    · obtain ⟨stamp, s', after, hcall, htotal'⟩ := htotal.call count found
      have hinner : (Reader.counting stamper count).step found =
          ⟨.yielded ⟨.int count, stamp⟩, Reader.counting s' (count + 1), after⟩ := by
        rw [step, if_pos hlargest, hcall]
      have hnext : Number.Writable ((count + 1 : Nat) : Int) := by
        refine Number.Writable.mono hmoment ?_
        omega
      rw [step_limited_of_yielded hdeadline hreached hinner]
      unfold pass
      dsimp only
      split
      · rename_i deadline time htime
        obtain ⟨seconds, hseconds⟩ := hfits time htime
        split
        · exact stopWith_safe ⟨_, timeMessage_counting source hseconds htold⟩ _
        · exact ⟨Outcome.yielded_ne_failed, .running htotal' hfits hnext⟩
      · exact ⟨Outcome.yielded_ne_failed, .running htotal' hfits hnext⟩
    · have hinner : (Reader.counting stamper count).step found = .ended found := by
        rw [step, if_neg hlargest]
      rw [step_limited_of_ended hdeadline hreached hinner]
      exact ⟨Outcome.ended_ne_failed, .ended⟩
  · -- The number of records has been counted, so that it can be written.
    rw [step_limited_of_reached hdeadline hreached]
    have hcounted : records.value ≤ count := by
      obtain ⟨-, hle⟩ := Option.filter_eq_some_iff.mp hreached
      simpa using hle
    have hpositive := records.positive
    have hwritable : Number.Writable records.value := Number.Writable.mono htold (by omega)
    exact stopWith_safe ⟨_, recordsMessage_counting source hwritable⟩ _

/-- A safe reader does not fail in a step, and stays safe. -/
theorem Safe.step {reader : Reader} (h : Safe reader) (hmoment : moment.Tellable) :
    (∀ cause, (reader.step moment).outcome ≠ .failed cause) ∧ Safe (reader.step moment).reader := by
  cases h with
  | ended => exact ⟨Outcome.ended_ne_failed, .ended⟩
  | @counting stamper next total =>
    by_cases hlargest : (next : Int) ≤ moment.largest
    · obtain ⟨stamp, s', after, hcall, htotal⟩ := total.call next moment
      rw [Reader.step, if_pos hlargest, hcall]
      exact ⟨Outcome.yielded_ne_failed, @Safe.counting s' (next + 1) htotal⟩
    · rw [Reader.step, if_neg hlargest]
      exact ⟨Outcome.ended_ne_failed, .ended⟩
  | @fresh limits source stamper total fits =>
    rcases htime : limits.time with _ | time
    · have hdeadline : deadline limits .fresh moment = (.ok (none, 0), moment) := by
        simp only [deadline, htime]
      exact step_safe_of_deadline total fits (by decide) hmoment hdeadline
    · obtain ⟨seconds, hseconds⟩ := fits time htime
      have hdeadline : deadline limits .fresh moment =
          (.ok (some (moment.clock.current + seconds), 0), moment.readClock.2) := by
        simp only [deadline, htime, hseconds]
        rfl
      have hfound : moment.readClock.2.Tellable := hmoment
      exact step_safe_of_deadline total fits (by decide) hfound hdeadline
  | @running limits source stamper due count total fits told =>
    exact step_safe_of_deadline total fits told hmoment rfl

/-- A safe reader does not fail in its whole life. -/
theorem Safe.steps {reader : Reader} (h : Safe reader) {moments : List Surroundings}
    (hmoments : ∀ moment ∈ moments, moment.Tellable) :
    ∀ step ∈ reader.steps moments, ∀ cause, step.outcome ≠ .failed cause := by
  induction moments generalizing reader with
  | nil => exact fun step hstep => absurd hstep List.not_mem_nil
  | cons moment later ih =>
    obtain ⟨hfirst, hrest⟩ := h.step (hmoments moment List.mem_cons_self)
    intro step hstep
    rcases List.mem_cons.mp hstep with rfl | hstep
    · exact hfirst
    · exact ih hrest (fun next hnext => hmoments next (List.mem_cons_of_mem _ hnext)) step hstep

end Step

section Parts

variable {stamper : Stamper} {records : Option Count} {time : Option Duration}

/-- The reader of a read with a total stamper is safe if its read time fits, whatever its number of
records is. -/
theorem safe_ofParts (htotal : stamper.Total)
    (hfits : ∀ t, time = some t → t.nanos.natAbs < Number.overflowBound * 1000000000) :
    Safe (ofParts stamper records time) := by
  unfold ofParts
  split
  · exact .counting htotal
  · exact .fresh htotal fun t ht => Duration.exists_toSeconds_iff.mpr (hfits t ht)

/-- The reader of a read with a read time that does not fit reads the clock, fails, and only ends
from then on. -/
theorem steps_ofParts_of_le {t : Duration}
    (hlarge : Number.overflowBound * 1000000000 ≤ t.nanos.natAbs) (moment : Surroundings)
    (later : List Surroundings) :
    (ofParts stamper records (some t)).steps (moment :: later) =
      ⟨.failed .tooLarge, ended, moment.readClock.2⟩ :: later.map Step.ended := by
  have hreader : ofParts stamper records (some t) =
      limited ⟨records, some t⟩ (.counting stamper) .fresh (counting stamper 0) :=
    if_neg (by simp)
  have hstep : (ofParts stamper records (some t)).step moment =
      ⟨.failed .tooLarge, ended, moment.readClock.2⟩ := by
    have hdeadline : deadline ⟨records, some t⟩ .fresh moment =
        (.error .tooLarge, moment.readClock.2) := by
      simp only [deadline, Duration.toSeconds_of_le hlarge]
      rfl
    rw [hreader, step, hdeadline]
    rfl
  rw [steps, hstep, steps_ended]

end Parts

end Reader

namespace UnboundedInput

/-- An input that was obtained without giving a read time that is not checked has a stamper that can
be called, and its read time is a duration if there is one. -/
theorem Obtained.eq_ofParts {input : UnboundedInput} (h : Obtained (fun _ => False) input) :
    input.stamper.isCallable = true ∧
      ∃ time, input = ofParts input.stamper input.maxRecords time := by
  obtain ⟨hcallable, htime⟩ := h.checked
  refine ⟨hcallable, ?_⟩
  obtain ⟨stamper, records, time⟩ := input
  rcases htime with hnull | ⟨d, hduration⟩ | hnone
  · obtain rfl : time = .null := hnull
    exact ⟨none, rfl⟩
  · obtain rfl : time = .duration d := hduration
    exact ⟨some d, rfl⟩
  · exact hnone.elim

/-- What reading an input comes to. -/
structure ReadingLaw (input : UnboundedInput) : Prop where
  /-- Where no text is demanded, the input becomes a collection if its stamper can be kept. -/
  applied : input.stamper.kept = .ok input.stamper → ∀ around : Surroundings, ¬ around.Demands →
    ∃ collection, (Pipeline.apply (.input (.unbounded input)) around).1 = .ok collection
  /-- The collection that it becomes can be opened. Every step of every reader yields or ends if the
  read time is shorter than the bound, whatever the number of records is and the clocks show. -/
  short : (∀ time, input.maxReadTime = .duration time →
      time.nanos.natAbs < Number.overflowBound * 1000000000) →
    ∀ around collection after,
      Pipeline.apply (.input (.unbounded input)) around = (.ok collection, after) →
      ∃ reader, collection.open? = .ok reader ∧
        ∀ moments : List Surroundings, (∀ moment ∈ moments, moment.Tellable) →
          ∀ step ∈ reader.steps moments, ∀ cause, step.outcome ≠ .failed cause
  /-- Every reader fails in its first step if the read time is not shorter, and then only ends. -/
  long : ∀ time, input.maxReadTime = .duration time →
    Number.overflowBound * 1000000000 ≤ time.nanos.natAbs →
    ∀ around collection after,
      Pipeline.apply (.input (.unbounded input)) around = (.ok collection, after) →
      ∃ reader, collection.open? = .ok reader ∧
        ∀ moment later, reader.steps (moment :: later) =
          ⟨.failed .tooLarge, .ended, moment.readClock.2⟩ :: later.map Step.ended

/-- An input that was obtained without giving a read time that is not checked, with a stamper that is
total, is read without a failure just when its read time fits a double in seconds. -/
theorem reads_without_failure {input : UnboundedInput} (hobtained : Obtained (fun _ => False) input)
    (htotal : input.stamper.Total) : ReadingLaw input := by
  -- Only the parts of the input matter, not how it was obtained.
  obtain ⟨hcallable, time, hparts⟩ := hobtained.eq_ofParts
  generalize input.stamper = stamper at hcallable htotal hparts
  generalize input.maxRecords = records at hparts
  subst hparts
  constructor
  · intro hkept around hdemands
    exact (exists_apply_ofParts hcallable).mpr ⟨hkept, fun h => absurd h hdemands⟩
  · intro hshort around collection after happly
    obtain ⟨-, hopen, -⟩ := collection_of_apply_ofParts hcallable happly
    have hsafe : (Reader.ofParts stamper records time).Safe := Reader.safe_ofParts htotal
      fun t ht => hshort t (by rw [ht]; rfl)
    exact ⟨_, hopen, fun moments hmoments => hsafe.steps hmoments⟩
  · intro t htime hlong around collection after happly
    obtain ⟨-, hopen, -⟩ := collection_of_apply_ofParts hcallable happly
    obtain rfl : time = some t := by
      rcases time with _ | d
      · cases htime
      · exact congrArg some (Value.duration.inj htime)
    exact ⟨_, hopen, Reader.steps_ofParts_of_le hlong⟩

/-- The least number of records that is too long to be written. -/
def unwrittenCount : Count where
  value := (Nat.pow 10 Number.digitLimit : Nat)
  positive := by
    rw [Nat.pow_eq]
    exact Int.natCast_pos.mpr (Nat.pow_pos (by decide))

/-- A duration is accepted as a read time, however long it is. -/
theorem apply_readTime (time : Duration) (input : UnboundedInput) :
    (Change.readTime (.duration time)).apply input =
      .ok { input with maxReadTime := .duration time } := rfl

/-- The law holds of an input that is read for a second, and for a number of records that is too long
to be written. -/
theorem second_read_without_failure :
    ∃ input, Obtained (fun _ => False) input ∧ input.stamper.Total ∧
      input.maxReadTime = .duration ⟨1000000000⟩ ∧ input.maxRecords = some unwrittenCount ∧
      ReadingLaw input := by
  have hobtained : Obtained (fun _ => False) ⟨.now, some unwrittenCount, .duration ⟨1000000000⟩⟩ :=
    .changed (.changed .unlimited (apply_readTime ⟨1000000000⟩ unlimited))
      (apply_records unwrittenCount _)
  exact ⟨_, hobtained, Stamper.total_now, rfl, rfl, reads_without_failure hobtained Stamper.total_now⟩

/-- The reader of an input with a read time that does not fit fails in its first step. -/
theorem exists_reader_of_le {time : Duration}
    (hlarge : Number.overflowBound * 1000000000 ≤ time.nanos.natAbs) {quiet : Surroundings}
    (hquiet : ¬ quiet.Demands) :
    ∃ collection reader,
      (Pipeline.apply (.input (.unbounded (ofParts .now none (some time)))) quiet).1 =
          .ok collection ∧
        collection.open? = .ok reader ∧ (reader.step quiet).outcome = .failed .tooLarge := by
  have hstep := (List.cons.inj (@Reader.steps_ofParts_of_le .now none time hlarge quiet [])).1
  have happly := @apply_ofParts .now none (some time) quiet rfl rfl fun h => absurd h hquiet
  obtain ⟨-, hopen, -⟩ := collection_of_apply_ofParts rfl happly
  exact ⟨_, Reader.ofParts .now none (some time), congrArg Prod.fst happly, hopen, by rw [hstep]⟩

/-- The shortest amount of time that does not fit a double in seconds. -/
def unfittingTime : Duration := ⟨(Number.overflowBound * 1000000000 : Nat)⟩

/-- It is accepted as a read time, but every read that it limits fails in the first step. -/
theorem accepted_read_time_fails :
    let quiet : Surroundings := .still Surroundings.usualLargest
    ∃ input collection reader,
      (Change.readTime (.duration unfittingTime)).apply unlimited = .ok input ∧
        input.stamper.Total ∧
        (Pipeline.apply (.input (.unbounded input)) quiet).1 = .ok collection ∧
        collection.open? = .ok reader ∧ (reader.step quiet).outcome = .failed .tooLarge := by
  intro quiet
  have hlarge : Number.overflowBound * 1000000000 ≤ unfittingTime.nanos.natAbs := by
    rw [unfittingTime, Int.natAbs_natCast]
  obtain ⟨collection, reader, hread⟩ :=
    @exists_reader_of_le unfittingTime hlarge quiet fun h => Bool.false_ne_true h.1
  exact ⟨ofParts .now none (some unfittingTime), collection, reader,
    apply_readTime unfittingTime unlimited, Stamper.total_now, hread⟩

end UnboundedInput

end NumberFeed
