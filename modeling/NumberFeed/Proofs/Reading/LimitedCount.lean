import Mathlib.Data.Nat.Find
import Mathlib.Order.Bounds.Basic
import NumberFeed.Proofs.Number.Writable
import NumberFeed.Proofs.Reading.Run
import NumberFeed.Proofs.Reading.Stamping

/-!
# Limited reads of an unbounded count

A limited read of an unbounded count stops before its element `i` for one of three reasons: as many
records have been read as the limits allow (`Limits.RecordsReached`), the count is past the largest
number (`Surroundings.Exhausted`), or the clock reading taken for that element is not before the
deadline (`Limits.TimeOver`). `drain_limited_counting` says that a read to the end yields exactly
the elements before the least such `i`, and what it leaves behind then: the stop record of the
reason that comes first in this order, and as many readings of the clock and calls of the stamper as
`Surroundings.afterRead` counts.

The proof follows the read along a path (`Reader.take_of_path`). `countReader` and `countAround` are
the reader and the surroundings before each element: the stamper after its calls on the smaller
numbers, the deadline of the first step, and one reading of the clock for the deadline and one for
each element. At each point of the path nothing has stopped the read so far (`step_countReader`),
and at its end the three reasons are tried in their order.
-/

namespace NumberFeed

namespace Limits

/-- The deadline of a read whose first reading of the clock is `start`. -/
def deadlineFrom (limits : Limits) (start : Float) : Option Float :=
  limits.time.bind fun time => time.toSeconds.toOption.map fun seconds => start + seconds

/-- The read time, if there is one, can be told in seconds. -/
def TimeFits (limits : Limits) : Prop :=
  ∀ time, limits.time = some time → ∃ seconds, time.toSeconds = .ok seconds

/-- The number of records, if there is one, can be written. -/
def RecordsFit (limits : Limits) : Prop :=
  ∀ records, limits.records = some records → Number.Writable records.value

/-- As many records have been read as the limits allow. -/
def RecordsReached (limits : Limits) (i : Nat) : Prop :=
  ∃ records, limits.records = some records ∧ (i : Int) = records.value

/-- The reading taken for the element `i` is not before the deadline. The first reading of the
clock is for the deadline itself. -/
def TimeOver (limits : Limits) (clock : Readings Float) (i : Nat) : Prop :=
  ∃ deadline, limits.deadlineFrom clock.current = some deadline ∧
    deadline ≤ clock.supply (clock.used + 1 + i)

/-- A read without a read time has time. -/
theorem TimeOver.time_isSome {limits : Limits} {clock : Readings Float} {i : Nat}
    (h : limits.TimeOver clock i) : ∃ time, limits.time = some time := by
  obtain ⟨deadline, hdue, -⟩ := h
  cases hlimit : limits.time with
  | none => simp [deadlineFrom, hlimit] at hdue
  | some time => exact ⟨time, rfl⟩

/-- How many of so many readings of the clock a read takes: none without a read time. -/
def clockReadings (limits : Limits) (count : Nat) : Nat := if limits.time.isSome then count else 0

end Limits

namespace Surroundings

/-- The count is past the largest number. -/
def Exhausted (around : Surroundings) (i : Nat) : Prop := (i : Int) = around.largest + 1

/-- The stamper gives all numbers up to the largest one their timestamps. -/
def Stamps (around : Surroundings) (stamper : Stamper) (stamp : Nat → Value) : Prop :=
  ∀ i : Nat, (i : Int) ≤ around.largest → stamper.stampOf around i = .ok (stamp i)

/-- What can stop a limited read before its element `i`. -/
def Stops (around : Surroundings) (limits : Limits) (i : Nat) : Prop :=
  limits.RecordsReached i ∨ around.Exhausted i ∨ limits.TimeOver around.clock i

/-- The surroundings after a limited read has called its stamper on so many numbers, has taken so
many readings of the clock if it has a read time, and has written stop records. -/
def afterRead (around : Surroundings) (limits : Limits) (stamper : Stamper)
    (stamps readings : Nat) (messages : List String) : Surroundings :=
  { (stamper.after around stamps).2 with
    clock := around.clock.skip (limits.clockReadings readings)
    log := around.log ++ messages.map fun message => ⟨.info, .read, message⟩ }

/-- A read does not change what becomes of records that cannot be put together. -/
theorem forgiving_afterRead (around : Surroundings) (limits : Limits) (stamper : Stamper)
    (stamps readings : Nat) (messages : List String) :
    (around.afterRead limits stamper stamps readings messages).forgiving = around.forgiving := by
  rw [afterRead, Stamper.around_after]

/-- A stop record comes last. -/
theorem write_afterRead (around : Surroundings) (limits : Limits) (stamper : Stamper)
    (stamps readings : Nat) (message : String) :
    (around.afterRead limits stamper stamps readings []).write .info .read message =
      around.afterRead limits stamper stamps readings [message] := by
  simp [write, afterRead]

end Surroundings

/-- What a limited read of an unbounded count comes to that stops before the element `k`. -/
structure LimitedCountLaw (limits : Limits) (stamper : Stamper) (stamp : Nat → Value)
    (around : Surroundings) (k : Nat) (taken : Taken) : Prop where
  /-- The numbers below `k` have been yielded in order, each with its timestamp. -/
  elements : taken.elements = (List.range k).map fun i => ⟨.int (i : Nat), stamp i⟩
  /-- The read is over. -/
  reader : taken.reader = .ended
  /-- If the number of records is reached, that is recorded, and nothing is done for the element
  `k`. -/
  byRecords : ∀ records, limits.records = some records → (k : Int) = records.value →
    taken.stop = .ended ∧
      taken.around = around.afterRead limits stamper k (k + 1)
        ["Stopped reading " ++ Wording.counting ++ " after max number of records " ++
          String.ofList (Number.decimal records.value)]
  /-- If otherwise the count is past the largest number, there is no record. -/
  bySource : ¬ limits.RecordsReached k → around.Exhausted k →
    taken.stop = .ended ∧ taken.around = around.afterRead limits stamper k (k + 1) []
  /-- Otherwise the read time is recorded, and the element `k` has been made and looked at the clock
  for. Its number is part of the record: without a number of records to stop at, it has to be one
  that can be written. -/
  byTime : ∀ time, limits.time = some time → ¬ limits.RecordsReached k → ¬ around.Exhausted k →
    (limits.records = none → Number.Writable k) →
    taken.stop = .ended ∧
      taken.around = around.afterRead limits stamper (k + 1) (k + 2)
        ["Stopped reading " ++ Wording.counting ++ " after max read time " ++
          time.written ++ " (" ++ String.ofList (Number.decimal k) ++ " records read)"]
  /-- Of a number of elements that cannot be written there is no record, and the read fails unless
  such records are dropped. -/
  byTimeUnwritten : ∀ time, limits.time = some time → ¬ limits.RecordsReached k →
    ¬ around.Exhausted k → ¬ Number.Writable k →
    taken.stop = (if around.forgiving then .ended else .failed .tooManyDigits) ∧
      taken.around = around.afterRead limits stamper (k + 1) (k + 2) []

namespace Reader

section Path

variable (limits : Limits) (stamper : Stamper) (around : Surroundings)

/-- How far the limited read has come before its element `i`. -/
def countPhase : Nat → Phase
  | 0 => .fresh
  | i + 1 => .running (limits.deadlineFrom around.clock.current) (i + 1)

/-- The limited read before its element `i`. -/
def countReader (i : Nat) : Reader :=
  limited limits (.counting stamper) (countPhase limits around i)
    (counting (stamper.after around i).1 i)

/-- The surroundings in which the element `i` is asked for. -/
def countAround : Nat → Surroundings
  | 0 => around
  | i + 1 => around.afterRead limits stamper (i + 1) (i + 2) []

/-- The elements before the point `k` of the path, and up to so many more from there. -/
def countTaken (stamp : Nat → Value) (k count : Nat) : Taken :=
  ((countReader limits stamper around k).take count (countAround limits stamper around k)).prepend
    ((List.range k).map fun i => ⟨.int (i : Nat), stamp i⟩)

end Path

section Points

variable {limits : Limits} {stamper : Stamper} {around : Surroundings} {stamp : Nat → Value}

/-- At every point of the path the deadline is that of the first step, and one reading of the clock
has been taken for it. -/
theorem deadline_countPhase (htime : limits.TimeFits) (i : Nat) :
    deadline limits (countPhase limits around i) (countAround limits stamper around i) =
      (.ok (limits.deadlineFrom around.clock.current, i),
        around.afterRead limits stamper i (i + 1) []) := by
  cases i with
  | succ i => rfl
  | zero =>
    cases hlimit : limits.time with
    | none =>
      simp [deadline, countPhase, countAround, hlimit, Limits.deadlineFrom,
        Surroundings.afterRead, Limits.clockReadings]
    | some time =>
      obtain ⟨seconds, hseconds⟩ := htime time hlimit
      simp [deadline, countPhase, countAround, hlimit, Limits.deadlineFrom,
        Surroundings.afterRead, Limits.clockReadings, hseconds, Surroundings.readClock,
        Readings.advance_eq_skip, Except.map, Except.toOption]

/-- Before a number of records is reached there are fewer. -/
theorem lt_of_not_reached {i : Nat} (h : ∀ j ≤ i, ¬ limits.RecordsReached j) {records : Count}
    (hlimit : limits.records = some records) : (i : Int) < records.value := by
  by_cases hle : records.value ≤ i
  · have hpos := records.positive
    exact absurd ⟨records, hlimit, by omega⟩ (h records.value.toNat (by omega))
  · omega

/-- A step that has not reached the number of records does not stop for it. -/
theorem reached?_of_not_reached {i : Nat} (h : ∀ j ≤ i, ¬ limits.RecordsReached j) :
    reached? limits i = none := by
  cases hlimit : limits.records with
  | none => simp [reached?, hlimit]
  | some records => simp [reached?, hlimit, Option.filter, lt_of_not_reached h hlimit]

/-- The count gives its next element while it is not past the largest number. -/
theorem step_counting_after {i : Nat} (hlargest : (i : Int) ≤ around.largest)
    (hstamp : stamper.stampOf around i = .ok (stamp i)) :
    (counting (stamper.after around i).1 i).step (around.afterRead limits stamper i (i + 1) []) =
      ⟨.yielded ⟨.int i, stamp i⟩, counting (stamper.after around (i + 1)).1 ((i + 1 : Nat) : Int),
        around.afterRead limits stamper (i + 1) (i + 1) []⟩ := by
  have hle : (i : Int) ≤ (around.afterRead limits stamper i (i + 1) []).largest := by
    rw [Surroundings.afterRead, Stamper.around_after]
    exact hlargest
  rw [step, if_pos hle, Surroundings.afterRead, Stamper.call_frame, Stamper.call_after, hstamp]
  rfl

/-- A read time that can be told in seconds makes a deadline. -/
theorem deadlineFrom_eq {time : Duration} {seconds : Float} (htime : limits.time = some time)
    (hseconds : time.toSeconds = .ok seconds) (start : Float) :
    limits.deadlineFrom start = some (start + seconds) := by
  simp [Limits.deadlineFrom, htime, hseconds, Except.toOption]

/-- The reading of the clock that is taken for the element `i`. -/
theorem readClock_afterRead {time : Duration} (htime : limits.time = some time) (i : Nat) :
    (around.afterRead limits stamper (i + 1) (i + 1) []).readClock =
      (around.clock.supply (around.clock.used + 1 + i),
        around.afterRead limits stamper (i + 1) (i + 2) []) := by
  have hposition : around.clock.used + 1 + i = around.clock.used + (i + 1) := by omega
  simp [Surroundings.readClock, Surroundings.afterRead, Limits.clockReadings, htime,
    Readings.current, Readings.skip, Readings.advance, hposition, Nat.add_assoc]

/-- An element that comes in time is passed on. -/
theorem pass_of_in_time (htime : limits.TimeFits) {i : Nat}
    (h : ¬ limits.TimeOver around.clock i) (element : Timestamped) (inner : Reader) :
    pass limits (.counting stamper) (limits.deadlineFrom around.clock.current) i element inner
        (around.afterRead limits stamper (i + 1) (i + 1) []) =
      ⟨.yielded element,
        limited limits (.counting stamper) (countPhase limits around (i + 1)) inner,
        countAround limits stamper around (i + 1)⟩ := by
  cases hlimit : limits.time with
  | none =>
    simp [pass, hlimit, Limits.deadlineFrom, countPhase, countAround, Surroundings.afterRead,
      Limits.clockReadings]
  | some time =>
    obtain ⟨seconds, hseconds⟩ := htime time hlimit
    have hdue := deadlineFrom_eq hlimit hseconds around.clock.current
    have hearly : ¬ around.clock.current + seconds ≤
        around.clock.supply (around.clock.used + 1 + i) := fun hle => h ⟨_, hdue, hle⟩
    simp only [pass, hdue, hlimit, readClock_afterRead hlimit, if_neg hearly, countPhase,
      countAround]

/-- An element that comes too late is dropped, and the read stops with a record. -/
theorem pass_of_time_over {time : Duration} (htime : limits.time = some time) {i : Nat}
    (h : limits.TimeOver around.clock i) (element : Timestamped) (inner : Reader) :
    pass limits (.counting stamper) (limits.deadlineFrom around.clock.current) i element inner
        (around.afterRead limits stamper (i + 1) (i + 1) []) =
      stopWith (timeMessage (.counting stamper) time i)
        (around.afterRead limits stamper (i + 1) (i + 2) []) := by
  obtain ⟨deadline, hdue, hlate⟩ := h
  simp only [pass, hdue, htime, readClock_afterRead htime, if_pos hlate]

end Points

/-! ## The run -/

section Run

variable {limits : Limits} {stamper : Stamper} {around : Surroundings} {stamp : Nat → Value}

/-- While nothing stops the read, a step yields the next number with its timestamp and leads to the
next point of the path. -/
theorem step_countReader
    (htime : limits.TimeFits) (hstamp : around.Stamps stamper stamp)
    (hlargest : 0 ≤ around.largest) {i : Nat} (h : ∀ j ≤ i, ¬ around.Stops limits j) :
    (countReader limits stamper around i).step (countAround limits stamper around i) =
      ⟨.yielded ⟨.int i, stamp i⟩, countReader limits stamper around (i + 1),
        countAround limits stamper around (i + 1)⟩ := by
  have hreached := reached?_of_not_reached fun j hj hreached => h j hj (.inl hreached)
  -- Past the largest number, the point right after it would have stopped the read.
  have hle : (i : Int) ≤ around.largest := by
    by_cases hle : (i : Int) ≤ around.largest
    · exact hle
    · refine absurd (.inr (.inl ?_)) (h (around.largest + 1).toNat (by omega))
      show ((around.largest + 1).toNat : Int) = around.largest + 1
      omega
  have hintime : ¬ limits.TimeOver around.clock i := fun hover =>
    h i (le_refl i) (.inr (.inr hover))
  rw [countReader, step_limited_of_yielded (deadline_countPhase htime i) hreached
    (step_counting_after hle (hstamp i hle)), pass_of_in_time htime hintime]
  rfl

/-- A number of elements short of a number of records that can be written can be written too. -/
theorem writable_of_not_reached (hrecords : limits.RecordsFit) {k : Nat}
    (hreached : ∀ j ≤ k, ¬ limits.RecordsReached j)
    (hnone : limits.records = none → Number.Writable k) : Number.Writable k := by
  cases hlimit : limits.records with
  | none => exact hnone hlimit
  | some records =>
    refine (hrecords records hlimit).mono ?_
    have hshort := lt_of_not_reached hreached hlimit
    omega

/-- What is logged when the number of records has been reached, if it can be written. -/
theorem recordsMessage_counting (stamper : Stamper) {records : Count}
    (h : Number.Writable records.value) :
    recordsMessage (.counting stamper) records =
      .ok ("Stopped reading " ++ Wording.counting ++ " after max number of records " ++
        String.ofList (Number.decimal records.value)) := by
  rw [recordsMessage, Number.write_of_writable h]
  rfl

/-- A read that has reached its number of records stops with a record and does nothing more. -/
theorem step_of_records_reached (htime : limits.TimeFits) {k : Nat} {records : Count}
    (hrecords : limits.records = some records)
    (hk : (k : Int) = records.value) (hwritable : Number.Writable records.value) :
    (countReader limits stamper around k).step (countAround limits stamper around k) =
      .ended (around.afterRead limits stamper k (k + 1)
        ["Stopped reading " ++ Wording.counting ++ " after max number of records " ++
          String.ofList (Number.decimal records.value)]) := by
  have hreached : reached? limits k = some records := by
    simp [reached?, hrecords, Option.filter, hk]
  rw [countReader, step_limited_of_reached (deadline_countPhase htime k) hreached,
    recordsMessage_counting stamper hwritable, stopWith_ok, Surroundings.write_afterRead]

/-- A read whose count is past the largest number ends. -/
theorem step_of_exhausted (htime : limits.TimeFits) {k : Nat}
    (hreached : ∀ j ≤ k, ¬ limits.RecordsReached j) (hexhausted : around.Exhausted k) :
    (countReader limits stamper around k).step (countAround limits stamper around k) =
      .ended (around.afterRead limits stamper k (k + 1) []) := by
  have hpast : ¬ (k : Int) ≤ (around.afterRead limits stamper k (k + 1) []).largest := by
    rw [Surroundings.afterRead, Stamper.around_after]
    show ¬ (k : Int) ≤ around.largest
    rw [hexhausted]
    omega
  have hinner : (counting (stamper.after around k).1 k).step
      (around.afterRead limits stamper k (k + 1) []) =
        .ended (around.afterRead limits stamper k (k + 1) []) := by
    rw [step, if_neg hpast]
  rw [countReader, step_limited_of_ended (deadline_countPhase htime k)
    (reached?_of_not_reached hreached) hinner]

/-- A read whose time is over makes one more element and drops it. -/
theorem step_of_time_over {time : Duration} (hlimit : limits.time = some time)
    (htime : limits.TimeFits) {k : Nat} (hstamp : stamper.stampOf around k = .ok (stamp k))
    (hlargest : (k : Int) ≤ around.largest) (hreached : ∀ j ≤ k, ¬ limits.RecordsReached j)
    (hover : limits.TimeOver around.clock k) :
    (countReader limits stamper around k).step (countAround limits stamper around k) =
      stopWith (timeMessage (.counting stamper) time k)
        (around.afterRead limits stamper (k + 1) (k + 2) []) := by
  rw [countReader, step_limited_of_yielded (deadline_countPhase htime k)
    (reached?_of_not_reached hreached) (step_counting_after hlargest hstamp),
    pass_of_time_over hlimit hover]

/-- Something stops the read, at the latest the largest number. -/
theorem exists_isLeast_stops (limits : Limits) (hlargest : 0 ≤ around.largest) :
    ∃ k : Nat, IsLeast {i | around.Stops limits i} k ∧ (k : Int) ≤ around.largest + 1 := by
  classical
  have hend : around.Stops limits (around.largest + 1).toNat := by
    refine .inr (.inl ?_)
    show ((around.largest + 1).toNat : Int) = around.largest + 1
    omega
  refine ⟨Nat.find ⟨_, hend⟩, ⟨Nat.find_spec _, fun i hi => Nat.find_min' _ hi⟩, ?_⟩
  have hle := Nat.find_min' ⟨_, hend⟩ hend
  omega

/-- A read to the end follows the path up to the first point where something stops it. -/
theorem drain_of_path
    (htime : limits.TimeFits) (hstamp : around.Stamps stamper stamp)
    (hlargest : 0 ≤ around.largest) {k : Nat} (hk : (k : Int) ≤ around.largest + 1)
    (h : ∀ j < k, ¬ around.Stops limits j) :
    ∃ count, (Source.limited limits (.counting stamper)).reader.drain around =
      countTaken limits stamper around stamp k (count + 1) := by
  refine ⟨(around.largest + 1).toNat - k, ?_⟩
  -- The steps of a read to the end reach beyond the path, by one step at least.
  have hfuel : (Source.limited limits (.counting stamper)).reader.remaining around.largest + 1 =
      k + ((around.largest + 1).toNat - k + 1) := by
    show (around.largest + 1 - 0).toNat + 1 = _
    omega
  rw [drain, hfuel]
  exact take_of_path (countReader limits stamper around) (countAround limits stamper around)
    (fun i => ⟨.int (i : Nat), stamp i⟩) k
    (fun i hi => step_countReader htime hstamp hlargest fun j hj => h j (by omega)) _

/-- What a read takes to its end is what it has yielded until it ends. -/
theorem take_of_step_ended {reader : Reader} {around after : Surroundings}
    (h : reader.step around = .ended after) (count : Nat) :
    reader.take (count + 1) around = ⟨[], .ended, ended, after⟩ := by
  rw [take_succ, h]
  rfl

/-- A step that stops with a record leaves nothing to take, even if the record cannot be put
together. -/
theorem take_of_step_stopWith {reader : Reader} {around after : Surroundings}
    {message : Except Failure String} (h : reader.step around = stopWith message after)
    (count : Nat) :
    (reader.take (count + 1) around).elements = [] ∧
      (reader.take (count + 1) around).reader = ended := by
  have hstopped := stopped_stopWith message after
  rw [take_succ, h]
  generalize stopWith message after = s at hstopped
  cases hstopped with
  | told message => exact ⟨rfl, rfl⟩
  | dropped cause forgiving => exact ⟨rfl, rfl⟩
  | failed cause strict => exact ⟨rfl, rfl⟩

/-- What a read takes to its end is what it has yielded until it fails. -/
theorem take_of_step_failed {reader : Reader} {around after : Surroundings} {cause : Failure}
    (h : reader.step around = .failed cause after) (count : Nat) :
    reader.take (count + 1) around = ⟨[], .failed cause, ended, after⟩ := by
  rw [take_succ, h]
  rfl

/-- What is told when the time is over. -/
theorem timeMessage_counting (stamper : Stamper) {time : Duration} {seconds : Float}
    (hseconds : time.toSeconds = .ok seconds) {k : Nat} (hk : Number.Writable k) :
    timeMessage (.counting stamper) time k =
      .ok ("Stopped reading " ++ Wording.counting ++ " after max read time " ++
        time.written ++ " (" ++ String.ofList (Number.decimal k) ++ " records read)") := by
  rw [timeMessage, Duration.text_of_toSeconds hseconds, Number.write_of_writable hk]
  rfl

/-- Nothing can be told of a number of elements that cannot be written. -/
theorem timeMessage_counting_of_not_writable (stamper : Stamper) {time : Duration}
    {seconds : Float} (hseconds : time.toSeconds = .ok seconds) {k : Nat}
    (hk : ¬ Number.Writable k) :
    timeMessage (.counting stamper) time k = .error .tooManyDigits := by
  rw [timeMessage, Duration.text_of_toSeconds hseconds, Number.write_of_not_writable hk]
  rfl

/-! ## The three reasons -/

/-- A read that has reached its number of records stops as the law says. -/
theorem law_of_records_reached (hrecords : limits.RecordsFit) (htime : limits.TimeFits) {k : Nat}
    {records : Count} (hlimit : limits.records = some records) (hcount : (k : Int) = records.value)
    (count : Nat) :
    LimitedCountLaw limits stamper stamp around k
      (countTaken limits stamper around stamp k (count + 1)) := by
  have hreached : limits.RecordsReached k := ⟨records, hlimit, hcount⟩
  rw [countTaken, take_of_step_ended
    (step_of_records_reached htime hlimit hcount (hrecords records hlimit))]
  refine ⟨by simp [Taken.prepend], rfl, ?_, fun hnot => absurd hreached hnot,
    fun _ _ hnot => absurd hreached hnot, fun _ _ hnot => absurd hreached hnot⟩
  intro records' hlimit' _
  rw [← Option.some.inj (hlimit.symm.trans hlimit')]
  exact ⟨rfl, rfl⟩

/-- A read whose count is past the largest number ends as the law says. -/
theorem law_of_exhausted (htime : limits.TimeFits) {k : Nat}
    (hreached : ∀ j ≤ k, ¬ limits.RecordsReached j) (hexhausted : around.Exhausted k)
    (count : Nat) :
    LimitedCountLaw limits stamper stamp around k
      (countTaken limits stamper around stamp k (count + 1)) := by
  rw [countTaken, take_of_step_ended (step_of_exhausted htime hreached hexhausted)]
  refine ⟨by simp [Taken.prepend], rfl, ?_, fun _ _ => ⟨rfl, rfl⟩,
    fun _ _ _ hnot => absurd hexhausted hnot, fun _ _ _ hnot => absurd hexhausted hnot⟩
  intro records hlimit hcount
  exact absurd ⟨records, hlimit, hcount⟩ (hreached k (le_refl k))

/-- A read whose time is over stops as the law says. -/
theorem law_of_time_over (hrecords : limits.RecordsFit) (htime : limits.TimeFits) {k : Nat}
    (hstamp : stamper.stampOf around k = .ok (stamp k)) (hlargest : (k : Int) ≤ around.largest)
    (hreached : ∀ j ≤ k, ¬ limits.RecordsReached j) (hover : limits.TimeOver around.clock k)
    (count : Nat) :
    LimitedCountLaw limits stamper stamp around k
      (countTaken limits stamper around stamp k (count + 1)) := by
  obtain ⟨time, hlimit⟩ := hover.time_isSome
  obtain ⟨seconds, hseconds⟩ := htime time hlimit
  have hstep := step_of_time_over hlimit htime hstamp hlargest hreached hover
  have hexhausted : ¬ around.Exhausted k := by
    unfold Surroundings.Exhausted
    omega
  rw [countTaken]
  refine ⟨?_, ?_, ?_, fun _ hstops => absurd hstops hexhausted, ?_, ?_⟩
  · simp [Taken.prepend, (take_of_step_stopWith hstep count).1]
  · exact (take_of_step_stopWith hstep count).2
  · intro records hlimit hcount
    exact absurd ⟨records, hlimit, hcount⟩ (hreached k (le_refl k))
  · intro time' hlimit' _ _ hwritable
    have hmessage := timeMessage_counting stamper hseconds
      (writable_of_not_reached hrecords hreached hwritable)
    rw [← Option.some.inj (hlimit.symm.trans hlimit')]
    rw [hmessage, stopWith_ok, Surroundings.write_afterRead] at hstep
    rw [take_of_step_ended hstep]
    exact ⟨rfl, rfl⟩
  · intro time' _ _ _ hunwritten
    rw [timeMessage_counting_of_not_writable stamper hseconds hunwritten, stopWith_error,
      Surroundings.forgiving_afterRead] at hstep
    split at hstep
    · rename_i hforgiving
      rw [take_of_step_ended hstep, if_pos hforgiving]
      exact ⟨rfl, rfl⟩
    · rename_i hstrict
      rw [take_of_step_failed hstep, if_neg hstrict]
      exact ⟨rfl, rfl⟩

end Run

/-- A limited read of an unbounded count, read to its end, yields the elements before the first one
that it stops at, and stops there as the law says. -/
theorem drain_limited_counting (limits : Limits) (stamper : Stamper) (stamp : Nat → Value)
    (around : Surroundings) (hlargest : 0 ≤ around.largest) (hrecords : limits.RecordsFit)
    (htime : limits.TimeFits) (hstamp : around.Stamps stamper stamp) :
    ∃ k, IsLeast {i | around.Stops limits i} k ∧ LimitedCountLaw limits stamper stamp around k
      ((Source.limited limits (.counting stamper)).reader.drain around) := by
  obtain ⟨k, hleast, hk⟩ := exists_isLeast_stops limits hlargest
  have hbefore : ∀ j < k, ¬ around.Stops limits j := fun j hj hstops =>
    absurd (hleast.2 hstops) (by omega)
  obtain ⟨count, hdrain⟩ := drain_of_path htime hstamp hlargest hk hbefore
  refine ⟨k, hleast, ?_⟩
  rw [hdrain]
  -- The reasons are tried in the order in which a step looks for them.
  by_cases hreached : limits.RecordsReached k
  · obtain ⟨records, hlimit, hcount⟩ := hreached
    exact law_of_records_reached hrecords htime hlimit hcount count
  · have hnone : ∀ j ≤ k, ¬ limits.RecordsReached j := by
      intro j hj hstops
      rcases Nat.lt_or_eq_of_le hj with hlt | rfl
      · exact hbefore j hlt (.inl hstops)
      · exact hreached hstops
    by_cases hexhausted : around.Exhausted k
    · exact law_of_exhausted htime hnone hexhausted count
    · have hover : limits.TimeOver around.clock k := by
        rcases hleast.1 with hstops | hstops | hstops
        · exact absurd hstops hreached
        · exact absurd hstops hexhausted
        · exact hstops
      have hle : (k : Int) ≤ around.largest := by
        have hne : (k : Int) ≠ around.largest + 1 := hexhausted
        omega
      exact law_of_time_over hrecords htime (hstamp k hle) hle hnone hover count

/-- A read of at most three records and five seconds, over a clock that shows two seconds more at
each look. -/
theorem drain_three_records_five_seconds :
    let limits : Limits := ⟨some ⟨3, by decide⟩, some ⟨5000000000⟩⟩
    let around : Surroundings := { Surroundings.still 9 with
      clock := ⟨fun i => 2 * i.toFloat, 0⟩ }
    0 ≤ around.largest ∧ limits.RecordsFit ∧ limits.TimeFits ∧
      around.Stamps (.ofFunction fun n => .ok (.int n)) (fun i => .int i) ∧
      ∃ k, IsLeast {i | around.Stops limits i} k ∧
        LimitedCountLaw limits (.ofFunction fun n => .ok (.int n)) (fun i => .int i) around k
          ((Source.limited limits
            (.counting (.ofFunction fun n => .ok (.int n)))).reader.drain around) := by
  intro limits around
  have hlargest : 0 ≤ around.largest := by decide
  have hrecords : limits.RecordsFit := by
    rintro _ ⟨⟩
    decide
  have htime : limits.TimeFits := by
    rintro _ ⟨⟩
    exact ⟨_, rfl⟩
  have hstamp : around.Stamps (.ofFunction fun n => .ok (.int n)) (fun i => .int i) :=
    fun i _ => Stamper.stampOf_ofFunction _ around i
  exact ⟨hlargest, hrecords, htime, hstamp,
    drain_limited_counting limits _ _ around hlargest hrecords htime hstamp⟩

end Reader

end NumberFeed
