import NumberFeed.Proofs.Input.Agreement
import NumberFeed.Proofs.Program.Refusal
import NumberFeed.Proofs.Program.Transcript
import NumberFeed.Proofs.Reading.StampedCount

/-!
# What the counting program logs

The program looks at its arguments first: one that cannot be converted, and arguments that do not go
together, are reported before anything is logged or read. Then it announces its collection and tells
its elements, a line for each. A number of elements makes lines of bare numbers, and neither the
clock nor the time zone is looked at. Otherwise each number comes with the time that lies as many
seconds after the epoch in the zone that the surroundings have under the name, up to the element at
which the limits stop the read; the record that tells why is the last one. A time that cannot be told
ends the program right there, and then there is no such record.

`trace_law` states this for every request. It puts together what the arguments make (`inputFor_eq`,
`refused_early`), how reading and telling alternate (`advanceAll_eq`) and how the read goes on its
own (`Reader.drain_range`, `Reader.drain_ofParts`).
-/

namespace NumberFeed

namespace Surroundings

/-- The surroundings after a run of the program: so many more readings of the clock, and a log with
some records for debugging, the lines of the program and the stop records, in this order. -/
def traced (around : Surroundings) (debugs : List LogRecord) (lines stops : List String)
    (readings : Nat) : Surroundings :=
  { around with
    clock := around.clock.skip readings
    log := around.log ++ (debugs ++ (lines.map (fun text => ⟨.info, .program, text⟩) ++
      stops.map fun message => ⟨.info, .read, message⟩)) }

variable {around : Surroundings} {debugs : List LogRecord}

/-- Lines and records are nothing that a reader would notice. -/
theorem alike_traced (lines : List String) : around.Alike (around.traced debugs lines [] 0) :=
  ⟨rfl, rfl, rfl, rfl, rfl⟩

/-- More lines come after those that have been told. -/
theorem tell_traced (first second : List String) :
    (around.traced debugs first [] 0).tell second = around.traced debugs (first ++ second) [] 0 := by
  simp [traced, tell]

/-- Stop records come after the lines. -/
theorem afterCount_traced (lines : List String) (limits : Limits) (readings : Nat)
    (messages : List String) :
    (around.traced debugs lines [] 0).afterCount limits readings messages =
      around.traced debugs lines messages (limits.clockReadings readings) := by
  simp [traced, afterCount]

end Surroundings

/-- The point in time of so many thousands of milliseconds is that of as many seconds. -/
theorem Instant.ofEpochMilli_thousands (seconds : Int) :
    ofEpochMilli (seconds * 1000) = ⟨seconds, 0⟩ := by
  simp [ofEpochMilli]

namespace Counting

/-- How a number is told. -/
def numeral (i : Nat) : String := String.ofList (Number.decimal i)

/-- How the time is told that lies so many seconds after the epoch, in a zone of a table. -/
def timeText (zones : List Zone) (zone : Value) (seconds : Nat) : Except Failure String :=
  ((⟨seconds, 0⟩ : Instant).toCivil (Zone.ofValue zone zones)).map CivilTime.text

/-! ## Lines -/

section Lines

variable {around : Surroundings} {zones : List Zone} {zone : Value} {i : Nat}

/-- A number that can be written is shown so. -/
theorem shown_of_writable (h : Number.Writable i) : (Value.int i).shown = .ok (numeral i) := by
  rw [Value.shown, Value.render]
  exact Number.write_of_writable h

/-- An element without a timestamp is told by its number. -/
theorem told_bare (h : Number.Writable i) :
    told around zone ⟨.int i, .null⟩ = .ok (some (numeral i)) := by
  have hline : line around.zones zone ⟨.int i, .null⟩ = .ok (Value.int i).shown := rfl
  rw [told, hline, shown_of_writable h]

/-- A time that can be told lies within the calendar. -/
theorem lt_calendarEnd_of_timeText {text : String} (h : timeText zones zone i = .ok text) :
    (i : Int) < Instant.calendarEnd := by
  by_contra hlate
  have houtside : (⟨i, 0⟩ : Instant).toCivil (Zone.ofValue zone zones) =
      .error (Instant.outsideFailure i) := by
    unfold Instant.toCivil
    exact if_pos fun hinside => hlate hinside.2
  rw [timeText, houtside] at h
  cases h

/-- A number of seconds that does not pass the end of the calendar can be written. -/
theorem writable_of_le_calendarEnd (h : (i : Int) ≤ Instant.calendarEnd) : Number.Writable i := by
  have hend : Instant.calendarEnd < 2 ^ 38 := by decide
  have hlt : (i : Int).natAbs < Nat.pow 2 38 := by
    rw [Int.natAbs_natCast, Nat.pow_eq]
    omega
  exact Number.writable_of_lt hlt (by decide)

/-- The line of an element of the count has its number and its time. -/
theorem line_stamped (zones : List Zone) (zone : Value) (i : Nat) :
    line zones zone ⟨.int i, Stamper.stampAt (i * 1000)⟩ =
      ((⟨i, 0⟩ : Instant).toCivil (Zone.ofValue zone zones)).map fun time =>
        (Value.int i).shown.map fun shown => shown ++ " at " ++ time.text := by
  rw [Stamper.stampAt, Instant.ofEpochMilli_thousands]
  rfl

/-- An element of the count is told by its number and its time. -/
theorem told_timed {text : String} (h : timeText around.zones zone i = .ok text) :
    told around zone ⟨.int i, Stamper.stampAt (i * 1000)⟩ =
      .ok (some (numeral i ++ " at " ++ text)) := by
  have hshown := shown_of_writable
    (writable_of_le_calendarEnd (Int.le_of_lt (lt_calendarEnd_of_timeText h)))
  obtain ⟨time, htime, rfl⟩ := exists_of_map_eq_ok h
  rw [told, line_stamped, htime, hshown]
  rfl

/-- An element whose time cannot be told has no line. -/
theorem told_untimed {cause : Failure} (h : timeText around.zones zone i = .error cause) :
    told around zone ⟨.int i, Stamper.stampAt (i * 1000)⟩ = .error cause := by
  unfold timeText at h
  rcases hcivil : (⟨i, 0⟩ : Instant).toCivil (Zone.ofValue zone around.zones) with early | civil
  · rw [hcivil] at h
    obtain rfl : early = cause := Except.error.inj h
    rw [told, line_stamped, hcivil]
    rfl
  · rw [hcivil] at h
    cases h

end Lines

/-! ## The start -/

section Start

variable {request : Request} {around : Surroundings}

/-- Once the input is made, it is applied and announced. -/
theorem start_of_apply {input : Input} {collection : Collection} {after : Surroundings}
    (hinput : inputFor request = .ok input)
    (happly : Pipeline.apply (.input input) around = (.ok collection, after)) :
    start request around = (collection.open?, after.write .info .program
      ("Reading " ++ (if collection.bounded then "bounded" else "unbounded") ++ " collection")) := by
  rw [start, hinput]
  simp only [happly]

/-- A program that has started tells what its reader yields. -/
theorem run_of_start {reader : Reader} {ready : Surroundings}
    (hstart : start request around = (.ok reader, ready)) :
    run request around = outcome (reader.remaining ready.largest + 1) reader ready
      (transcript ready request.zone (reader.drain ready).elements) := by
  rw [run, hstart]
  exact advanceAll_eq request.zone _ reader ready

/-- A request for a number of elements opens their range. -/
theorem start_bounded {count : Count} (hwritable : Number.Writable count.value)
    (hoptions : request.options = .ok ⟨some count.value, none, none⟩) :
    ∃ debugs, (∀ record ∈ debugs, record.level = .debug) ∧
      (around.verbose = false → debugs = []) ∧
      ∀ zone, start { request with zone } around = (.ok (.range 0 count.value),
        around.traced debugs ["Reading bounded collection"] [] 0) := by
  obtain ⟨debugs, happly, hdebugs, hquiet⟩ := @BoundedInput.exists_apply ⟨count⟩ hwritable around
  refine ⟨debugs, hdebugs, hquiet, fun zone => ?_⟩
  have hinput : inputFor { request with zone } = .ok (.bounded ⟨count⟩) := by
    have hsame : ({ request with zone } : Request).options = request.options := rfl
    rw [inputFor_eq, hsame, hoptions]
    exact ofOptions_elements count
  rw [start_of_apply hinput happly]
  simp [BoundedInput.collection, Collection.open?, Source.open?, Source.reader, Surroundings.write,
    Surroundings.traced]

/-- A request for limits opens the count that has them. -/
theorem start_counted {limits : Limits} (hrecords : limits.RecordsFit) (htime : limits.TimeFits)
    (hoptions : request.options = .ok ⟨none, limits.records.map (·.value), limits.time⟩) :
    ∃ debugs, (∀ record ∈ debugs, record.level = .debug) ∧
      (around.verbose = false → debugs = []) ∧
      start request around =
        (.ok (.ofParts secondsStamper limits.records limits.time), around.traced debugs
          [if limits.records.isSome || limits.time.isSome then "Reading bounded collection"
            else "Reading unbounded collection"] [] 0) := by
  have hinput : inputFor request =
      .ok (.unbounded (.ofParts secondsStamper limits.records limits.time)) := by
    rw [inputFor_eq, hoptions]
    exact ofOptions_limits limits.records limits.time
  have hrenders : UnboundedInput.Renders secondsStamper limits.records limits.time := by
    refine ⟨⟨"function", rfl⟩, hrecords, fun duration hlimit => ?_⟩
    obtain ⟨seconds, hseconds⟩ := htime duration hlimit
    exact Duration.writable_of_toSeconds hseconds
  have happly := @UnboundedInput.apply_ofParts secondsStamper limits.records limits.time around rfl
    rfl fun _ => hrenders
  refine ⟨around.debugging (UnboundedInput.appliedTexts secondsStamper limits.records limits.time),
    fun record => Surroundings.level_of_mem_debugging,
    fun hquiet => Surroundings.debugging_of_quiet hquiet _, ?_⟩
  rw [start_of_apply hinput happly, Collection.open?, UnboundedInput.open?_ofParts]
  cases limits.records.isSome || limits.time.isSome <;>
    simp [Surroundings.write, Surroundings.noting, Surroundings.traced]

end Start

/-! ## The trace -/

section Run

variable {ready : Surroundings} {zone : Value} {element : Nat → Timestamped}
  {text : Nat → String}

/-- Elements with lines are told in order. -/
theorem transcript_range {k : Nat}
    (h : ∀ i < k, told ready zone (element i) = .ok (some (text i))) :
    transcript ready zone ((List.range k).map element) =
      ((List.range k).map fun i => some (text i), none) := by
  refine transcript_of_ok ?_
  rw [List.forall₂_map_left_iff, List.forall₂_map_right_iff, List.forall₂_same]
  exact fun i hi => h i (List.mem_range.mp hi)

/-- They are told up to the first one that has no line. -/
theorem transcript_range_of_error {j : Nat}
    (h : ∀ i < j, told ready zone (element i) = .ok (some (text i))) {cause : Failure}
    (hcause : told ready zone (element j) = .error cause) (after : List Timestamped) :
    transcript ready zone ((List.range (j + 1)).map element ++ after) =
      ((List.range j).map fun i => some (text i), some cause) := by
  rw [List.range_succ, List.map_append, List.append_assoc]
  refine transcript_of_error ?_ hcause
  rw [List.forall₂_map_left_iff, List.forall₂_map_right_iff, List.forall₂_same]
  exact fun i hi => h i (List.mem_range.mp hi)

/-- The lines that are told of a range of elements. -/
theorem filterMap_range (text : Nat → String) (k : Nat) :
    ((List.range k).map fun i => some (text i)).filterMap id = (List.range k).map text := by
  rw [List.filterMap_map]
  exact congrFun List.filterMap_eq_map' _

/-- A range is told without a look at the clock or the zone. -/
theorem outcome_range {count : Count} (hwritable : Number.Writable count.value) (zone : Value)
    (ready : Surroundings) :
    outcome ((Reader.range 0 count.value).remaining ready.largest + 1) (.range 0 count.value) ready
        (transcript ready zone ((Reader.range 0 count.value).drain ready).elements) =
      (.ok (), ready.tell ((List.range count.value.toNat).map numeral)) := by
  have hdrain : ∀ moment, (Reader.range 0 count.value).drain moment =
      ⟨(List.range count.value.toNat).map fun i => ⟨.int (i : Nat), .null⟩, .ended, .ended,
        moment⟩ := by
    intro moment
    simpa using Reader.drain_range 0 count.value moment
  have hlines : ∀ i < count.value.toNat,
      told ready zone ⟨.int (i : Nat), .null⟩ = .ok (some (numeral i)) := by
    intro i hi
    exact told_bare (hwritable.mono (by omega))
  rw [hdrain, transcript_range hlines]
  -- The lines that are told do not change what is left to read.
  show (((Reader.range 0 count.value).drain ready).stop.result,
    ((Reader.range 0 count.value).drain (ready.tell _)).around) = _
  rw [hdrain, hdrain, filterMap_range]
  rfl

section Counted

variable {limits : Limits} {around : Surroundings} {debugs : List LogRecord} {header : String}
  {k : Nat} {messages : List String} {readings : Nat} {times : Nat → String}

/-- Nothing stops a read before the least element at which something does, whatever has been told. -/
theorem not_stops_traced (hleast : IsLeast {i | around.Stops limits i} k) {j : Nat} (hj : j < k)
    (lines : List String) : ¬ (around.traced debugs lines [] 0).Stops limits j := by
  intro hstops
  have hle : k ≤ j := hleast.2 (((around.alike_traced lines).stops_iff limits j).mpr hstops)
  omega

/-- A read stops at the latest when there are no more numbers. -/
theorem le_of_isLeast (hlargest : 0 ≤ around.largest)
    (hleast : IsLeast {i | around.Stops limits i} k) : (k : Int) ≤ around.largest + 1 := by
  obtain ⟨k', hleast', hk⟩ := Reader.exists_isLeast_stops limits hlargest
  obtain rfl : k = k' := hleast.unique hleast'
  exact hk

/-- The reader of a request for limits yields the numbers before the one at which it stops, whatever
has been told, and then ends as the reason for that says. -/
theorem drain_counted (hrecords : limits.RecordsFit) (htime : limits.TimeFits)
    (hlargest : 0 ≤ around.largest) (hleast : IsLeast {i | around.Stops limits i} k)
    (hhalts : around.Halts limits k messages readings)
    (hwritable : limits.records = none → Number.Writable k) (lines : List String) :
    (Reader.ofParts secondsStamper limits.records limits.time).drain
        (around.traced debugs lines [] 0) =
      ⟨(List.range k).map fun i => ⟨.int (i : Nat), Stamper.stampAt (i * 1000)⟩, .ended, .ended,
        around.traced debugs lines messages (limits.clockReadings readings)⟩ := by
  rw [← Surroundings.afterCount_traced]
  exact Reader.drain_ofParts (f := fun number => .ok (Stamper.stampAt (number * 1000)))
    (fun _ => rfl) hrecords htime hlargest (fun _ hj => not_stops_traced hleast hj lines)
    (le_of_isLeast hlargest hleast) (hhalts.of_alike (around.alike_traced lines)) hwritable

/-- Before that it yields the number after each that it has yielded. -/
theorem take_counted (hrecords : limits.RecordsFit) (htime : limits.TimeFits)
    (hlargest : 0 ≤ around.largest) (hleast : IsLeast {i | around.Stops limits i} k) {j : Nat}
    (hj : j < k) (lines : List String) :
    ∃ rest, (Reader.ofParts secondsStamper limits.records limits.time).take (j + 1)
        (around.traced debugs lines [] 0) =
      ⟨(List.range (j + 1)).map fun i => ⟨.int (i : Nat), Stamper.stampAt (i * 1000)⟩, .paused, rest,
        around.traced debugs lines [] (limits.clockReadings (j + 2))⟩ := by
  have hready : 0 ≤ (around.traced debugs lines [] 0).largest := hlargest
  have hbefore : ∀ i ≤ j, ¬ (around.traced debugs lines [] 0).Stops limits i := fun i hi =>
    not_stops_traced hleast (by omega) lines
  rw [← Surroundings.afterCount_traced]
  exact Reader.take_ofParts (f := fun number => .ok (Stamper.stampAt (number * 1000)))
    (fun _ => rfl) hrecords htime hready hbefore

/-- A request for limits whose elements can all be told tells them all, and the record of the stop
comes last. -/
theorem outcome_counted (hrecords : limits.RecordsFit) (htime : limits.TimeFits)
    (hlargest : 0 ≤ around.largest) (hleast : IsLeast {i | around.Stops limits i} k)
    (hhalts : around.Halts limits k messages readings) {zone : Value}
    (htold : ∀ i < k, timeText around.zones zone i = .ok (times i)) :
    let reader := Reader.ofParts secondsStamper limits.records limits.time
    let ready := around.traced debugs [header] [] 0
    outcome (reader.remaining ready.largest + 1) reader ready
        (transcript ready zone (reader.drain ready).elements) =
      (.ok (), around.traced debugs
        (header :: (List.range k).map fun i => numeral i ++ " at " ++ times i) messages
        (limits.clockReadings readings)) := by
  intro reader ready
  -- The calendar ends, so that the number of elements can be told as well.
  have hwritable : Number.Writable k := by
    rcases k with _ | k
    · decide
    · have hlast := lt_calendarEnd_of_timeText (htold k (by omega))
      exact writable_of_le_calendarEnd (by omega)
  have hdrain : ∀ lines, reader.drain (around.traced debugs lines [] 0) = _ :=
    drain_counted hrecords htime hlargest hleast hhalts fun _ => hwritable
  have htranscript : transcript ready zone (reader.drain ready).elements =
      ((List.range k).map fun i => some (numeral i ++ " at " ++ times i), none) := by
    rw [hdrain [header]]
    exact transcript_range fun i hi => told_timed (by exact htold i hi)
  rw [htranscript]
  show ((reader.drain ready).stop.result, (reader.drain (ready.tell _)).around) = _
  rw [hdrain [header], filterMap_range, Surroundings.tell_traced, hdrain]
  rfl

/-- A request for limits ends at the first element that cannot be told, without a record of a
stop. -/
theorem outcome_counted_of_error (hrecords : limits.RecordsFit) (htime : limits.TimeFits)
    (hlargest : 0 ≤ around.largest) (hleast : IsLeast {i | around.Stops limits i} k) {zone : Value}
    {j : Nat} (hj : j < k) (htold : ∀ i < j, timeText around.zones zone i = .ok (times i))
    {cause : Failure} (hcause : timeText around.zones zone j = .error cause) :
    let reader := Reader.ofParts secondsStamper limits.records limits.time
    let ready := around.traced debugs [header] [] 0
    outcome (reader.remaining ready.largest + 1) reader ready
        (transcript ready zone (reader.drain ready).elements) =
      (.error cause, around.traced debugs
        (header :: (List.range j).map fun i => numeral i ++ " at " ++ times i) []
        (limits.clockReadings (j + 2))) := by
  intro reader ready
  have hk := le_of_isLeast hlargest hleast
  -- The read to the end begins with the elements up to the one that cannot be told.
  have hfuel : reader.remaining ready.largest + 1 =
      (j + 1) + (reader.remaining ready.largest - j) := by
    have hremaining : reader.remaining ready.largest = (around.largest + 1).toNat := by
      show (Reader.ofParts _ _ _).remaining around.largest = _
      unfold Reader.ofParts
      split
      · show (around.largest + 1 - 0).toNat = _
        omega
      · show (around.largest + 1 - 0).toNat = _
        omega
    omega
  have htranscript : transcript ready zone (reader.drain ready).elements =
      ((List.range j).map fun i => some (numeral i ++ " at " ++ times i), some cause) := by
    obtain ⟨rest, htake⟩ := take_counted hrecords htime hlargest hleast hj [header]
    rw [Reader.drain, hfuel, Reader.elements_take_add, htake]
    exact transcript_range_of_error (fun i hi => told_timed (by exact htold i hi))
      (told_untimed (by exact hcause)) _
  have htake : ∃ rest, reader.take (j + 1) (around.traced debugs
      (header :: (List.range j).map fun i => numeral i ++ " at " ++ times i) [] 0) = _ :=
    take_counted hrecords htime hlargest hleast hj _
  obtain ⟨rest, htake⟩ := htake
  rw [htranscript, outcome, List.length_map, List.length_range, filterMap_range,
    Surroundings.tell_traced, List.singleton_append, htake]

end Counted

end Run

/-- What a run of the program comes to. -/
structure TraceLaw (request : Request) (around : Surroundings) : Prop where
  /-- An argument counts as given unless it is the absent value. -/
  given : ∀ options, request.options = .ok options →
    (options.elements.isSome ↔ request.elements ≠ .null) ∧
      (options.records.isSome ↔ request.records ≠ .null) ∧
      (options.time.isSome ↔ request.time ≠ .null)
  /-- Where no input can be made of the arguments, nothing is logged or read. -/
  unmade : ∀ cause, inputFor request = .error cause → run request around = (.error cause, around)
  /-- The first given argument that cannot be converted is reported like that. -/
  unconverted : ∀ cause, request.options = .error cause →
    run request around = (.error cause, around)
  /-- So is what the table for configurations says against the converted arguments. -/
  refused : ∀ options, request.options = .ok options →
    (∀ n, options.elements = some n ∨ options.records = some n → n ≤ 0 → Number.Writable n) →
    ∃ decided, Input.Decision options.elements options.records options.time decided ∧
      ∀ cause, decided = .error cause → run request around = (.error cause, around)
  /-- No argument is refused any later than that. -/
  early : ∀ reason after, run request around = (.error (.refused reason), after) → after = around
  /-- The input is bounded just when a number of elements is given; otherwise its timestamps are those
  of the program. -/
  modes : ∀ input, inputFor request = .ok input →
    ((∃ bounded, input = .bounded bounded) ↔ request.elements ≠ .null) ∧
      ∀ unbounded, input = .unbounded unbounded → unbounded.stamper = secondsStamper
  /-- A number of elements alone is told as the numbers below it, whatever the zone is, and no clock
  is read. -/
  elements : ∀ count : Count, Number.Writable count.value →
    request.options = .ok ⟨some count.value, none, none⟩ →
    ∃ debugs, (∀ record ∈ debugs, record.level = .debug) ∧ (around.verbose = false → debugs = []) ∧
      ∀ zone, run { request with zone } around = (.ok (), around.traced debugs
        ("Reading bounded collection" :: (List.range count.value.toNat).map numeral) [] 0)
  /-- Limits are told as the numbers before the first one at which something stops the read, each with
  its time, and the record of the stop. Where a time cannot be told, its failure ends the program
  after the line before, and there is no such record. -/
  limits : ∀ limits : Limits, limits.RecordsFit → limits.TimeFits → 0 ≤ around.largest →
    request.options = .ok ⟨none, limits.records.map (·.value), limits.time⟩ →
    ∃ debugs header k messages readings, (∀ record ∈ debugs, record.level = .debug) ∧
      (around.verbose = false → debugs = []) ∧
      (header = if limits.records.isSome || limits.time.isSome then "Reading bounded collection"
        else "Reading unbounded collection") ∧
      IsLeast {i | around.Stops limits i} k ∧ around.Halts limits k messages readings ∧
      (∀ times : Nat → String, (∀ i < k, timeText around.zones request.zone i = .ok (times i)) →
        run request around = (.ok (), around.traced debugs
          (header :: (List.range k).map fun i => numeral i ++ " at " ++ times i) messages
          (limits.clockReadings readings))) ∧
      ∀ j < k, ∀ (times : Nat → String) (cause : Failure),
        (∀ i < j, timeText around.zones request.zone i = .ok (times i)) →
        timeText around.zones request.zone j = .error cause →
        run request around = (.error cause, around.traced debugs
          (header :: (List.range j).map fun i => numeral i ++ " at " ++ times i) []
          (limits.clockReadings (j + 2)))

/-- A request whose input cannot be made ends the program at once. -/
theorem run_of_inputFor_error {request : Request} {around : Surroundings} {cause : Failure}
    (h : inputFor request = .error cause) : run request around = (.error cause, around) := by
  rw [run, start, h]

/-- Every run of the program is what the law says. -/
theorem trace_law (request : Request) (around : Surroundings) : TraceLaw request around where
  given options hoptions := by
    obtain ⟨helements, hrecords, htime⟩ := isSome_of_options hoptions
    rw [helements, hrecords, htime]
    exact ⟨not_isNull_iff, not_isNull_iff, not_isNull_iff⟩
  unmade _ hinput := run_of_inputFor_error hinput
  unconverted cause hoptions := by
    refine run_of_inputFor_error ?_
    rw [inputFor_eq, hoptions]
    rfl
  refused options hoptions hwritable := by
    refine ⟨_, Input.decision_ofOptions (fun n hn => hwritable n (.inl hn))
      (fun n hn => hwritable n (.inr hn)), fun cause hcause => run_of_inputFor_error ?_⟩
    rw [inputFor_eq, hoptions]
    show (Input.ofOptions options.elements options.records options.time).map stamped = _
    rw [hcause]
    rfl
  early _ _ hrefused := refused_early hrefused
  modes input hinput := by
    refine ⟨isBounded_of_inputFor hinput, ?_⟩
    rintro unbounded rfl
    obtain ⟨records, time, rfl⟩ := ofParts_of_inputFor hinput
    rfl
  elements count hwritable hoptions := by
    obtain ⟨debugs, hdebugs, hquiet, hstart⟩ := start_bounded hwritable hoptions
    refine ⟨debugs, hdebugs, hquiet, fun zone => ?_⟩
    rw [run_of_start (hstart zone), outcome_range hwritable, Surroundings.tell_traced]
    rfl
  limits limits hrecords htime hlargest hoptions := by
    obtain ⟨debugs, hdebugs, hquiet, hstart⟩ := start_counted hrecords htime hoptions
    obtain ⟨k, hleast, -⟩ := Reader.exists_isLeast_stops limits hlargest
    obtain ⟨messages, readings, hhalts⟩ := Surroundings.exists_halts hleast.1
    refine ⟨debugs, _, k, messages, readings, hdebugs, hquiet, rfl, hleast, hhalts, ?_, ?_⟩
    · intro times htold
      rw [run_of_start hstart]
      exact outcome_counted hrecords htime hlargest hleast hhalts htold
    · intro j hj times cause htold hcause
      rw [run_of_start hstart]
      exact outcome_counted_of_error hrecords htime hlargest hleast hj htold hcause

/-- Two elements are bare numbers, and two records have their times and the record of the stop. -/
theorem trace_law_two :
    let around : Surroundings := .still 9
    run { Request.plain with elements := .int 2 } around =
        (.ok (), around.traced [] ["Reading bounded collection", "0", "1"] [] 0) ∧
      run { Request.plain with records := .int 2 } around =
        (.ok (), around.traced []
          ["Reading bounded collection", "0 at 1970-01-01 00:00:00+00:00",
            "1 at 1970-01-01 00:00:01+00:00"]
          ["Stopped reading UnboundedCountingSource after max number of records 2"] 0) := by
  intro around
  let two : Count := ⟨2, by decide⟩
  constructor
  · obtain ⟨debugs, -, hquiet, hrun⟩ :=
      (trace_law { Request.plain with elements := .int 2 } around).elements two (by decide) rfl
    obtain rfl := hquiet rfl
    exact hrun (.text "UTC")
  · let limits : Limits := ⟨some two, none⟩
    have hrecords : limits.RecordsFit := by
      rintro _ ⟨⟩
      decide
    have htime : limits.TimeFits := by
      rintro _ ⟨⟩
    obtain ⟨debugs, header, k, messages, readings, -, hquiet, hheader, hleast, hhalts, htold, -⟩ :=
      (trace_law { Request.plain with records := .int 2 } around).limits limits hrecords htime
        (by decide) rfl
    obtain rfl := hquiet rfl
    -- There is no read time, so that the number of records stops the read.
    have hreached : limits.RecordsReached 2 := ⟨two, rfl, rfl⟩
    have hbefore : ∀ i < 2, ¬ around.Stops limits i := by
      rintro i hi (⟨records, hlimit, hcount⟩ | hpast | hover)
      · obtain rfl := Option.some.inj hlimit
        have hcount : (i : Int) = 2 := hcount
        omega
      · have hpast : (i : Int) = 10 := hpast
        omega
      · obtain ⟨time, hlimit⟩ := hover.time_isSome
        cases hlimit
    obtain rfl : k = 2 := by
      have hle : k ≤ 2 := hleast.2 (.inl hreached)
      by_contra hne
      exact hbefore k (by omega) hleast.1
    cases hhalts with
    | records hlimit _ =>
      obtain rfl := Option.some.inj hlimit
      let times (i : Nat) : String := "1970-01-01 00:00:0" ++ numeral i ++ "+00:00"
      have htimes : ∀ i < 2, timeText around.zones (.text "UTC") i = .ok (times i) := by
        decide +kernel
      have hlines : ((List.range 2).map fun i => numeral i ++ " at " ++ times i) =
          ["0 at 1970-01-01 00:00:00+00:00", "1 at 1970-01-01 00:00:01+00:00"] := by
        decide +kernel
      have hmessage : "Stopped reading " ++ Wording.counting ++ " after max number of records " ++
          String.ofList (Number.decimal two.value) =
          "Stopped reading UnboundedCountingSource after max number of records 2" := by
        decide +kernel
      rw [htold times htimes, hlines, hmessage, hheader]
      rfl
    | exhausted hunreached _ => exact absurd hreached hunreached
    | time hlimit _ _ _ => cases hlimit

end Counting

end NumberFeed
