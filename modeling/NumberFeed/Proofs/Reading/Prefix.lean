import NumberFeed.Proofs.Reading.Life
import NumberFeed.Proofs.Reading.LimitedCount

/-!
# Prefixes of a run

A run that stops before it has taken as many elements as were asked for comes to the same under
every greater number (`Reader.take_of_length_lt`), and under a smaller one is paused after so many
of the same elements (`Reader.take_of_le`). A run to the end is never paused (`Reader.stop_drain`).

What a paused run costs can be told beforehand. A step that yields (`Reader.yields_of_step`) looks
at the clock once for each read time, and once more for each that has not been started; it calls
the stamper once, and writes nothing. Within all limits the reader of the bare source
(`Reader.root`) yields the same element in it. So a paused run looks at the clock once for each read
time and element, and once more for each read time (`Reader.around_take_reader`), and the bare
source has made no element that the run did not yield (`Reader.root_take`). A limited read that has
yielded its number of records has not told so yet: the next step does
(`Reader.around_drain_of_reached`).
-/

namespace NumberFeed

namespace Stamper

/-- The number of readings of the wall clock that a stamper takes for each number. -/
def ticks : Stamper → Nat
  | now => 1
  | _ => 0

/-- A call of a stamper takes its readings of the wall clock, may leave something else to remember,
and changes nothing else. -/
theorem after_call (stamper : Stamper) (number : Int) (around : Surroundings) :
    (stamper.call number around).2.2 =
      around.after ⟨0, stamper.ticks, [], some (stamper.call number around).2.2.memory⟩ := by
  cases stamper with
  | now => simp [call, ticks, Surroundings.readWall, Surroundings.after, Readings.advance_eq_skip]
  | shared f => simp [call, ticks, Surroundings.after]
  | _ => exact (Surroundings.after_memory around).symm

/-- A stamper takes as many readings after a call as before it. -/
theorem ticks_call (stamper : Stamper) (number : Int) (around : Surroundings) :
    (stamper.call number around).2.1.ticks = stamper.ticks := by
  cases stamper <;> rfl

/-- What a call comes to depends on no more than the wall clock and what is remembered. -/
theorem call_congr (stamper : Stamper) (number : Int) {a b : Surroundings} (hwall : b.wall = a.wall)
    (hmemory : b.memory = a.memory) :
    (stamper.call number b).1 = (stamper.call number a).1 ∧
      (stamper.call number b).2.1 = (stamper.call number a).2.1 ∧
      (stamper.call number b).2.2.memory = (stamper.call number a).2.2.memory := by
  cases stamper with
  | now => exact ⟨by simp only [call, Surroundings.readWall, hwall], rfl, hmemory⟩
  | shared f => exact ⟨by simp only [call, hmemory], rfl, by simp only [call, hmemory]⟩
  | _ => exact ⟨rfl, rfl, hmemory⟩

end Stamper

namespace Limits

/-- The looks at the clock that a limited read takes to yield its next element. -/
def looks (limits : Limits) : Phase → Nat
  | .fresh => limits.clockReadings 2
  | .running due _ => if due.isSome then limits.clockReadings 1 else 0

/-- The looks at the clock that a limited read takes to yield each element after the next one. -/
def laterLooks (limits : Limits) : Phase → Nat
  | .fresh => limits.clockReadings 1
  | .running due _ => if due.isSome then limits.clockReadings 1 else 0

end Limits

/-- The number of read times to which a source is limited. -/
def Source.timers : Source → Nat
  | read _ source => source.timers
  | limited limits source => limits.clockReadings 1 + source.timers
  | range _ _ | counting _ | foreign _ => 0

namespace Reader

/-- The reader of the bare source, within all limits. -/
def root : Reader → Reader
  | limited _ _ _ inner => inner.root
  | reader => reader

/-- The looks at the clock that a reader takes to yield its next element. -/
def looks : Reader → Nat
  | limited limits _ phase inner => limits.looks phase + inner.looks
  | _ => 0

/-- The looks at the clock that a reader takes to yield each element after the next one. -/
def laterLooks : Reader → Nat
  | limited limits _ phase inner => limits.laterLooks phase + inner.laterLooks
  | _ => 0

/-- The number of readings of the wall clock that a reader takes for each element. -/
def ticks : Reader → Nat
  | counting stamper _ => stamper.ticks
  | limited _ _ _ inner => inner.ticks
  | _ => 0

/-- For each element the reader of a source looks at the clock once for each read time, and for the
first one once more. -/
theorem looks_reader (source : Source) :
    source.reader.looks = 2 * source.timers ∧ source.reader.laterLooks = source.timers := by
  induction source with
  | read bounded source ih => exact ih
  | limited limits source ih =>
    obtain ⟨hlooks, hlater⟩ := ih
    have htwice : limits.clockReadings 2 = 2 * limits.clockReadings 1 := by
      unfold Limits.clockReadings
      split <;> rfl
    constructor
    · show limits.clockReadings 2 + source.reader.looks =
        2 * (limits.clockReadings 1 + source.timers)
      rw [hlooks, htwice]
      omega
    · show limits.clockReadings 1 + source.reader.laterLooks =
        limits.clockReadings 1 + source.timers
      rw [hlater]
  | _ => exact ⟨rfl, rfl⟩

/-! ## Steps that yield -/

/-- What is true of a step that yields, and leaves something to remember. -/
structure Yields (reader : Reader) (around : Surroundings) (element : Timestamped) (rest : Reader)
    (after : Surroundings) (memory : Value) : Prop where
  /-- It has looked at the clock and stamped the element, and has written nothing. -/
  after : after = around.after ⟨reader.looks, reader.ticks, [], some memory⟩
  /-- The next element takes fewer looks at the clock if this was the first one. -/
  looks : rest.looks = reader.laterLooks
  /-- From then on each element takes as many looks. -/
  laterLooks : rest.laterLooks = reader.laterLooks
  /-- Each element takes as many readings of the wall clock. -/
  ticks : rest.ticks = reader.ticks
  /-- One element less is left. -/
  remaining : rest.remaining around.largest + 1 = reader.remaining around.largest
  /-- The bare source yields the same element, wherever the wall clock shows the same and the same
  is remembered. -/
  root : ∀ b : Surroundings, b.largest = around.largest → b.wall = around.wall →
    b.memory = around.memory → reader.root.step b =
      ⟨.yielded element, rest.root, b.after ⟨0, reader.ticks, [], some memory⟩⟩

section Steps

variable {limits : Limits} {source : Source} {phase : Phase} {inner rest : Reader}
  {around found after : Surroundings} {due : Option Float} {count : Nat}
  {element made : Timestamped}

/-- A read that finds its deadline knows how many elements it has yielded, and has looked at the
clock if it had not been started. -/
theorem of_deadline (h : deadline limits phase around = (.ok (due, count), found)) :
    count = phase.count ∧ ∃ looks, found = around.after ⟨looks, 0, [], none⟩ ∧
      limits.looks phase = looks + (if due.isSome then limits.clockReadings 1 else 0) ∧
      limits.laterLooks phase = if due.isSome then limits.clockReadings 1 else 0 := by
  cases phase with
  | running due' count' =>
    obtain ⟨hresult, rfl⟩ := Prod.mk.inj h
    obtain ⟨rfl, rfl⟩ := Prod.mk.inj (Except.ok.inj hresult)
    exact ⟨rfl, 0, (Surroundings.after_none _).symm, (Nat.zero_add _).symm, rfl⟩
  | fresh =>
    rcases htime : limits.time with _ | time
    · simp only [deadline, htime] at h
      obtain ⟨hresult, rfl⟩ := Prod.mk.inj h
      obtain ⟨rfl, rfl⟩ := Prod.mk.inj (Except.ok.inj hresult)
      refine ⟨rfl, 0, (Surroundings.after_none _).symm, ?_, ?_⟩
      · simp [Limits.looks, Limits.clockReadings, htime]
      · simp [Limits.laterLooks, Limits.clockReadings, htime]
    · simp only [deadline, htime, Surroundings.readClock] at h
      obtain ⟨hresult, rfl⟩ := Prod.mk.inj h
      rcases hseconds : time.toSeconds with cause | seconds
      · rw [hseconds] at hresult
        cases hresult
      · rw [hseconds] at hresult
        obtain ⟨rfl, rfl⟩ := Prod.mk.inj (Except.ok.inj hresult)
        refine ⟨rfl, 1, ?_, ?_, ?_⟩
        · simp [Surroundings.after, Readings.advance_eq_skip]
        · simp [Limits.looks, Limits.clockReadings, htime]
        · simp [Limits.laterLooks, Limits.clockReadings, htime]

/-- Stopping with a record is no step that yields. -/
theorem stopWith_ne_yielded (message : Except Failure String) :
    stopWith message around ≠ ⟨.yielded element, rest, after⟩ := by
  intro h
  exact outcome_stopWith message around element (congrArg Step.outcome h)

/-- An element that is passed on costs a look at the clock if there is a deadline. -/
theorem of_pass_yields
    (h : pass limits source due count made inner around = ⟨.yielded element, rest, after⟩) :
    made = element ∧ rest = limited limits source (.running due (count + 1)) inner ∧
      after = around.after ⟨if due.isSome then limits.clockReadings 1 else 0, 0, [], none⟩ := by
  rcases due with _ | due
  · simp only [pass, Step.mk.injEq, Outcome.yielded.injEq] at h
    obtain ⟨rfl, rfl, rfl⟩ := h
    exact ⟨rfl, rfl, (Surroundings.after_none _).symm⟩
  · rcases htime : limits.time with _ | time
    · simp only [pass, htime, Step.mk.injEq, Outcome.yielded.injEq] at h
      obtain ⟨rfl, rfl, rfl⟩ := h
      refine ⟨rfl, rfl, ?_⟩
      simp [Limits.clockReadings, htime, Surroundings.after]
    · simp only [pass, htime] at h
      split at h
      · exact absurd h (stopWith_ne_yielded _)
      · simp only [Step.mk.injEq, Outcome.yielded.injEq] at h
        obtain ⟨rfl, rfl, rfl⟩ := h
        refine ⟨rfl, rfl, ?_⟩
        simp [Limits.clockReadings, htime, Surroundings.readClock, Surroundings.after,
          Readings.advance_eq_skip]

/-- A limited read that yields has found its deadline, and passes on what the read within it has
yielded. -/
theorem of_limited_yields
    (h : (limited limits source phase inner).step around = ⟨.yielded element, rest, after⟩) :
    ∃ due count found inner' made, deadline limits phase around = (.ok (due, count), found) ∧
      inner.step found = ⟨.yielded element, inner', made⟩ ∧
      rest = limited limits source (.running due (count + 1)) inner' ∧
      after = made.after ⟨if due.isSome then limits.clockReadings 1 else 0, 0, [], none⟩ := by
  rcases hdeadline : deadline limits phase around with ⟨cause | ⟨due, count⟩, found⟩
  · rw [step, hdeadline] at h
    cases h
  · rw [step, hdeadline] at h
    simp only at h
    split at h
    · exact absurd h (stopWith_ne_yielded _)
    · rcases hinner : inner.step found with ⟨made | _ | cause, inner', after'⟩
      · rw [hinner] at h
        obtain ⟨rfl, hrest, hafter⟩ := of_pass_yields h
        exact ⟨due, count, found, inner', after', rfl, hinner, hrest, hafter⟩
      · rw [hinner] at h
        cases h
      · rw [hinner] at h
        cases h

end Steps

/-- Every step that yields does so at its cost, and yields what the bare source yields. -/
theorem yields_of_step {reader rest : Reader} {around after : Surroundings} {element : Timestamped}
    (h : reader.step around = ⟨.yielded element, rest, after⟩) :
    ∃ memory, reader.Yields around element rest after memory := by
  induction reader generalizing around rest after with
  | ended => cases h
  | broken cause => cases h
  | range next stop =>
    rw [step] at h
    split at h
    · rename_i hlt
      cases h
      refine ⟨around.memory, (Surroundings.after_memory _).symm, rfl, rfl, rfl, ?_,
        fun b _ _ hmemory => ?_⟩
      · show (stop - (next + 1)).toNat + 1 = (stop - next).toNat
        omega
      · show (range next stop).step b = _
        rw [step, if_pos hlt, ← hmemory]
        exact congrArg _ (Surroundings.after_memory b).symm
    · cases h
  | counting stamper next =>
    rw [step] at h
    split at h
    · rename_i hle
      have hafter := stamper.after_call next around
      have hticks := stamper.ticks_call next around
      rcases hcall : stamper.call next around with ⟨cause | stamp, stamper', around'⟩
      · rw [hcall] at h
        cases h
      · rw [hcall] at h hafter hticks
        cases h
        refine ⟨_, hafter, rfl, rfl, hticks, ?_, fun b hlargest hwall hmemory => ?_⟩
        · show (around.largest + 1 - (next + 1)).toNat + 1 = (around.largest + 1 - next).toNat
          omega
        · -- The stamper does the same there, and takes the same readings.
          obtain ⟨hstamp, hstamper, hremembered⟩ := stamper.call_congr next hwall hmemory
          have hafter' := stamper.after_call next b
          rw [hremembered] at hafter'
          rw [hcall] at hstamp hstamper hafter'
          show (counting stamper next).step b = _
          rw [step, if_pos (hlargest ▸ hle)]
          rcases hcall' : stamper.call next b with ⟨result, stamper'', b'⟩
          rw [hcall'] at hstamp hstamper hafter'
          obtain rfl : result = .ok stamp := hstamp
          obtain rfl : stamper'' = stamper' := hstamper
          exact congrArg _ hafter'
    · cases h
  | limited limits source phase inner ih =>
    obtain ⟨due, count, found, inner', made, hdeadline, hinner, rfl, rfl⟩ := of_limited_yields h
    obtain ⟨-, looks, rfl, hlooks, hlater⟩ := of_deadline hdeadline
    obtain ⟨memory, rfl, hlooks', hlater', hticks, hremaining, hroot⟩ := ih hinner
    refine ⟨memory, ?_, ?_, ?_, hticks, hremaining, hroot⟩
    · -- The looks are those at the start, those of the read within, and the last one.
      rw [Surroundings.after_after, Surroundings.after_after]
      simp only [Usage.andThen, Reader.looks, hlooks, Reader.ticks, List.append_nil]
      congr 2 <;> omega
    · show (if due.isSome then limits.clockReadings 1 else 0) + inner'.looks =
        limits.laterLooks phase + inner.laterLooks
      rw [hlater, hlooks']
    · show (if due.isSome then limits.clockReadings 1 else 0) + inner'.laterLooks =
        limits.laterLooks phase + inner.laterLooks
      rw [hlater, hlater']

/-! ## Prefixes -/

section Prefixes

variable {reader : Reader} {around : Surroundings} {m n : Nat}

/-- A run that takes no more elements than another one has taken is paused, and has the first of
the same elements. -/
theorem take_of_le (h : m ≤ (reader.take n around).elements.length) :
    (reader.take m around).stop = .paused ∧
      (reader.take m around).elements = (reader.take n around).elements.take m := by
  induction m generalizing n reader around with
  | zero => exact ⟨rfl, List.take_zero.symm⟩
  | succ m ih =>
    cases n with
    | zero => exact absurd h (Nat.not_succ_le_zero m)
    | succ n =>
      rw [take_succ reader n] at h
      rw [take_succ reader m, take_succ reader n]
      generalize reader.step around = s at h ⊢
      rcases s with ⟨element | _ | cause, rest, after⟩
      · obtain ⟨hstop, helements⟩ := ih (Nat.le_of_succ_le_succ h)
        exact ⟨hstop, congrArg (element :: ·) helements⟩
      · exact absurd h (Nat.not_succ_le_zero m)
      · exact absurd h (Nat.not_succ_le_zero m)

/-- A run that is over comes to the same for everyone who asks for more elements than it has. -/
theorem take_of_length_lt (hstop : (reader.take n around).stop ≠ .paused)
    (h : (reader.take n around).elements.length < m) :
    reader.take m around = reader.take n around := by
  induction n generalizing m reader around with
  | zero => exact absurd rfl hstop
  | succ n ih =>
    cases m with
    | zero => exact absurd h (Nat.not_lt_zero _)
    | succ m =>
      rw [take_succ reader n] at hstop h
      rw [take_succ reader m, take_succ reader n]
      generalize reader.step around = s at hstop h ⊢
      rcases s with ⟨element | _ | cause, rest, after⟩
      · exact congrArg (Taken.cons element) (ih hstop (Nat.lt_of_succ_lt_succ h))
      · rfl
      · rfl

/-- A run that is asked for more elements than can be left is over before. -/
theorem stop_take_of_remaining_lt (h : reader.remaining around.largest < n) :
    (reader.take n around).stop ≠ .paused := by
  induction n generalizing reader around with
  | zero => exact absurd h (Nat.not_lt_zero _)
  | succ n ih =>
    rw [take_succ]
    rcases hstep : reader.step around with ⟨element | _ | cause, rest, after⟩
    · obtain ⟨memory, rfl, -, -, -, hremaining, -⟩ := yields_of_step hstep
      refine ih ?_
      show rest.remaining around.largest < n
      omega
    · exact Stop.noConfusion
    · exact Stop.noConfusion

/-- A read of all elements ends or fails. -/
theorem stop_drain (reader : Reader) (around : Surroundings) :
    (reader.drain around).stop ≠ .paused :=
  stop_take_of_remaining_lt (Nat.lt_succ_self _)

/-- Who asks for more elements than there are reads all of them. -/
theorem take_eq_drain (h : (reader.drain around).elements.length < m) :
    reader.take m around = reader.drain around :=
  take_of_length_lt (stop_drain reader around) h

end Prefixes

/-! ## Paused runs -/

section Paused

variable {reader : Reader} {around : Surroundings} {count : Nat}

/-- A paused run starts with a step that yields, and goes on as a paused run. -/
theorem take_succ_of_paused (h : (reader.take (count + 1) around).stop = .paused) :
    ∃ element rest after, reader.step around = ⟨.yielded element, rest, after⟩ ∧
      reader.take (count + 1) around = (rest.take count after).cons element ∧
      (rest.take count after).stop = .paused := by
  rw [take_succ] at h ⊢
  generalize reader.step around = s at h ⊢
  rcases s with ⟨element | _ | cause, rest, after⟩
  · exact ⟨element, rest, after, rfl, rfl, h⟩
  · cases h
  · cases h

/-- What a paused run has used: the looks at the clock and the readings of the wall clock that its
elements take, and nothing in the log. -/
theorem around_take (h : (reader.take (count + 1) around).stop = .paused) :
    ∃ memory, (reader.take (count + 1) around).around = around.after
      ⟨reader.looks + reader.laterLooks * count, reader.ticks * (count + 1), [], some memory⟩ := by
  induction count generalizing reader around with
  | zero =>
    obtain ⟨element, rest, after, hstep, htake, -⟩ := take_succ_of_paused h
    obtain ⟨memory, rfl, -, -, -, -, -⟩ := yields_of_step hstep
    refine ⟨memory, ?_⟩
    rw [htake]
    simp [Taken.cons]
  | succ count ih =>
    obtain ⟨element, rest, after, hstep, htake, hrest⟩ := take_succ_of_paused h
    obtain ⟨memory, rfl, hlooks, hlater, hticks, -, -⟩ := yields_of_step hstep
    -- The rest of the run starts with an element that is not the first one.
    obtain ⟨last, hlast⟩ := ih hrest
    refine ⟨last, ?_⟩
    rw [htake, Taken.cons, hlast, Surroundings.after_after, hlooks, hlater, hticks]
    simp only [Usage.andThen, List.append_nil, Option.some_or]
    congr 2
    · rw [Nat.mul_succ]
      omega
    · rw [Nat.mul_succ _ (count + 1), Nat.add_comm]

/-- A paused run is a run of the bare source, wherever the wall clock shows the same and the same is
remembered: the bare source has yielded the elements of the run and no more, and leaves the same to
remember. -/
theorem root_take (h : (reader.take count around).stop = .paused) {b : Surroundings}
    (hlargest : b.largest = around.largest) (hwall : b.wall = around.wall)
    (hmemory : b.memory = around.memory) :
    reader.root.take count b =
      ⟨(reader.take count around).elements, .paused, (reader.take count around).reader.root,
        b.after ⟨0, reader.ticks * count, [],
          some (reader.take count around).around.memory⟩⟩ := by
  induction count generalizing reader around b with
  | zero =>
    have hsame : b.after ⟨0, 0, [], some around.memory⟩ = b := by
      rw [← hmemory, Surroundings.after_memory]
    exact congrArg _ hsame.symm
  | succ count ih =>
    obtain ⟨element, rest, after, hstep, htake, hrest⟩ := take_succ_of_paused h
    obtain ⟨memory, rfl, -, -, hticks, -, hroot⟩ := yields_of_step hstep
    rw [htake, take_succ, hroot b hlargest hwall hmemory]
    -- Both go on from surroundings in which the wall clock has been read as often.
    have hgoes := ih (b := b.after ⟨0, reader.ticks, [], some memory⟩) hrest hlargest
      (congrArg (Readings.skip · reader.ticks) hwall) rfl
    simp only [hgoes, Taken.cons, Surroundings.after_after, Usage.andThen, hticks, Nat.add_zero,
      List.append_nil, Option.some_or]
    rw [Nat.mul_succ, Nat.add_comm]

/-- A paused run of a source costs a look at the clock for each read time and element, and one more
for each read time. -/
theorem around_take_reader {source : Source} (hpos : 0 < count)
    (h : (source.reader.take count around).stop = .paused) :
    (source.reader.take count around).around = around.after
      ⟨source.timers * (1 + count), source.reader.ticks * count, [],
        some (source.reader.take count around).around.memory⟩ := by
  obtain ⟨count, rfl⟩ := Nat.exists_eq_succ_of_ne_zero (Nat.pos_iff_ne_zero.mp hpos)
  obtain ⟨hlooks, hlater⟩ := looks_reader source
  have htimes : 2 * source.timers + source.timers * count = source.timers * (1 + (count + 1)) := by
    simp only [Nat.mul_add, Nat.mul_one]
    omega
  obtain ⟨memory, hused⟩ := around_take h
  rw [hlooks, hlater, htimes] at hused
  rw [hused]
  rfl

end Paused

/-! ## The record at the end -/

section Limited

variable {limits : Limits} {source : Source} {phase : Phase} {inner : Reader}
  {around : Surroundings}

/-- A limited read that is paused has counted its elements. -/
theorem reader_take_limited {count : Nat}
    (h : ((limited limits source phase inner).take count around).stop = .paused) :
    ∃ phase' rest, ((limited limits source phase inner).take count around).reader =
      limited limits source phase' rest ∧ phase'.count = phase.count + count := by
  induction count generalizing phase inner around with
  | zero => exact ⟨phase, inner, rfl, rfl⟩
  | succ count ih =>
    obtain ⟨element, rest, after, hstep, htake, hrest⟩ := take_succ_of_paused h
    obtain ⟨due, before, found, inner', made, hdeadline, -, rfl, -⟩ := of_limited_yields hstep
    obtain ⟨rfl, -⟩ := of_deadline hdeadline
    obtain ⟨phase', last, hlast, hcount⟩ := ih hrest
    refine ⟨phase', last, by rw [htake]; exact hlast, ?_⟩
    rw [hcount]
    show phase.count + 1 + count = phase.count + (count + 1)
    omega

/-- A read in progress that has reached its number of records stops with the record that tells
so. -/
theorem around_take_of_reached {records : Count} (hrecords : limits.records = some records)
    {due : Option Float} {count : Nat} (hcount : (count : Int) = records.value) :
    ((limited limits source (.running due count) inner).take 1 around).around =
      (stopWith (recordsMessage source records) around).around := by
  have hreached : reached? limits count = some records := by
    rw [reached?, hrecords, Option.filter_some_eq_some]
    exact decide_eq_true (le_of_eq hcount.symm)
  rw [take_succ, step_limited_of_reached rfl hreached]
  generalize recordsMessage source records = message
  have hstopped := stopped_stopWith message around
  generalize stopWith message around = s at hstopped
  cases hstopped with
  | told message => rfl
  | dropped cause forgiving => rfl
  | failed cause strict => rfl

/-- A limited read that has as many elements in all as its number of records stops after the last
of them with the record that tells so. -/
theorem around_drain_of_reached {records : Count} (hrecords : limits.records = some records)
    {reader : Reader} (hreader : reader = limited limits source .fresh inner)
    (hlength : ((reader.drain around).elements.length : Int) = records.value) :
    (reader.drain around).around = (stopWith (recordsMessage source records)
      (reader.take records.value.toNat around).around).around := by
  have hpositive := records.positive
  have hcount : (records.value.toNat : Int) = records.value := by omega
  have hle : records.value.toNat ≤ (reader.drain around).elements.length := by omega
  have hlt : (reader.drain around).elements.length < records.value.toNat + 1 := by omega
  obtain ⟨hpaused, -⟩ := take_of_le hle
  -- It is paused after its last element, and has counted them all.
  subst hreader
  obtain ⟨phase', rest, hrest, hphase⟩ := reader_take_limited hpaused
  rw [← take_eq_drain hlt, take_add]
  dsimp only
  rw [hpaused, hrest]
  simp only [Taken.prepend]
  cases phase' with
  | fresh =>
    simp only [Phase.count] at hphase
    omega
  | running due count =>
    refine around_take_of_reached hrecords ?_
    simp only [Phase.count] at hphase
    omega

end Limited

end Reader

end NumberFeed
