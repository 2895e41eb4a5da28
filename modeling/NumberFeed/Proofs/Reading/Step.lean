import NumberFeed.Proofs.Reading.Usage
import NumberFeed.Reader

/-!
# Steps of a reader

What every reader does in a single step, whatever it reads and however its limits are nested. A step
is frugal (`Reader.step_frugal`): it depends on the reader and on the readings it takes itself. And
every step is one of three moves (`Reader.moves_step`): it yields the number at which the reader
stands and moves it on by one, or it leaves a reader that has ended, and then it writes at most one
record into the log, or it fails, leaves a reader that has ended too, and writes nothing.

Both facts are proved by induction on the reader, with one case per kind of reader. A limited read
takes its step in parts (`Reader.stepAct_limited`): it finds its deadline, looks at the number of
records, lets the read within it take a step, and passes the element on unless it comes too late.
-/

namespace NumberFeed

namespace Step

/-- A step as a result and the surroundings afterwards. -/
def parts (step : Step) : (Outcome × Reader) × Surroundings :=
  ((step.outcome, step.reader), step.around)

end Step

/-- A call of a stamper as an act. -/
def Stamper.callAct (stamper : Stamper) (number : Int) : Act (Except Failure Value × Stamper) :=
  fun around =>
    (((stamper.call number around).1, (stamper.call number around).2.1),
      (stamper.call number around).2.2)

/-- A call of a stamper is frugal. -/
theorem Stamper.callAct_frugal (stamper : Stamper) (number : Int) :
    Frugal (stamper.callAct number) := by
  cases stamper with
  | now =>
    exact Frugal.readWall.andThen fun nanos =>
      Frugal.idle (Except.ok (Value.instant (.ofEpochNanos nanos)), now)
  | ofFunction f => exact Frugal.idle (f number, ofFunction f)
  | ofFormula formula =>
    exact Frugal.idle ((callFormula formula number).1, ofFormula (callFormula formula number).2)
  | shared f => exact Frugal.remember fun memory =>
      (((f number memory).1, shared f), (f number memory).2)
  | uncallable value => exact Frugal.idle (Except.error Failure.wrongType, uncallable value)

/-- A call of a stamper leaves the log alone. -/
theorem Stamper.log_call (stamper : Stamper) (number : Int) (around : Surroundings) :
    (stamper.call number around).2.2.log = around.log := by
  cases stamper <;> rfl

/-- The number of elements that a limited read has yielded. -/
def Phase.count : Phase → Nat
  | fresh => 0
  | running _ count => count

/-- A record that tells why a limited read has stopped. -/
def LogRecord.IsStop (record : LogRecord) : Prop := record.level = .info ∧ record.origin = .read

namespace Reader

/-- A step of a reader as an act. -/
def stepAct (reader : Reader) : Act (Outcome × Reader) := fun around => (reader.step around).parts

/-! ## The parts of a limited step -/

/-- What a limited read makes of a step of the read within it. -/
def passOn (limits : Limits) (source : Source) (deadline : Option Float) (count : Nat) :
    Outcome × Reader → Act (Outcome × Reader)
  | (.yielded element, inner), around =>
    (pass limits source deadline count element inner around).parts
  | (.ended, _), around => (Step.ended around).parts
  | (.failed cause, _), around => (Step.failed cause around).parts

/-- What a limited read does once it knows its deadline and how many elements it has yielded. -/
def proceed (limits : Limits) (source : Source) (inner : Reader) :
    Except Failure (Option Float × Nat) → Act (Outcome × Reader)
  | .error cause => fun around => (Step.failed cause around).parts
  | .ok (deadline, count) =>
    match reached? limits count with
    | some records => fun around => (stopWith (recordsMessage source records) around).parts
    | none => inner.stepAct.andThen (passOn limits source deadline count)

/-- A limited read first finds its deadline and then proceeds. -/
theorem stepAct_limited (limits : Limits) (source : Source) (phase : Phase) (inner : Reader) :
    (limited limits source phase inner).stepAct =
      Act.andThen (deadline limits phase) (proceed limits source inner) := by
  funext around
  rw [stepAct, step, Act.andThen]
  rcases deadline limits phase around with ⟨_ | ⟨deadline, count⟩, around⟩
  · rfl
  · simp only [proceed]
    cases reached? limits count with
    | some records => rfl
    | none =>
      simp only [Act.andThen, stepAct]
      rcases inner.step around with ⟨_ | _ | _, inner, around⟩ <;> rfl

section LimitedStep

variable {limits : Limits} {source : Source} {phase : Phase} {inner rest : Reader}
  {around found after : Surroundings} {due : Option Float} {count : Nat}

/-- A limited read that has reached its number of records stops. -/
theorem step_limited_of_reached {records : Count}
    (hdeadline : deadline limits phase around = (.ok (due, count), found))
    (hreached : reached? limits count = some records) :
    (limited limits source phase inner).step around =
      stopWith (recordsMessage source records) found := by
  rw [step, hdeadline]
  simp only [hreached]

/-- A limited read passes on what the read within it yields. -/
theorem step_limited_of_yielded {element : Timestamped}
    (hdeadline : deadline limits phase around = (.ok (due, count), found))
    (hreached : reached? limits count = none)
    (hinner : inner.step found = ⟨.yielded element, rest, after⟩) :
    (limited limits source phase inner).step around =
      pass limits source due count element rest after := by
  rw [step, hdeadline]
  simp only [hreached, hinner]

/-- A limited read ends when the read within it ends. -/
theorem step_limited_of_ended
    (hdeadline : deadline limits phase around = (.ok (due, count), found))
    (hreached : reached? limits count = none)
    (hinner : inner.step found = ⟨.ended, rest, after⟩) :
    (limited limits source phase inner).step around = .ended after := by
  rw [step, hdeadline]
  simp only [hreached, hinner]

/-- It fails when the read within it fails. -/
theorem step_limited_of_failed {cause : Failure}
    (hdeadline : deadline limits phase around = (.ok (due, count), found))
    (hreached : reached? limits count = none)
    (hinner : inner.step found = ⟨.failed cause, rest, after⟩) :
    (limited limits source phase inner).step around = .failed cause after := by
  rw [step, hdeadline]
  simp only [hreached, hinner]

end LimitedStep

/-- A count calls its stamper, unless it has passed the largest number. -/
theorem stepAct_counting (stamper : Stamper) (next : Int) :
    (counting stamper next).stepAct = fun around =>
      if next ≤ around.largest then
        (stamper.callAct next).andThen (fun
          | (.ok stamp, stamper) =>
            Act.idle (Outcome.yielded ⟨.int next, stamp⟩, counting stamper (next + 1))
          | (.error cause, _) => Act.idle (Outcome.failed cause, ended)) around
      else Act.idle (Outcome.ended, ended) around := by
  funext around
  simp only [stepAct, step, Act.andThen, Stamper.callAct]
  split
  · rcases stamper.call next around with ⟨_ | stamp, stamper, around⟩ <;> rfl
  · rfl

/-- A record that can be put together is written. -/
theorem stopWith_ok (message : String) (around : Surroundings) :
    stopWith (.ok message) around = .ended (around.write .info .read message) := rfl

/-- A record that cannot be put together is dropped, or makes the read fail. -/
theorem stopWith_error (cause : Failure) (around : Surroundings) :
    stopWith (.error cause) around =
      if around.forgiving then .ended around else .failed cause around := by
  unfold stopWith Surroundings.record
  dsimp only
  cases around.forgiving <;> rfl

/-- What it comes to when a read stops with a record: the record is written if it can be put
together, and otherwise it is dropped or makes the read fail. -/
inductive Stopped (around : Surroundings) : Except Failure String → Step → Prop
  /-- The record is written. -/
  | told (message : String) :
      Stopped around (.ok message) (.ended (around.write .info .read message))
  /-- The record is dropped. -/
  | dropped (cause : Failure) (forgiving : around.forgiving = true) :
      Stopped around (.error cause) (.ended around)
  /-- The read fails. -/
  | failed (cause : Failure) (strict : around.forgiving = false) :
      Stopped around (.error cause) (.failed cause around)

/-- To stop with a record comes to one of these. -/
theorem stopped_stopWith (message : Except Failure String) (around : Surroundings) :
    Stopped around message (stopWith message around) := by
  cases message with
  | ok message => exact .told message
  | error cause =>
    rw [stopWith_error]
    split
    · rename_i hforgiving
      exact .dropped cause hforgiving
    · rename_i hstrict
      exact .failed cause (by simpa using hstrict)

/-! ## Frugality -/

/-- Finding the deadline is frugal. -/
theorem deadline_frugal (limits : Limits) (phase : Phase) : Frugal (deadline limits phase) := by
  cases phase with
  | running deadline count => exact Frugal.idle (Except.ok (deadline, count))
  | fresh =>
    -- Only a read time makes a fresh read look at the clock.
    cases h : limits.time with
    | none =>
      have hidle : deadline limits .fresh = Act.idle (Except.ok (none, 0)) := by
        funext around
        simp only [deadline, h, Act.idle]
      rw [hidle]
      exact Frugal.idle _
    | some time =>
      have hread : deadline limits .fresh = Act.andThen Surroundings.readClock fun start =>
          Act.idle (time.toSeconds.map fun seconds => (some (start + seconds), 0)) := by
        funext around
        simp only [deadline, h, Act.idle, Act.andThen]
      rw [hread]
      exact Frugal.readClock.andThen fun _ => Frugal.idle _

/-- Stopping with a record is frugal. -/
theorem stopWith_frugal (message : Except Failure String) :
    Frugal fun around => (stopWith message around).parts := by
  cases message with
  | ok message => exact Frugal.write (Outcome.ended, ended) .info .read message
  | error cause =>
    -- What becomes of the read is a matter of the settings.
    have hstop : (fun around => (stopWith (.error cause) around).parts) = fun around =>
        if around.forgiving then Act.idle (Outcome.ended, ended) around
        else Act.idle (Outcome.failed cause, ended) around := by
      funext around
      rw [stopWith_error]
      split <;> rfl
    rw [hstop]
    exact Frugal.bySettings (p := fun _ forgiving => forgiving = true) (Frugal.idle _)
      (Frugal.idle _)

/-- Passing an element on or dropping it is frugal. -/
theorem pass_frugal (limits : Limits) (source : Source) (deadline : Option Float) (count : Nat)
    (element : Timestamped) (inner : Reader) :
    Frugal fun around => (pass limits source deadline count element inner around).parts := by
  have hyield (due : Option Float) : Frugal (Act.idle
      (Outcome.yielded element, limited limits source (.running due (count + 1)) inner)) :=
    Frugal.idle _
  cases deadline with
  | none => exact hyield none
  | some due =>
    cases htime : limits.time with
    | none =>
      simp only [pass, htime]
      exact hyield (some due)
    | some time =>
      -- The reading of the clock decides between the two ways on.
      have hread : (fun around =>
            (pass limits source (some due) count element inner around).parts) =
          Act.andThen Surroundings.readClock fun now =>
            if due ≤ now then fun around => (stopWith (timeMessage source time count) around).parts
            else Act.idle (Outcome.yielded element,
              limited limits source (.running (some due) (count + 1)) inner) := by
        funext around
        simp only [pass, htime, Act.andThen]
        split <;> rfl
      rw [hread]
      refine Frugal.readClock.andThen fun now => ?_
      split
      · exact stopWith_frugal _
      · exact hyield (some due)

/-- A step does the same in all surroundings that agree on what it uses, and uses the same there. -/
theorem step_frugal (reader : Reader) : Frugal reader.stepAct := by
  induction reader with
  | ended => exact Frugal.idle (Outcome.ended, ended)
  | broken cause => exact Frugal.idle (Outcome.failed cause, ended)
  | range next stop =>
    by_cases h : next < stop
    · have hstep : (range next stop).stepAct =
          Act.idle (Outcome.yielded ⟨.int next, .null⟩, range (next + 1) stop) := by
        funext around
        simp only [stepAct, step, if_pos h, Step.parts, Act.idle]
      rw [hstep]
      exact Frugal.idle _
    · have hstep : (range next stop).stepAct = Act.idle (Outcome.ended, ended) := by
        funext around
        simp only [stepAct, step, if_neg h, Step.ended, Step.parts, Act.idle]
      rw [hstep]
      exact Frugal.idle _
  | counting stamper next =>
    rw [stepAct_counting]
    refine Frugal.bySettings (p := fun largest _ => next ≤ largest) ?_ (Frugal.idle _)
    refine (stamper.callAct_frugal next).andThen ?_
    rintro ⟨_ | stamp, stamper⟩
    · exact Frugal.idle _
    · exact Frugal.idle _
  | limited limits source phase inner ih =>
    -- The parts of a limited step follow one another, and each depends on the result of the last.
    rw [stepAct_limited]
    refine (deadline_frugal limits phase).andThen ?_
    rintro (cause | ⟨deadline, count⟩)
    · exact Frugal.idle (Outcome.failed cause, ended)
    · simp only [proceed]
      cases reached? limits count with
      | some records => exact stopWith_frugal _
      | none =>
        refine ih.andThen ?_
        rintro ⟨element | _ | cause, inner⟩
        · exact pass_frugal _ _ _ _ _ _
        · exact Frugal.idle (Outcome.ended, ended)
        · exact Frugal.idle (Outcome.failed cause, ended)

/-! ## What a step comes to -/

/-- The number at which a reader stands. -/
def position : Reader → Int
  | ended | broken _ => 0
  | range next _ | counting _ next => next
  | limited _ _ _ inner => inner.position

/-- What a step of a reader comes to: it yields the number at which the reader stands and moves it
on by one, or it leaves a reader that has ended. Only a step that ends writes into the log, and
writes at most one stop record. -/
inductive Moves (reader : Reader) (before : Surroundings) : Step → Prop
  /-- An element was yielded. -/
  | yields {element : Timestamped} {rest : Reader} {after : Surroundings}
      (value : element.value = .int reader.position)
      (position : rest.position = reader.position + 1)
      (log : after.log = before.log) : Moves reader before ⟨.yielded element, rest, after⟩
  /-- The reader has ended. -/
  | ends (records : List LogRecord) {after : Surroundings} (single : records.length ≤ 1)
      (stops : ∀ record ∈ records, record.IsStop) (log : after.log = before.log ++ records) :
      Moves reader before ⟨.ended, ended, after⟩
  /-- The reader has failed. -/
  | fails {cause : Failure} {after : Surroundings} (log : after.log = before.log) :
      Moves reader before ⟨.failed cause, ended, after⟩

/-- Stopping with a record ends a reader, or fails when the record cannot be put together. -/
theorem moves_stopWith (reader : Reader) {before around : Surroundings}
    (h : around.log = before.log) (message : Except Failure String) :
    Moves reader before (stopWith message around) := by
  have hstopped := stopped_stopWith message around
  generalize stopWith message around = s at hstopped
  cases hstopped with
  | told message =>
    refine Moves.ends [⟨.info, .read, message⟩] (by simp) ?_ ?_
    · intro record hrecord
      rw [List.mem_singleton.mp hrecord]
      exact ⟨rfl, rfl⟩
    · rw [Surroundings.write, h]
  | dropped cause forgiving => exact Moves.ends [] (by simp) (by simp) (by simp [h])
  | failed cause strict => exact Moves.fails h

/-- Finding the deadline leaves the log alone. -/
theorem log_deadline (limits : Limits) (phase : Phase) (around : Surroundings) :
    (deadline limits phase around).2.log = around.log := by
  unfold deadline
  split
  · rfl
  · rfl
  · rfl

/-- A limited read yields what the read within it yields, or stops. -/
theorem moves_pass (reader : Reader) (limits : Limits) (source : Source) (due : Option Float)
    (count : Nat) {element : Timestamped} {inner : Reader} {before around : Surroundings}
    (hvalue : element.value = .int reader.position)
    (hposition : inner.position = reader.position + 1) (hlog : around.log = before.log) :
    Moves reader before (pass limits source due count element inner around) := by
  unfold pass
  split
  · dsimp only
    split
    · exact moves_stopWith reader (by exact hlog) _
    · exact Moves.yields hvalue hposition hlog
  · exact Moves.yields hvalue hposition hlog

/-- Every step of every reader is one of the moves. -/
theorem moves_step (reader : Reader) (around : Surroundings) :
    Moves reader around (reader.step around) := by
  induction reader generalizing around with
  | ended => exact Moves.ends [] (by simp) (by simp) (by simp)
  | broken cause => exact Moves.fails rfl
  | range next stop =>
    rw [step]
    split
    · exact Moves.yields rfl rfl rfl
    · exact Moves.ends [] (by simp) (by simp) (by simp)
  | counting stamper next =>
    rw [step]
    split
    · have hlog := stamper.log_call next around
      rcases hcall : stamper.call next around with ⟨_ | stamp, stamper', around'⟩
      · rw [hcall] at hlog
        exact Moves.fails hlog
      · rw [hcall] at hlog
        exact Moves.yields rfl rfl hlog
    · exact Moves.ends [] (by simp) (by simp) (by simp)
  | limited limits source phase inner ih =>
    have hlog := log_deadline limits phase around
    rw [step]
    rcases hdeadline : deadline limits phase around with ⟨_ | ⟨due, count⟩, around₁⟩
    · rw [hdeadline] at hlog
      exact Moves.fails hlog
    · rw [hdeadline] at hlog
      simp only
      split
      · exact moves_stopWith _ hlog _
      · -- The move is that of the read within, unless an element comes too late.
        cases hinner : inner.step around₁ with
        | mk outcome rest around₂ =>
          have hmoves := ih around₁
          rw [hinner] at hmoves
          cases hmoves with
          | yields hvalue hposition hlog₂ =>
            exact moves_pass (limited limits source phase inner) limits source due count hvalue
              hposition (hlog₂.trans hlog)
          | ends records hsingle hstops hlog₂ =>
            exact Moves.ends records hsingle hstops (by rw [hlog₂, hlog])
          | fails hlog₂ => exact Moves.fails (hlog₂.trans hlog)

/-- A step that yields nothing leaves a reader that has ended. -/
theorem reader_of_not_yielded {reader : Reader} {around : Surroundings}
    (h : ∀ element, (reader.step around).outcome ≠ .yielded element) :
    (reader.step around).reader = ended := by
  have hmoves := moves_step reader around
  generalize reader.step around = s at h hmoves
  cases hmoves with
  | yields => exact absurd rfl (h _)
  | ends => rfl
  | fails => rfl

end Reader

end NumberFeed
