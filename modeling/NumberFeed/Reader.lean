import NumberFeed.Source
import NumberFeed.Timestamped

/-!
# Readers

A reader is a read in progress. `Reader.step` takes one step: it yields an element, ends or fails,
and whatever has ended or failed only ends from then on. A limited read takes the time of its first
step as the start of its read time. In each step it looks at the number of records first, then lets
the source make an element, and looks at the clock last, so that the element made when the time is
up is dropped.
-/

namespace NumberFeed

/-- How far a limited read has come. -/
inductive Phase
  /-- It has not been started. -/
  | fresh
  /-- It has yielded so many elements, and has to stop at the deadline. -/
  | running (deadline : Option Float) (count : Nat)

/-- A read in progress. -/
inductive Reader
  /-- Nothing is left to read. -/
  | ended
  /-- There is nothing that could be read. -/
  | broken (cause : Failure)
  /-- The numbers from `next` up to but not including `stop`. -/
  | range (next stop : Int)
  /-- The numbers from `next` on, with timestamps. -/
  | counting (stamper : Stamper) (next : Int)
  /-- A limited read of a source. -/
  | limited (limits : Limits) (source : Source) (phase : Phase) (inner : Reader)

/-- What a step of a reader comes to. -/
inductive Outcome
  /-- An element. -/
  | yielded (element : Timestamped)
  /-- The end. -/
  | ended
  /-- A failure. -/
  | failed (cause : Failure)

/-- A step of a reader: what it came to, the reader afterwards, and the surroundings. -/
structure Step where
  /-- What the step came to. -/
  outcome : Outcome
  /-- The reader after the step. -/
  reader : Reader
  /-- The surroundings after the step. -/
  around : Surroundings

namespace Step

/-- The step that ends a reader. -/
def ended (around : Surroundings) : Step := ⟨.ended, .ended, around⟩

/-- The step with which a reader fails. -/
def failed (cause : Failure) (around : Surroundings) : Step := ⟨.failed cause, .ended, around⟩

end Step

/-- A reader of a source before its first step. -/
def Source.reader : Source → Reader
  | range start stop => .range start stop
  | counting stamper => .counting stamper 0
  | read _ source => source.reader
  | limited limits source => .limited limits source .fresh source.reader
  | foreign _ => .broken .noSuchOperation

/-- Opens a source for reading. A read of something that is no source fails at once; a limited one
does not look before its first step. -/
def Source.open? (source : Source) : Except Failure Reader :=
  match source.reader with
  | .broken cause => .error cause
  | reader => .ok reader

namespace Reader

/-- Ends a limited read with a record in the log. -/
def stopWith (message : Except Failure String) (around : Surroundings) : Step :=
  match around.record .info .read message with
  | .ok around => .ended around
  | .error cause => .failed cause around

/-- What is logged when the greatest number of records is reached. -/
def recordsMessage (source : Source) (records : Count) : Except Failure String := do
  let shown ← source.text
  let number ← Number.write records.value
  return "Stopped reading " ++ shown ++ " after max number of records " ++ number

/-- What is logged when the read time is over. -/
def timeMessage (source : Source) (time : Duration) (count : Nat) : Except Failure String := do
  let shown ← source.text
  let amount ← time.text
  let number ← Number.write count
  return "Stopped reading " ++ shown ++ " after max read time " ++ amount ++ " (" ++ number ++
    " records read)"

/-- The deadline and the number of elements yielded; a fresh read takes its deadline from the clock,
and a failure to do so is the outcome. -/
def deadline (limits : Limits) (phase : Phase) (around : Surroundings) :
    Except Failure (Option Float × Nat) × Surroundings :=
  match phase, limits.time with
  | .running deadline count, _ => (.ok (deadline, count), around)
  | .fresh, none => (.ok (none, 0), around)
  | .fresh, some time =>
    let (start, around) := around.readClock
    (time.toSeconds.map fun seconds => (some (start + seconds), 0), around)

/-- The greatest number of records, if a read has reached it. -/
def reached? (limits : Limits) (count : Nat) : Option Count :=
  limits.records.filter fun records => decide (records.value ≤ (count : Int))

/-- What a limited read makes of an element: it is dropped once the deadline has come. -/
def pass (limits : Limits) (source : Source) (deadline : Option Float) (count : Nat)
    (element : Timestamped) (inner : Reader) (around : Surroundings) : Step :=
  let yielded (around : Surroundings) : Step :=
    ⟨.yielded element, .limited limits source (.running deadline (count + 1)) inner, around⟩
  match deadline, limits.time with
  | some deadline, some time =>
    let (now, around) := around.readClock
    if deadline ≤ now then stopWith (timeMessage source time count) around else yielded around
  | _, _ => yielded around

/-- Takes a step. -/
def step : Reader → Surroundings → Step
  | ended, around => .ended around
  | broken cause, around => .failed cause around
  | range next stop, around =>
    if next < stop then ⟨.yielded ⟨.int next, .null⟩, range (next + 1) stop, around⟩
    else .ended around
  | counting stamper next, around =>
    if next ≤ around.largest then
      match stamper.call next around with
      | (.ok stamp, stamper, around) =>
        ⟨.yielded ⟨.int next, stamp⟩, counting stamper (next + 1), around⟩
      | (.error cause, _, around) => .failed cause around
    else .ended around
  | limited limits source phase inner, around =>
    match deadline limits phase around with
    | (.error cause, around) => .failed cause around
    | (.ok (deadline, count), around) =>
      match reached? limits count with
      | some records => stopWith (recordsMessage source records) around
      | none =>
        match inner.step around with
        | ⟨.yielded element, inner, around⟩ =>
          pass limits source deadline count element inner around
        | ⟨.ended, _, around⟩ => .ended around
        | ⟨.failed cause, _, around⟩ => .failed cause around

/-- A bound on the number of elements that are left, when `largest` is the largest number of an
unbounded count. -/
def remaining (largest : Int) : Reader → Nat
  | ended | broken _ => 0
  | range next stop => (stop - next).toNat
  | counting _ next => (largest + 1 - next).toNat
  | limited _ _ _ inner => inner.remaining largest

end Reader

/-- Why no more elements were taken from a reader. -/
inductive Stop
  /-- As many were taken as were asked for. -/
  | paused
  /-- The reader ended. -/
  | ended
  /-- The reader failed. -/
  | failed (cause : Failure)
  deriving DecidableEq, Repr

/-- Elements that were taken from a reader. -/
structure Taken where
  /-- The elements in order. -/
  elements : List Timestamped
  /-- Why there are no more. -/
  stop : Stop
  /-- The reader afterwards. -/
  reader : Reader
  /-- The surroundings afterwards. -/
  around : Surroundings

/-- Takes up to a number of elements, and not a step more. -/
def Reader.take : Nat → Reader → Surroundings → Taken
  | 0, reader, around => ⟨[], .paused, reader, around⟩
  | count + 1, reader, around =>
    match reader.step around with
    | ⟨.yielded element, reader, around⟩ =>
      let taken := reader.take count around
      { taken with elements := element :: taken.elements }
    | ⟨.ended, reader, around⟩ => ⟨[], .ended, reader, around⟩
    | ⟨.failed cause, reader, around⟩ => ⟨[], .failed cause, reader, around⟩

/-- Takes all elements: one step more than can be left is enough to see the end. -/
def Reader.drain (reader : Reader) (around : Surroundings) : Taken :=
  reader.take (reader.remaining around.largest + 1) around

end NumberFeed
