import NumberFeed.Stamper
import NumberFeed.Value.Count

/-!
# Sources and reads

A source is what numbers are read from: a range, or an unbounded count with its stamper. A read
wraps a source, and may limit it by a number of records and by a read time; it can be read like a
source, so that reads nest. Something that is no source may stand in a read as well, and shows only
when the read is opened.
-/

namespace NumberFeed

/-- What numbers are read from. -/
inductive Source
  /-- The numbers from `start` up to but not including `stop`. -/
  | range (start stop : Int)
  /-- The numbers from zero on, with timestamps. -/
  | counting (stamper : Stamper)
  /-- A read of a source, which counts as bounded or not. -/
  | read (bounded : Bool) (source : Source)
  /-- A read that stops at its limits. -/
  | limited (limits : Limits) (source : Source)
  /-- A value that is no source. -/
  | foreign (value : Value)

/-- The read time that a value is: a duration, or a calendar span. -/
def Duration.ofReadTime : Value → Except Failure Duration
  | .null => .error (.refused .readTimeMissing)
  | .span span => .ok (.ofSpan span)
  | .duration duration => .ok duration
  | value => .error (.refused (.readTimeNotDuration value.typeName))

namespace Source

/-- The numbers below a count. -/
def upTo (count : Value) : Except Failure Source :=
  (Count.ofValue (.countNotPositive "num_elements") count).map fun count => range 0 count.value

/-- The range between two values, of which the first has to be a natural number and the second an
integer that is not below it. -/
def ofRange (start stop : Value) : Except Failure Source :=
  match start.int?.filter (0 ≤ ·) with
  | none => start.shown >>= fun shown => .error (.refused (.startNegative shown))
  | some first =>
    match stop.int?.filter (first ≤ ·) with
    | some last => .ok (range first last)
    | none => do
      let shownStop ← stop.shown
      let shownStart ← start.shown
      .error (.refused (.endBeforeStart shownStop shownStart))

/-- The unbounded count with timestamps of a stamper, which is kept in its present state. -/
def ofStamper (stamper : Stamper) : Except Failure Source :=
  if stamper.isMissing then .error (.refused .stamperMissing) else stamper.kept.map counting

/-- The unbounded count with the time of making as timestamp. -/
def unbounded : Source := counting .now

/-- A read of a source. -/
def ofRead (bounded : Bool) (source : Source) : Except Failure Source :=
  match source with
  | foreign .null => .error (.refused .sourceMissing)
  | source => .ok (read bounded source)

/-- Changes the limits of a read; a read without limits gets its first ones. What is not a read, or
is a bounded one, has no limits to change. -/
def limitWith (change : Limits → Except Failure Limits) : Source → Except Failure Source
  | limited limits source => (change limits).map (limited · source)
  | read false source => (change .none).map (limited · source)
  | _ => .error .noSuchOperation

/-- The read that stops after a number of records. -/
def withMaxRecords (count : Value) : Source → Except Failure Source :=
  limitWith fun limits =>
    (Count.ofRecords count).map fun count => { limits with records := some count }

/-- The read that stops after an amount of time. -/
def withMaxReadTime (time : Value) : Source → Except Failure Source :=
  limitWith fun limits =>
    (Duration.ofReadTime time).map fun time => { limits with time := some time }

/-- The text of a source. -/
def text : Source → Except Failure String
  | range start stop => Wording.range start stop
  | counting _ => .ok Wording.counting
  | read _ source => source.text.map Wording.read
  | limited limits source => source.text >>= Wording.limitedRead limits
  | foreign value => value.shown

end Source

end NumberFeed
