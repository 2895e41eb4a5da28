import NumberFeed.Time.Zone.Table

/-!
# Surroundings of a run

What a run takes from outside and leaves behind: the readings of a monotonic clock, in seconds, and
of a wall clock, in nanoseconds since the epoch, the largest number of an unbounded feed, the log,
what functions remember that are shared, and the time zones. A clock is a sequence of readings and
the number of those that have been taken.
-/

namespace NumberFeed

/-- The readings of a clock. -/
structure Readings (α : Type) where
  /-- The reading at each position. -/
  supply : Nat → α
  /-- The number of readings that have been taken. -/
  used : Nat

namespace Readings

variable {α : Type}

/-- The reading that is taken next. -/
def current (readings : Readings α) : α := readings.supply readings.used

/-- The readings after the next one has been taken. -/
def advance (readings : Readings α) : Readings α := { readings with used := readings.used + 1 }

/-- The readings of a list, of which the last one repeats for ever. -/
def ofList (list : List α) (default : α) : Readings α where
  supply position := list[min position (list.length - 1)]?.getD default
  used := 0

end Readings

/-- How much a log record matters. -/
inductive Level
  | debug
  | info
  deriving DecidableEq, Repr

/-- Which part writes a log record. -/
inductive Origin
  | pipeline
  | input
  | read
  | program
  deriving DecidableEq, Repr

/-- A log record. -/
structure LogRecord where
  /-- How much it matters. -/
  level : Level
  /-- Which part wrote it. -/
  origin : Origin
  /-- What it says. -/
  message : String
  deriving DecidableEq, Repr

/-- The surroundings of a run. -/
structure Surroundings where
  /-- The monotonic clock, in seconds. -/
  clock : Readings Float
  /-- The wall clock, in nanoseconds since the epoch. -/
  wall : Readings Int
  /-- The largest number of an unbounded feed. -/
  largest : Int
  /-- Whether records for debugging are wanted. -/
  verbose : Bool
  /-- The log, the first record first. -/
  log : List LogRecord
  /-- Whether a record is dropped whose text cannot be put together. Otherwise that is the failure of
  whoever writes the record. -/
  forgiving : Bool := false
  /-- What timestamp functions remember that go by their name: all that use such a function share
  it. -/
  memory : Value := .null
  /-- The time zones that can be looked up. -/
  zones : List Zone := Zone.known

namespace Surroundings

/-- The largest number of an unbounded feed, unless another one is chosen. -/
def usualLargest : Int := 0x7fffffffffffffff

/-- Takes a reading of the monotonic clock. -/
def readClock (around : Surroundings) : Float × Surroundings :=
  (around.clock.current, { around with clock := around.clock.advance })

/-- Takes a reading of the wall clock. -/
def readWall (around : Surroundings) : Int × Surroundings :=
  (around.wall.current, { around with wall := around.wall.advance })

/-- Writes a log record. -/
def write (around : Surroundings) (level : Level) (origin : Origin) (message : String) :
    Surroundings :=
  { around with log := around.log ++ [⟨level, origin, message⟩] }

/-- Writes a log record whose text has still to be put together. -/
def record (around : Surroundings) (level : Level) (origin : Origin)
    (message : Except Failure String) : Except Failure Surroundings :=
  match message with
  | .ok message => .ok (around.write level origin message)
  | .error cause => if around.forgiving then .ok around else .error cause

/-- Surroundings in which both clocks stand still at zero and only what informs is logged. -/
def still (largest : Int) : Surroundings where
  clock := ⟨fun _ => 0, 0⟩
  wall := ⟨fun _ => 0, 0⟩
  largest
  verbose := false
  log := []

end Surroundings

end NumberFeed
