import NumberFeed.Number.FloorDivision
import NumberFeed.Number.Quantity
import NumberFeed.Number.Shortest
import NumberFeed.Time.Instant

/-!
# Moments

A moment is a point in time whose seconds and nanoseconds are doubles: what an instant becomes when
it is made of a fraction. Every operation is that of `Instant` with the arithmetic of doubles, in
which large fields lose their last digits and an infinite number of milliseconds makes a moment
without numbers.
-/

namespace NumberFeed

/-- A point in time in doubles. -/
structure Moment where
  /-- The seconds since the epoch. -/
  seconds : Float
  /-- The nanoseconds since that second. -/
  nanos : Float

namespace Moment

/-- The moment so many milliseconds after the epoch. -/
def ofEpochMilli (millis : Float) : Moment :=
  ⟨Number.floorQuotient millis 1000.0, Number.floorRemainder millis 1000.0 * 1000000.0⟩

/-- The milliseconds since the epoch, rounded down. -/
def toEpochMilli (moment : Moment) : Float :=
  moment.seconds * 1000.0 + Number.floorQuotient moment.nanos 1000000.0

/-- The nanoseconds since the epoch. -/
def epochNanos (moment : Moment) : Float := moment.seconds * 1000000000.0 + moment.nanos

/-- The moment a duration later; the duration has to fit a double. -/
def plus (moment : Moment) (duration : Duration) : Except Failure Moment :=
  match Number.nearest? duration.nanos 1 with
  | none => .error .tooLarge
  | some nanos =>
    let total := moment.epochNanos + nanos
    .ok ⟨Number.floorQuotient total 1000000000.0, Number.floorRemainder total 1000000000.0⟩

/-- The text of a moment. -/
def text (moment : Moment) : String :=
  "Instant<" ++ Number.floatLayout.write moment.seconds ++ ", " ++
    Number.floatLayout.write moment.nanos ++ ">"

end Moment

end NumberFeed
