import NumberFeed.Number.Binary64
import NumberFeed.Time.Span

/-!
# Durations

A duration is a signed number of nanoseconds of any size. Conversions to coarser units round down,
and so does the conversion to a calendar span, which fails outside the calendar's range; the
conversion to seconds is the exact quotient rounded once.
-/

namespace NumberFeed

/-- An amount of time in whole nanoseconds. -/
structure Duration where
  /-- The nanoseconds. -/
  nanos : Int
  deriving DecidableEq, Repr

/-- The number of nanoseconds in a microsecond. -/
def nanosPerMicro : Int := 1000

/-- The number of nanoseconds in a millisecond. -/
def nanosPerMilli : Int := 1000000

/-- The number of nanoseconds in a second. -/
def nanosPerSecond : Int := 1000000000

namespace Duration

/-- The duration of so many milliseconds. -/
def ofMillis (millis : Int) : Duration := ⟨millis * nanosPerMilli⟩

/-- The duration of a calendar span. -/
def ofSpan (span : Span) : Duration := ⟨span.micros * nanosPerMicro⟩

/-- The milliseconds, rounded down. -/
def toMillis (duration : Duration) : Int := duration.nanos / nanosPerMilli

/-- The seconds as the nearest double, which has to be finite. -/
def toSeconds (duration : Duration) : Except Failure Float :=
  match Number.nearest? duration.nanos 1000000000 with
  | some seconds => .ok seconds
  | none => .error .tooLarge

/-- The calendar span of the whole microseconds, rounded down. -/
def toSpan (duration : Duration) : Except Failure Span :=
  let span : Span := ⟨duration.nanos / nanosPerMicro⟩
  if span.InRange then .ok span else .error .tooLarge

/-- Whether a duration is below zero. -/
def isNegative (duration : Duration) : Bool := duration.nanos < 0

/-- The text of a duration. -/
def text (duration : Duration) : Except Failure String :=
  (Number.write duration.nanos).map fun nanos => "Duration<" ++ nanos ++ " ns>"

/-- Durations add up by their nanoseconds. -/
instance : Add Duration := ⟨fun a b => ⟨a.nanos + b.nanos⟩⟩

/-- The opposite duration. -/
instance : Neg Duration := ⟨fun a => ⟨-a.nanos⟩⟩

/-- The shorter duration comes first. -/
def lt (a b : Duration) : Bool := a.nanos < b.nanos

end Duration

end NumberFeed
