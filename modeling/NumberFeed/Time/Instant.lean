import NumberFeed.Time.Duration

/-!
# Instants

An instant is a point in time, kept as seconds and nanoseconds since the epoch. The two fields need
not be normalised: `epochNanos` is the point they denote, and the operations that produce an instant
produce one whose nanoseconds lie within its second. Equality looks at the fields, order at the
denoted points, so that two unequal instants may stand for one point.
-/

namespace NumberFeed

/-- A point in time. -/
structure Instant where
  /-- The seconds since the epoch. -/
  seconds : Int
  /-- The nanoseconds since that second. -/
  nanos : Int
  deriving DecidableEq, Repr

namespace Instant

/-- The nanoseconds since the epoch. -/
def epochNanos (instant : Instant) : Int := instant.seconds * nanosPerSecond + instant.nanos

/-- Whether the nanoseconds lie within the second. -/
def IsNormal (instant : Instant) : Prop := 0 ≤ instant.nanos ∧ instant.nanos < nanosPerSecond

/-- The normalised instant so many nanoseconds after the epoch. -/
def ofEpochNanos (nanos : Int) : Instant := ⟨nanos / nanosPerSecond, nanos % nanosPerSecond⟩

/-- The instant so many milliseconds after the epoch. -/
def ofEpochMilli (millis : Int) : Instant := ⟨millis / 1000, millis % 1000 * nanosPerMilli⟩

/-- The milliseconds since the epoch, rounded down. -/
def toEpochMilli (instant : Instant) : Int :=
  instant.seconds * 1000 + instant.nanos / nanosPerMilli

/-- The instant a duration later. -/
def plus (instant : Instant) (duration : Duration) : Instant :=
  ofEpochNanos (instant.epochNanos + duration.nanos)

/-- The earlier point comes first. -/
def lt (a b : Instant) : Bool := a.epochNanos < b.epochNanos

/-- Before the other, or equal to it by the fields. -/
def le (a b : Instant) : Bool := a.lt b || a == b

/-- Not before the other, and not equal to it by the fields. -/
def gt (a b : Instant) : Bool := !a.lt b && a != b

/-- Not before the other. -/
def ge (a b : Instant) : Bool := !a.lt b

/-- The text of an instant. -/
def text (instant : Instant) : Except Failure String := do
  let seconds ← Number.write instant.seconds
  let nanos ← Number.write instant.nanos
  return "Instant<" ++ seconds ++ ", " ++ nanos ++ ">"

/-- The normalised instant denotes the point it was made for. -/
@[simp] theorem epochNanos_ofEpochNanos (nanos : Int) :
    (ofEpochNanos nanos).epochNanos = nanos := by
  simp only [ofEpochNanos, epochNanos, nanosPerSecond]
  omega

/-- The normalised instant is normal. -/
theorem isNormal_ofEpochNanos (nanos : Int) : (ofEpochNanos nanos).IsNormal := by
  simp only [ofEpochNanos, IsNormal, nanosPerSecond]
  omega

/-- Adding a duration moves the denoted point by it. -/
@[simp] theorem epochNanos_plus (instant : Instant) (duration : Duration) :
    (instant.plus duration).epochNanos = instant.epochNanos + duration.nanos :=
  epochNanos_ofEpochNanos _

end Instant

end NumberFeed
