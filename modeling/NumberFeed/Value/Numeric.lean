import NumberFeed.Number.FloorDivision
import NumberFeed.Time.DurationText
import NumberFeed.Value

/-!
# Numbers made of values

A value becomes an integer when it is one, when it is a finite float, whose fraction is dropped, and
when it is a text or bytes that write one. A duration is made of a count of units, of a calendar
span or of a text. A count is scaled before it becomes an integer, so that a fraction of a unit
counts, and a text, which scaling would only repeat, is no count of anything but nanoseconds. A
point in time is made of a number of milliseconds.
-/

namespace NumberFeed

namespace Value

/-- The integer part of a double. -/
def truncated (x : Float) : Except Failure Int :=
  match Number.Quantity.ofFloat x with
  | .finite value => .ok value.truncate
  | .undefined => .error .notANumber
  | _ => .error .tooLarge

/-- Whether a value is a number; truth values are. -/
def isNumber (value : Value) : Bool := value.quantity?.isSome

/-- The whole number that a value is: an integer or a truth value. -/
def wholeNumber : Value → Except Failure Int
  | bool b => .ok b.toInt
  | int n => .ok n
  | _ => .error .wrongType

/-- The double nearest to an integer, which must not be too large for one. -/
def nearestFloat (n : Int) : Except Failure Float :=
  match Number.nearest? n 1 with
  | some x => .ok x
  | none => .error .tooLarge

/-- The double that a number is, or is nearest to. -/
def toFloat : Value → Except Failure Float
  | bool b => nearestFloat b.toInt
  | int n => nearestFloat n
  | float x => .ok x
  | nan _ => .ok Number.undefinedFloat
  | _ => .error .wrongType

/-- The integer that a value makes. -/
def toInt : Value → Except Failure Int
  | bool b => .ok b.toInt
  | int n => .ok n
  | float x => truncated x
  | nan _ => .error .notANumber
  | text s => Number.read s
  | bytes bs => Number.readBytes bs
  | _ => .error .wrongType

/-- The integer that a value makes after it has been multiplied by the factors, one after the
other. -/
def timesToInt (factors : List Nat) : Value → Except Failure Int
  | float x => truncated (factors.foldl (fun product factor => product * factor.toFloat) x)
  | span s =>
    factors.foldlM (fun product factor => product.times factor) s >>= fun _ => .error .wrongType
  | text s => if factors.isEmpty then Number.read s else .error .malformedInteger
  | bytes bs => if factors.isEmpty then Number.readBytes bs else .error .malformedInteger
  | value => value.toInt.map fun n => n * (factors.foldl (· * ·) 1 : Nat)

end Value

/-- What a duration can be counted in. -/
inductive CountUnit
  | days
  | hours
  | minutes
  | seconds
  | millis
  | nanos
  deriving DecidableEq, Repr

/-- The factors that take a count to nanoseconds. -/
def CountUnit.factors : CountUnit → List Nat
  | days => [86400, 1000000000]
  | hours => [3600, 1000000000]
  | minutes => [60, 1000000000]
  | seconds => [1000000000]
  | millis => [1000000]
  | nanos => []

namespace Duration

/-- The duration of so many units. -/
def ofCount (unit : CountUnit) (count : Value) : Except Failure Duration :=
  (count.timesToInt unit.factors).map Duration.mk

/-- The duration of a calendar span; other values have no days to count. -/
def ofSpanValue : Value → Except Failure Duration
  | .span s => .ok (ofSpan s)
  | _ => .error .noSuchOperation

/-- The duration that a value writes. -/
def parse : Value → Except Failure Duration
  | .null => .error (.refused .durationMissing)
  | .text s => ofText s
  | _ => .error .wrongType

end Duration

namespace Value

/-- The point in time so many milliseconds after the epoch. A float makes a moment, which gets the
given mark. -/
def ofEpochMilli (mark : Nat) : Value → Except Failure Value
  | int millis => .ok (instant (.ofEpochMilli millis))
  | bool b => .ok (instant (.ofEpochMilli b.toInt))
  | float millis => .ok (moment (.ofEpochMilli millis) mark)
  | nan _ => .ok (moment (.ofEpochMilli Number.undefinedFloat) mark)
  | _ => .error .wrongType

/-- The point in time a duration after another one; other values have no nanoseconds to add. A
moment gets the given mark. -/
def later (mark : Nat) : Value → Value → Except Failure Value
  | instant i, duration d => .ok (instant (i.plus d))
  | moment m _, duration d => (m.plus d).map fun sum => moment sum mark
  | _, _ => .error .noSuchOperation

end Value

end NumberFeed
