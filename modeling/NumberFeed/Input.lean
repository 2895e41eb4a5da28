import NumberFeed.Config.Configuration
import NumberFeed.Source

/-!
# Inputs

An input says what a collection shall hold: so many numbers from zero on, or an unbounded count with
a stamper and limits. Inputs are values. What is given to them is checked when it is given, except
that an unbounded input can be made with anything as its read time.
-/

namespace NumberFeed

/-- An input of so many numbers. -/
structure BoundedInput where
  /-- The number of elements. -/
  count : Count
  deriving DecidableEq, Repr

namespace BoundedInput

/-- The input of so many numbers, which have to be a positive integer. -/
def make (count : Value) : Except Failure BoundedInput :=
  (Count.ofValue (.countNotPositive "num_elements") count).map BoundedInput.mk

/-- The text of a bounded input. -/
def text (input : BoundedInput) : Except Failure String := Wording.boundedInput input.count

end BoundedInput

/-- An input that counts without bound. -/
structure UnboundedInput where
  /-- What gives the numbers their timestamps. -/
  stamper : Stamper
  /-- The greatest number of records. -/
  maxRecords : Option Count
  /-- The greatest amount of time, or the absent value. -/
  maxReadTime : Value

namespace UnboundedInput

/-- An unbounded input with a stamper that has to be callable, and a greatest number of records that
has to be a count unless it is absent. -/
def make (stamper : Stamper) (maxRecords maxReadTime : Value) : Except Failure UnboundedInput :=
  if stamper.isCallable then
    match maxRecords with
    | .null => .ok { stamper, maxRecords := none, maxReadTime }
    | records => (Count.ofRecords records).map fun records =>
        { stamper, maxRecords := some records, maxReadTime }
  else stamper.text >>= fun shown => .error (.refused (.stamperNotCallable shown))

/-- The input without limits, in which each number carries the time of its making. -/
def unlimited : UnboundedInput := { stamper := .now, maxRecords := none, maxReadTime := .null }

/-- The same input with another stamper. -/
def withStamper (stamper : Stamper) (input : UnboundedInput) : Except Failure UnboundedInput :=
  if stamper.isMissing then .error (.refused .stamperMissing)
  else if stamper.isCallable then .ok { input with stamper }
  else stamper.text >>= fun shown => .error (.refused (.stamperNotCallable shown))

/-- The same input with another greatest number of records. -/
def withMaxRecords (count : Value) (input : UnboundedInput) : Except Failure UnboundedInput :=
  (Count.ofRecords count).map fun count => { input with maxRecords := some count }

/-- The same input with another greatest amount of time. -/
def withMaxReadTime (time : Value) (input : UnboundedInput) : Except Failure UnboundedInput :=
  (Duration.ofReadTime time).map fun time => { input with maxReadTime := .duration time }

/-- The text of an unbounded input. -/
def text (input : UnboundedInput) : Except Failure String := do
  let stamper ← input.stamper.literal
  let time ← input.maxReadTime.literal
  Wording.unboundedInput stamper input.maxRecords time

end UnboundedInput

/-- An input of either kind. -/
inductive Input
  | bounded (input : BoundedInput)
  | unbounded (input : UnboundedInput)

namespace Input

/-- The setting for the number of elements of a bounded input. -/
def numElements : Setting :=
  { key := .text "counting-input.num-elements", type := .integer, fallback := .null }

/-- The setting for the greatest number of records. -/
def maxNumRecords : Setting :=
  { key := .text "counting-input.max-num-records", type := .integer, fallback := .null }

/-- The setting for the greatest amount of time. -/
def maxReadTime : Setting :=
  { key := .text "counting-input.max-read-time", type := .duration, fallback := .null }

/-- Changes an unbounded input by a value, unless the value is absent. -/
def adjust (change : Value → UnboundedInput → Except Failure UnboundedInput) (value : Value)
    (input : UnboundedInput) : Except Failure UnboundedInput :=
  if value.isNull then .ok input else change value input

/-- The input that a configuration describes: a bounded one if it has a number of elements, which
excludes the limits, and else an unbounded one with the limits it has. -/
def ofConfiguration (configuration : Configuration) : Except Failure Input := do
  let elements ← configuration.get numElements
  let records ← configuration.get maxNumRecords
  let time ← configuration.get maxReadTime
  if elements.isNull then
    let timed ← adjust UnboundedInput.withMaxReadTime time .unlimited
    let limited ← adjust UnboundedInput.withMaxRecords records timed
    return unbounded limited
  else if records.isNull && time.isNull then
    return bounded (← BoundedInput.make elements)
  else
    .error (.refused (.conflictingOptions "counting-input.num-elements"
      "counting-input.max-num-records" "counting-input.max-read-time"))

/-- The text of an input. -/
def text : Input → Except Failure String
  | bounded input => input.text
  | unbounded input => input.text

end Input

end NumberFeed
