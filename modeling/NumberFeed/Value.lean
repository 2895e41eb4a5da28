import NumberFeed.Limits
import NumberFeed.Number.Quantity
import NumberFeed.StampRule
import NumberFeed.Time.Moment

/-!
# Values

What can be stored in a configuration, given as an argument or carried as a timestamp. Arguments are
untyped on purpose: the library checks them, and says what it found. The objects of the library are
values too, so that they can stand wherever a value can; a `Form` says what an object is made of. An
object is known by its mark, however many others have the same form, and so are a float and a moment
that are no numbers: they equal nothing, yet a container recognises them.
-/

namespace NumberFeed

mutual

/-- A value. -/
inductive Value
  /-- The absent value. -/
  | null
  | bool (b : Bool)
  | int (n : Int)
  /-- A float that is a number or infinite. -/
  | float (x : Float)
  /-- A float that is not a number, with the mark that tells it from others. -/
  | nan (mark : Nat)
  | text (s : String)
  | bytes (bs : List UInt8)
  | list (items : List Value)
  | tuple (items : List Value)
  /-- A mapping in the order in which its keys were first put in. -/
  | dict (entries : List (Value × Value))
  | duration (d : Duration)
  | span (s : Span)
  | instant (i : Instant)
  /-- A moment with the mark that tells it from others. -/
  | moment (m : Moment) (mark : Nat)
  /-- An object with the mark that tells it from others. -/
  | object (mark : Nat) (form : Form)

/-- What an object is made of. What changes over time, the parameters of a timestamp function, the
contents of a configuration and the progress of a reader, has a place of its own where it is kept;
the form has a copy of the parameters and the contents. -/
inductive Form
  /-- A timestamp function: one with a formula, or the one that reads the wall clock. -/
  | stamper (cell : Nat) (formula : Option StampFormula)
  /-- An element. -/
  | element (value timestamp : Value)
  /-- A configuration with its entries. -/
  | configuration (place : Nat) (entries : List (Value × Value))
  /-- An input of so many numbers. -/
  | boundedInput (count : Count)
  /-- An input without bound. -/
  | unboundedInput (stamper : Value) (records : Option Count) (time : Value)
  /-- The source of a range. -/
  | range (start stop : Int)
  /-- An unbounded source with the timestamp function that it keeps. -/
  | counting (kept : Value)
  /-- A read, which counts as bounded or not, of the source with the given mark. -/
  | read (bounded : Bool) (mark : Nat) (source : Value)
  /-- A read with limits of the source with the given mark. -/
  | limitedRead (limits : Limits) (mark : Nat) (source : Value)
  /-- A collection with the read that makes its elements. -/
  | collection (bounded : Bool) (producer : Value)
  /-- A reader, which shows elements with or without their timestamps. -/
  | reader (cell : Nat) (valuesOnly : Bool)

end

/-- The name of the type of an object. -/
def Form.typeName : Form → String
  | stamper _ none => "NowTimestampFn"
  | stamper _ (some _) => "Fn"
  | element _ _ => "TimestampedValue"
  | configuration _ _ => "Configuration"
  | boundedInput _ => "BoundedCountingInput"
  | unboundedInput _ _ _ => "UnboundedCountingInput"
  | range _ _ => "BoundedCountingSource"
  | counting _ => "UnboundedCountingSource"
  | read true _ _ => "BoundedRead"
  | read false _ _ => "UnboundedRead"
  | limitedRead _ _ _ => "BoundedReadFromUnboundedSource"
  | collection _ _ => "PCollection"
  | reader _ _ => "generator"

/-- Whether an object is equal only to itself. -/
def Form.isUnique : Form → Bool
  | counting _ | read _ _ _ | limitedRead _ _ _ | collection _ _ | reader _ _ => true
  | _ => false

namespace Value

instance : Inhabited Value := ⟨null⟩

/-- The name of a value's type. -/
def typeName : Value → String
  | null => "NoneType"
  | bool _ => "bool"
  | int _ => "int"
  | float _ | nan _ => "float"
  | text _ => "str"
  | bytes _ => "bytes"
  | list _ => "list"
  | tuple _ => "tuple"
  | dict _ => "dict"
  | duration _ => "Duration"
  | span _ => "timedelta"
  | instant _ | moment _ _ => "Instant"
  | object _ form => form.typeName

/-- Whether a value is absent. -/
def isNull : Value → Bool
  | null => true
  | _ => false

/-- The integer that a value is; a truth value is none. -/
def int? : Value → Option Int
  | int n => some n
  | _ => none

/-- The amount of a value that is a number; truth values count as one and zero. -/
def quantity? : Value → Option Number.Quantity
  | bool b => some (.ofInt b.toInt)
  | int n => some (.ofInt n)
  | float x => some (.ofFloat x)
  | nan _ => some .undefined
  | _ => none

/-- Whether a value counts as true: zero, the empty and the absent do not. -/
def isTrue : Value → Bool
  | null => false
  | text s => !s.isEmpty
  | bytes bs => !bs.isEmpty
  | list items | tuple items => !items.isEmpty
  | dict entries => !entries.isEmpty
  | span s => s.micros != 0
  | duration _ | instant _ | moment _ _ | object _ _ => true
  | bool b => b
  | int n => n != 0
  | float x => !(Number.Quantity.ofFloat x).isZero
  | nan _ => true

/-- Whether two values are one object, where that can be told. -/
def isSameObject : Value → Value → Bool
  | nan a, nan b => a == b
  | moment _ a, moment _ b => a == b
  | object a _, object b _ => a == b
  | _, _ => false

end Value

end NumberFeed
