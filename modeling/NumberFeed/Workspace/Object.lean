import NumberFeed.Config.Shelf
import NumberFeed.Pipeline

/-!
# Objects among values

An object of the library is a value by its form. Here it is taken back as what it is: a timestamp
function, a source, an input, a collection. A value that is none of these can still stand in the
place of a timestamp function or of a source, and fails when it is used.
-/

namespace NumberFeed

/-- The timestamp function that a value is. -/
def Stamper.ofValue : Value → Stamper
  | .object _ (.stamper _ none) => now
  | .object _ (.stamper _ (some formula)) => ofFormula formula
  | value => uncallable value

/-- The source that a value is. -/
def Source.ofValue : Value → Source
  | .object _ (.range start stop) => range start stop
  | .object _ (.counting kept) => counting (Stamper.ofValue kept)
  | .object _ (.read bounded _ source) => read bounded (ofValue source)
  | .object _ (.limitedRead limits _ source) => limited limits (ofValue source)
  | value => foreign value

/-- The unbounded input that a value is. -/
def UnboundedInput.ofValue? : Value → Option UnboundedInput
  | .object _ (.unboundedInput stamper records time) =>
    some { stamper := Stamper.ofValue stamper, maxRecords := records, maxReadTime := time }
  | _ => none

/-- The input that a value is. -/
def Input.ofValue? : Value → Option Input
  | .object _ (.boundedInput count) => some (bounded ⟨count⟩)
  | value => (UnboundedInput.ofValue? value).map unbounded

/-- What a value is when it is applied. -/
def Transform.ofValue (value : Value) : Transform :=
  match Input.ofValue? value with
  | some i => input i
  | none =>
    match Source.ofValue value with
    | .foreign _ => other value
    | s => source s

/-- The collection that a value is. -/
def Collection.ofValue? : Value → Option Collection
  | .object _ (.collection bounded producer) => some ⟨Source.ofValue producer, bounded⟩
  | _ => none

end NumberFeed
