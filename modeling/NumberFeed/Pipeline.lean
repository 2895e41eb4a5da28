import NumberFeed.Input
import NumberFeed.Reader

/-!
# Pipelines and collections

Applying something to the root of a pipeline gives a collection: a handle on a read that is either
bounded or not, of which nothing has been read yet. Reads apply as they are, inputs by way of the
read that they stand for. Each application is logged. A collection is read element by element, or
collected up to a limit.
-/

namespace NumberFeed

/-- What comes out of a pipeline's root. -/
structure Collection where
  /-- The read that makes the elements. -/
  producer : Source
  /-- Whether the number of elements is known to be finite. -/
  bounded : Bool

namespace Collection

/-- Opens a collection for reading. -/
def open? (collection : Collection) : Except Failure Reader := collection.producer.open?

end Collection

/-- What is applied to the root of a pipeline. -/
inductive Transform
  /-- An input. -/
  | input (input : Input)
  /-- A read; other sources are no transforms. -/
  | source (source : Source)
  /-- A value that is no transform. -/
  | other (value : Value)

/-- The text of a transform. -/
def Transform.text : Transform → Except Failure String
  | input i => i.text
  | source s => s.text
  | other value => value.shown

namespace Pipeline

/-- A result that may be a failure, and the surroundings after it. -/
abbrev Result (α : Type) := Except Failure α × Surroundings

/-- Logs a text for debugging and goes on; the text is put together only if it is wanted. -/
def logging {α : Type} (origin : Origin) (message : Except Failure String)
    (next : Surroundings → Result α) (around : Surroundings) : Result α :=
  if around.verbose then
    match around.record .debug origin message with
    | .ok around => next around
    | .error cause => (.error cause, around)
  else next around

/-- Logs that something is applied. -/
def applying {α : Type} (shown : Except Failure String) (next : Surroundings → Result α) :
    Surroundings → Result α :=
  logging .pipeline (shown.map fun shown => "Applying " ++ shown ++ " to the pipeline root") next

/-- The collection of a read. -/
def ofRead (source : Source) : Except Failure Collection :=
  match source with
  | .read bounded _ => .ok ⟨source, bounded⟩
  | .limited _ _ => .ok ⟨source, true⟩
  | _ => .error .noSuchOperation

/-- Applies a read. -/
def applyRead (source : Source) : Surroundings → Result Collection :=
  applying source.text fun around => (ofRead source, around)

/-- The limits of an input as they are told in the log. -/
def limitsMessage (input : UnboundedInput) : Except Failure String :=
  let records := input.maxRecords.map fun count => Number.write count.value
  let time := if input.maxReadTime.isNull then none else some input.maxReadTime.shown
  match time, records with
  | none, none => .ok "Reading counting input without limit"
  | none, some records => records.map fun shown =>
      "Reading counting input up to " ++ shown ++ " records"
  | some time, none => time.map fun shown => "Reading counting input for at most " ++ shown
  | some time, some records => do
    let shownTime ← time
    let shownRecords ← records
    return "Reading counting input for at most " ++ shownTime ++ " and up to " ++ shownRecords ++
      " records"

/-- The read that an unbounded input stands for, once its source has been made: the read time is the
first limit to be put on. -/
def limitedRead (input : UnboundedInput) (source : Source) : Except Failure Source := do
  let read ← Source.ofRead false source
  let timed ←
    if input.maxReadTime.isNull then .ok read else read.withMaxReadTime input.maxReadTime
  match input.maxRecords with
  | none => return timed
  | some count => timed.withMaxRecords (.int count.value)

/-- Applies what an input stands for. -/
def materialize (input : Input) (around : Surroundings) : Result Collection :=
  match input with
  | .bounded input =>
    match Source.upTo (.int input.count.value) >>= Source.ofRead true with
    | .error cause => (.error cause, around)
    | .ok read => applyRead read around
  | .unbounded input =>
    match Source.ofStamper input.stamper with
    | .error cause => (.error cause, around)
    | .ok source =>
      logging .input (limitsMessage input) (fun around =>
        match limitedRead input source with
        | .error cause => (.error cause, around)
        | .ok read => applyRead read around) around

/-- Applies a transform to the root of a pipeline. -/
def apply (transform : Transform) : Surroundings → Result Collection :=
  applying transform.text fun around =>
    match transform with
    | .input input => materialize input around
    | .source source => (ofRead source, around)
    | .other _ => (.error .noSuchOperation, around)

/-- The greatest limit with which a collection can be collected. -/
def greatestLimit : Int := 0x7fffffffffffffff

/-- What collecting comes to. -/
inductive Collected
  /-- Without a limit, a reader that has not been started. -/
  | reader (reader : Reader)
  /-- With a limit, the values. -/
  | values (values : List Value)

/-- Collects the values of a collection: as many as the limit says, which has to be a count. The
collection is opened before the limit is looked at. -/
def collect (collection : Collection) (limit : Value) (around : Surroundings) : Result Collected :=
  match collection.open? with
  | .error cause => (.error cause, around)
  | .ok reader =>
    match limit with
    | .null => (.ok (.reader reader), around)
    | limit =>
      match Count.ofValue (.countNotPositive "limit") limit with
      | .error cause => (.error cause, around)
      | .ok count =>
        if greatestLimit < count.value then (.error .limitTooLarge, around)
        else
          let taken := reader.take count.value.toNat around
          match taken.stop with
          | .failed cause => (.error cause, taken.around)
          | _ => (.ok (.values (taken.elements.map (·.value))), taken.around)

end Pipeline

end NumberFeed
