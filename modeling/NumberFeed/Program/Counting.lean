import NumberFeed.Pipeline
import NumberFeed.Time.Civil

/-!
# The counting program

The program reads one input and logs its elements. The input is described by three values, of which
each may be absent: a number of elements, a greatest number of records and a greatest read time. In
an unbounded count the timestamps advance by a second per element, and are shown in a time zone.
`start` makes the input and opens it, `advance` logs one element, `run` does both to the end.
-/

namespace NumberFeed.Counting

/-- What the program is asked for. -/
structure Request where
  /-- The number of elements, or the absent value. -/
  elements : Value
  /-- The greatest number of records, or the absent value. -/
  records : Value
  /-- The greatest amount of time, or the absent value. -/
  time : Value
  /-- The name of the time zone. -/
  zone : Value

/-- A request for nothing in particular, with times in universal time. -/
def Request.plain : Request where
  elements := .null
  records := .null
  time := .null
  zone := .text "UTC"

/-- Stores a value in a configuration, unless it is absent. -/
def store (setting : Setting) (value : Value) (configuration : Configuration) :
    Except Failure Configuration :=
  if value.isNull then .ok configuration else configuration.set setting value

/-- The configuration of a request. -/
def configure (request : Request) : Except Failure Configuration :=
  store Input.numElements request.elements .empty >>= store Input.maxNumRecords request.records >>=
    store Input.maxReadTime request.time

/-- The timestamps of the program: a number is as many seconds after the epoch. -/
def secondsStamper : Stamper :=
  .ofFunction fun number => .ok (Stamper.stampAt (number * 1000))

/-- The input of a request. -/
def inputFor (request : Request) : Except Failure Input := do
  let input ← Input.ofConfiguration (← configure request)
  match input with
  | .unbounded input =>
    if request.elements.isNull then return .unbounded (← input.withStamper secondsStamper)
    else return .unbounded input
  | input => return input

/-- Makes the input, applies it and opens the collection. -/
def start (request : Request) (around : Surroundings) : Pipeline.Result Reader :=
  match inputFor request with
  | .error cause => (.error cause, around)
  | .ok input =>
    match Pipeline.apply (.input input) around with
    | (.error cause, around) => (.error cause, around)
    | (.ok collection, around) =>
      let kind := if collection.bounded then "bounded" else "unbounded"
      (collection.open?, around.write .info .program ("Reading " ++ kind ++ " collection"))

/-- The line for an element: its value, and its timestamp in a zone if it has one. The time is told
at once, and the text is put together when it is logged. -/
def line (zones : List Zone) (zone : Value) (element : Timestamped) :
    Except Failure (Except Failure String) :=
  match element.timestamp with
  | .null => .ok element.value.shown
  | .instant instant => (instant.toCivil (Zone.ofValue zone zones)).map fun time =>
      element.value.shown.map fun shown => shown ++ " at " ++ time.text
  | _ => .error .noSuchOperation

/-- How the program goes on. -/
inductive Progress
  /-- There may be more elements. -/
  | going (reader : Reader)
  /-- All elements have been logged. -/
  | finished
  /-- The program failed. -/
  | failed (cause : Failure)

/-- Reads an element and logs it. -/
def advance (zone : Value) (reader : Reader) (around : Surroundings) : Progress × Surroundings :=
  match reader.step around with
  | ⟨.ended, _, around⟩ => (.finished, around)
  | ⟨.failed cause, _, around⟩ => (.failed cause, around)
  | ⟨.yielded element, reader, around⟩ =>
    match line around.zones zone element >>= around.record .info .program with
    | .error cause => (.failed cause, around)
    | .ok around => (.going reader, around)

/-- Reads and logs up to a number of elements. -/
def advanceAll (zone : Value) : Nat → Reader → Surroundings → Pipeline.Result Unit
  | 0, _, around => (.ok (), around)
  | count + 1, reader, around =>
    match advance zone reader around with
    | (.finished, around) => (.ok (), around)
    | (.failed cause, around) => (.error cause, around)
    | (.going reader, around) => advanceAll zone count reader around

/-- Runs the program; a reader ends at the latest one step after all that it has left. -/
def run (request : Request) (around : Surroundings) : Pipeline.Result Unit :=
  match start request around with
  | (.error cause, around) => (.error cause, around)
  | (.ok reader, around) =>
    advanceAll request.zone (reader.remaining around.largest + 1) reader around

end NumberFeed.Counting
