import NumberFeed.Value

/-!
# The wording of objects

How an object is told in a text, given the texts of its parts. Objects appear in messages, in the
log and inside each other, and read the same everywhere.
-/

namespace NumberFeed.Wording

/-- How something absent is told. -/
def absent : String := "None"

/-- A timestamp function. -/
def stamper (formula : Option StampFormula) : Except Failure String :=
  match formula with
  | none => .ok "NowTimestampFn()"
  | some formula => formula.text

/-- An element. -/
def element (value timestamp : String) : String :=
  "TimestampedValue(" ++ value ++ ", " ++ timestamp ++ ")"

/-- A greatest number of records. -/
def records (count : Option Count) : Except Failure String :=
  match count with
  | some count => Number.write count.value
  | none => .ok absent

/-- A greatest amount of time. -/
def time (duration : Option Duration) : Except Failure String :=
  match duration with
  | some duration => duration.text
  | none => .ok absent

/-- An input of so many numbers. -/
def boundedInput (count : Count) : Except Failure String :=
  (Number.write count.value).map fun shown => "BoundedCountingInput(num_elements=" ++ shown ++ ")"

/-- An input without bound. -/
def unboundedInput (stamper : String) (count : Option Count) (time : String) :
    Except Failure String :=
  (records count).map fun shown =>
    "UnboundedCountingInput(timestamp_fn=" ++ stamper ++ ", max_num_records=" ++ shown ++
      ", max_read_time=" ++ time ++ ")"

/-- The source of a range. -/
def range (start stop : Int) : Except Failure String := do
  let shownStart ← Number.write start
  let shownStop ← Number.write stop
  return "BoundedCountingSource[" ++ shownStart ++ ", " ++ shownStop ++ ")"

/-- An unbounded source, whatever its timestamps are. -/
def counting : String := "UnboundedCountingSource"

/-- A read without limits. -/
def read (source : String) : String := "Read(" ++ source ++ ")"

/-- A read with limits. -/
def limitedRead (limits : Limits) (source : String) : Except Failure String := do
  let shownRecords ← records limits.records
  let shownTime ← time limits.time
  return "BoundedReadFromUnboundedSource(" ++ source ++ ", max_num_records=" ++ shownRecords ++
    ", max_read_time=" ++ shownTime ++ ")"

/-- A collection. -/
def collection (bounded : Bool) (producer : String) : String :=
  "PCollection<" ++ producer ++ ", " ++ (if bounded then "BOUNDED" else "UNBOUNDED") ++ ">"

/-- A reader, which is told by its place in memory. -/
def reader (cell : Nat) : String :=
  "<generator object at " ++ String.ofList (Nat.toDigits 16 cell) ++ ">"

/-- Texts with a comma and a blank between them. -/
def commaSeparated (texts : List String) : String := String.intercalate ", " texts

/-- A mapping, given its entries. -/
def mapping (entries : List String) : String := "\x7b" ++ commaSeparated entries ++ "\x7d"

end NumberFeed.Wording
