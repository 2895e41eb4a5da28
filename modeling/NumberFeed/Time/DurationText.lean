import NumberFeed.Time.Duration

/-!
# Durations as text

A duration is written as a natural number and the label of a unit, with blanks before, between and
after them: `10 s`, `500ms`, `2 Minutes`. Digits of every script count, letters only of ASCII, in
either case. A number without a label is in milliseconds.
-/

namespace NumberFeed

/-- The units a duration can be written in. -/
inductive TimeUnit
  | nanosecond
  | microsecond
  | millisecond
  | second
  | minute
  | hour
  | day
  deriving DecidableEq, Repr

namespace TimeUnit

/-- All units, the shortest first. -/
def all : List TimeUnit := [nanosecond, microsecond, millisecond, second, minute, hour, day]

/-- The number of nanoseconds in a unit. -/
def nanos : TimeUnit → Int
  | nanosecond => 1
  | microsecond => nanosPerMicro
  | millisecond => nanosPerMilli
  | second => nanosPerSecond
  | minute => 60 * nanosPerSecond
  | hour => 3600 * nanosPerSecond
  | day => 86400 * nanosPerSecond

/-- The labels of a unit, all in lower case. -/
def labels : TimeUnit → List String
  | nanosecond => ["ns", "nano", "nanos", "nanosecond", "nanoseconds"]
  | microsecond => ["us", "micro", "micros", "microsecond", "microseconds"]
  | millisecond => ["ms", "milli", "millis", "millisecond", "milliseconds"]
  | second => ["s", "sec", "secs", "second", "seconds"]
  | minute => ["m", "min", "minute", "minutes"]
  | hour => ["h", "hour", "hours"]
  | day => ["d", "day", "days"]

/-- The unit with a label. -/
def ofLabel? (label : String) : Option TimeUnit :=
  all.find? fun unit => unit.labels.contains label

/-- Every label, in alphabetical order. -/
def sortedLabels : List String :=
  (all.flatMap labels).mergeSort fun a b => decide (a ≤ b)

/-- Every unit is listed. -/
theorem mem_all (unit : TimeUnit) : unit ∈ all := by
  cases unit <;> decide

end TimeUnit

/-- The two parts of a duration's text. -/
structure DurationText where
  /-- The digits of the number. -/
  digits : List Char
  /-- The letters of the label, as they were written. -/
  letters : List Char
  deriving DecidableEq, Repr

namespace DurationText

open NumberFeed.Text

/-- Splits a text into number and label, unless something else stands in it. -/
def split? (cs : List Char) : Option DurationText :=
  let fromDigits := cs.dropWhile isBlank
  let digits := fromDigits.takeWhile isDigit
  let fromLetters := (fromDigits.dropWhile isDigit).dropWhile isBlank
  let letters := fromLetters.takeWhile Char.isAlpha
  let rest := fromLetters.dropWhile Char.isAlpha
  if digits.isEmpty || !rest.all isBlank then none else some ⟨digits, letters⟩

/-- The number that the digits write. -/
def number (text : DurationText) : Nat :=
  ofDigits 0 (text.digits.filterMap digitValue?)

/-- The label in lower case. -/
def label (text : DurationText) : String :=
  String.ofList (text.letters.map Char.toLower)

end DurationText

/-- Reads a duration from text. -/
def Duration.ofText (text : String) : Except Failure Duration :=
  match DurationText.split? text.toList with
  | none => .error (.refused (.notADuration text))
  | some parts =>
    if Number.digitLimit < parts.digits.length then .error .tooManyDigits
    else if parts.letters.isEmpty then .ok (.ofMillis parts.number)
    else
      match TimeUnit.ofLabel? parts.label with
      | some unit => .ok ⟨parts.number * unit.nanos⟩
      | none => .error (.refused (.unknownUnit parts.label TimeUnit.sortedLabels))

end NumberFeed
