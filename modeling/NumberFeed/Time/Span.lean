import NumberFeed.Number.Integer

/-!
# Calendar spans

A span is a signed number of microseconds, read as days, seconds of the day and microseconds of the
second with only the days negative. A calendar accepts spans of fewer than a thousand million days.
-/

namespace NumberFeed

/-- An amount of time in whole microseconds. -/
structure Span where
  /-- The microseconds. -/
  micros : Int
  deriving DecidableEq, Repr

namespace Span

/-- The number of microseconds in a day. -/
def microsPerDay : Int := 86400 * 1000000

/-- The span of so many days, seconds and microseconds, each of any size and sign. -/
def ofParts (days seconds micros : Int) : Span :=
  ⟨(days * 86400 + seconds) * 1000000 + micros⟩

/-- The days, rounded down. -/
def days (span : Span) : Int := span.micros / microsPerDay

/-- The seconds beyond the days, below 86400. -/
def seconds (span : Span) : Int := span.micros % microsPerDay / 1000000

/-- The microseconds beyond the seconds, below a million. -/
def microseconds (span : Span) : Int := span.micros % 1000000

/-- Whether a calendar can represent the span. -/
def InRange (span : Span) : Prop := -999999999 ≤ span.days ∧ span.days ≤ 999999999

instance (span : Span) : Decidable span.InRange :=
  inferInstanceAs (Decidable (_ ∧ _))

/-- A span is the sum of its parts. -/
theorem ofParts_parts (span : Span) :
    ofParts span.days span.seconds span.microseconds = span := by
  rcases span with ⟨micros⟩
  simp only [ofParts, days, seconds, microseconds, microsPerDay, mk.injEq]
  omega

/-- A span multiplied by a factor. -/
def times (span : Span) (factor : Int) : Except Failure Span :=
  let product : Span := ⟨span.micros * factor⟩
  if product.InRange then .ok product else .error .tooLarge

/-- Digits padded with zeros to a width. -/
def padded (width : Nat) (n : Int) : String :=
  let digits := Nat.toDigits 10 n.natAbs
  String.ofList (List.replicate (width - digits.length) '0' ++ digits)

/-- The text of a span: days if there are any, then hours, minutes and seconds, then microseconds if
there are any. -/
def text (span : Span) : Except Failure String := do
  let days ← Number.write span.days
  let dayPart :=
    if span.days = 0 then ""
    else days ++ (if span.days.natAbs = 1 then " day, " else " days, ")
  let clock := padded 1 (span.seconds / 3600) ++ ":" ++ padded 2 (span.seconds / 60 % 60) ++ ":" ++
    padded 2 (span.seconds % 60)
  let fraction := if span.microseconds = 0 then "" else "." ++ padded 6 span.microseconds
  return dayPart ++ clock ++ fraction

/-- The literal of a span: its parts that are not zero. -/
def literal (span : Span) : Except Failure String := do
  let part (name : String) (n : Int) : Except Failure (List String) :=
    if n = 0 then .ok [] else (Number.write n).map fun shown => [name ++ "=" ++ shown]
  let parts := (← part "days" span.days) ++ (← part "seconds" span.seconds) ++
    (← part "microseconds" span.microseconds)
  let shown := if parts.isEmpty then "0" else String.intercalate ", " parts
  return "datetime.timedelta(" ++ shown ++ ")"

end Span

end NumberFeed
