import NumberFeed.Time.Calendar
import NumberFeed.Time.Instant
import NumberFeed.Time.Zone

/-!
# Civil time

An instant as the calendars and clocks of a zone show it: a date, a time of day in microseconds and
the offset from universal time. `CivilTime.ofEpochMicros` goes there and `CivilTime.epochMicros`
comes back. The calendar covers the years 1 to 9999, in universal time and in the zone.
-/

namespace NumberFeed

/-- A date and a time of day with an offset from universal time. -/
structure CivilTime where
  /-- The date. -/
  date : Date
  /-- The microseconds since midnight. -/
  microOfDay : Int
  /-- The minutes by which this time is ahead of universal time. -/
  offset : Int
  deriving DecidableEq, Repr

namespace CivilTime

/-- The number of microseconds in a minute. -/
def microsPerMinute : Int := 60000000

/-- The time in a place with an offset, so many microseconds after the epoch. -/
def ofEpochMicros (micros offset : Int) : CivilTime :=
  let there := micros + offset * microsPerMinute
  { date := .ofDayNumber (there / Span.microsPerDay + Calendar.epochDay)
    microOfDay := there % Span.microsPerDay
    offset }

/-- The microseconds since the epoch. -/
def epochMicros (time : CivilTime) : Int :=
  (time.date.dayNumber - Calendar.epochDay) * Span.microsPerDay + time.microOfDay -
    time.offset * microsPerMinute

/-- The text of a civil time: date, time of day with the microseconds if there are any, offset. -/
def text (time : CivilTime) : String :=
  let second := time.microOfDay / 1000000
  let micro := time.microOfDay % 1000000
  let fraction := if micro = 0 then "" else "." ++ Span.padded 6 micro
  Span.padded 4 time.date.year ++ "-" ++ Span.padded 2 time.date.month ++ "-" ++
    Span.padded 2 time.date.day ++ " " ++ Span.padded 2 (second / 3600) ++ ":" ++
    Span.padded 2 (second / 60 % 60) ++ ":" ++ Span.padded 2 (second % 60) ++ fraction ++
    (if time.offset < 0 then "-" else "+") ++ Span.padded 2 (time.offset.natAbs / 60) ++ ":" ++
    Span.padded 2 (time.offset.natAbs % 60)

end CivilTime

namespace Instant

/-- The first second of year 1. -/
def calendarStart : Int := -62135596800

/-- The first second after year 9999. -/
def calendarEnd : Int := 253402300800

/-- Whether so many microseconds after the epoch the year is one of 1 to 9999. -/
def InCalendar (micros : Int) : Prop :=
  calendarStart * 1000000 ≤ micros ∧ micros < calendarEnd * 1000000

instance (micros : Int) : Decidable (InCalendar micros) :=
  inferInstanceAs (Decidable (_ ∧ _))

/-- The whole microseconds since the epoch, rounded down. -/
def epochMicros (instant : Instant) : Int :=
  instant.seconds * 1000000 + instant.nanos / nanosPerMicro

/-- The first second of the first year that a clock with a year of 32 bits since 1900 can show. -/
def clockStart : Int := -67768040609740800

/-- The first second after the last year that such a clock can show. -/
def clockEnd : Int := 67768036191676800

/-- What is wrong with seconds outside the years 1 to 9999: no machine word takes them, no clock
shows their year, or no calendar has it. -/
def outsideFailure (seconds : Int) : Failure :=
  if ¬(-0x8000000000000000 ≤ seconds ∧ seconds < 0x8000000000000000) then .tooLarge
  else if ¬(clockStart ≤ seconds ∧ seconds < clockEnd) then .outsideClock
  else .outsideCalendar

/-- The civil time of an instant in a zone. The instant is checked first: its seconds, then all of
it. Then the zone has to be there, and the local time has to lie within the calendar as well. -/
def toCivil (instant : Instant) (zone : Except Failure Zone) : Except Failure CivilTime :=
  let micros := instant.epochMicros
  if ¬(calendarStart ≤ instant.seconds ∧ instant.seconds < calendarEnd) then
    .error (outsideFailure instant.seconds)
  else if ¬InCalendar micros then .error .tooLarge
  else
    match zone with
    | .error cause => .error cause
    | .ok zone =>
      let offset := zone.offsetAt (micros / 1000000)
      if InCalendar (micros + offset * CivilTime.microsPerMinute) then
        .ok (.ofEpochMicros micros offset)
      else .error .tooLarge

end Instant

end NumberFeed
