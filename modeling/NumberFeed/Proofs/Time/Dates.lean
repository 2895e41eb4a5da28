import Mathlib.Algebra.GroupWithZero.Nat
import Mathlib.Tactic.ByContra
import NumberFeed.Time.Calendar

/-!
# Dates and their numbers

The number of a date counts days: the next day has the next number (`Date.dayNumber_next`), where the
next day is the next one of its month, or the first of the next month, or the first of the next year.
The way back takes cycles of years off a number and walks the months of the year that is left; it
finds a date of the calendar that has this number (`Date.ofDayNumber_spec`), and no other date has it
(`Date.eq_of_dayNumber_eq`).

The way back goes in two steps. A year and the days since its first day are settled by the number
(`Calendar.yearAndRest_spec`), and a month and a day by the days since the first of the year
(`Calendar.monthAndDay_spec`).
-/

namespace NumberFeed

namespace Calendar

/-- A year is a leap year if it is divisible by four, but not by a hundred unless by four
hundred. -/
theorem isLeap_iff (year : Int) :
    isLeap year = true ↔ year % 4 = 0 ∧ (year % 100 ≠ 0 ∨ year % 400 = 0) := by
  simp [isLeap]

/-- The number of days of a year. -/
def yearLength (year : Int) : Int := if isLeap year then 366 else 365

/-- The months make up the year. -/
theorem sum_monthLengths (year : Int) :
    ((monthLengths (isLeap year)).sum : Int) = yearLength year := by
  rw [yearLength]
  cases isLeap year <;> rfl

/-- There are twelve months. -/
@[simp] theorem length_monthLengths (leap : Bool) : (monthLengths leap).length = 12 := rfl

/-- A year begins when the one before it is over. -/
theorem daysBeforeYear_add_one (year : Int) :
    daysBeforeYear (year + 1) = daysBeforeYear year + yearLength year := by
  have hleap := isLeap_iff year
  unfold daysBeforeYear yearLength
  dsimp only
  split
  · rename_i h
    have hdivisible := hleap.mp h
    omega
  · rename_i h
    have hnot : ¬ (year % 4 = 0 ∧ (year % 100 ≠ 0 ∨ year % 400 = 0)) := fun hyear =>
      h (hleap.mpr hyear)
    omega

/-- A later year begins later. -/
theorem daysBeforeYear_mono {year other : Int} (h : year ≤ other) :
    daysBeforeYear year ≤ daysBeforeYear other := by
  unfold daysBeforeYear
  dsimp only
  omega

/-- The days before a year by its place in the cycles of 400, 100, 4 and 1 years. -/
theorem daysBeforeYear_of_cycles {cycles century quads years : Int}
    (hcentury : 0 ≤ century ∧ century ≤ 3) (hquads : 0 ≤ quads ∧ quads ≤ 24)
    (hyears : 0 ≤ years ∧ years ≤ 3) :
    daysBeforeYear (400 * cycles + 100 * century + 4 * quads + years + 1) =
      146097 * cycles + 36524 * century + 1461 * quads + 365 * years := by
  generalize hbefore : 400 * cycles + 100 * century + 4 * quads + years = before
  have hfours : before / 4 = 100 * cycles + 25 * century + quads := by omega
  have hhundreds : before / 100 = 4 * cycles + century := by omega
  have hfourHundreds : before / 400 = cycles := by omega
  have hone : before + 1 - 1 = before := by omega
  unfold daysBeforeYear
  dsimp only
  rw [hone, hfours, hhundreds, hfourHundreds]
  omega

/-- The year of a day number has begun by so many days, and is not over. -/
theorem yearAndRest_spec (number : Int) :
    daysBeforeYear (yearAndRest number).1 + (yearAndRest number).2 = number ∧
      0 ≤ (yearAndRest number).2 ∧ (yearAndRest number).2 < yearLength (yearAndRest number).1 := by
  unfold yearAndRest
  dsimp only
  -- What is left of a cycle is never negative, and the last year of it may be a leap year.
  generalize hcycles : number / 146097 = cycles
  generalize hinCycle : number % 146097 = inCycle
  have hnumber : number = 146097 * cycles + inCycle := by omega
  have hcycle : 0 ≤ inCycle ∧ inCycle < 146097 := by omega
  generalize hcentury : min 3 (inCycle / 36524) = century
  have hcenturies : 0 ≤ century ∧ century ≤ 3 ∧ 36524 * century ≤ inCycle ∧
      (century < 3 → inCycle < 36524 * century + 36524) := by omega
  generalize hinCentury : inCycle - 36524 * century = inCentury
  generalize hquads : inCentury / 1461 = quads
  generalize hinQuad : inCentury % 1461 = inQuad
  have hquad : inCentury = 1461 * quads + inQuad ∧ 0 ≤ inQuad ∧ inQuad < 1461 := by omega
  have hquadBounds : 0 ≤ quads ∧ quads ≤ 24 := by omega
  generalize hyears : min 3 (inQuad / 365) = years
  have hyearBounds : 0 ≤ years ∧ years ≤ 3 ∧ 365 * years ≤ inQuad ∧
      (years < 3 → inQuad < 365 * years + 365) := by omega
  clear hcycles hinCycle hcentury hquads hinQuad hyears
  have hleap := isLeap_iff (400 * cycles + 100 * century + 4 * quads + years + 1)
  refine ⟨?_, by omega, ?_⟩
  · rw [daysBeforeYear_of_cycles (by omega) hquadBounds (by omega)]
    omega
  · unfold yearLength
    split
    · omega
    · rename_i h
      have hnot : ¬ ((400 * cycles + 100 * century + 4 * quads + years + 1) % 4 = 0 ∧
          ((400 * cycles + 100 * century + 4 * quads + years + 1) % 100 ≠ 0 ∨
            (400 * cycles + 100 * century + 4 * quads + years + 1) % 400 = 0)) := fun hyear =>
        h (hleap.mpr hyear)
      omega

/-- A day of the year is found in the month in which it lies. -/
theorem monthAndDay_spec (lengths : List Nat) (month rest : Nat) (h : rest < lengths.sum) :
    ∃ i, (monthAndDay lengths month rest).1 = month + i ∧
      1 ≤ (monthAndDay lengths month rest).2 ∧
      (monthAndDay lengths month rest).2 ≤ lengths[i]?.getD 0 ∧
      (lengths.take i).sum + (monthAndDay lengths month rest).2 = rest + 1 := by
  induction lengths generalizing month rest with
  | nil => simp at h
  | cons length lengths ih =>
    rw [monthAndDay]
    split
    · rename_i hhere
      refine ⟨0, ?_, ?_, ?_, ?_⟩
      · rfl
      · show 1 ≤ rest + 1
        omega
      · show rest + 1 ≤ length
        omega
      · simp
    · rename_i hlater
      rw [List.sum_cons] at h
      obtain ⟨i, hmonth, hfirst, hlast, hsum⟩ := ih (month + 1) (rest - length) (by omega)
      refine ⟨i + 1, ?_, hfirst, ?_, ?_⟩
      · omega
      · exact hlast
      · rw [List.take_succ_cons, List.sum_cons]
        omega

/-- The days before a month are not more than those before a later one. -/
theorem sum_take_le_sum_take (lengths : List Nat) {i j : Nat} (h : i ≤ j) :
    (lengths.take i).sum ≤ (lengths.take j).sum := by
  obtain ⟨count, rfl⟩ := Nat.exists_eq_add_of_le h
  rw [List.take_add, List.sum_append]
  omega

end Calendar

namespace Date

open Calendar

/-- The number of days of the month of a date. -/
def monthLength (date : Date) : Nat := (monthLengths (isLeap date.year))[date.month - 1]?.getD 0

/-- Whether the calendar has a date. -/
structure IsValid (date : Date) : Prop where
  /-- It has one of the twelve months. -/
  month : 1 ≤ date.month ∧ date.month ≤ 12
  /-- The month has the day. -/
  day : 1 ≤ date.day ∧ date.day ≤ date.monthLength

/-- The day after a date. -/
def next (date : Date) : Date :=
  if date.day < date.monthLength then ⟨date.year, date.month, date.day + 1⟩
  else if date.month < 12 then ⟨date.year, date.month + 1, 1⟩
  else ⟨date.year + 1, 1, 1⟩

/-- The days before the month of a date. -/
def daysBeforeMonth (date : Date) : Nat :=
  ((monthLengths (isLeap date.year)).take (date.month - 1)).sum

/-- The number of a date counts the days before its year, before its month and before its day. -/
theorem dayNumber_eq (date : Date) :
    date.dayNumber = daysBeforeYear date.year + date.daysBeforeMonth + date.day - 1 := by
  unfold dayNumber daysBeforeMonth
  rw [List.sum_eq_foldl]

/-- The days before the next month include this one. -/
theorem sum_take_month {date : Date} (h : 1 ≤ date.month ∧ date.month ≤ 12) :
    ((monthLengths (isLeap date.year)).take date.month).sum =
      date.daysBeforeMonth + date.monthLength := by
  obtain ⟨hfirst, hlast⟩ := h
  have hmonth : date.month = date.month - 1 + 1 := by omega
  have hlt : date.month - 1 < (monthLengths (isLeap date.year)).length := by
    rw [length_monthLengths]
    omega
  rw [daysBeforeMonth, monthLength, hmonth, List.take_add_one, List.sum_append, Nat.add_sub_cancel,
    List.getElem?_eq_getElem hlt]
  simp

/-- Every month has a day, and 31 at most. -/
theorem monthLength_bounds {date : Date} (h : 1 ≤ date.month ∧ date.month ≤ 12) :
    1 ≤ date.monthLength ∧ date.monthLength ≤ 31 := by
  have hall : ∀ leap, ∀ length ∈ monthLengths leap, 1 ≤ length ∧ length ≤ 31 := by decide
  obtain ⟨hfirst, hlast⟩ := h
  have hlt : date.month - 1 < (monthLengths (isLeap date.year)).length := by
    rw [length_monthLengths]
    omega
  rw [monthLength, List.getElem?_eq_getElem hlt]
  exact hall _ _ (List.getElem_mem hlt)

/-- Month and day of a date of the calendar have two digits at most. -/
theorem IsValid.month_and_day_bounds {date : Date} (h : date.IsValid) :
    (1 ≤ date.month ∧ date.month ≤ 12) ∧ 1 ≤ date.day ∧ date.day ≤ 31 :=
  ⟨h.month, h.day.1, Nat.le_trans h.day.2 (monthLength_bounds h.month).2⟩

/-- The last month ends with the year. -/
theorem sum_take_last_month {date : Date} (h : date.month = 12) :
    (date.daysBeforeMonth + date.monthLength : Int) = yearLength date.year := by
  have hall : (monthLengths (isLeap date.year)).take date.month = monthLengths (isLeap date.year) :=
    List.take_of_length_le (Nat.le_of_eq (by rw [length_monthLengths, h]))
  rw [← sum_monthLengths, ← hall, sum_take_month (by omega), Int.natCast_add]

/-- The day after a date of the calendar is one as well, and has the next number. -/
theorem dayNumber_next {date : Date} (h : date.IsValid) :
    date.next.IsValid ∧ date.next.dayNumber = date.dayNumber + 1 := by
  obtain ⟨hmonth, hday⟩ := h
  rw [dayNumber_eq, dayNumber_eq]
  unfold next
  split
  · rename_i hwithin
    -- The next day of the month.
    have hbefore : (⟨date.year, date.month, date.day + 1⟩ : Date).daysBeforeMonth =
        date.daysBeforeMonth := rfl
    refine ⟨⟨hmonth, ⟨by dsimp only; omega, hwithin⟩⟩, ?_⟩
    rw [hbefore]
    dsimp only
    omega
  · have hlast : date.day = date.monthLength := by omega
    split
    · rename_i hmore
      -- The first day of the next month.
      have hnext : 1 ≤ date.month + 1 ∧ date.month + 1 ≤ 12 := by omega
      have hbefore : (⟨date.year, date.month + 1, 1⟩ : Date).daysBeforeMonth =
          date.daysBeforeMonth + date.monthLength := sum_take_month hmonth
      refine ⟨⟨hnext, ⟨Nat.le_refl 1, (monthLength_bounds hnext).1⟩⟩, ?_⟩
      rw [hbefore]
      dsimp only
      omega
    · -- The first day of the next year.
      have hdecember : date.month = 12 := by omega
      have hyear := sum_take_last_month hdecember
      have hbefore : (⟨date.year + 1, 1, 1⟩ : Date).daysBeforeMonth = 0 := rfl
      have hfirst : (1 : Nat) ≤ 1 ∧ 1 ≤ 12 := by decide
      refine ⟨⟨hfirst, ⟨Nat.le_refl 1, (monthLength_bounds hfirst).1⟩⟩, ?_⟩
      rw [hbefore, daysBeforeYear_add_one]
      dsimp only
      omega

/-- The date of a number is one of the calendar, and has this number. -/
theorem ofDayNumber_spec (number : Int) :
    (ofDayNumber number).IsValid ∧ (ofDayNumber number).dayNumber = number := by
  have hdate : ofDayNumber number =
      ⟨(yearAndRest number).1,
        (monthAndDay (monthLengths (isLeap (yearAndRest number).1)) 1
          (yearAndRest number).2.toNat).1,
        (monthAndDay (monthLengths (isLeap (yearAndRest number).1)) 1
          (yearAndRest number).2.toNat).2⟩ := rfl
  obtain ⟨hnumber, hbegun, hover⟩ := yearAndRest_spec number
  generalize (yearAndRest number).1 = year at *
  generalize (yearAndRest number).2 = rest at *
  have hmonths := sum_monthLengths year
  obtain ⟨i, hmonth, hfirst, hlast, hsum⟩ :=
    monthAndDay_spec (monthLengths (isLeap year)) 1 rest.toNat (by omega)
  -- A month that has a day is one of the twelve.
  have hi : i < 12 := by
    by_contra hout
    rw [List.getElem?_eq_none (by rw [length_monthLengths]; omega)] at hlast
    exact absurd (Nat.le_trans hfirst hlast) (by decide)
  generalize monthAndDay (monthLengths (isLeap year)) 1 rest.toNat = found at *
  obtain ⟨month, day⟩ := found
  dsimp only at hmonth hfirst hlast hsum hdate
  have hindex : month - 1 = i := by omega
  rw [hdate]
  refine ⟨⟨by dsimp only; omega, hfirst, ?_⟩, ?_⟩
  · show day ≤ (monthLengths (isLeap year))[month - 1]?.getD 0
    rw [hindex]
    exact hlast
  · have hbefore : (⟨year, month, day⟩ : Date).daysBeforeMonth =
        ((monthLengths (isLeap year)).take i).sum := by
      rw [daysBeforeMonth, hindex]
    rw [dayNumber_eq, hbefore]
    dsimp only
    omega

/-- A date of the calendar lies in its year. -/
theorem dayNumber_bounds {date : Date} (h : date.IsValid) :
    daysBeforeYear date.year ≤ date.dayNumber ∧
      date.dayNumber < daysBeforeYear (date.year + 1) := by
  obtain ⟨hmonth, hday⟩ := h
  -- The days up to the end of the month are among those of the whole year.
  have hwithin := sum_take_le_sum_take (monthLengths (isLeap date.year)) hmonth.2
  have hall : (monthLengths (isLeap date.year)).take 12 = monthLengths (isLeap date.year) := rfl
  have hyear := sum_monthLengths date.year
  rw [sum_take_month hmonth, hall] at hwithin
  rw [daysBeforeYear_add_one, dayNumber_eq]
  omega

/-- No two dates of the calendar have one number. -/
theorem eq_of_dayNumber_eq {a b : Date} (ha : a.IsValid) (hb : b.IsValid)
    (h : a.dayNumber = b.dayNumber) : a = b := by
  obtain ⟨hstart, hend⟩ := dayNumber_bounds ha
  obtain ⟨hstart', hend'⟩ := dayNumber_bounds hb
  have hyear : a.year = b.year := by
    rcases Int.lt_trichotomy a.year b.year with hlt | heq | hgt
    · have hlater : daysBeforeYear (a.year + 1) ≤ daysBeforeYear b.year := daysBeforeYear_mono hlt
      omega
    · exact heq
    · have hlater : daysBeforeYear (b.year + 1) ≤ daysBeforeYear a.year := daysBeforeYear_mono hgt
      omega
  obtain ⟨year, month, day⟩ := a
  obtain ⟨year', month', day'⟩ := b
  obtain rfl : year = year' := hyear
  obtain ⟨hmonth, hday⟩ := ha
  obtain ⟨hmonth', hday'⟩ := hb
  rw [dayNumber_eq, dayNumber_eq] at h
  have hsum := sum_take_month hmonth
  have hsum' := sum_take_month hmonth'
  unfold daysBeforeMonth at h hsum hsum'
  dsimp only at *
  have hsame : month = month' := by
    rcases Nat.lt_trichotomy month month' with hlt | heq | hgt
    · have hlater := sum_take_le_sum_take (monthLengths (isLeap year)) (i := month)
        (j := month' - 1) (by omega)
      omega
    · exact heq
    · have hlater := sum_take_le_sum_take (monthLengths (isLeap year)) (i := month')
        (j := month - 1) (by omega)
      omega
  subst hsame
  have hdays : day = day' := by omega
  rw [hdays]

/-- The epoch is the first day of 1970. -/
theorem dayNumber_epoch : dayNumber ⟨1970, 1, 1⟩ = epochDay := rfl

/-- A day lies in the years 1 to 9999 if its number is one of theirs. -/
theorem year_ofDayNumber_iff (number : Int) :
    1 ≤ (ofDayNumber number).year ∧ (ofDayNumber number).year ≤ 9999 ↔
      0 ≤ number ∧ number < 3652059 := by
  obtain ⟨hvalid, hnumber⟩ := ofDayNumber_spec number
  obtain ⟨hstart, hend⟩ := dayNumber_bounds hvalid
  rw [hnumber] at hstart hend
  generalize (ofDayNumber number).year = year at hstart hend
  have hfirst : daysBeforeYear 1 = 0 := rfl
  have hlast : daysBeforeYear 10000 = 3652059 := rfl
  constructor
  · rintro ⟨hlow, hhigh⟩
    have hbegins : daysBeforeYear 1 ≤ daysBeforeYear year := daysBeforeYear_mono hlow
    have hends : daysBeforeYear (year + 1) ≤ daysBeforeYear 10000 := daysBeforeYear_mono (by omega)
    omega
  · rintro ⟨hlow, hhigh⟩
    constructor
    · by_contra hbefore
      have hends : daysBeforeYear (year + 1) ≤ daysBeforeYear 1 := daysBeforeYear_mono (by omega)
      omega
    · by_contra hafter
      have hbegins : daysBeforeYear 10000 ≤ daysBeforeYear year := daysBeforeYear_mono (by omega)
      omega

/-- The 28th of February is not the last one in a year that four hundred divides. -/
example : ofDayNumber (dayNumber ⟨2000, 2, 28⟩ + 1) = ⟨2000, 2, 29⟩ := by decide

end Date

end NumberFeed
