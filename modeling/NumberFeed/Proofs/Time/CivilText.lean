import NumberFeed.Proofs.Time.Dates
import NumberFeed.Time.Civil

/-!
# Texts of civil times

The parts of the text of a civil time have fixed widths, up to the fraction of the second, which is
left out if it is zero. Numbers that fit their width are settled by their digits
(`Span.natAbs_eq_of_padded_append`), so that in one offset no two civil times of the calendar have
the same text (`CivilTime.eq_of_text_eq`).
-/

namespace NumberFeed

namespace Span

/-- Padded digits are zeros and the digits after them. -/
theorem toList_padded (width : Nat) (n : Int) :
    (padded width n).toList =
      List.replicate (width - (Nat.toDigits 10 n.natAbs).length) '0' ++
        Nat.toDigits 10 n.natAbs := by
  rw [padded, String.toList_ofList]

/-- A number that fits a width is padded to this width. -/
theorem length_padded {width : Nat} (hwidth : 0 < width) {n : Int} (h : n.natAbs < 10 ^ width) :
    (padded width n).toList.length = width := by
  have hdigits := (Nat.length_toDigits_le_iff (by decide) hwidth).mpr h
  rw [toList_padded, List.length_append, List.length_replicate]
  omega

/-- Padding with zeros does not change what the digits write. -/
theorem ofDigitChars_padded (width : Nat) (n : Int) :
    Nat.ofDigitChars 10 (padded width n).toList 0 = n.natAbs := by
  rw [toList_padded, Nat.ofDigitChars_append, Nat.ofDigitChars_replicate_zero, Nat.mul_zero,
    Nat.ofDigitChars_ten_toDigits]

/-- Numbers that fit one width are told from each other by their padded digits, whatever follows. -/
theorem natAbs_eq_of_padded_append {width : Nat} (hwidth : 0 < width) {m n : Int}
    (hm : m.natAbs < 10 ^ width) (hn : n.natAbs < 10 ^ width) {rest rest' : List Char}
    (h : (padded width m).toList ++ rest = (padded width n).toList ++ rest') :
    m.natAbs = n.natAbs ∧ rest = rest' := by
  obtain ⟨hdigits, hrest⟩ := List.append_inj h
    (by rw [length_padded hwidth hm, length_padded hwidth hn])
  refine ⟨?_, hrest⟩
  rw [← ofDigitChars_padded width m, hdigits, ofDigitChars_padded]

/-- So are numbers before one mark. -/
theorem natAbs_eq_of_padded_cons {width : Nat} (hwidth : 0 < width) {m n : Int}
    (hm : m.natAbs < 10 ^ width) (hn : n.natAbs < 10 ^ width) {mark : Char}
    {rest rest' : List Char}
    (h : (padded width m).toList ++ mark :: rest = (padded width n).toList ++ mark :: rest') :
    m.natAbs = n.natAbs ∧ rest = rest' := by
  obtain ⟨hsame, hrest⟩ := natAbs_eq_of_padded_append hwidth hm hn h
  exact ⟨hsame, (List.cons.inj hrest).2⟩

end Span

namespace CivilTime

/-- Whether the date lies in the years 1 to 9999. -/
def InYears (time : CivilTime) : Prop := 1 ≤ time.date.year ∧ time.date.year ≤ 9999

instance (time : CivilTime) : Decidable time.InYears := inferInstanceAs (Decidable (_ ∧ _))

/-- A time that calendar and clock can show: a date of the calendar in the years 1 to 9999, and a
time within its day. -/
structure IsValid (time : CivilTime) : Prop where
  /-- The calendar has the date. -/
  date : time.date.IsValid
  /-- The year has four digits at most. -/
  years : time.InYears
  /-- The time of day is less than a day. -/
  clock : 0 ≤ time.microOfDay ∧ time.microOfDay < Span.microsPerDay

/-- The fraction of the second as it is shown. -/
def fraction (micro : Int) : String := if micro = 0 then "" else "." ++ Span.padded 6 micro

/-- The offset as it is shown. -/
def offsetText (offset : Int) : String :=
  (if offset < 0 then "-" else "+") ++ Span.padded 2 (offset.natAbs / 60) ++ ":" ++
    Span.padded 2 (offset.natAbs % 60)

/-- The parts of a text. -/
theorem toList_text (time : CivilTime) :
    time.text.toList =
      (Span.padded 4 time.date.year).toList ++ ('-' :: ((Span.padded 2 time.date.month).toList ++
        ('-' :: ((Span.padded 2 time.date.day).toList ++
          (' ' :: ((Span.padded 2 (time.microOfDay / 1000000 / 3600)).toList ++
            (':' :: ((Span.padded 2 (time.microOfDay / 1000000 / 60 % 60)).toList ++
              (':' :: ((Span.padded 2 (time.microOfDay / 1000000 % 60)).toList ++
                ((fraction (time.microOfDay % 1000000)).toList ++
                  (offsetText time.offset).toList))))))))))) := by
  simp [text, fraction, offsetText]

/-- A fraction is settled by its text. -/
theorem eq_of_fraction_eq {m n : Int} (hm : 0 ≤ m ∧ m < 1000000) (hn : 0 ≤ n ∧ n < 1000000)
    (h : (fraction m).toList = (fraction n).toList) : m = n := by
  unfold fraction at h
  split at h
  · split at h
    · omega
    · simp at h
  · split at h
    · simp at h
    · simp only [String.toList_append] at h
      have hdigits := List.append_cancel_left h
      have hm' : m.natAbs < 10 ^ 6 := by omega
      have hn' : n.natAbs < 10 ^ 6 := by omega
      obtain ⟨hsame, -⟩ := Span.natAbs_eq_of_padded_append (by decide) hm' hn'
        (congrArg (· ++ []) hdigits)
      omega

/-- In one offset no two civil times have the same text. -/
theorem eq_of_text_eq {a b : CivilTime} (ha : a.IsValid) (hb : b.IsValid)
    (hoffset : a.offset = b.offset) (h : a.text = b.text) : a = b := by
  obtain ⟨hmonth, hday⟩ := ha.date.month_and_day_bounds
  obtain ⟨hmonth', hday'⟩ := hb.date.month_and_day_bounds
  obtain ⟨-, ⟨hfirst, hlast⟩, hclock⟩ := ha
  obtain ⟨-, ⟨hfirst', hlast'⟩, hclock'⟩ := hb
  obtain ⟨⟨year, month, day⟩, micros, offset⟩ := a
  obtain ⟨⟨year', month', day'⟩, micros', offset'⟩ := b
  obtain rfl : offset = offset' := hoffset
  have htext := congrArg String.toList h
  rw [toList_text, toList_text] at htext
  simp only [Span.microsPerDay] at hclock hclock'
  dsimp only at *
  -- The parts are taken off from the left, one after the other.
  obtain ⟨hyears, htext⟩ := Span.natAbs_eq_of_padded_cons (by decide) (by omega) (by omega) htext
  obtain ⟨hmonths, htext⟩ := Span.natAbs_eq_of_padded_cons (by decide) (by omega) (by omega) htext
  obtain ⟨hdays, htext⟩ := Span.natAbs_eq_of_padded_cons (by decide) (by omega) (by omega) htext
  obtain ⟨hhours, htext⟩ := Span.natAbs_eq_of_padded_cons (by decide) (by omega) (by omega) htext
  obtain ⟨hminutes, htext⟩ := Span.natAbs_eq_of_padded_cons (by decide) (by omega) (by omega) htext
  obtain ⟨hseconds, htext⟩ :=
    Span.natAbs_eq_of_padded_append (by decide) (by omega) (by omega) htext
  have hfraction := eq_of_fraction_eq (by omega) (by omega) (List.append_cancel_right htext)
  have hsameYear : year = year' := by omega
  have hsameMonth : month = month' := by omega
  have hsameDay : day = day' := by omega
  have hsameMicros : micros = micros' := by omega
  rw [hsameYear, hsameMonth, hsameDay, hsameMicros]

end CivilTime

end NumberFeed
