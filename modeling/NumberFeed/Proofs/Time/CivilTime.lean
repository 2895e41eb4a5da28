import NumberFeed.Proofs.Time.CivilText
import NumberFeed.Proofs.Time.ZoneOffsets

/-!
# Instants as civil times

The civil time of an instant in a zone is a date and a time of day that read back as the instant, up
to the microsecond below it (`CivilTime.epochMicros_ofEpochMicros`). The bounds of the calendar are
those of the years 1 to 9999 (`CivilTime.inCalendar_iff`).

What becomes of seconds in other years depends on the machine: a calendar refuses them, but some
clocks do not even come that far. So the law is stated for any way to refuse them
(`Instant.toCivilBy`), of which `Instant.toCivil` has its own (`Instant.toCivil_eq`).
`Instant.civil_law` tells which failure comes first, and what the result is if there is none.
-/

namespace NumberFeed

namespace CivilTime

/-- A civil time reads back as the point that it was made for. -/
theorem epochMicros_ofEpochMicros (micros offset : Int) :
    (ofEpochMicros micros offset).epochMicros = micros := by
  unfold ofEpochMicros epochMicros
  dsimp only
  rw [(Date.ofDayNumber_spec _).2]
  simp only [Span.microsPerDay, microsPerMinute]
  omega

/-- In one offset no other valid civil time reads back as the same point. -/
theorem eq_of_epochMicros_eq {a b : CivilTime} (ha : a.IsValid) (hb : b.IsValid)
    (hoffset : a.offset = b.offset) (h : a.epochMicros = b.epochMicros) : a = b := by
  obtain ⟨hdate, -, hlow, hhigh⟩ := ha
  obtain ⟨hdate', -, hlow', hhigh'⟩ := hb
  unfold epochMicros at h
  simp only [hoffset, Span.microsPerDay] at h hhigh hhigh'
  -- The day is the quotient and the time of day the remainder of one number.
  have hday : a.date.dayNumber = b.date.dayNumber := by omega
  have hmicros : a.microOfDay = b.microOfDay := by omega
  have hsame := Date.eq_of_dayNumber_eq hdate hdate' hday
  obtain ⟨date, micros, offset⟩ := a
  obtain ⟨date', micros', offset'⟩ := b
  dsimp only at hsame hmicros hoffset
  rw [hsame, hmicros, hoffset]

/-- The years 1 to 9999 are what the calendar covers. -/
theorem inCalendar_iff (micros offset : Int) :
    Instant.InCalendar (micros + offset * microsPerMinute) ↔
      (ofEpochMicros micros offset).InYears := by
  unfold InYears ofEpochMicros
  dsimp only
  rw [Date.year_ofDayNumber_iff]
  simp only [Instant.InCalendar, Instant.calendarStart, Instant.calendarEnd, Span.microsPerDay,
    Calendar.epochDay]
  omega

/-- A civil time in these years is valid. -/
theorem isValid_ofEpochMicros {micros offset : Int} (h : (ofEpochMicros micros offset).InYears) :
    (ofEpochMicros micros offset).IsValid := by
  refine ⟨(Date.ofDayNumber_spec _).1, h, ?_, ?_⟩
  · exact Int.emod_nonneg _ (by decide)
  · exact Int.emod_lt_of_pos _ (by decide)

end CivilTime

namespace Instant

/-- A second in universal time. -/
def universal (second : Int) : CivilTime := .ofEpochMicros (second * 1000000) 0

/-- The seconds that the calendar covers are those of its years. -/
theorem second_inCalendar_iff (second : Int) :
    calendarStart ≤ second ∧ second < calendarEnd ↔ (universal second).InYears := by
  rw [universal, ← CivilTime.inCalendar_iff, InCalendar]
  omega

/-- The civil time of an instant in a zone, where seconds outside the calendar are refused in a
given way. -/
def toCivilBy (outside : Int → Failure) (instant : Instant) (zone : Except Failure Zone) :
    Except Failure CivilTime :=
  if ¬(calendarStart ≤ instant.seconds ∧ instant.seconds < calendarEnd) then
    .error (outside instant.seconds)
  else instant.toCivil zone

/-- The civil time itself has a way of its own. -/
theorem toCivil_eq (instant : Instant) (zone : Except Failure Zone) :
    instant.toCivil zone = instant.toCivilBy outsideFailure zone := by
  unfold toCivilBy
  split
  · rename_i h
    unfold toCivil
    exact if_pos h
  · rfl

/-- Its failure is one of a value just for the seconds that a clock can show. -/
theorem kind_outsideFailure (second : Int) :
    (outsideFailure second).kind = .value ↔ clockStart ≤ second ∧ second < clockEnd := by
  unfold outsideFailure
  split
  · -- A word of the machine holds more than a clock.
    refine iff_of_false (fun h => nomatch h) ?_
    simp only [clockStart, clockEnd]
    omega
  · split
    · rename_i hclock
      exact iff_of_false (fun h => nomatch h) hclock
    · rename_i hclock
      exact iff_of_true rfl (Decidable.not_not.mp hclock)

/-! ## What a conversion comes to -/

/-- The civil time that an instant has in a zone, whatever its year. -/
def inZone (instant : Instant) (zone : Zone) : CivilTime :=
  .ofEpochMicros instant.epochMicros (zone.offsetAt (instant.epochMicros / 1000000))

/-- The civil time that an instant has in universal time, whatever its year. -/
def inUniversal (instant : Instant) : CivilTime := .ofEpochMicros instant.epochMicros 0

section Stages

variable {outside : Int → Failure} {instant : Instant}

/-- Seconds in other years are refused in the given way. -/
theorem toCivilBy_of_second_outside (h : ¬ (universal instant.seconds).InYears)
    (zone : Except Failure Zone) :
    instant.toCivilBy outside zone = .error (outside instant.seconds) := by
  rw [← second_inCalendar_iff] at h
  exact if_pos h

/-- The points that the calendar covers are those of its years. -/
theorem inCalendar_epochMicros_iff (instant : Instant) :
    InCalendar instant.epochMicros ↔ instant.inUniversal.InYears := by
  rw [inUniversal, ← CivilTime.inCalendar_iff, Int.zero_mul, Int.add_zero]

/-- A point in other years is too large, whatever the zone is. -/
theorem toCivilBy_of_outside (hsecond : (universal instant.seconds).InYears)
    (h : ¬ instant.inUniversal.InYears) (zone : Except Failure Zone) :
    instant.toCivilBy outside zone = .error .tooLarge := by
  rw [← second_inCalendar_iff] at hsecond
  rw [← inCalendar_epochMicros_iff] at h
  rw [toCivilBy, if_neg (not_not_intro hsecond)]
  unfold toCivil
  dsimp only
  rw [if_neg (not_not_intro hsecond), if_pos h]

/-- Where seconds and point lie in these years, the zone decides. -/
theorem toCivilBy_of_inUniversal (hsecond : (universal instant.seconds).InYears)
    (h : instant.inUniversal.InYears) (zone : Except Failure Zone) :
    instant.toCivilBy outside zone = zone >>= fun zone =>
      if (instant.inZone zone).InYears then .ok (instant.inZone zone) else .error .tooLarge := by
  rw [← second_inCalendar_iff] at hsecond
  rw [← inCalendar_epochMicros_iff] at h
  rw [toCivilBy, if_neg (not_not_intro hsecond)]
  unfold toCivil
  dsimp only
  rw [if_neg (not_not_intro hsecond), if_neg (not_not_intro h)]
  cases zone with
  | error cause => rfl
  | ok zone => exact if_congr (CivilTime.inCalendar_iff _ _) rfl rfl

/-- Without a zone its failure is left. -/
theorem toCivilBy_of_no_zone (hsecond : (universal instant.seconds).InYears)
    (h : instant.inUniversal.InYears) (cause : Failure) :
    instant.toCivilBy outside (.error cause) = .error cause :=
  toCivilBy_of_inUniversal hsecond h (.error cause)

/-- With a zone the local time has to lie in these years too. -/
theorem toCivilBy_of_zone (hsecond : (universal instant.seconds).InYears)
    (h : instant.inUniversal.InYears) (zone : Zone) :
    instant.toCivilBy outside (.ok zone) =
      if (instant.inZone zone).InYears then .ok (instant.inZone zone) else .error .tooLarge :=
  toCivilBy_of_inUniversal hsecond h (.ok zone)

/-- A result is the civil time of the instant in a zone, and valid. -/
theorem exists_zone_of_toCivilBy {zone : Except Failure Zone} {time : CivilTime}
    (h : instant.toCivilBy outside zone = .ok time) :
    ∃ found, zone = .ok found ∧ time = instant.inZone found ∧ time.IsValid := by
  by_cases hsecond : (universal instant.seconds).InYears
  · by_cases hpoint : instant.inUniversal.InYears
    · rcases zone with cause | found
      · rw [toCivilBy_of_no_zone hsecond hpoint] at h
        cases h
      · rw [toCivilBy_of_zone hsecond hpoint] at h
        split at h
        · rename_i hthere
          obtain rfl := Except.ok.inj h
          exact ⟨found, rfl, rfl, CivilTime.isValid_ofEpochMicros hthere⟩
        · cases h
    · rw [toCivilBy_of_outside hsecond hpoint] at h
      cases h
  · rw [toCivilBy_of_second_outside hsecond] at h
    cases h

/-- A result reads back as the whole microseconds of the instant. -/
theorem epochMicros_of_toCivilBy {zone : Except Failure Zone} {time : CivilTime}
    (h : instant.toCivilBy outside zone = .ok time) : time.epochMicros = instant.epochMicros := by
  obtain ⟨found, -, rfl, -⟩ := exists_zone_of_toCivilBy h
  exact CivilTime.epochMicros_ofEpochMicros _ _

/-- For seconds in the years of the calendar all failures are overflows, but for that of the
zone. -/
theorem failure_of_second (hsecond : (universal instant.seconds).InYears)
    {zone : Except Failure Zone} {cause : Failure}
    (h : instant.toCivilBy outside zone = .error cause) :
    cause = .tooLarge ∨ zone = .error cause := by
  by_cases hpoint : instant.inUniversal.InYears
  · rcases zone with failure | found
    · rw [toCivilBy_of_no_zone hsecond hpoint] at h
      exact .inr (congrArg Except.error (Except.error.inj h))
    · rw [toCivilBy_of_zone hsecond hpoint] at h
      split at h
      · cases h
      · exact .inl (Except.error.inj h).symm
  · rw [toCivilBy_of_outside hsecond hpoint] at h
    exact .inl (Except.error.inj h).symm

end Stages

/-- In universal time the civil times of two instants have one text if both instants fall in the
same microsecond. -/
theorem text_eq_text_iff {zones : List Zone} (htable : Zone.IsTable zones)
    {outside : Int → Failure} {a b : Instant} {time time' : CivilTime}
    (ha : a.toCivilBy outside (Zone.ofName zones "UTC") = .ok time)
    (hb : b.toCivilBy outside (Zone.ofName zones "UTC") = .ok time') :
    time.text = time'.text ↔ a.epochMicros = b.epochMicros := by
  obtain ⟨utc, hutc, hoffset⟩ := htable.universal
  rw [hutc] at ha hb
  obtain ⟨zone, hzone, rfl, hvalid⟩ := exists_zone_of_toCivilBy ha
  obtain ⟨zone', hzone', rfl, hvalid'⟩ := exists_zone_of_toCivilBy hb
  obtain rfl := Except.ok.inj hzone
  obtain rfl := Except.ok.inj hzone'
  have hhere : ∀ instant : Instant, instant.inZone utc = instant.inUniversal := by
    intro instant
    rw [inZone, hoffset, inUniversal]
  rw [hhere] at hvalid hvalid'
  rw [hhere, hhere]
  constructor
  · intro htext
    have hsame := CivilTime.eq_of_text_eq hvalid hvalid' rfl htext
    calc a.epochMicros = a.inUniversal.epochMicros :=
          (CivilTime.epochMicros_ofEpochMicros _ _).symm
      _ = b.inUniversal.epochMicros := by rw [hsame]
      _ = b.epochMicros := CivilTime.epochMicros_ofEpochMicros _ _
  · intro hmicros
    rw [inUniversal, inUniversal, hmicros]

/-- What the conversion of instants to civil times comes to with a table of zones, where seconds
outside the calendar are refused in a given way. -/
structure CivilLaw (zones : List Zone) (outside : Int → Failure) (a b : Instant)
    (name other : String) : Prop where
  /-- The failure is one of a value just if the seconds lie outside the years 1 to 9999. -/
  secondOutside : (∃ cause, a.toCivilBy outside (Zone.ofName zones name) = .error cause ∧
    cause.kind = .value) ↔ ¬ (universal a.seconds).InYears
  /-- Otherwise it is an overflow if the whole microseconds lead out of these years. -/
  pointOutside : (universal a.seconds).InYears → ¬ a.inUniversal.InYears →
    ∃ cause, a.toCivilBy outside (Zone.ofName zones name) = .error cause ∧ cause.kind = .overflow
  /-- Otherwise the name has to be that of a zone of the table. -/
  unknown : (universal a.seconds).InYears → a.inUniversal.InYears →
    (∀ zone ∈ zones, zone.hasName name = false) →
    ∃ cause, a.toCivilBy outside (Zone.ofName zones name) = .error cause ∧ cause.kind = .timeZone
  /-- Otherwise it is an overflow if the local time lies outside these years. -/
  localOutside : (universal a.seconds).InYears → a.inUniversal.InYears →
    ∀ zone, Zone.ofName zones name = .ok zone → ¬ (a.inZone zone).InYears →
    ∃ cause, a.toCivilBy outside (Zone.ofName zones name) = .error cause ∧ cause.kind = .overflow
  /-- Otherwise there is a valid civil time with the offset that holds at that second. It reads back
  as the whole microseconds of the instant, and no other valid time with this offset does. -/
  converted : (universal a.seconds).InYears → a.inUniversal.InYears →
    ∀ zone, Zone.ofName zones name = .ok zone → (a.inZone zone).InYears →
    ∃ time, a.toCivilBy outside (Zone.ofName zones name) = .ok time ∧ time.IsValid ∧
      zone.Holds ((a.seconds * 1000000 + a.nanos.fdiv 1000) / 1000000) time.offset ∧
      time.epochMicros = a.seconds * 1000000 + a.nanos.fdiv 1000 ∧
      ∀ time' : CivilTime, time'.IsValid → time'.offset = time.offset →
        time'.epochMicros = time.epochMicros → time' = time
  /-- What is read back counts days from the epoch on: each day of the calendar has a next one,
  whose number is the next one. -/
  calendar : Date.dayNumber ⟨1970, 1, 1⟩ = Calendar.epochDay ∧ ∀ date : Date, date.IsValid →
    date.next.IsValid ∧ date.next.dayNumber = date.dayNumber + 1
  /-- A zone that a name finds is one of the table, and has the name. -/
  named : ∀ zone, Zone.ofName zones name = .ok zone → zone ∈ zones ∧ zone.hasName name = true
  /-- The zone changes only the presentation. -/
  presented : ∀ time time', a.toCivilBy outside (Zone.ofName zones name) = .ok time →
    a.toCivilBy outside (Zone.ofName zones other) = .ok time' → time.epochMicros = time'.epochMicros
  /-- In universal time two instants have one text if they fall in the same microsecond. -/
  shown : ∀ time time', a.toCivilBy outside (Zone.ofName zones "UTC") = .ok time →
    b.toCivilBy outside (Zone.ofName zones "UTC") = .ok time' →
    (time.text = time'.text ↔
      a.seconds * 1000000 + a.nanos.fdiv 1000 = b.seconds * 1000000 + b.nanos.fdiv 1000)

/-- The whole microseconds are rounded down. -/
theorem epochMicros_eq (instant : Instant) :
    instant.epochMicros = instant.seconds * 1000000 + instant.nanos.fdiv 1000 := by
  rw [Int.fdiv_eq_ediv_of_nonneg _ (by decide)]
  rfl

/-- Instants become civil times by the law, whatever the table of zones is, if seconds outside the
years 1 to 9999 are refused as values. The conversion of the library is the one that refuses them in
its own way, which is that of a value for all seconds that a clock can show. -/
theorem civil_law {zones : List Zone} (htable : Zone.IsTable zones) (outside : Int → Failure)
    (a b : Instant) (name other : String)
    (houtside : ¬ (universal a.seconds).InYears → (outside a.seconds).kind = .value) :
    CivilLaw zones outside a b name other ∧
      (∀ zone, a.toCivil zone = a.toCivilBy outsideFailure zone) ∧
      ((outsideFailure a.seconds).kind = .value ↔
        clockStart ≤ a.seconds ∧ a.seconds < clockEnd) := by
  refine ⟨⟨?_, ?_, ?_, ?_, ?_, ?_, ?_, ?_, ?_⟩, toCivil_eq a, kind_outsideFailure a.seconds⟩
  · constructor
    · rintro ⟨cause, hcause, hkind⟩ hsecond
      -- All later failures are of other kinds.
      rcases failure_of_second hsecond hcause with rfl | hzone
      · cases hkind
      · rw [Zone.eq_unknownZone_of_ofName hzone] at hkind
        cases hkind
    · intro hsecond
      exact ⟨outside a.seconds, toCivilBy_of_second_outside hsecond _, houtside hsecond⟩
  · intro hsecond hpoint
    exact ⟨.tooLarge, toCivilBy_of_outside hsecond hpoint _, rfl⟩
  · intro hsecond hpoint hunknown
    rw [Zone.ofName_of_unknown hunknown]
    exact ⟨.unknownZone, toCivilBy_of_no_zone hsecond hpoint _, rfl⟩
  · intro hsecond hpoint zone hzone hthere
    rw [hzone]
    exact ⟨.tooLarge, (toCivilBy_of_zone hsecond hpoint zone).trans (if_neg hthere), rfl⟩
  · intro hsecond hpoint zone hzone hthere
    have hvalid := CivilTime.isValid_ofEpochMicros hthere
    have hmem := (Zone.mem_of_ofName hzone).1
    rw [hzone, ← epochMicros_eq]
    refine ⟨a.inZone zone, (toCivilBy_of_zone hsecond hpoint zone).trans (if_pos hthere), hvalid,
      ?_, ?_, ?_⟩
    · exact Zone.holds_offsetAt (htable.ordered zone hmem) _
    · exact CivilTime.epochMicros_ofEpochMicros _ _
    · intro time' hvalid' hoffset hmicros
      exact CivilTime.eq_of_epochMicros_eq hvalid' hvalid hoffset hmicros
  · exact ⟨Date.dayNumber_epoch, fun date hdate => Date.dayNumber_next hdate⟩
  · intro zone hzone
    exact Zone.mem_of_ofName hzone
  · intro time time' htime htime'
    rw [epochMicros_of_toCivilBy htime, epochMicros_of_toCivilBy htime']
  · intro time time' htime htime'
    rw [← epochMicros_eq, ← epochMicros_eq]
    exact text_eq_text_iff htable htime htime'

/-- The library refuses the first second after the year 9999 as a value, and the zone of Shanghai is
one of the known ones. -/
theorem civil_law_first_second_after :
    Zone.IsTable Zone.known ∧
      (¬ (universal calendarEnd).InYears → (outsideFailure calendarEnd).kind = .value) ∧
      CivilLaw Zone.known outsideFailure ⟨calendarEnd, -1⟩ ⟨0, -1⟩ "Asia/Shanghai" "UTC" ∧
      (∀ zone, toCivil ⟨calendarEnd, -1⟩ zone = toCivilBy outsideFailure ⟨calendarEnd, -1⟩ zone) ∧
      ((outsideFailure calendarEnd).kind = .value ↔
        clockStart ≤ calendarEnd ∧ calendarEnd < clockEnd) := by
  have houtside : ¬ (universal calendarEnd).InYears → (outsideFailure calendarEnd).kind = .value :=
    fun _ => (kind_outsideFailure calendarEnd).mpr ⟨by decide, by decide⟩
  exact ⟨Zone.isTable_known, houtside, civil_law Zone.isTable_known outsideFailure
    ⟨calendarEnd, -1⟩ ⟨0, -1⟩ "Asia/Shanghai" "UTC" houtside⟩

/-- A nanosecond before the epoch lies in the last microsecond of 1969. -/
example : (toCivil ⟨0, -1⟩ (.ok Zone.utc)).map (·.date) = .ok ⟨1969, 12, 31⟩ := rfl

end Instant

end NumberFeed
