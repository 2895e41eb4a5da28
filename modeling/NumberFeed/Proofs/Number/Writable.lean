import NumberFeed.Time.Duration

/-!
# Numbers that can be written

An integer of no more than `digitLimit` digits can be written (`write_of_writable`), and so can
every integer that is no larger (`Writable.mono`). An amount of time that fits a double in seconds
is far below that limit: the exponent of a finite double bounds the quotient that was rounded
(`natAbs_lt_of_nearest?`), so that such a duration has a text (`Duration.text_of_toSeconds`).
-/

namespace NumberFeed

namespace Number

/-- An integer can be written if it has no more than `digitLimit` digits. -/
def Writable (n : Int) : Prop := (Nat.toDigits 10 n.natAbs).length ≤ digitLimit

instance (n : Int) : Decidable (Writable n) := inferInstanceAs (Decidable (_ ≤ _))

/-- An integer that can be written is below a power of ten. -/
theorem writable_iff {n : Int} : Writable n ↔ n.natAbs < Nat.pow 10 digitLimit := by
  rw [Writable, Nat.length_toDigits_le_iff (by decide) (by decide), Nat.pow_eq]

/-- An integer that is no larger than one that can be written can be written too. -/
theorem Writable.mono {m n : Int} (h : Writable n) (hle : m.natAbs ≤ n.natAbs) : Writable m := by
  rw [writable_iff] at h ⊢
  exact Nat.lt_of_le_of_lt hle h

/-- An integer with no more binary digits than it may have decimal ones can be written. -/
theorem writable_of_lt {n : Int} {exponent : Nat} (h : n.natAbs < Nat.pow 2 exponent)
    (hle : exponent ≤ digitLimit) : Writable n := by
  rw [writable_iff, Nat.pow_eq]
  rw [Nat.pow_eq] at h
  -- The limit becomes a variable, so that no such power is worked out.
  generalize digitLimit = limit at hle ⊢
  calc n.natAbs < 2 ^ exponent := h
    _ ≤ 10 ^ exponent := Nat.pow_le_pow_left (by decide) exponent
    _ ≤ 10 ^ limit := Nat.pow_le_pow_right (by decide) hle

/-- An integer that can be written is written in decimal. -/
theorem write_of_writable {n : Int} (h : Writable n) :
    write n = .ok (String.ofList (decimal n)) := by
  unfold write
  exact if_pos h

/-- An integer that cannot be written has too many digits. -/
theorem write_of_not_writable {n : Int} (h : ¬ Writable n) : write n = .error .tooManyDigits := by
  unfold write
  exact if_neg h

/-- A quotient whose nearest double is finite is bounded by the largest exponent of a double. -/
theorem natAbs_lt_of_nearest? {numerator : Int} {denominator : Nat} {x : Float}
    (h : nearest? numerator denominator = some x) :
    numerator.natAbs < Nat.pow 2 (denominator.log2 + 1026) := by
  rcases Nat.eq_zero_or_pos numerator.natAbs with hzero | hpos
  · rw [hzero]
    exact Nat.two_pow_pos _
  · have hbits : nearestBits numerator.natAbs denominator < infinityBits := by
      unfold nearest? at h
      dsimp only at h
      split at h
      · assumption
      · cases h
    -- The unit of the mantissa is within the exponents of a double.
    have hunit : unitExponent numerator.natAbs denominator < 973 := by
      unfold nearestBits infinityBits implicitBit leastExponent at hbits
      rw [if_neg (by omega)] at hbits
      dsimp only at hbits
      generalize roundHalfEven _ _ = mantissa at hbits
      omega
    have hguess : (numerator.natAbs.log2 : Int) - denominator.log2 - 53 ≤
        unitExponent numerator.natAbs denominator := by
      unfold unitExponent
      dsimp only
      split
      · exact Int.le_trans (by omega) (Int.le_max_left _ _)
      · exact Int.le_trans (by omega) (Int.le_max_left _ _)
    exact (Nat.log2_lt (by omega)).mp (by omega)

end Number

namespace Duration

open Number

/-- A duration that fits a double in seconds has a number of nanoseconds that can be written. -/
theorem writable_of_toSeconds {duration : Duration} {seconds : Float}
    (h : duration.toSeconds = .ok seconds) : Writable duration.nanos := by
  have hfinite : nearest? duration.nanos 1000000000 = some seconds := by
    unfold toSeconds at h
    split at h
    · rename_i found hfound
      rw [hfound, Except.ok.inj h]
    · cases h
  exact writable_of_lt (natAbs_lt_of_nearest? hfinite) (by decide)

/-- How a duration reads that has a text. -/
def written (duration : Duration) : String :=
  "Duration<" ++ String.ofList (decimal duration.nanos) ++ " ns>"

/-- The text of a duration whose nanoseconds can be written. -/
theorem text_of_writable {duration : Duration} (h : Writable duration.nanos) :
    duration.text = .ok duration.written := by
  rw [text, write_of_writable h]
  rfl

/-- A duration that fits a double in seconds has a text. -/
theorem text_of_toSeconds {duration : Duration} {seconds : Float}
    (h : duration.toSeconds = .ok seconds) : duration.text = .ok duration.written :=
  text_of_writable (writable_of_toSeconds h)

end Duration

end NumberFeed
