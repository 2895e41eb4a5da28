import Mathlib.Tactic.Ring
import NumberFeed.Time.Duration

/-!
# Where doubles end

The double nearest to a quotient is infinite from halfway between the largest double and the next
power of two on: a tie there goes to the even mantissa, which is that of the power. So a quotient has
a finite double just when it is below `overflowBound` (`nearestBits_lt_infinityBits_iff`), and an
amount of time fits a double in seconds just when so many seconds are
(`Duration.exists_toSeconds_iff`).
-/

namespace NumberFeed

namespace Number

/-- The exponent of half the unit of the largest double. -/
def halfUnit : Nat := 970

/-- Halfway between the largest double, `(2 ^ 53 - 1) * 2 ^ 971`, and `2 ^ 1024`. -/
def overflowBound : Nat := (4 * implicitBit - 1) * Nat.pow 2 halfUnit

section Rounding

variable {numerator denominator : Nat}

/-- A quotient below a natural number is rounded to this number at most. -/
theorem roundHalfEven_le {bound : Nat} (hpos : 0 < denominator)
    (h : numerator < bound * denominator) : roundHalfEven numerator denominator ≤ bound := by
  have hquotient : numerator / denominator < bound := (Nat.div_lt_iff_lt_mul hpos).mpr h
  unfold roundHalfEven
  dsimp only
  split <;> omega

/-- A quotient that is not below a natural number is rounded to this number at least. -/
theorem le_roundHalfEven {bound : Nat} (hpos : 0 < denominator)
    (h : bound * denominator ≤ numerator) : bound ≤ roundHalfEven numerator denominator := by
  have hquotient : bound ≤ numerator / denominator := (Nat.le_div_iff_mul_le hpos).mpr h
  unfold roundHalfEven
  dsimp only
  split <;> omega

/-- A quotient is rounded to less than an even number just when it is more than a half below. -/
theorem roundHalfEven_lt_iff {half : Nat} (hpos : 0 < denominator) (hhalf : 0 < half) :
    roundHalfEven numerator denominator < 2 * half ↔
      2 * numerator < (4 * half - 1) * denominator := by
  obtain ⟨k, rfl⟩ : ∃ k, half = k + 1 := ⟨half - 1, by omega⟩
  have hdivision := Nat.div_add_mod numerator denominator
  have hremainder := Nat.mod_lt numerator hpos
  have hbound : (4 * (k + 1) - 1) * denominator = 4 * (denominator * k) + 3 * denominator := by
    rw [show 4 * (k + 1) - 1 = 4 * k + 3 by omega]
    ring
  unfold roundHalfEven
  dsimp only
  rw [hbound]
  generalize numerator / denominator = quotient at hdivision ⊢
  generalize numerator % denominator = remainder at hdivision hremainder ⊢
  -- Only the odd number before the even one is rounded up to it, and only from a half on.
  rcases Nat.lt_trichotomy quotient (2 * k + 1) with hlt | rfl | hgt
  · have hproduct : denominator * (quotient + 1) ≤ denominator * (2 * k + 1) :=
      Nat.mul_le_mul_left denominator hlt
    have hleft : denominator * (quotient + 1) = denominator * quotient + denominator := by ring
    have hright : denominator * (2 * k + 1) = 2 * (denominator * k) + denominator := by ring
    constructor
    · omega
    · intro _
      split <;> omega
  · have hproduct : denominator * (2 * k + 1) = 2 * (denominator * k) + denominator := by ring
    split
    · constructor <;> omega
    · constructor <;> omega
  · have hproduct : denominator * (2 * k + 2) ≤ denominator * quotient :=
      Nat.mul_le_mul_left denominator hgt
    have hleft : denominator * (2 * k + 2) = 2 * (denominator * k) + 2 * denominator := by ring
    constructor
    · intro h
      split at h <;> omega
    · omega

end Rounding

/-! ## The unit of the mantissa -/

section Unit

variable {numerator denominator : Nat}

/-- The numerator of a quotient in units of a power of two. -/
def scaledNumerator (numerator : Nat) (unit : Int) : Nat := numerator * Nat.pow 2 (-unit).toNat

/-- The denominator of a quotient in units of a power of two. -/
def scaledDenominator (denominator : Nat) (unit : Int) : Nat := denominator * Nat.pow 2 unit.toNat

/-- In units that are no fractions the numerator stays what it is. -/
theorem scaledNumerator_of_nonneg {unit : Int} (h : 0 ≤ unit) :
    scaledNumerator numerator unit = numerator := by
  rw [scaledNumerator, show (-unit).toNat = 0 by omega]
  exact Nat.mul_one _

/-- A positive denominator stays positive. -/
theorem scaledDenominator_pos (h : 0 < denominator) (unit : Int) :
    0 < scaledDenominator denominator unit :=
  Nat.mul_pos h (Nat.two_pow_pos _)

/-- The next unit that is no fraction is twice as large. -/
theorem scaledDenominator_succ {unit : Int} (h : 0 ≤ unit) :
    scaledDenominator denominator (unit + 1) = 2 * scaledDenominator denominator unit := by
  unfold scaledDenominator
  rw [show (unit + 1).toNat = unit.toNat + 1 by omega, Nat.pow_eq, Nat.pow_eq, Nat.pow_succ]
  ring

/-- In units of half the size a quotient is twice as large. -/
theorem scaled_lt_iff_pred (unit : Int) (bound : Nat) :
    scaledNumerator numerator unit < bound * scaledDenominator denominator unit ↔
      scaledNumerator numerator (unit - 1) <
        2 * bound * scaledDenominator denominator (unit - 1) := by
  unfold scaledNumerator scaledDenominator
  -- A unit above one scales the denominator, and any other one the numerator.
  by_cases hunit : 1 ≤ unit
  · rw [show (-unit).toNat = 0 by omega, show (-(unit - 1)).toNat = 0 by omega,
      show unit.toNat = (unit - 1).toNat + 1 by omega, Nat.pow_eq, Nat.pow_eq, Nat.pow_eq,
      Nat.pow_succ]
    rw [show bound * (denominator * (2 ^ (unit - 1).toNat * 2)) =
      2 * bound * (denominator * 2 ^ (unit - 1).toNat) by ring]
  · rw [show unit.toNat = 0 by omega, show (unit - 1).toNat = 0 by omega,
      show (-(unit - 1)).toNat = (-unit).toNat + 1 by omega, Nat.pow_eq, Nat.pow_eq, Nat.pow_eq,
      Nat.pow_succ]
    constructor
    · intro h
      calc numerator * (2 ^ (-unit).toNat * 2) = 2 * (numerator * 2 ^ (-unit).toNat) := by ring
        _ < 2 * (bound * (denominator * 2 ^ 0)) := by omega
        _ = 2 * bound * (denominator * 2 ^ 0) := by ring
    · intro h
      have hleft : numerator * (2 ^ (-unit).toNat * 2) = 2 * (numerator * 2 ^ (-unit).toNat) := by
        ring
      have hright : 2 * bound * (denominator * 2 ^ 0) = 2 * (bound * (denominator * 2 ^ 0)) := by
        ring
      omega

/-- In larger units a quotient is smaller. -/
theorem scaled_lt_of_le {small large : Int} {bound : Nat} (hle : small ≤ large)
    (h : scaledNumerator numerator small < bound * scaledDenominator denominator small) :
    scaledNumerator numerator large < bound * scaledDenominator denominator large := by
  unfold scaledNumerator scaledDenominator at *
  rw [Nat.pow_eq, Nat.pow_eq] at *
  calc numerator * 2 ^ (-large).toNat ≤ numerator * 2 ^ (-small).toNat :=
        Nat.mul_le_mul_left _ (Nat.pow_le_pow_right (by decide) (by omega))
    _ < bound * (denominator * 2 ^ small.toNat) := h
    _ ≤ bound * (denominator * 2 ^ large.toNat) :=
        Nat.mul_le_mul_left _ (Nat.mul_le_mul_left _ (Nat.pow_le_pow_right (by decide) (by omega)))

/-- In the unit that is guessed from the numbers of digits, a quotient has a mantissa of 52 or 53
bits. -/
theorem scaled_guess (hnumerator : 0 < numerator) (hdenominator : 0 < denominator) :
    let guess : Int := (numerator.log2 : Int) - denominator.log2 - 52
    scaledNumerator numerator guess < 2 * implicitBit * scaledDenominator denominator guess ∧
      implicitBit * scaledDenominator denominator guess ≤ 2 * scaledNumerator numerator guess := by
  intro guess
  have hbit : implicitBit = 2 ^ 52 := rfl
  have hupper : numerator < 2 ^ (numerator.log2 + 1) := Nat.lt_log2_self
  have hlower : 2 ^ numerator.log2 ≤ numerator := Nat.log2_self_le (by omega)
  have hupper' : denominator < 2 ^ (denominator.log2 + 1) := Nat.lt_log2_self
  have hlower' : 2 ^ denominator.log2 ≤ denominator := Nat.log2_self_le (by omega)
  unfold scaledNumerator scaledDenominator
  rw [hbit, Nat.pow_eq, Nat.pow_eq]
  -- The numbers of digits give bounds on the side that is not scaled.
  obtain ⟨k, hk⟩ | ⟨k, hk⟩ : (∃ k : Nat, guess = k) ∨ ∃ k : Nat, guess = -k := by
    rcases Int.le_total 0 guess with hle | hle
    · exact .inl ⟨guess.toNat, by omega⟩
    · exact .inr ⟨(-guess).toNat, by omega⟩
  · have hdigits : numerator.log2 = denominator.log2 + 52 + k := by omega
    rw [show (-guess).toNat = 0 by omega, show guess.toNat = k by omega, Nat.pow_zero, Nat.mul_one]
    rw [hdigits] at hupper hlower
    have hscaled := Nat.mul_le_mul_right (2 ^ k) hlower'
    have hscaled' := Nat.mul_lt_mul_of_pos_right hupper' (Nat.two_pow_pos k)
    constructor
    · calc numerator < 2 ^ (denominator.log2 + 52 + k + 1) := hupper
        _ = 2 * 2 ^ 52 * (2 ^ denominator.log2 * 2 ^ k) := by ring
        _ ≤ 2 * 2 ^ 52 * (denominator * 2 ^ k) := Nat.mul_le_mul_left _ hscaled
    · calc 2 ^ 52 * (denominator * 2 ^ k)
          ≤ 2 ^ 52 * (2 ^ (denominator.log2 + 1) * 2 ^ k) := Nat.mul_le_mul_left _ hscaled'.le
        _ = 2 * 2 ^ (denominator.log2 + 52 + k) := by ring
        _ ≤ 2 * numerator := Nat.mul_le_mul_left _ hlower
  · have hdigits : numerator.log2 + k = denominator.log2 + 52 := by omega
    rw [show (-guess).toNat = k by omega, show guess.toNat = 0 by omega, Nat.pow_zero, Nat.mul_one]
    have hscaled := Nat.mul_lt_mul_of_pos_right hupper (Nat.two_pow_pos k)
    have hscaled' := Nat.mul_le_mul_right (2 ^ k) hlower
    constructor
    · calc numerator * 2 ^ k < 2 ^ (numerator.log2 + 1) * 2 ^ k := hscaled
        _ = 2 * 2 ^ (numerator.log2 + k) := by ring
        _ = 2 * 2 ^ 52 * 2 ^ denominator.log2 := by rw [hdigits]; ring
        _ ≤ 2 * 2 ^ 52 * denominator := Nat.mul_le_mul_left _ hlower'
    · calc 2 ^ 52 * denominator ≤ 2 ^ 52 * 2 ^ (denominator.log2 + 1) :=
            Nat.mul_le_mul_left _ hupper'.le
        _ = 2 * 2 ^ (denominator.log2 + 52) := by ring
        _ = 2 * (2 ^ numerator.log2 * 2 ^ k) := by rw [← hdigits]; ring
        _ ≤ 2 * (numerator * 2 ^ k) := Nat.mul_le_mul_left _ hscaled'

/-- In its unit a quotient has a mantissa of 53 bits at most, and of 53 unless the unit is the least
one. -/
theorem scaled_unitExponent (hnumerator : 0 < numerator) (hdenominator : 0 < denominator) :
    let unit := unitExponent numerator denominator
    scaledNumerator numerator unit < 2 * implicitBit * scaledDenominator denominator unit ∧
      (leastExponent < unit →
        implicitBit * scaledDenominator denominator unit ≤ scaledNumerator numerator unit) := by
  intro unit
  have hguess := scaled_guess hnumerator hdenominator
  dsimp only at hguess
  obtain ⟨hupper, hlower⟩ := hguess
  have hunit : unit = max (if scaledNumerator numerator
      ((numerator.log2 : Int) - denominator.log2 - 52) < implicitBit *
        scaledDenominator denominator ((numerator.log2 : Int) - denominator.log2 - 52) then
      (numerator.log2 : Int) - denominator.log2 - 52 - 1
      else (numerator.log2 : Int) - denominator.log2 - 52) leastExponent := rfl
  generalize (numerator.log2 : Int) - denominator.log2 - 52 = guess at hunit hupper hlower
  -- A guess that is too large by one is corrected; then only the least unit is left to look at.
  obtain ⟨chosen, hchosen, hbelow, habove⟩ : ∃ chosen, unit = max chosen leastExponent ∧
      scaledNumerator numerator chosen < 2 * implicitBit * scaledDenominator denominator chosen ∧
      implicitBit * scaledDenominator denominator chosen ≤ scaledNumerator numerator chosen := by
    by_cases hshort : scaledNumerator numerator guess <
        implicitBit * scaledDenominator denominator guess
    · rw [if_pos hshort] at hunit
      refine ⟨guess - 1, hunit, (scaled_lt_iff_pred guess implicitBit).mp hshort, ?_⟩
      by_contra hless
      have hbit : implicitBit = 2 * (implicitBit / 2) := rfl
      have hhalf := (@scaled_lt_iff_pred numerator denominator guess (implicitBit / 2)).mpr
        (by rw [← hbit]; omega)
      have hdouble : implicitBit * scaledDenominator denominator guess =
          2 * (implicitBit / 2 * scaledDenominator denominator guess) := by
        rw [← Nat.mul_assoc, ← hbit]
      omega
    · rw [if_neg hshort] at hunit
      exact ⟨guess, hunit, hupper, by omega⟩
  rw [hchosen]
  refine ⟨scaled_lt_of_le (Int.le_max_left _ _) hbelow, fun hleast => ?_⟩
  rw [show max chosen leastExponent = chosen by omega]
  exact habove

end Unit

/-- The bits that are nearest to a quotient are below those of a power of two just when the quotient
is below halfway between this power and the double before it. -/
theorem nearestBits_lt_iff {numerator denominator : Nat} (h : 0 < denominator) (k : Nat) :
    nearestBits numerator denominator < (k + 1077) * implicitBit ↔
      numerator < (4 * implicitBit - 1) * Nat.pow 2 k * denominator := by
  have hbound : (4 * implicitBit - 1) * Nat.pow 2 k * denominator =
      (4 * implicitBit - 1) * scaledDenominator denominator k := by
    rw [scaledDenominator, Int.toNat_natCast, Nat.mul_assoc, Nat.mul_comm denominator]
  have hpositive := scaledDenominator_pos h k
  have hnext : scaledDenominator denominator (k + 1) = 2 * scaledDenominator denominator k :=
    scaledDenominator_succ (by omega)
  have hlast : scaledDenominator denominator (k + 1 + 1) =
      2 * scaledDenominator denominator (k + 1) := scaledDenominator_succ (by omega)
  have hwhole : ∀ unit : Int, 0 ≤ unit → scaledNumerator numerator unit = numerator :=
    fun unit hunit => scaledNumerator_of_nonneg hunit
  rw [hbound]
  rcases Nat.eq_zero_or_pos numerator with rfl | hpos
  · have hzero : nearestBits 0 denominator = 0 := rfl
    rw [hzero]
    unfold implicitBit
    omega
  have hunit := scaled_unitExponent hpos h
  have hbits : nearestBits numerator denominator =
      (unitExponent numerator denominator - leastExponent).toNat * implicitBit +
        roundHalfEven (scaledNumerator numerator (unitExponent numerator denominator))
          (scaledDenominator denominator (unitExponent numerator denominator)) := if_neg (by omega)
  rw [hbits]
  dsimp only at hunit
  generalize unitExponent numerator denominator = unit at hunit ⊢
  obtain ⟨hupper, hlower⟩ := hunit
  have hscaled := scaledDenominator_pos h unit
  -- The double before the power of two has the unit `2 ^ (k + 1)`: others are clear by their size.
  rcases Int.lt_trichotomy unit (k + 1) with hsmall | rfl | hlarge
  · -- A mantissa is rounded to that of the power at most, so that small units stay below.
    have hmantissa := roundHalfEven_le hscaled hupper
    have hless := scaled_lt_of_le (show unit ≤ k by omega) hupper
    rw [hwhole k (by omega)] at hless
    unfold implicitBit leastExponent at *
    constructor
    · intro _
      omega
    · intro _
      omega
  · -- Here the rounding decides: the power of two is even, so that halfway goes to it.
    have hround := @roundHalfEven_lt_iff (scaledNumerator numerator (k + 1))
      (scaledDenominator denominator (k + 1)) implicitBit hscaled (by decide)
    have hdouble : (4 * implicitBit - 1) * scaledDenominator denominator (k + 1) =
        2 * ((4 * implicitBit - 1) * scaledDenominator denominator k) := by
      rw [hnext]
      ring
    rw [hdouble] at hround
    rw [hwhole (k + 1) (by omega)] at hround ⊢
    have hoffset : ((k : Int) + 1 - leastExponent).toNat = k + 1075 := by
      unfold leastExponent
      omega
    have hgap : (k + 1077) * implicitBit = (k + 1075) * implicitBit + 2 * implicitBit := by ring
    rw [hoffset, hgap]
    constructor
    · intro hfinite
      have hrounded := hround.mp (by omega)
      omega
    · intro hless
      have hrounded := hround.mpr (by omega)
      omega
  · have hmore := hlower (by unfold leastExponent; omega)
    have hmantissa := le_roundHalfEven hscaled hmore
    have hwide : implicitBit * scaledDenominator denominator (k + 1 + 1) ≤ numerator := by
      by_contra hless
      have hscaledLess : scaledNumerator numerator (k + 1 + 1) <
          implicitBit * scaledDenominator denominator (k + 1 + 1) := by
        rw [hwhole (k + 1 + 1) (by omega)]
        omega
      have hsmaller := scaled_lt_of_le (show (k : Int) + 1 + 1 ≤ unit by omega) hscaledLess
      omega
    rw [hlast, hnext] at hwide
    unfold implicitBit leastExponent at *
    constructor
    · intro _
      omega
    · intro _
      omega

/-- The double nearest to a quotient is finite just when the quotient is below halfway between the
largest double and the next power of two. -/
theorem nearestBits_lt_infinityBits_iff {numerator denominator : Nat} (h : 0 < denominator) :
    nearestBits numerator denominator < infinityBits ↔
      numerator < overflowBound * denominator := by
  have hinfinity : infinityBits = (halfUnit + 1077) * implicitBit := rfl
  rw [hinfinity, overflowBound]
  exact nearestBits_lt_iff h halfUnit

/-- A quotient has a nearest double just when its magnitude is below the bound. -/
theorem exists_nearest?_iff {numerator : Int} {denominator : Nat} (h : 0 < denominator) :
    (∃ x, nearest? numerator denominator = some x) ↔
      numerator.natAbs < overflowBound * denominator := by
  rw [← nearestBits_lt_infinityBits_iff h]
  unfold nearest?
  dsimp only
  split
  · rename_i hfinite
    exact ⟨fun _ => hfinite, fun _ => ⟨_, rfl⟩⟩
  · rename_i hinfinite
    constructor
    · rintro ⟨x, ⟨⟩⟩
    · exact fun hfinite => absurd hfinite hinfinite

end Number

namespace Duration

open Number

/-- An amount of time fits a double in seconds just when it is shorter than so many seconds. -/
theorem exists_toSeconds_iff {duration : Duration} :
    (∃ seconds, duration.toSeconds = .ok seconds) ↔
      duration.nanos.natAbs < overflowBound * 1000000000 := by
  rw [← exists_nearest?_iff (by decide)]
  unfold toSeconds
  split
  · rename_i seconds hseconds
    exact ⟨fun _ => ⟨seconds, hseconds⟩, fun _ => ⟨seconds, rfl⟩⟩
  · rename_i hnone
    rw [hnone]
    constructor
    · rintro ⟨seconds, ⟨⟩⟩
    · rintro ⟨seconds, ⟨⟩⟩

/-- An amount of time that does not fit is too large. -/
theorem toSeconds_of_le {duration : Duration}
    (h : overflowBound * 1000000000 ≤ duration.nanos.natAbs) :
    duration.toSeconds = .error .tooLarge := by
  have hnone : ¬ ∃ seconds, duration.toSeconds = .ok seconds := by
    rw [exists_toSeconds_iff]
    omega
  unfold toSeconds at hnone ⊢
  split
  · rename_i seconds hseconds
    rw [hseconds] at hnone
    exact absurd ⟨seconds, rfl⟩ hnone
  · rfl

end Duration

end NumberFeed
