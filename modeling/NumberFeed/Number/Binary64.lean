/-!
# Doubles as exact numbers

A finite double is `mantissa * 2 ^ exponent` with a sign, and this module reads that form off its
bits (`dyadic?`) and goes back to the nearest double of any quotient (`nearest?`). Everything in
between is arithmetic on natural numbers, so that no step rounds but the last.
-/

namespace NumberFeed.Number

/-- A signed number `± mantissa * 2 ^ exponent`. -/
structure Dyadic where
  /-- Whether the sign is minus; zero has a sign too. -/
  negative : Bool
  /-- The magnitude in units of `2 ^ exponent`. -/
  mantissa : Nat
  /-- The power of two that is the unit. -/
  exponent : Int
  deriving DecidableEq, Repr

/-- The exponent of the smallest positive double. -/
def leastExponent : Int := -1074

/-- The bit that says minus. -/
def signBit : Nat := 0x8000000000000000

/-- The leading bit of a mantissa of 53 bits, which the bits of a double leave out. -/
def implicitBit : Nat := 0x10000000000000

/-- The exact value of a double, absent when it is infinite or not a number. -/
def dyadic? (x : Float) : Option Dyadic :=
  let bits := x.toBits.toNat
  let negative : Bool := signBit ≤ bits
  let biased : Nat := bits / implicitBit % 2048
  let fraction := bits % implicitBit
  if biased = 2047 then none
  else if biased = 0 then some ⟨negative, fraction, leastExponent⟩
  else some ⟨negative, implicitBit + fraction, (biased : Int) - 1075⟩

namespace Dyadic

/-- The numerator of the value over `denominator`. -/
def numerator (x : Dyadic) : Int :=
  let magnitude : Int := (x.mantissa * Nat.pow 2 x.exponent.toNat : Nat)
  if x.negative then -magnitude else magnitude

/-- The denominator of the value, a power of two. -/
def denominator (x : Dyadic) : Nat :=
  Nat.pow 2 (-x.exponent).toNat

/-- The integer part, rounded toward zero. -/
def truncate (x : Dyadic) : Int :=
  x.numerator.tdiv x.denominator

/-- The order of two exact values. -/
def compare (x y : Dyadic) : Ordering :=
  Ord.compare (x.numerator * y.denominator) (y.numerator * x.denominator)

/-- An integer as an exact value. -/
def ofInt (n : Int) : Dyadic :=
  ⟨n < 0, n.natAbs, 0⟩

/-- The denominator is positive, so that values compare by cross products. -/
theorem denominator_pos (x : Dyadic) : 0 < x.denominator :=
  Nat.two_pow_pos _

/-- The exact value of an integer is that integer. -/
theorem numerator_ofInt (n : Int) : (ofInt n).numerator = n ∧ (ofInt n).denominator = 1 := by
  refine ⟨?_, rfl⟩
  have hmagnitude : (ofInt n).mantissa * Nat.pow 2 (ofInt n).exponent.toNat = n.natAbs :=
    Nat.mul_one _
  rw [numerator, hmagnitude]
  by_cases h : n < 0
  · rw [ofInt, if_pos (by simpa using h)]
    omega
  · rw [ofInt, if_neg (by simpa using h)]
    omega

end Dyadic

/-- The quotient rounded to the nearest natural number, a half to the even one. -/
def roundHalfEven (numerator denominator : Nat) : Nat :=
  let quotient := numerator / denominator
  let twice := 2 * (numerator % denominator)
  if denominator < twice ∨ (twice = denominator ∧ quotient % 2 = 1) then quotient + 1 else quotient

/-- The exponent of the unit in which a quotient has a mantissa of 53 bits, or the least exponent
where that is larger. -/
def unitExponent (numerator denominator : Nat) : Int :=
  let guess : Int := (numerator.log2 : Int) - denominator.log2 - 52
  let short :=
    numerator * Nat.pow 2 (-guess).toNat < implicitBit * (denominator * Nat.pow 2 guess.toNat)
  max (if short then guess - 1 else guess) leastExponent

/-- The bits of the double nearest to a quotient of natural numbers, a tie going to the even
mantissa. They run on past the largest double without wrapping. -/
def nearestBits (numerator denominator : Nat) : Nat :=
  if numerator = 0 then 0
  else
    let unit := unitExponent numerator denominator
    let mantissa :=
      roundHalfEven (numerator * Nat.pow 2 (-unit).toNat) (denominator * Nat.pow 2 unit.toNat)
    (unit - leastExponent).toNat * implicitBit + mantissa

/-- The bits of positive infinity. -/
def infinityBits : Nat := 2047 * implicitBit

/-- The double nearest to a quotient, absent when it would be infinite. -/
def nearest? (numerator : Int) (denominator : Nat) : Option Float :=
  let bits := nearestBits numerator.natAbs denominator
  if bits < infinityBits then
    some (Float.ofBits (UInt64.ofNat (if numerator < 0 then signBit + bits else bits)))
  else none

end NumberFeed.Number
