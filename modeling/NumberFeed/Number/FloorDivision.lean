import NumberFeed.Number.Binary64

/-!
# Division of doubles that rounds down

The quotient of two doubles rounded down, and the remainder that belongs to it and has the sign of
the divisor. The remainder of the magnitudes is computed exactly, because it is a double itself.
Divisors are positive here.
-/

namespace NumberFeed.Number

/-- The double that is not a number. -/
def undefinedFloat : Float := 0.0 / 0.0

/-- Whether a double has the minus sign; zero has a sign too. -/
def hasMinus (x : Float) : Bool := signBit ≤ x.toBits.toNat

/-- The remainder of the division that rounds toward zero; it has the sign of the dividend. -/
def truncatedRemainder (x divisor : Float) : Float :=
  match dyadic? x, dyadic? divisor with
  | some a, some b =>
    let numerator := a.numerator.natAbs * b.denominator % (b.numerator.natAbs * a.denominator)
    let magnitude := (nearest? numerator (a.denominator * b.denominator)).getD undefinedFloat
    if a.negative then -magnitude else magnitude
  | some _, none => if divisor == divisor then x else undefinedFloat
  | none, _ => undefinedFloat

/-- The remainder of the division that rounds down, by a positive divisor. -/
def floorRemainder (x divisor : Float) : Float :=
  let remainder := truncatedRemainder x divisor
  if remainder < 0 then remainder + divisor else if remainder == 0 then 0.0 else remainder

/-- The quotient rounded down, by a positive divisor: what is left without the remainder is divided,
and the quotient goes to the integer next to it. A quotient of zero has the sign of the dividend. -/
def floorQuotient (x divisor : Float) : Float :=
  let remainder := truncatedRemainder x divisor
  let exact := (x - remainder) / divisor
  let quotient := if remainder < 0 then exact - 1.0 else exact
  if quotient == 0 then (if hasMinus x then -0.0 else 0.0)
  else
    let below := quotient.floor
    if 0.5 < quotient - below then below + 1.0 else below

end NumberFeed.Number
