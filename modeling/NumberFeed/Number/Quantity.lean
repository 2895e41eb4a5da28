import NumberFeed.Number.Binary64

/-!
# Quantities

What a number of any type amounts to: an exact finite value, one of the two infinities, or nothing
that could be compared. Integers and doubles meet here, so that they compare without rounding.
-/

namespace NumberFeed.Number

/-- The amount of a number. -/
inductive Quantity
  /-- No amount: a float that is not a number. -/
  | undefined
  /-- Less than every finite amount. -/
  | negativeInfinity
  /-- A finite amount. -/
  | finite (value : Dyadic)
  /-- More than every finite amount. -/
  | positiveInfinity
  deriving DecidableEq, Repr

namespace Quantity

/-- The amount of an integer. -/
def ofInt (n : Int) : Quantity := finite (.ofInt n)

/-- The amount of a double. -/
def ofFloat (x : Float) : Quantity :=
  match dyadic? x with
  | some value => finite value
  | none => if 0 < x then positiveInfinity else if x < 0 then negativeInfinity else undefined

/-- How two amounts compare, if they do. -/
def compare? : Quantity → Quantity → Option Ordering
  | undefined, _ => none
  | _, undefined => none
  | negativeInfinity, negativeInfinity => some .eq
  | negativeInfinity, _ => some .lt
  | _, negativeInfinity => some .gt
  | positiveInfinity, positiveInfinity => some .eq
  | positiveInfinity, _ => some .gt
  | _, positiveInfinity => some .lt
  | finite x, finite y => some (x.compare y)

/-- Whether an amount is zero. -/
def isZero : Quantity → Bool
  | finite value => value.mantissa == 0
  | _ => false

end Quantity

end NumberFeed.Number
