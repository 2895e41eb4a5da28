import NumberFeed.Number.Binary64

/-!
# The shortest decimal text of a double

Among the decimal numbers that round to a double, the text shows one with the fewest digits, and of
those the nearest. The search runs over decimal grids that grow finer by a factor of ten: on each it
tests the two neighbours of the value, and the first grid with a neighbour that rounds back wins.
How the digits are then laid out is a `FloatLayout`.
-/

namespace NumberFeed.Number

/-- A decimal number `digits * 10 ^ power`. -/
structure Decimal where
  /-- The digits, read as one natural number. -/
  digits : Nat
  /-- The power of ten of the last digit. -/
  power : Int
  deriving DecidableEq, Repr

/-- The numbers that round to one positive double, over a common denominator. -/
structure RoundingInterval where
  /-- The lower end. -/
  low : Nat
  /-- The double itself. -/
  value : Nat
  /-- The upper end. -/
  high : Nat
  /-- What the three are divided by. -/
  denominator : Nat
  /-- Whether the ends round to the double too, which ties to even decide. -/
  closed : Bool
  deriving DecidableEq, Repr

/-- The interval around a positive value: half a unit to each side, and only a quarter below the
least mantissa of a binade, where the next smaller double is nearer. -/
def Dyadic.interval (x : Dyadic) : RoundingInterval :=
  let unit := x.exponent - 2
  let factor := Nat.pow 2 unit.toNat
  let below := if x.mantissa = implicitBit ∧ leastExponent < x.exponent then 1 else 2
  { low := (4 * x.mantissa - below) * factor
    value := 4 * x.mantissa * factor
    high := (4 * x.mantissa + 2) * factor
    denominator := Nat.pow 2 (-unit).toNat
    closed := x.mantissa % 2 = 0 }

/-- The power of ten of the leading digit of a quotient. -/
def leadingPower (numerator denominator : Nat) : Int :=
  if denominator ≤ numerator then (Nat.toDigits 10 (numerator / denominator)).length - 1
  else -(Nat.toDigits 10 (denominator / numerator)).length

namespace RoundingInterval

/-- Whether `digits * 10 ^ power` rounds to the double. -/
def contains (interval : RoundingInterval) (decimal : Decimal) : Bool :=
  let point := decimal.digits * Nat.pow 10 decimal.power.toNat * interval.denominator
  let scale := Nat.pow 10 (-decimal.power).toNat
  if interval.closed then interval.low * scale ≤ point && point ≤ interval.high * scale
  else interval.low * scale < point && point < interval.high * scale

/-- The better of the two neighbours of the double on the grid of step `10 ^ power`, absent when
neither rounds to it. -/
def neighbour? (interval : RoundingInterval) (power : Int) : Option Decimal :=
  let numerator := interval.value * Nat.pow 10 (-power).toNat
  let denominator := interval.denominator * Nat.pow 10 power.toNat
  let lower := numerator / denominator
  let nearer := roundHalfEven numerator denominator
  let farther := if nearer = lower then lower + 1 else lower
  ([⟨nearer, power⟩, ⟨farther, power⟩] : List Decimal).find? interval.contains

/-- The first hit on the grids of `count` powers that go down from `power`. -/
def search (interval : RoundingInterval) : Nat → Int → Option Decimal
  | 0, _ => none
  | count + 1, power =>
    match interval.neighbour? power with
    | some decimal => some decimal
    | none => interval.search count (power - 1)

end RoundingInterval

/-- The shortest decimal number that rounds to a positive value; seventeen digits always suffice. -/
def Dyadic.shortest (x : Dyadic) : Decimal :=
  let interval := x.interval
  (interval.search 17 (leadingPower interval.value interval.denominator)).getD ⟨x.mantissa, 0⟩

/-- How the digits of a double are laid out. -/
structure FloatLayout where
  /-- The least power of the leading digit that is written without an exponent. -/
  positionalFrom : Int
  /-- The first power of the leading digit that is written with an exponent again. -/
  positionalBelow : Int
  /-- The least number of digits of an exponent. -/
  exponentWidth : Nat
  /-- The text of infinity. -/
  infinity : String
  /-- The text of what is not a number. -/
  notANumber : String
  deriving Repr

/-- Drops zeros from the end. -/
def dropTrailingZeros (digits : List Char) : List Char :=
  (digits.reverse.dropWhile (· == '0')).reverse

namespace FloatLayout

/-- Writes digits whose first one has the given power of ten without an exponent; a point and a
zero follow an integer. -/
def positional (digits : List Char) (lead : Int) : List Char :=
  if lead < 0 then
    '0' :: '.' :: List.replicate (-lead - 1).toNat '0' ++ digits
  else
    let whole := (lead + 1).toNat
    let padded := digits ++ List.replicate (whole - digits.length) '0'
    let fraction := padded.drop whole
    padded.take whole ++ '.' :: if fraction.isEmpty then ['0'] else fraction

/-- Writes digits whose first one has the given power of ten with an exponent; a single digit has no
point. -/
def scientific (layout : FloatLayout) (digits : List Char) (lead : Int) : List Char :=
  let exponent := Nat.toDigits 10 lead.natAbs
  let fraction := digits.drop 1
  digits.take 1 ++ (if fraction.isEmpty then [] else '.' :: fraction) ++
    'e' :: (if lead < 0 then '-' else '+') ::
      List.replicate (layout.exponentWidth - exponent.length) '0' ++ exponent

/-- The characters of a finite value without its sign. -/
def magnitude (layout : FloatLayout) (x : Dyadic) : List Char :=
  if x.mantissa = 0 then positional ['0'] 0
  else
    let decimal := x.shortest
    let written := Nat.toDigits 10 decimal.digits
    let lead := decimal.power + written.length - 1
    let digits := dropTrailingZeros written
    if layout.positionalFrom ≤ lead ∧ lead < layout.positionalBelow then positional digits lead
    else layout.scientific digits lead

/-- The text of a double in this layout. -/
def write (layout : FloatLayout) (x : Float) : String :=
  match dyadic? x with
  | some value =>
    let magnitude := layout.magnitude value
    String.ofList (if value.negative then '-' :: magnitude else magnitude)
  | none =>
    if x == x then (if 0 < x then layout.infinity else "-" ++ layout.infinity)
    else layout.notANumber

end FloatLayout

/-- Floats are written without an exponent from `0.0001` to just below `10 ^ 16`; an exponent has at
least two digits. -/
def floatLayout : FloatLayout where
  positionalFrom := -4
  positionalBelow := 16
  exponentWidth := 2
  infinity := "inf"
  notANumber := "nan"

end NumberFeed.Number
