import NumberFeed.Number.Shortest

/-!
# Doubles with a chosen number of digits

A double is written with so many places after the point, with an exponent, or in whichever of the
two ways is the shorter for so many digits in all. The exact value is rounded once, a half to the
even digit.
-/

namespace NumberFeed.Number

/-- The ways to write a double with a chosen number of digits. -/
inductive FloatStyle
  /-- So many places after the point. -/
  | fixed
  /-- One digit before the point, so many after it, and an exponent. -/
  | scientific
  /-- So many digits in all, with an exponent only where it is far from zero. -/
  | general
  deriving DecidableEq, Repr

/-- The magnitude in units of `10 ^ -places`, rounded. -/
def Dyadic.roundedTo (x : Dyadic) (places : Int) : Nat :=
  roundHalfEven (x.numerator.natAbs * Nat.pow 10 places.toNat)
    (x.denominator * Nat.pow 10 (-places).toNat)

/-- The leading `count` digits of a magnitude, rounded, and the power of ten of the first one. -/
def Dyadic.leadingDigits (x : Dyadic) (count : Nat) : List Char × Int :=
  if x.mantissa = 0 then (List.replicate count '0', 0)
  else
    let lead := leadingPower x.numerator.natAbs x.denominator
    let digits := Nat.toDigits 10 (x.roundedTo (count - 1 - lead))
    if digits.length = count then (digits, lead) else (digits.take count, lead + 1)

namespace FloatStyle

/-- Digits before and after a point. The point is left out where nothing follows it, unless it is
asked for. -/
def pointed (keepPoint : Bool) (whole fraction : List Char) : List Char :=
  whole ++ (if fraction.isEmpty && !keepPoint then [] else '.' :: fraction)

/-- Digits with a number of places after the point, at least one digit before it. -/
def fixedDigits (keepPoint : Bool) (digits : List Char) (places : Nat) : List Char :=
  let padded := List.replicate (places + 1 - digits.length) '0' ++ digits
  pointed keepPoint (padded.take (padded.length - places)) (padded.drop (padded.length - places))

/-- Digits of which the first one has the given power of ten, with an exponent. -/
def scientificDigits (keepPoint : Bool) (digits : List Char) (lead : Int) : List Char :=
  let exponent := Nat.toDigits 10 lead.natAbs
  pointed keepPoint (digits.take 1) (digits.drop 1) ++
    'e' :: (if lead < 0 then '-' else '+') ::
      List.replicate (2 - exponent.length) '0' ++ exponent

/-- Drops the zeros at the end of digits, but not the first digit. -/
def withoutTrailingZeros (digits : List Char) : List Char :=
  digits.take 1 ++ dropTrailingZeros (digits.drop 1)

/-- A magnitude with so many digits in all. Zeros at the end of the fraction are dropped unless they
are asked for, together with the point. -/
def generalDigits (keepPoint : Bool) (x : Dyadic) (count : Nat) : List Char :=
  let (digits, lead) := x.leadingDigits count
  if -4 ≤ lead ∧ lead < count then
    let padded := List.replicate (-lead).toNat '0' ++ digits
    let whole := max 1 (lead + 1).toNat
    let fraction := padded.drop whole
    pointed keepPoint (padded.take whole)
      (if keepPoint then fraction else dropTrailingZeros fraction)
  else scientificDigits keepPoint (if keepPoint then digits else withoutTrailingZeros digits) lead

/-- The characters of a magnitude with the given precision. -/
def magnitude (style : FloatStyle) (keepPoint : Bool) (precision : Nat) (x : Dyadic) : List Char :=
  match style with
  | fixed => fixedDigits keepPoint (Nat.toDigits 10 (x.roundedTo precision)) precision
  | scientific =>
    let (digits, lead) := x.leadingDigits (precision + 1)
    scientificDigits keepPoint digits lead
  | general => generalDigits keepPoint x (max 1 precision)

/-- Whether a double is written with a minus sign, and the characters after the sign. -/
def write (style : FloatStyle) (keepPoint : Bool) (precision : Nat) (x : Float) :
    Bool × List Char :=
  match dyadic? x with
  | some value => (value.negative, style.magnitude keepPoint precision value)
  | none =>
    if x == x then (decide (x < 0), floatLayout.infinity.toList)
    else (false, floatLayout.notANumber.toList)

end FloatStyle

end NumberFeed.Number
