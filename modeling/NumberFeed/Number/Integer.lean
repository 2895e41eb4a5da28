import NumberFeed.Failure
import NumberFeed.Text.Blank
import NumberFeed.Text.Digit

/-!
# Integers as text

An integer is written in decimal, and read from a sign, digits of any script with single underscores
between them, and padding on both sides. Neither direction handles more than `digitLimit` digits;
signs and underscores do not count, leading zeros do.
-/

namespace NumberFeed.Number

open NumberFeed.Text

/-- The greatest number of decimal digits that is written or read. -/
def digitLimit : Nat := 4300

/-- The decimal text of an integer, as characters. -/
def decimal (n : Int) : List Char :=
  let digits := Nat.toDigits 10 n.natAbs
  if n < 0 then '-' :: digits else digits

/-- Writes an integer that has no more than `digitLimit` digits. -/
def write (n : Int) : Except Failure String :=
  if (Nat.toDigits 10 n.natAbs).length ≤ digitLimit then .ok (String.ofList (decimal n))
  else .error .tooManyDigits

/-- Drops the padding at both ends. -/
def trim (pads : Char → Bool) (cs : List Char) : List Char :=
  ((cs.dropWhile pads).reverse.dropWhile pads).reverse

/-- Splits off an optional sign; `true` stands for the minus sign. -/
def splitSign : List Char → Bool × List Char
  | '-' :: rest => (true, rest)
  | '+' :: rest => (false, rest)
  | cs => (false, cs)

/-- The values of a nonempty run of digits, in which single underscores may stand between digits. -/
def digitRun? (digit : Char → Option Nat) : List Char → Option (List Nat)
  | [] => none
  | c :: rest =>
    match digit c with
    | none => none
    | some value =>
      match rest with
      | [] => some [value]
      | '_' :: more => (digitRun? digit more).map (value :: ·)
      | next :: more => (digitRun? digit (next :: more)).map (value :: ·)

/-- Reads an integer from characters, of which those with `pads` pad it and those with a `digit`
value are its digits. -/
def readWith (pads : Char → Bool) (digit : Char → Option Nat) (cs : List Char) :
    Except Failure Int :=
  let (negative, body) := splitSign (trim pads cs)
  match digitRun? digit body with
  | none => .error .malformedInteger
  | some values =>
    if values.length ≤ digitLimit then
      .ok (if negative then -(ofDigits 0 values : Int) else ofDigits 0 values)
    else .error .tooManyDigits

/-- Reads an integer from a text, with digits and padding of every script. -/
def read (text : String) : Except Failure Int :=
  readWith isPadding digitValue? text.toList

/-- Reads an integer from bytes, with digits and padding of ASCII. -/
def readBytes (bytes : List UInt8) : Except Failure Int :=
  readWith isAsciiPadding asciiDigitValue? (bytes.map fun byte => Char.ofNat byte.toNat)

end NumberFeed.Number
