import NumberFeed.Number.Rounded
import NumberFeed.Template.Directive
import NumberFeed.Value.Numeric
import NumberFeed.Value.Text

/-!
# Fields of a filled template

A field is what a directive makes of its argument: a text, cut off at the precision, or a number,
whose sign and mark stand apart because zeros may come between them and the digits. `ofValue` makes
the field of a text template and `ofValueInBytes` that of a template in bytes, which takes bytes
where the other one takes anything; `layout` brings a field to its width.
-/

namespace NumberFeed.Template

/-- A width and a precision in numbers, with the side on which blanks go. -/
structure Extent where
  /-- Whether blanks go behind. -/
  leftAligned : Bool
  /-- The least number of characters. -/
  width : Nat
  /-- The number of digits, or of characters of a text. -/
  precision : Option Nat
  deriving DecidableEq, Repr

/-- What a directive makes of its argument. -/
structure Field where
  /-- Whether it is a number, which may have a sign and be filled up with zeros. -/
  numeric : Bool
  /-- Whether it is a negative number. -/
  negative : Bool
  /-- The mark of the base of an integer. -/
  mark : List Char
  /-- The characters after sign and mark. -/
  body : List Char
  deriving DecidableEq, Repr

namespace Field

/-- The field of a text. -/
def ofText (body : List Char) : Field := ⟨false, false, [], body⟩

/-- The field of a text that is cut off at the precision. -/
def ofCutText (precision : Option Nat) (text : String) : Field :=
  ofText (match precision with | some count => text.toList.take count | none => text.toList)

/-- The greatest precision of an integer. -/
def greatestPrecision : Nat := 0x7ffffffc

/-- The field of an integer with at least as many digits as the precision says. -/
def ofDigits (precision : Option Nat) (mark : List Char) (negative : Bool) (digits : List Char) :
    Field :=
  ⟨true, negative, mark, List.replicate (precision.getD 0 - digits.length) '0' ++ digits⟩

/-- Fails when more digits of an integer are asked for than there can be. -/
def checkPrecision (precision : Option Nat) : Except Failure Unit :=
  if precision.any fun count => decide (greatestPrecision < count) then .error .tooLarge else .ok ()

/-- The field of a number in decimal, without the fraction. -/
def decimal (precision : Option Nat) (value : Value) : Except Failure Field := do
  let n ← if value.isNumber then value.toInt else .error .wrongType
  checkPrecision precision
  let digits ← Number.write n.natAbs
  return ofDigits precision [] (n < 0) digits.toList

/-- The field of an integer in another base, with the mark of the base if it is wanted. -/
def inBase (base : Nat) (mark : List Char) (precision : Option Nat) (value : Value) :
    Except Failure Field := do
  let n ← value.wholeNumber
  checkPrecision precision
  return ofDigits precision mark (n < 0) (Nat.toDigits base n.natAbs)

/-- The field of a number as a double in the given style. -/
def ofFloat (style : Number.FloatStyle) (keepPoint : Bool) (precision : Option Nat)
    (value : Value) : Except Failure Field :=
  value.toFloat.map fun x =>
    let (negative, body) := style.write keepPoint (precision.getD 6) x
    ⟨true, negative, [], body⟩

/-- The same field in capital letters. -/
def capital (field : Field) : Field :=
  { field with mark := field.mark.map Char.toUpper, body := field.body.map Char.toUpper }

/-- The greatest code of a character. -/
def greatestCode : Nat := 0x10ffff

/-- The field of a single character: a text that is one, or an integer that is the code of one. -/
def character : Value → Except Failure Field
  | .text s =>
    match s.toList with
    | [c] => .ok (ofText [c])
    | _ => .error .wrongType
  | value => do
    let n ← value.wholeNumber
    if 0 ≤ n ∧ n ≤ greatestCode then .ok (ofText [Char.ofNat n.toNat]) else .error .tooLarge

/-- The field of a single byte: bytes that are one, or an integer that is one. -/
def byte : Value → Except Failure Field
  | .bytes [b] => .ok (ofText [Char.ofNat b.toNat])
  | value => do
    let n ← value.wholeNumber
    if 0 ≤ n ∧ n < 256 then .ok (ofText [Char.ofNat n.toNat]) else .error .tooLarge

/-- A literal with every character beyond ASCII by its number. -/
def asciiLiteral (value : Value) : Except Failure String :=
  value.literal.map fun literal =>
    String.ofList (literal.toList.flatMap fun c =>
      if c.toNat < 0x80 then [c] else Text.escapeByNumber c.toNat)

/-- The field that a letter asks for when the argument is a number. -/
def ofNumber (directive : Directive) (precision : Option Nat) (letter : Char) (value : Value) :
    Except Failure Field :=
  let marked (mark : String) := if directive.marked then mark.toList else []
  match letter with
  | 'd' | 'i' | 'u' => decimal precision value
  | 'o' => inBase 8 (marked "0o") precision value
  | 'x' => inBase 16 (marked "0x") precision value
  | 'X' => capital <$> inBase 16 (marked "0x") precision value
  | 'e' => ofFloat .scientific directive.marked precision value
  | 'E' => capital <$> ofFloat .scientific directive.marked precision value
  | 'f' => ofFloat .fixed directive.marked precision value
  | 'F' => capital <$> ofFloat .fixed directive.marked precision value
  | 'g' => ofFloat .general directive.marked precision value
  | 'G' => capital <$> ofFloat .general directive.marked precision value
  | _ => .error .malformedTemplate

/-- The field that a letter of a text template asks for. -/
def ofValue (directive : Directive) (precision : Option Nat) (letter : Char) (value : Value) :
    Except Failure Field :=
  match letter with
  | 's' => value.shown.map (ofCutText precision)
  | 'r' => value.literal.map (ofCutText precision)
  | 'a' => (asciiLiteral value).map (ofCutText precision)
  | 'c' => character value
  | letter => ofNumber directive precision letter value

/-- The field that a letter of a template in bytes asks for. A number that is no double is of the
wrong type here. -/
def ofValueInBytes (directive : Directive) (precision : Option Nat) (letter : Char)
    (value : Value) : Except Failure Field :=
  match letter, value with
  | 's', .bytes bs | 'b', .bytes bs =>
    .ok (ofCutText precision (String.ofList (Text.bytesAsChars bs)))
  | 's', _ | 'b', _ => .error .wrongType
  | 'r', value | 'a', value => (asciiLiteral value).map (ofCutText precision)
  | 'c', value => byte value
  | 'e', value | 'E', value | 'f', value | 'F', value | 'g', value | 'G', value =>
    match ofNumber directive precision letter value with
    | .ok field => .ok field
    | .error _ => .error .wrongType
  | letter, value => ofNumber directive precision letter value

/-- The sign of a field. -/
def sign (directive : Directive) (field : Field) : List Char :=
  if !field.numeric then []
  else if field.negative then ['-']
  else if directive.plus then ['+']
  else if directive.blank then [' ']
  else []

/-- A field brought to its width. -/
def layout (directive : Directive) (extent : Extent) (field : Field) : List Char :=
  let head := field.sign directive ++ field.mark
  let missing := extent.width - (head.length + field.body.length)
  if extent.leftAligned then head ++ field.body ++ List.replicate missing ' '
  else if directive.zeros && field.numeric then head ++ List.replicate missing '0' ++ field.body
  else List.replicate missing ' ' ++ head ++ field.body

/-- A plain directive shows the text of its argument as it is. -/
theorem layout_ofText (text : List Char) :
    (ofText text).layout .plain ⟨false, 0, none⟩ = text := by
  simp [ofText, layout, sign, Directive.plain]

end Field

end NumberFeed.Template
