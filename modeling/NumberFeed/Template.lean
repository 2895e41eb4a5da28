import NumberFeed.Template.Field

/-!
# Message templates

A template is a text in which directives stand for arguments: `%s` for the text of one, `%d` for one
in decimal and `%%` for a percent sign. `fill` puts arguments in, from left to right, and needs
exactly as many as there are places for them. What an argument contributes is not looked at again. A
template may also be written in bytes.
-/

namespace NumberFeed.Template

/-- How the argument of a directive becomes a field. -/
abbrev Conversion := Directive → Option Nat → Char → Value → Except Failure Field

/-- The greatest width. -/
def greatestWidth : Int := 0x7fffffffffffffff

/-- The greatest precision. -/
def greatestPrecision : Int := 0x7fffffff

/-- An amount as a number, and the arguments after it. It is written in the template or taken from
the arguments, and does not go beyond its limit. -/
def amount (limit : Int) (amount : Amount) (args : List Value) :
    Except Failure (Option Int × List Value) :=
  match amount, args with
  | .absent, args => .ok (none, args)
  | .fixed n, args =>
    if (n : Int) ≤ limit then .ok (some n, args) else .error .malformedTemplate
  | .taken, [] => .error .wrongType
  | .taken, arg :: args => do
    let n ← arg.wholeNumber
    if -limit - 1 ≤ n ∧ n ≤ limit then .ok (some n, args) else .error .tooLarge

/-- The extent of a directive, and the arguments after it. A negative width puts blanks behind, and
a negative precision counts as zero. -/
def extent (directive : Directive) (args : List Value) : Except Failure (Extent × List Value) := do
  let (width, args) ← amount greatestWidth directive.width args
  let (precision, args) ← amount greatestPrecision directive.precision args
  return ({
    leftAligned := directive.leftAligned || width.any (· < 0)
    width := (width.getD 0).natAbs
    precision := precision.map Int.toNat }, args)

/-- Puts the next arguments in for a directive, and gives back the arguments after them. -/
def place (convert : Conversion) (directive : Directive) (letter : Option Char)
    (args : List Value) : Except Failure (List Char × List Value) := do
  let (extent, args) ← extent directive args
  match letter, args with
  | none, _ => .error .malformedTemplate
  | some _, [] => .error .wrongType
  | some letter, arg :: args => do
    let field ← convert directive extent.precision letter arg
    return (field.layout directive extent, args)

/-- Puts arguments in for the directives and needs all of them. -/
def fill (convert : Conversion) : List Piece → List Value → Except Failure (List Char)
  | [], [] => .ok []
  | [], _ :: _ => .error .wrongType
  | .char c :: rest, args => (fill convert rest args).map (c :: ·)
  | .keyed :: _, _ => .error .wrongType
  | .directive directive letter :: rest, args => do
    let (shown, args) ← place convert directive letter args
    let others ← fill convert rest args
    return shown ++ others

/-- The text that a template and its arguments make. -/
def format (template : String) (args : List Value) : Except Failure String :=
  (fill Field.ofValue (pieces template.toList) args).map String.ofList

/-- The bytes that a template in bytes and its arguments make. -/
def formatBytes (template : List UInt8) (args : List Value) : Except Failure (List UInt8) :=
  (fill Field.ofValueInBytes (pieces (Text.bytesAsChars template)) args).map
    (List.map fun c => UInt8.ofNat c.toNat)

/-- A plain placeholder for a text takes one argument and shows it. -/
theorem place_shown (arg : Value) (args : List Value) :
    place Field.ofValue .plain (some 's') (arg :: args) =
      arg.shown.map fun shown => (shown.toList, args) := by
  have laid (text : List Char) := Field.layout_ofText text
  cases shown : arg.shown <;>
    simp_all [place, extent, amount, Directive.plain, Field.ofValue, Field.ofCutText, Except.map,
      bind, Except.bind, pure, Except.pure]

end NumberFeed.Template
