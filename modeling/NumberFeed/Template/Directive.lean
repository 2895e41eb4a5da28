import NumberFeed.Text.Digit

/-!
# Directives of a template

A template is a text with directives. A directive opens with a percent sign and closes with a letter
that says what the argument is shown as; in between stand flags, a width, a point with a precision,
and one sign of size, which says nothing. Instead of its digits a width or a precision may have a
star, and is then taken from the arguments. `pieces` takes a template apart character by character:
what may follow in a directive depends only on the `Stage` that has been reached.
-/

namespace NumberFeed.Template

/-- A width or a precision. -/
inductive Amount
  /-- None is given. -/
  | absent
  /-- It is written in the template. -/
  | fixed (n : Nat)
  /-- It is the next argument. -/
  | taken
  deriving DecidableEq, Repr

/-- An amount with a further digit behind those it has. -/
def Amount.digit (amount : Amount) (value : Nat) : Amount :=
  match amount with
  | fixed n => fixed (10 * n + value)
  | _ => fixed value

/-- What a directive says besides its letter. -/
structure Directive where
  /-- Whether blanks go behind. -/
  leftAligned : Bool
  /-- Whether a number without minus sign gets a plus sign. -/
  plus : Bool
  /-- Whether a number without any sign gets a blank. -/
  blank : Bool
  /-- Whether the base of an integer and the point of a float are always shown. -/
  marked : Bool
  /-- Whether a number is filled up with zeros. -/
  zeros : Bool
  /-- The least number of characters. -/
  width : Amount
  /-- The number of digits, or of characters of a text. -/
  precision : Amount
  deriving DecidableEq, Repr

namespace Directive

/-- The directive that says nothing. -/
def plain : Directive := ⟨false, false, false, false, false, .absent, .absent⟩

/-- The directive with the flag that a character is, if it is one. -/
def withFlag? (directive : Directive) (c : Char) : Option Directive :=
  if c = '-' then some { directive with leftAligned := true }
  else if c = '+' then some { directive with plus := true }
  else if c = ' ' then some { directive with blank := true }
  else if c = '#' then some { directive with marked := true }
  else if c = '0' then some { directive with zeros := true }
  else none

end Directive

/-- What has been read of a directive last. -/
inductive Stage
  /-- The percent sign. -/
  | percent
  /-- Flags. -/
  | flags
  /-- Digits of the width. -/
  | width
  /-- A width that is taken from the arguments. -/
  | widthTaken
  /-- The point. -/
  | point
  /-- Digits of the precision. -/
  | precision
  /-- A precision that is taken from the arguments. -/
  | precisionTaken
  /-- A sign of size. -/
  | size
  deriving DecidableEq, Repr

/-- What a character makes of a directive. -/
inductive Progress
  /-- The directive goes on. -/
  | opened (stage : Stage) (directive : Directive)
  /-- The character is its letter. -/
  | closed (directive : Directive) (letter : Char)
  deriving DecidableEq, Repr

namespace Directive

/-- Reads a character that may be a sign of size. -/
def readSize (directive : Directive) (c : Char) : Progress :=
  if c = 'h' ∨ c = 'l' ∨ c = 'L' then .opened .size directive else .closed directive c

/-- Reads a character that may belong to the digits of the precision. -/
def readPrecision (directive : Directive) (c : Char) : Progress :=
  match Text.asciiDigitValue? c with
  | some value =>
    .opened .precision { directive with precision := directive.precision.digit value }
  | none => directive.readSize c

/-- Reads a character that may be the point. -/
def readPoint (directive : Directive) (c : Char) : Progress :=
  if c = '.' then .opened .point { directive with precision := .fixed 0 }
  else directive.readSize c

/-- Reads a character that may belong to the digits of the width. -/
def readWidth (directive : Directive) (c : Char) : Progress :=
  match Text.asciiDigitValue? c with
  | some value => .opened .width { directive with width := directive.width.digit value }
  | none => directive.readPoint c

/-- Reads the next character of a directive. -/
def read (directive : Directive) (c : Char) : Stage → Progress
  | .percent | .flags =>
    match directive.withFlag? c with
    | some flagged => .opened .flags flagged
    | none =>
      if c = '*' then .opened .widthTaken { directive with width := .taken }
      else directive.readWidth c
  | .width => directive.readWidth c
  | .widthTaken => directive.readPoint c
  | .point =>
    if c = '*' then .opened .precisionTaken { directive with precision := .taken }
    else directive.readPrecision c
  | .precision => directive.readPrecision c
  | .precisionTaken => directive.readSize c
  | .size => .closed directive c

end Directive

/-- A part of a template. -/
inductive Piece
  /-- A character that stands for itself. -/
  | char (c : Char)
  /-- A directive that asks for an argument by its key; arguments have none. -/
  | keyed
  /-- A directive with its letter, which is missing when the template ends too early. -/
  | directive (directive : Directive) (letter : Option Char)
  deriving DecidableEq, Repr

/-- Where a character of a template stands. -/
inductive Position
  /-- Outside of directives. -/
  | outside
  /-- In a directive of which so much has been read. -/
  | inside (stage : Stage) (directive : Directive)
  deriving DecidableEq, Repr

/-- The pieces of the rest of a template. Directly after the percent sign, a second one is a
character, and a bracket opens a key. -/
def piecesFrom : Position → List Char → List Piece
  | .outside, [] => []
  | .outside, c :: rest =>
    if c = '%' then piecesFrom (.inside .percent .plain) rest
    else .char c :: piecesFrom .outside rest
  | .inside _ directive, [] => [.directive directive none]
  | .inside stage directive, c :: rest =>
    if stage = .percent ∧ c = '%' then .char '%' :: piecesFrom .outside rest
    else if stage = .percent ∧ c = '(' then .keyed :: piecesFrom .outside rest
    else
      match directive.read c stage with
      | .opened stage directive => piecesFrom (.inside stage directive) rest
      | .closed directive letter =>
        .directive directive (some letter) :: piecesFrom .outside rest

/-- The pieces of a template in order. -/
def pieces (template : List Char) : List Piece := piecesFrom .outside template

/-- A percent sign that is written twice is one character. -/
theorem pieces_percent (rest : List Char) :
    pieces ('%' :: '%' :: rest) = .char '%' :: pieces rest := rfl

/-- The letter directly after a percent sign makes a plain directive. -/
theorem pieces_shown (rest : List Char) :
    pieces ('%' :: 's' :: rest) = .directive .plain (some 's') :: pieces rest := rfl

end NumberFeed.Template
