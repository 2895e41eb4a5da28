import NumberFeed.Number.Shortest
import NumberFeed.Text.Quoted
import NumberFeed.Value.Wording

/-!
# The text of a value

A value has a literal, in which texts are quoted, and a text, which differs from the literal only
for a text itself and for a calendar span. What stands inside a container is shown by its literal,
what stands inside an object by its text, except in an input without bound. A configuration shows
the texts of its values, each of them quoted. A reader is told by its place, as it has no parts that
could be shown.
-/

namespace NumberFeed.Value

open NumberFeed.Text

mutual

/-- The literal of a value, or else its text. -/
def render (asLiteral : Bool) : Value → Except Failure String
  | null => .ok Wording.absent
  | bool b => .ok (if b then "True" else "False")
  | int n => Number.write n
  | float x => .ok (Number.floatLayout.write x)
  | nan _ => .ok Number.floatLayout.notANumber
  | text s => .ok (if asLiteral then quoted s else s)
  | bytes bs => .ok (quotedBytes bs)
  | list items => (literals items).map fun shown => "[" ++ Wording.commaSeparated shown ++ "]"
  | tuple items =>
    (literals items).map fun shown =>
      "(" ++ Wording.commaSeparated shown ++ (if shown.length = 1 then ",)" else ")")
  | dict entries => (entryLiterals entries).map Wording.mapping
  | duration d => d.text
  | span s => if asLiteral then s.literal else s.text
  | instant i => i.text
  | moment m _ => .ok m.text
  | object _ form => formText form

/-- The text of an object. -/
def formText : Form → Except Failure String
  | .stamper _ formula => Wording.stamper formula
  | .element value timestamp => do
    let shownValue ← render false value
    let shownTimestamp ← render false timestamp
    return Wording.element shownValue shownTimestamp
  | .configuration _ entries => (entryTexts entries).map Wording.mapping
  | .boundedInput count => Wording.boundedInput count
  | .unboundedInput stamper records time => do
    let shownStamper ← render true stamper
    let shownTime ← render true time
    Wording.unboundedInput shownStamper records shownTime
  | .range start stop => Wording.range start stop
  | .counting _ => .ok Wording.counting
  | .read _ _ source => (render false source).map Wording.read
  | .limitedRead limits _ source => render false source >>= Wording.limitedRead limits
  | .collection bounded producer => (render false producer).map (Wording.collection bounded)
  | .reader cell _ => .ok (Wording.reader cell)

/-- The literals of values in order. -/
def literals : List Value → Except Failure (List String)
  | [] => .ok []
  | value :: rest => do
    let shown ← render true value
    let others ← literals rest
    return shown :: others

/-- The literals of keys and values with a colon between them. -/
def entryLiterals : List (Value × Value) → Except Failure (List String)
  | [] => .ok []
  | (key, value) :: rest => do
    let shownKey ← render true key
    let shownValue ← render true value
    let others ← entryLiterals rest
    return (shownKey ++ ": " ++ shownValue) :: others

/-- The literals of keys and the quoted texts of values with a colon between them. -/
def entryTexts : List (Value × Value) → Except Failure (List String)
  | [] => .ok []
  | (key, value) :: rest => do
    let shownKey ← render true key
    let shownValue ← render false value
    let others ← entryTexts rest
    return (shownKey ++ ": " ++ quoted shownValue) :: others

end

/-- The literal of a value. -/
def literal (value : Value) : Except Failure String := value.render true

/-- The text of a value. -/
def shown (value : Value) : Except Failure String := value.render false

/-- Keys with the texts of their values. -/
def textEntries (entries : List (Value × Value)) : Except Failure (List (Value × Value)) :=
  entries.mapM fun entry => entry.2.shown.map fun shown => (entry.1, .text shown)

end NumberFeed.Value
