import NumberFeed.Workspace.Object

/-!
# Present contents

The form of an object holds a copy of what changes over time. `Present` is what all timestamp
functions and configurations are like at a moment, and `refresh` brings a value up to that moment,
however deep the objects lie within it. A configuration holds only objects that were there before
it, so that the configurations are brought up to date in the order of their places.
-/

namespace NumberFeed

/-- What changes over time, as it is at a moment. -/
structure Present where
  /-- The formulas of the timestamp functions, by cell. -/
  formulas : List (Option StampFormula)
  /-- The entries of the configurations, by place. -/
  contents : List Entries

namespace Present

/-- The formula of the timestamp function in a cell. -/
def formulaAt (present : Present) (cell : Nat) : Option StampFormula :=
  present.formulas[cell]?.join

/-- The entries of the configuration at a place. -/
def entriesAt (present : Present) (place : Nat) : Entries :=
  present.contents[place]?.getD []

mutual

/-- A value with the present contents of the objects within it. -/
def refresh (present : Present) : Value → Value
  | .list items => .list (refreshAll present items)
  | .tuple items => .tuple (refreshAll present items)
  | .dict entries => .dict (refreshEntries present entries)
  | .object mark form => .object mark (refreshForm present form)
  | value => value

/-- A form with its present contents. -/
def refreshForm (present : Present) : Form → Form
  | .stamper cell _ => .stamper cell (present.formulaAt cell)
  | .element value timestamp => .element (refresh present value) (refresh present timestamp)
  | .configuration place _ => .configuration place (present.entriesAt place)
  | .unboundedInput stamper records time =>
    .unboundedInput (refresh present stamper) records (refresh present time)
  | .counting kept => .counting (refresh present kept)
  | .read bounded mark source => .read bounded mark (refresh present source)
  | .limitedRead limits mark source => .limitedRead limits mark (refresh present source)
  | .collection bounded producer => .collection bounded (refresh present producer)
  | form => form

/-- Values with the present contents of the objects within them. -/
def refreshAll (present : Present) : List Value → List Value
  | [] => []
  | value :: rest => refresh present value :: refreshAll present rest

/-- Entries with the present contents of the objects within them. -/
def refreshEntries (present : Present) : List (Value × Value) → List (Value × Value)
  | [] => []
  | (key, value) :: rest =>
    (refresh present key, refresh present value) :: refreshEntries present rest

end

/-- What changes over time, as it is with the given timestamp functions and configurations. -/
def make (stampers : List Stamper) (shelf : Shelf) : Present :=
  shelf.contents.foldl
    (fun present configuration =>
      { present with contents :=
          present.contents ++ [present.refreshEntries configuration.entries] })
    ⟨stampers.map Stamper.formula?, []⟩

end Present

end NumberFeed
