import NumberFeed.Workspace.Argument
import NumberFeed.Workspace.Item
import NumberFeed.Workspace.Present

/-!
# The workspace

A workspace holds items under names, and what changes over time: timestamp functions, configurations
and readers, each in a place of its own. Work on it is done in sessions: a session may fail, and
keeps what it has changed up to then.
-/

namespace NumberFeed

/-- Named items and all that changes over time. -/
structure Workspace where
  /-- The items by their names. -/
  items : List (String × Item)
  /-- The timestamp functions, each in its cell. -/
  stampers : List Stamper
  /-- The configurations. -/
  shelf : Shelf
  /-- The readers, each in its cell. -/
  readers : List Reader
  /-- The configuration of the pipeline. -/
  pipeline : Item
  /-- The mark for the next new object. -/
  nextMark : Nat
  /-- The surroundings. -/
  around : Surroundings

/-- Work on a workspace. -/
abbrev Session := ExceptT Failure (StateM Workspace)

namespace Workspace

/-- A workspace without items, whose pipeline has an empty configuration. The marks of values that
are given from outside are below `firstMark`. -/
def new (around : Surroundings) (firstMark : Nat) : Workspace where
  items := []
  stampers := []
  shelf := ⟨[.empty]⟩
  readers := []
  pipeline := ⟨firstMark, .object firstMark (.configuration 0 [])⟩
  nextMark := firstMark + 1
  around

/-- A value with the present contents of the objects within it. -/
def refresh (workspace : Workspace) (value : Value) : Value :=
  (Present.make workspace.stampers workspace.shelf).refresh value

/-- The item of a name with its present contents. -/
def find? (workspace : Workspace) (name : String) : Option Item :=
  (workspace.items.find? (·.1 == name)).map fun entry =>
    { entry.2 with value := workspace.refresh entry.2.value }

/-- Gives an item a name, which it takes from the item that had it before. -/
def name (workspace : Workspace) (name : String) (item : Item) : Workspace :=
  { workspace with items := (name, item) :: workspace.items.filter (·.1 != name) }

/-- The timestamp function in a cell. -/
def stamperAt (workspace : Workspace) (cell : Nat) : Stamper :=
  workspace.stampers[cell]?.getD .now

/-- The configuration at a place with its present contents. -/
def configurationAt (workspace : Workspace) (place : Nat) : Configuration :=
  ⟨(Present.make workspace.stampers workspace.shelf).entriesAt place⟩

end Workspace

namespace Session

/-- Goes on with a result, or fails with it. -/
def lift {α : Type} (result : Except Failure α) : Session α :=
  match result with
  | .ok result => pure result
  | .error cause => throw cause

/-- A mark that no object has. -/
def newMark : Session Nat :=
  modifyGet fun workspace =>
    (workspace.nextMark, { workspace with nextMark := workspace.nextMark + 1 })

/-- A new object of a form. -/
def make (form : Form) : Session Value :=
  return .object (← newMark) form

/-- The item of a value. An object has its own mark, another value gets a new one. -/
def itemOf (value : Value) : Session Item :=
  match value with
  | .object mark _ => return ⟨mark, value⟩
  | value => return ⟨← newMark, value⟩

/-- The item of a new object. -/
def makeItem (form : Form) : Session Item :=
  make form >>= itemOf

/-- A new timestamp function, which gets a cell of its own. -/
def makeStamper (stamper : Stamper) : Session Value :=
  match stamper with
  | .uncallable value => return value
  | stamper => do
    let workspace ← get
    set { workspace with stampers := workspace.stampers ++ [stamper] }
    make (.stamper workspace.stampers.length stamper.formula?)

/-- A new configuration, out of the one at a place and data. -/
def makeConfiguration (other : Option Nat) (data : Entries) : Session Value := do
  let workspace ← get
  let (shelf, place) := workspace.shelf.make other data
  set { workspace with shelf }
  make (.configuration place ((shelf.get? place).getD .empty).entries)

/-- A new reader, which gets a cell of its own. -/
def makeReader (reader : Reader) (valuesOnly : Bool) : Session Value := do
  let workspace ← get
  set { workspace with readers := workspace.readers ++ [reader] }
  make (.reader workspace.readers.length valuesOnly)

/-- A new source, read or whatever stands in the place of one. -/
def makeSource : Source → Session Value
  | .range start stop => make (.range start stop)
  | .counting stamper => do
    let kept ← makeStamper stamper
    make (.counting kept)
  | .read bounded source => do
    let item ← makeSource source >>= itemOf
    make (.read bounded item.mark item.value)
  | .limited limits source => do
    let item ← makeSource source >>= itemOf
    make (.limitedRead limits item.mark item.value)
  | .foreign value => return value

/-- A new input that has the given timestamp function. -/
def makeInput (stamper : Value) (input : UnboundedInput) : Session Item :=
  makeItem (.unboundedInput stamper input.maxRecords input.maxReadTime)

/-- Does what changes the surroundings. -/
def within {α : Type} (act : Surroundings → Pipeline.Result α) : Session α := do
  let workspace ← get
  let (result, around) := act workspace.around
  set { workspace with around }
  lift result

/-- The item that an argument makes: the very item of a name, or a new one. -/
def resolve (argument : Argument) : Session Item := do
  let workspace ← get
  match argument with
  | .named name =>
    match workspace.find? name with
    | some item => return item
    | none => throw (.unboundName name)
  | argument =>
    let value ← lift (argument.eval fun name =>
      match workspace.find? name with
      | some item => .ok item.value
      | none => .error (.unboundName name))
    return ⟨← newMark, value⟩

/-- The item that an argument makes, if there is one. -/
def resolve? : Option Argument → Session (Option Item)
  | some argument => some <$> resolve argument
  | none => pure none

/-- The value of an argument. -/
def resolveValue (argument : Argument) : Session Value :=
  Item.value <$> resolve argument

/-- The value of an argument, absent when the argument is left out. -/
def resolveValue? : Option Argument → Session Value
  | some argument => resolveValue argument
  | none => pure .null

end Session

end NumberFeed
