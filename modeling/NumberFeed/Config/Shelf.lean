import NumberFeed.Config.Configuration

/-!
# A shelf of configurations

Several configurations that are made and changed over time, each at its place. A new one takes the
next place and is filled from the present contents of others; setting a value changes the one
configuration and leaves the rest alone, because every configuration owns its entries.
-/

namespace NumberFeed

/-- Configurations by their place. -/
structure Shelf where
  /-- The configuration at each place. -/
  contents : List Configuration

namespace Shelf

/-- The shelf without configurations. -/
def empty : Shelf := ⟨[]⟩

/-- The configuration at a place. -/
def get? (shelf : Shelf) (place : Nat) : Option Configuration :=
  shelf.contents[place]?

/-- Puts a configuration at the next place. -/
def add (shelf : Shelf) (configuration : Configuration) : Shelf × Nat :=
  (⟨shelf.contents ++ [configuration]⟩, shelf.contents.length)

/-- Makes a configuration at the next place, out of a copy of the one at another place and data put
over it. -/
def make (shelf : Shelf) (other : Option Nat) (data : Entries) : Shelf × Nat :=
  shelf.add (.make (other.bind shelf.get?) data)

/-- Replaces the configuration at a place. -/
def replace (shelf : Shelf) (place : Nat) (configuration : Configuration) : Shelf :=
  ⟨shelf.contents.set place configuration⟩

/-- Sets a value in the configuration at a place. -/
def set (shelf : Shelf) (place : Nat) (setting : Setting) (value : Value) : Except Failure Shelf :=
  match shelf.get? place with
  | none => .error .noSuchOperation
  | some configuration => (configuration.set setting value).map (shelf.replace place)

/-- What is added stands at the place that comes with it. -/
@[simp] theorem get?_add (shelf : Shelf) (configuration : Configuration) :
    (shelf.add configuration).1.get? (shelf.add configuration).2 = some configuration := by
  simp [add, get?]

/-- The other places keep what they had. -/
theorem get?_replace_of_ne (shelf : Shelf) {place other : Nat} (h : place ≠ other)
    (configuration : Configuration) :
    (shelf.replace place configuration).get? other = shelf.get? other := by
  simp [replace, get?, List.getElem?_set_ne h]

end Shelf

end NumberFeed
