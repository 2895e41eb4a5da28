import NumberFeed.Proofs.Reading.Run
import NumberFeed.Proofs.Workspace.Session

/-!
# Turns on a workspace

A turn is a command that takes elements from the reader of a name. It changes nothing but the reader
in its cell and the surroundings (`turn_of_reader`), and a turn on a name that stands for no reader
changes nothing at all (`turn_of_other`). What a name stands for is the same after every turn
(`cellOf?_turn`), so that the turns of a list can be told apart by their cells beforehand.
-/

namespace NumberFeed

/-- A turn takes up to a number of elements from the reader of a name. -/
structure Turn where
  /-- The name of the reader. -/
  name : String
  /-- How many elements are asked for. -/
  count : Nat

/-- The command of a turn, whose result gets no name. -/
def Turn.command (turn : Turn) : Command × Option String :=
  (.take (.named turn.name) turn.count, none)

/-- How many elements turns ask for in all. -/
def Turn.total : List Turn → Nat
  | [] => 0
  | turn :: rest => turn.count + total rest

namespace Workspace

/-- The cell of the reader that a name stands for, and whether it shows the values only. -/
def cellOf? (workspace : Workspace) (name : String) : Option (Nat × Bool) :=
  match (workspace.find? name).map Item.value with
  | some (.object _ (.reader cell valuesOnly)) => some (cell, valuesOnly)
  | _ => none

/-- The reader in a cell; where there is none, nothing is left to read. -/
def readerAt (workspace : Workspace) (cell : Nat) : Reader := workspace.readers[cell]?.getD .ended

/-- The surroundings with an empty log. -/
def unlogged (workspace : Workspace) : Surroundings := { workspace.around with log := [] }

/-- Takes a turn. -/
def turn (workspace : Workspace) (turn : Turn) : Report × Workspace :=
  workspace.perform turn.command.1 turn.command.2

/-- Takes turns in order. -/
def turns (workspace : Workspace) (turns : List Turn) : List Report × Workspace :=
  workspace.performAll (turns.map Turn.command)

/-- A name stands for the reader in a cell if its item is one. -/
theorem cellOf?_eq_some {workspace : Workspace} {name : String} {cell : Nat} {valuesOnly : Bool} :
    workspace.cellOf? name = some (cell, valuesOnly) ↔
      ∃ mark m, workspace.find? name = some ⟨mark, .object m (.reader cell valuesOnly)⟩ := by
  unfold cellOf?
  constructor
  · intro h
    rcases hfind : workspace.find? name with _ | ⟨mark, value⟩
    · rw [hfind] at h
      cases h
    · rw [hfind] at h
      simp only [Option.map] at h
      split at h
      · rename_i m _ _ heq
        cases h
        cases heq
        exact ⟨mark, m, rfl⟩
      · cases h
  · rintro ⟨mark, m, hfind⟩
    rw [hfind]
    rfl

section Turns

variable {workspace : Workspace} {turn : Turn}

/-- What a name stands for does not depend on the surroundings. -/
theorem find?_around (workspace : Workspace) (around : Surroundings) (name : String) :
    ({ workspace with around } : Workspace).find? name = workspace.find? name := rfl

/-- The session of a turn looks up its name first. -/
theorem on_turn (turn : Turn) (workspace : Workspace) :
    (Session.perform turn.command.1).on workspace =
      match workspace.find? turn.name with
      | some item => (Session.take item turn.count).on workspace
      | none => (.error (.unboundName turn.name), workspace) := by
  show ((Session.resolve (.named turn.name)) >>= fun target =>
    Session.take target turn.count).on workspace = _
  rw [Session.on_bind, Session.on_resolve_named]
  cases workspace.find? turn.name with
  | some item => rfl
  | none => rfl

/-- A turn takes elements from the reader in its cell and tells of them. -/
theorem turn_of_reader {cell : Nat} {valuesOnly : Bool}
    (h : workspace.cellOf? turn.name = some (cell, valuesOnly)) :
    workspace.turn turn =
      let taken := (workspace.readerAt cell).take turn.count workspace.unlogged
      (⟨.taken taken.elements taken.stop valuesOnly, taken.around.log⟩,
        { workspace with
          readers := workspace.readers.set cell taken.reader
          around := taken.around }) := by
  obtain ⟨mark, m, hfind⟩ := cellOf?_eq_some.mp h
  have hon := on_turn turn { workspace with around := workspace.unlogged }
  rw [find?_around, hfind] at hon
  unfold Session.on unlogged at hon
  unfold Workspace.turn perform
  simp only [hon]
  rfl

/-- A turn on a name that stands for no reader only empties the log. -/
theorem turn_of_other (h : workspace.cellOf? turn.name = none) :
    (workspace.turn turn).2 = { workspace with around := workspace.unlogged } := by
  have hon := on_turn turn { workspace with around := workspace.unlogged }
  rcases hfind : workspace.find? turn.name with _ | item
  · rw [find?_around, hfind] at hon
    unfold Session.on unlogged at hon
    unfold Workspace.turn perform
    simp only [hon]
    rfl
  · rw [find?_around, hfind] at hon
    simp only [Session.take] at hon
    split at hon
    · rename_i m cell valuesOnly hvalue
      have hcell := cellOf?_eq_some.mpr ⟨item.mark, m, by rw [hfind, ← hvalue]⟩
      rw [h] at hcell
      cases hcell
    · rw [Session.on_pure] at hon
      unfold Session.on unlogged at hon
      unfold Workspace.turn perform
      simp only [hon]
      rfl

/-- A name stands for the same reader after every turn. -/
theorem cellOf?_turn (turn : Turn) (workspace : Workspace) (name : String) :
    (workspace.turn turn).2.cellOf? name = workspace.cellOf? name := by
  rcases hcell : workspace.cellOf? turn.name with _ | ⟨cell, valuesOnly⟩
  · rw [turn_of_other hcell]
    rfl
  · rw [turn_of_reader hcell]
    rfl

/-- A turn takes elements from the reader in its cell. -/
theorem readerAt_turn {cell : Nat} {valuesOnly : Bool}
    (h : workspace.cellOf? turn.name = some (cell, valuesOnly)) :
    (workspace.turn turn).2.readerAt cell =
      ((workspace.readerAt cell).take turn.count workspace.unlogged).reader := by
  rw [turn_of_reader h]
  show ((workspace.readers.set cell _)[cell]?).getD .ended = _
  rcases Nat.lt_or_ge cell workspace.readers.length with hlt | hge
  · rw [List.getElem?_set_self hlt]
    rfl
  · have hended : workspace.readerAt cell = .ended := by
      rw [readerAt, List.getElem?_eq_none hge]
      rfl
    rw [List.getElem?_eq_none (by simpa using hge), hended, Reader.take_ended]
    rfl

/-- A turn leaves the readers in all other cells alone. -/
theorem readerAt_turn_of_ne {cell : Nat}
    (h : ∀ valuesOnly, workspace.cellOf? turn.name ≠ some (cell, valuesOnly)) :
    (workspace.turn turn).2.readerAt cell = workspace.readerAt cell := by
  rcases hcell : workspace.cellOf? turn.name with _ | ⟨other, valuesOnly⟩
  · rw [turn_of_other hcell]
    rfl
  · have hne : other ≠ cell := by
      rintro rfl
      exact h valuesOnly hcell
    rw [turn_of_reader hcell]
    show ((workspace.readers.set other _)[cell]?).getD .ended = _
    rw [List.getElem?_set_ne hne]
    rfl

end Turns

end Workspace

end NumberFeed
