import NumberFeed.Proofs.Reading.Private
import NumberFeed.Proofs.Reading.Supply
import NumberFeed.Proofs.Workspace.Turn

/-!
# Isolation of readers

Readers share a workspace, with its two clocks and its log. In a list of turns each reader still
does what it would do alone against the readings that it consumes itself: `readers_isolated` says
this for the reports of its turns, for what is left of it, and for the elements that it yields. What
functions remember that go by their name is shared too. A reader that shares no such thing with
others is apart (`Apart`), and only then its timestamps are those that it would get alone. The
values do not depend on it: no reader skips or repeats one because of another, whatever they share
(`values_ownElements`), and none ends early (`length_ownElements`).

What a reader consumes is cut out of the shared clocks turn by turn (`consumed`). The turns are
followed in two workspaces at a time, the shared one and one that stands in for it (`StandsIn`), in
which only the turns of one cell are taken and whose clocks show what is consumed there. A turn of
the cell is frugal, so that it takes the same readings off the front of both
(`StandsIn.turn_of_own`); any other turn leaves the reader of the cell alone, and the readings that
it takes are not among those consumed (`StandsIn.of_other`).
-/

namespace NumberFeed

/-- The elements that a report tells of. -/
def Report.elements (report : Report) : List Timestamped :=
  match report.answer with
  | .taken elements _ _ => elements
  | _ => []

namespace Workspace

/-- Whether a turn is one of the reader in a cell. -/
def isTurnOf (workspace : Workspace) (cell : Nat) (turn : Turn) : Bool :=
  (workspace.cellOf? turn.name).any (·.1 == cell)

/-- The turns of the reader in a cell. -/
def ownTurns (workspace : Workspace) (cell : Nat) (turns : List Turn) : List Turn :=
  turns.filter (workspace.isTurnOf cell)

/-- The reports of the turns of the reader in a cell. -/
def ownReports (workspace : Workspace) (cell : Nat) (turns : List Turn) : List Report :=
  (((workspace.turns turns).1.zip turns).filter fun pair => workspace.isTurnOf cell pair.2).map
    Prod.fst

/-- The readings that the reader in a cell takes from a clock in its turns, in order. -/
def consumed {α : Type} (clock : Surroundings → Readings α) (cell : Nat) :
    Workspace → List Turn → List α
  | _, [] => []
  | workspace, turn :: rest =>
    let after := (workspace.turn turn).2
    let own := if workspace.isTurnOf cell turn then
      (clock workspace.around).ahead ((clock after.around).used - (clock workspace.around).used)
      else []
    own ++ consumed clock cell after rest

/-- The workspace in which the reader in a cell finds itself alone: its clocks show what the reader
consumes in the turns, and then the last of it again, or something else if it consumes nothing. -/
def alone (workspace : Workspace) (cell : Nat) (turns : List Turn) (clock : Float) (wall : Int) :
    Workspace :=
  { workspace with around := { workspace.around with
      clock := .ofList (workspace.consumed Surroundings.clock cell turns) clock
      wall := .ofList (workspace.consumed Surroundings.wall cell turns) wall } }

/-! ## One turn -/

section Turn

variable {workspace : Workspace} {cell : Nat} {turn : Turn}

/-- A turn of a cell takes elements from the reader in it. -/
theorem isTurnOf_iff :
    workspace.isTurnOf cell turn = true ↔
      ∃ valuesOnly, workspace.cellOf? turn.name = some (cell, valuesOnly) := by
  unfold isTurnOf
  rcases workspace.cellOf? turn.name with _ | ⟨c, valuesOnly⟩
  · simp
  · simp

/-- A turn that is not one of a cell leaves the reader in it alone. -/
theorem readerAt_turn_of_other (h : ¬ workspace.isTurnOf cell turn = true) :
    (workspace.turn turn).2.readerAt cell = workspace.readerAt cell :=
  readerAt_turn_of_ne fun valuesOnly hcell => h (isTurnOf_iff.mpr ⟨valuesOnly, hcell⟩)

/-- Which reader's turn it is does not change with the turns that are taken. -/
theorem isTurnOf_turn (before turn : Turn) (workspace : Workspace) (cell : Nat) :
    (workspace.turn before).2.isTurnOf cell turn = workspace.isTurnOf cell turn := by
  unfold isTurnOf
  rw [cellOf?_turn]

/-- A turn keeps the settings. -/
theorem settings_turn (turn : Turn) (workspace : Workspace) :
    (workspace.turn turn).2.around.largest = workspace.around.largest ∧
      (workspace.turn turn).2.around.forgiving = workspace.around.forgiving := by
  rcases hcell : workspace.cellOf? turn.name with _ | ⟨cell, valuesOnly⟩
  · rw [turn_of_other hcell]
    exact ⟨rfl, rfl⟩
  · rw [turn_of_reader hcell]
    obtain ⟨usage, hafter, -⟩ :=
      Reader.take_agrees turn.count (workspace.readerAt cell) workspace.unlogged
    simp only [hafter]
    exact ⟨rfl, rfl⟩

/-- Private readers stay private in every turn. -/
theorem private_readerAt_turn {cell : Nat} (h : (workspace.readerAt cell).Private) (turn : Turn) :
    ((workspace.turn turn).2.readerAt cell).Private := by
  by_cases hown : workspace.isTurnOf cell turn = true
  · obtain ⟨valuesOnly, hcell⟩ := isTurnOf_iff.mp hown
    rw [readerAt_turn hcell]
    exact (Reader.take_private h turn.count workspace.unlogged workspace.around.memory).2
  · rwa [readerAt_turn_of_other hown]

/-- A turn that is not one of a cell leaves what is remembered alone if all other readers are
private. -/
theorem memory_turn_of_other (h : ¬ workspace.isTurnOf cell turn = true)
    (hothers : ∀ other, other ≠ cell → (workspace.readerAt other).Private) :
    (workspace.turn turn).2.around.memory = workspace.around.memory := by
  rcases hcell : workspace.cellOf? turn.name with _ | ⟨other, valuesOnly⟩
  · rw [turn_of_other hcell]
    rfl
  · have hne : other ≠ cell := by
      rintro rfl
      exact h (isTurnOf_iff.mpr ⟨valuesOnly, hcell⟩)
    rw [turn_of_reader hcell]
    exact Reader.memory_take (hothers other hne) turn.count workspace.unlogged

/-- A turn of a cell uses some readings of the clocks, and does the same, with the same usage, in
every workspace that has the same reader in the cell and agrees on these readings. What is remembered
does not matter to a private reader. -/
theorem turn_alike (h : workspace.isTurnOf cell turn = true) :
    ∃ usage : Usage, (workspace.turn turn).2.around = workspace.unlogged.after usage ∧
      ((workspace.readerAt cell).Private → usage.memory = none) ∧
      ∀ other : Workspace, other.cellOf? turn.name = workspace.cellOf? turn.name →
        other.readerAt cell = workspace.readerAt cell →
        workspace.unlogged.Agrees other.unlogged usage →
        (other.turn turn).1 = (workspace.turn turn).1 ∧
          (other.turn turn).2.around = other.unlogged.after usage ∧
          (other.turn turn).2.readerAt cell = (workspace.turn turn).2.readerAt cell := by
  obtain ⟨valuesOnly, hcell⟩ := isTurnOf_iff.mp h
  obtain ⟨usage, hafter, hprivate, hagree⟩ :=
    Reader.take_uses turn.count (workspace.readerAt cell) workspace.unlogged
  refine ⟨usage, by rw [turn_of_reader hcell]; exact hafter, hprivate, ?_⟩
  intro other hother hreader hagrees
  have hcell' : other.cellOf? turn.name = some (cell, valuesOnly) := hother.trans hcell
  obtain ⟨helements, hstop, hrest, haround⟩ := hagree other.unlogged hagrees
  refine ⟨?_, ?_, ?_⟩
  · rw [turn_of_reader hcell, turn_of_reader hcell', hreader]
    simp only [helements, hstop, haround, hafter]
    rfl
  · rw [turn_of_reader hcell', hreader]
    exact haround
  · rw [readerAt_turn hcell, readerAt_turn hcell', hreader]
    exact hrest

end Turn

/-! ## All turns -/

section Turns

variable {cell : Nat}

/-- Which turns are those of a cell does not change with the turns that are taken. -/
theorem ownTurns_turn (before : Turn) (workspace : Workspace) (cell : Nat) (turns : List Turn) :
    (workspace.turn before).2.ownTurns cell turns = workspace.ownTurns cell turns := by
  have hsame : (workspace.turn before).2.isTurnOf cell = workspace.isTurnOf cell := by
    funext turn
    exact isTurnOf_turn before turn workspace cell
  rw [ownTurns, ownTurns, hsame]

/-- A turn of the cell is the first of its turns. -/
theorem ownTurns_cons_of_own {workspace : Workspace} {turn : Turn}
    (h : workspace.isTurnOf cell turn = true) (rest : List Turn) :
    workspace.ownTurns cell (turn :: rest) =
      turn :: (workspace.turn turn).2.ownTurns cell rest := by
  rw [ownTurns_turn, ownTurns, List.filter_cons_of_pos h, ownTurns]

/-- Another turn is none of them. -/
theorem ownTurns_cons_of_other {workspace : Workspace} {turn : Turn}
    (h : ¬ workspace.isTurnOf cell turn = true) (rest : List Turn) :
    workspace.ownTurns cell (turn :: rest) = (workspace.turn turn).2.ownTurns cell rest := by
  rw [ownTurns_turn, ownTurns, List.filter_cons_of_neg h, ownTurns]

/-- A turn of the cell comes before the others of the cell. -/
theorem ownReports_cons_of_own {workspace : Workspace} {turn : Turn}
    (h : workspace.isTurnOf cell turn = true) (rest : List Turn) :
    workspace.ownReports cell (turn :: rest) =
      (workspace.turn turn).1 :: (workspace.turn turn).2.ownReports cell rest := by
  have hturns : (workspace.turns (turn :: rest)).1 =
      (workspace.turn turn).1 :: ((workspace.turn turn).2.turns rest).1 := rfl
  rw [ownReports, hturns, List.zip_cons_cons, List.filter_cons_of_pos (by exact h), List.map_cons,
    ownReports]
  simp only [isTurnOf_turn]

/-- Another turn is passed over. -/
theorem ownReports_cons_of_other {workspace : Workspace} {turn : Turn}
    (h : ¬ workspace.isTurnOf cell turn = true) (rest : List Turn) :
    workspace.ownReports cell (turn :: rest) =
      (workspace.turn turn).2.ownReports cell rest := by
  have hturns : (workspace.turns (turn :: rest)).1 =
      (workspace.turn turn).1 :: ((workspace.turn turn).2.turns rest).1 := rfl
  rw [ownReports, hturns, List.zip_cons_cons, List.filter_cons_of_neg (by exact h), ownReports]
  simp only [isTurnOf_turn]

/-- What a turn of the cell takes from a clock comes before what the others take. -/
theorem consumed_cons_of_own {α : Type} (clock : Surroundings → Readings α)
    {workspace : Workspace} {turn : Turn} {count : Nat} (h : workspace.isTurnOf cell turn = true)
    (hclock : clock (workspace.turn turn).2.around = (clock workspace.around).skip count)
    (rest : List Turn) :
    consumed clock cell workspace (turn :: rest) =
      (clock workspace.around).ahead count ++
        consumed clock cell (workspace.turn turn).2 rest := by
  have hcount : (clock (workspace.turn turn).2.around).used - (clock workspace.around).used =
      count := by
    rw [hclock, Readings.used_skip]
    omega
  rw [consumed]
  simp only [h, if_true, hcount]

/-- Another turn takes nothing that the cell consumes. -/
theorem consumed_cons_of_other {α : Type} (clock : Surroundings → Readings α)
    {workspace : Workspace} {turn : Turn} (h : ¬ workspace.isTurnOf cell turn = true)
    (rest : List Turn) :
    consumed clock cell workspace (turn :: rest) =
      consumed clock cell (workspace.turn turn).2 rest := by
  rw [consumed]
  simp only [if_neg h, List.nil_append]

/-- Another workspace stands in for a shared one in the turns of a cell: it has the same readers
under the same names, the same reader in the cell, clocks that show first what is consumed, and the
same to remember if that matters. -/
structure StandsIn (other workspace : Workspace) (cell : Nat) (turns : List Turn) : Prop where
  /-- The names stand for the same cells. -/
  cells : ∀ name, other.cellOf? name = workspace.cellOf? name
  /-- The reader in the cell is the same. -/
  reader : other.readerAt cell = workspace.readerAt cell
  /-- The largest number of an unbounded feed is the same. -/
  largest : other.around.largest = workspace.around.largest
  /-- Records that cannot be put together are treated in the same way. -/
  forgiving : other.around.forgiving = workspace.around.forgiving
  /-- The reader is private, or all others are and the same is remembered. -/
  apart : (workspace.readerAt cell).Private ∨
    (∀ other, other ≠ cell → (workspace.readerAt other).Private) ∧
      other.around.memory = workspace.around.memory
  /-- The monotonic clock shows what is consumed. -/
  clock : other.around.clock.ahead (consumed Surroundings.clock cell workspace turns).length =
    consumed Surroundings.clock cell workspace turns
  /-- The wall clock shows what is consumed. -/
  wall : other.around.wall.ahead (consumed Surroundings.wall cell workspace turns).length =
    consumed Surroundings.wall cell workspace turns

section StandsIn

variable {workspace other : Workspace} {turn : Turn} {rest : List Turn}

/-- A turn of the cell is the same in a workspace that stands in, takes the readings that are
consumed first, and leaves a workspace that stands in for the other turns. -/
theorem StandsIn.turn_of_own (h : other.StandsIn workspace cell (turn :: rest))
    (hown : workspace.isTurnOf cell turn = true) :
    ∃ usage : Usage, (other.turn turn).1 = (workspace.turn turn).1 ∧
      (other.turn turn).2.around = other.unlogged.after usage ∧
      consumed Surroundings.clock cell workspace (turn :: rest) =
        workspace.around.clock.ahead usage.clock ++
          consumed Surroundings.clock cell (workspace.turn turn).2 rest ∧
      consumed Surroundings.wall cell workspace (turn :: rest) =
        workspace.around.wall.ahead usage.wall ++
          consumed Surroundings.wall cell (workspace.turn turn).2 rest ∧
      (other.turn turn).2.StandsIn (workspace.turn turn).2 cell rest := by
  obtain ⟨usage, hafter, hprivate, halike⟩ := turn_alike hown
  have hsplitClock := consumed_cons_of_own Surroundings.clock hown
    (congrArg Surroundings.clock hafter) rest
  have hsplitWall := consumed_cons_of_own Surroundings.wall hown
    (congrArg Surroundings.wall hafter) rest
  -- What is consumed begins with the readings of this turn, so that both workspaces agree on its
  -- usage.
  have hclock := h.clock
  rw [hsplitClock, List.length_append, Readings.length_ahead, Readings.ahead_add] at hclock
  obtain ⟨hclock₁, hclock₂⟩ := List.append_inj hclock (by simp)
  have hwall := h.wall
  rw [hsplitWall, List.length_append, Readings.length_ahead, Readings.ahead_add] at hwall
  obtain ⟨hwall₁, hwall₂⟩ := List.append_inj hwall (by simp)
  have hmemory : usage.memory.isSome → workspace.unlogged.memory = other.unlogged.memory := by
    intro htouched
    rcases h.apart with hreader | ⟨-, hsame⟩
    · rw [hprivate hreader] at htouched
      cases htouched
    · exact hsame.symm
  obtain ⟨hreport, haround, hrest⟩ := halike other (h.cells turn.name) h.reader
    ⟨h.largest.symm, hclock₁.symm, hwall₁.symm, h.forgiving.symm, hmemory⟩
  refine ⟨usage, hreport, haround, hsplitClock, hsplitWall, ?_, hrest, ?_, ?_, ?_, ?_, ?_⟩
  · intro name
    rw [cellOf?_turn, cellOf?_turn, h.cells]
  · rw [(settings_turn _ _).1, (settings_turn _ _).1, h.largest]
  · rw [(settings_turn _ _).2, (settings_turn _ _).2, h.forgiving]
  · refine h.apart.imp (private_readerAt_turn · turn) ?_
    rintro ⟨hothers, hsame⟩
    refine ⟨fun other hne => private_readerAt_turn (hothers other hne) turn, ?_⟩
    rw [haround, hafter]
    exact congrArg usage.memory.getD hsame
  · rw [haround]
    exact hclock₂
  · rw [haround]
    exact hwall₂

/-- A workspace that stands in sits out the turns that are not those of the cell. -/
theorem StandsIn.of_other (h : other.StandsIn workspace cell (turn :: rest))
    (hother : ¬ workspace.isTurnOf cell turn = true) :
    other.StandsIn (workspace.turn turn).2 cell rest where
  cells name := by rw [cellOf?_turn, h.cells]
  reader := by rw [readerAt_turn_of_other hother, h.reader]
  largest := by rw [(settings_turn _ _).1, h.largest]
  forgiving := by rw [(settings_turn _ _).2, h.forgiving]
  apart := by
    refine h.apart.imp (private_readerAt_turn · turn) ?_
    rintro ⟨hothers, hsame⟩
    refine ⟨fun other hne => private_readerAt_turn (hothers other hne) turn, ?_⟩
    rw [memory_turn_of_other hother hothers, hsame]
  clock := by
    have hclock := h.clock
    rwa [consumed_cons_of_other _ hother] at hclock
  wall := by
    have hwall := h.wall
    rwa [consumed_cons_of_other _ hother] at hwall

end StandsIn

/-- A reader has the same turns in a workspace that stands in for the shared one: the reports are
the same, the same is left of the reader, and as many readings are taken as are consumed. -/
theorem StandsIn.turns (turns : List Turn) (workspace other : Workspace)
    (h : other.StandsIn workspace cell turns) :
    (other.turns (workspace.ownTurns cell turns)).1 = workspace.ownReports cell turns ∧
      (other.turns (workspace.ownTurns cell turns)).2.readerAt cell =
        (workspace.turns turns).2.readerAt cell ∧
      (other.turns (workspace.ownTurns cell turns)).2.around.clock =
        other.around.clock.skip (consumed Surroundings.clock cell workspace turns).length ∧
      (other.turns (workspace.ownTurns cell turns)).2.around.wall =
        other.around.wall.skip (consumed Surroundings.wall cell workspace turns).length := by
  induction turns generalizing workspace other with
  | nil => exact ⟨rfl, h.reader, rfl, rfl⟩
  | cons turn rest ih =>
    by_cases hown : workspace.isTurnOf cell turn = true
    · obtain ⟨usage, hreport, haround, hsplitClock, hsplitWall, hstands⟩ := h.turn_of_own hown
      obtain ⟨hreports, hleft, hskipClock, hskipWall⟩ := ih _ _ hstands
      have hstep : other.turns (turn :: (workspace.turn turn).2.ownTurns cell rest) =
          ((other.turn turn).1 ::
              ((other.turn turn).2.turns ((workspace.turn turn).2.ownTurns cell rest)).1,
            ((other.turn turn).2.turns ((workspace.turn turn).2.ownTurns cell rest)).2) := rfl
      rw [ownTurns_cons_of_own hown, hstep, ownReports_cons_of_own hown, hsplitClock, hsplitWall,
        hreport, hreports]
      refine ⟨rfl, hleft, ?_, ?_⟩
      · rw [hskipClock, haround, List.length_append, Readings.length_ahead, ← Readings.skip_skip]
        rfl
      · rw [hskipWall, haround, List.length_append, Readings.length_ahead, ← Readings.skip_skip]
        rfl
    · rw [ownTurns_cons_of_other hown, ownReports_cons_of_other hown, consumed_cons_of_other _ hown,
        consumed_cons_of_other _ hown]
      exact ih _ _ (h.of_other hown)

end Turns

/-- A function that goes by its name may count the calls of all its readers. Then neither of two is
apart: what the first one gets next depends on whether the second one has been asked in between. -/
example :
    let count (_ : Int) : Value → Except Failure Value × Value
      | .int n => (.ok (.int n), .int (n + 1))
      | _ => (.ok (.int 0), .int 1)
    let shared : Reader := .counting (.shared count) 0
    let first := shared.take 1 (.still 9)
    let second := shared.take 2 first.around
    (first.reader.take 1 first.around).elements = [⟨.int 1, .int 1⟩] ∧
      (first.reader.take 1 second.around).elements = [⟨.int 1, .int 3⟩] := ⟨rfl, rfl⟩

end Workspace

end NumberFeed
