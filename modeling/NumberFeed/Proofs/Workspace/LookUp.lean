import NumberFeed.Proofs.Workspace.Session

/-!
# Look-ups

To look up the arguments of a command takes marks for the values that are not named, and changes
nothing else (`Session.LooksUp`). So what a command does it does to the workspace in which it was
given, however many arguments are looked up first. The entries of a new configuration may be taken
out of a reader, but no look-up changes a configuration (`Session.KeepsShelf`).
-/

namespace NumberFeed.Session

variable {α β : Type}

/-- A session that takes marks at most. -/
def LooksUp (session : Session α) : Prop :=
  ∀ workspace, ∃ result nextMark, session.on workspace = (result, { workspace with nextMark })

/-- A result is no look-up at all. -/
theorem looksUp_pure (result : α) : LooksUp (pure result : Session α) := fun workspace =>
  ⟨.ok result, workspace.nextMark, rfl⟩

/-- Neither is a failure. -/
theorem looksUp_throw (cause : Failure) : LooksUp (throw cause : Session α) := fun workspace =>
  ⟨.error cause, workspace.nextMark, rfl⟩

/-- Neither is a result that may be a failure. -/
theorem looksUp_lift (result : Except Failure α) : LooksUp (lift result) := fun workspace =>
  ⟨result, workspace.nextMark, on_lift result workspace⟩

/-- A new mark is taken. -/
theorem looksUp_newMark : LooksUp newMark := fun workspace =>
  ⟨.ok workspace.nextMark, workspace.nextMark + 1, rfl⟩

/-- One look-up after another. -/
theorem looksUp_bind {first : Session α} {next : α → Session β} (hfirst : LooksUp first)
    (hnext : ∀ result, LooksUp (next result)) : LooksUp (first >>= next) := by
  intro workspace
  obtain ⟨result | result, nextMark, hafter⟩ := hfirst workspace
  · exact ⟨.error result, nextMark, by rw [on_bind, hafter]⟩
  · obtain ⟨result', nextMark', hafter'⟩ := hnext result { workspace with nextMark }
    exact ⟨result', nextMark', by rw [on_bind, hafter]; exact hafter'⟩

/-- Looking at the workspace first. -/
theorem looksUp_bind_get {next : Workspace → Session β}
    (hnext : ∀ workspace, LooksUp (next workspace)) :
    LooksUp ((get : Session Workspace) >>= next) := by
  intro workspace
  obtain ⟨result, nextMark, hafter⟩ := hnext workspace workspace
  exact ⟨result, nextMark, by rw [on_bind, on_get]; exact hafter⟩

/-- Making something of what is looked up. -/
theorem looksUp_map (make : α → β) {session : Session α} (h : LooksUp session) :
    LooksUp (make <$> session) := by
  intro workspace
  obtain ⟨result, nextMark, hafter⟩ := h workspace
  exact ⟨result.map make, nextMark, by rw [on_map, hafter]⟩

/-- An argument is looked up. -/
theorem looksUp_resolve (argument : Argument) : LooksUp (resolve argument) := by
  refine looksUp_bind_get fun workspace => ?_
  split
  · split
    · exact looksUp_pure _
    · exact looksUp_throw _
  · refine looksUp_bind (looksUp_lift _) fun value => ?_
    exact looksUp_bind looksUp_newMark fun _ => looksUp_pure _

/-- The value of an argument is looked up. -/
theorem looksUp_resolveValue (argument : Argument) : LooksUp (resolveValue argument) :=
  looksUp_map _ (looksUp_resolve argument)

/-- The value of an argument is looked up that may be missing. -/
theorem looksUp_resolveValue? (argument : Option Argument) :
    LooksUp (resolveValue? argument) := by
  cases argument with
  | none => exact looksUp_pure _
  | some argument => exact looksUp_resolveValue argument

/-- The place of a configuration is looked up. -/
theorem looksUp_asPlace (item : Item) : LooksUp (asPlace item) := by
  unfold asPlace
  split
  · exact looksUp_pure _
  · exact looksUp_throw _

/-- A setting is looked up. -/
theorem looksUp_resolveSetting (setting : SettingArgument) : LooksUp (resolveSetting setting) := by
  cases setting with
  | known setting => exact looksUp_bind looksUp_newMark fun _ => looksUp_pure _
  | made key type fallback =>
    refine looksUp_bind (looksUp_resolveValue key) fun key => ?_
    refine looksUp_bind (looksUp_lift _) fun _ => ?_
    exact looksUp_bind (looksUp_resolve fallback) fun _ => looksUp_pure _

/-! ## Look-ups that take elements -/

/-- A session that leaves the configurations as they are. -/
def KeepsShelf (session : Session α) : Prop :=
  ∀ workspace, (session.on workspace).2.shelf = workspace.shelf

/-- Taking marks leaves the configurations as they are. -/
theorem LooksUp.keepsShelf {session : Session α} (h : LooksUp session) : KeepsShelf session := by
  intro workspace
  obtain ⟨result, nextMark, hafter⟩ := h workspace
  rw [hafter]

/-- One session after another. -/
theorem keepsShelf_bind {first : Session α} {next : α → Session β} (hfirst : KeepsShelf first)
    (hnext : ∀ result, KeepsShelf (next result)) : KeepsShelf (first >>= next) := by
  intro workspace
  have hafter := hfirst workspace
  rw [on_bind]
  generalize first.on workspace = ran at hafter ⊢
  rcases ran with ⟨cause | result, after⟩
  · exact hafter
  · exact (hnext result after).trans hafter

/-- Taking elements from a reader leaves the configurations as they are. -/
theorem keepsShelf_takeAt (cell : Nat) (act : Reader → Surroundings → Taken) :
    KeepsShelf (takeAt cell act) := fun workspace => by rw [on_takeAt]

/-- Making values of elements takes marks at most. -/
theorem looksUp_elementValues (valuesOnly : Bool) (elements : List Timestamped) :
    LooksUp (elementValues valuesOnly elements) := by
  induction elements with
  | nil => exact looksUp_pure _
  | cons element rest ih =>
    unfold elementValues
    dsimp only
    split
    · exact looksUp_bind (looksUp_pure _) fun _ => looksUp_bind ih fun _ => looksUp_pure _
    · refine looksUp_bind (looksUp_bind looksUp_newMark fun _ => looksUp_pure _) fun _ => ?_
      exact looksUp_bind ih fun _ => looksUp_pure _

/-- Going through the members of a value leaves the configurations as they are. -/
theorem keepsShelf_members (value : Value) : KeepsShelf (members value) := by
  unfold members
  split
  · exact (looksUp_pure _).keepsShelf
  · exact (looksUp_pure _).keepsShelf
  · exact (looksUp_pure _).keepsShelf
  · exact (looksUp_pure _).keepsShelf
  · exact (looksUp_pure _).keepsShelf
  · refine keepsShelf_bind (keepsShelf_takeAt _ _) fun taken => ?_
    split
    · exact (looksUp_throw _).keepsShelf
    · exact (looksUp_elementValues _ _).keepsShelf
  · exact (looksUp_throw _).keepsShelf

/-- Putting pairs into entries leaves the configurations as they are. -/
theorem keepsShelf_putPairs (before : Entries) (pairs : List Value) :
    KeepsShelf (putPairs before pairs) := by
  induction pairs generalizing before with
  | nil => exact (looksUp_pure _).keepsShelf
  | cons pair rest ih =>
    unfold putPairs
    refine keepsShelf_bind (keepsShelf_members pair) fun found => ?_
    split
    · exact keepsShelf_bind (looksUp_lift _).keepsShelf fun _ => ih _
    · exact (looksUp_throw _).keepsShelf

/-- Looking up entries leaves the configurations as they are. -/
theorem keepsShelf_asEntries (value : Value) : KeepsShelf (asEntries value) := by
  unfold asEntries
  split
  · exact (looksUp_pure _).keepsShelf
  · exact (looksUp_pure _).keepsShelf
  · refine keepsShelf_bind (keepsShelf_takeAt _ _) fun taken => ?_
    split
    · exact (looksUp_throw _).keepsShelf
    · exact (looksUp_pure _).keepsShelf
    · exact (looksUp_throw _).keepsShelf
  · exact keepsShelf_bind (keepsShelf_members _) fun _ => keepsShelf_putPairs _ _

end NumberFeed.Session
