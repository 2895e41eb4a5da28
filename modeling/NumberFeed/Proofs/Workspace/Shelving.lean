import NumberFeed.Proofs.Config.Ordered
import NumberFeed.Proofs.Workspace.LookUp
import NumberFeed.Proofs.Workspace.Tolerant

/-!
# Configurations over time

Two kinds of commands have to do with configurations. Some make one, at the next free place, out of
what another one holds at that moment and of data put over it (`Workspace.creates`,
`Workspace.shelf_of_creates`). The others set a value in one, which puts an entry into it or fails
(`Workspace.stores?`). No command does anything else to a configuration that is there. So what one
holds after any commands is what it held before with the entries put over it that these commands
have stored in it, its history (`Workspace.get?_performAll`).
-/

namespace NumberFeed

namespace Session

/-! ## What the commands look up -/

/-- What a command to set a value looks up: the place of the target, and the entry that the setting
makes of the value. -/
def setEntry (target : Argument) (setting : SettingArgument) (value : Argument) :
    Session (Nat × Value × Value) := do
  let item ← resolve target
  let value ← resolveValue value
  let place ← asPlace item
  let (setting, _) ← resolveSetting setting
  let entry ← lift (setting.entry value)
  return (place, entry)

/-- A shelf after a command to set a value, which has found an entry or has not. -/
def shelfAfter (shelf : Shelf) : Except Failure (Nat × Value × Value) → Shelf
  | .ok (place, entry) => shelf.put place entry
  | .error _ => shelf

/-- What a command to set a value comes to: an item if it has found an entry for a configuration that
is there, and otherwise a failure, which may show the target. -/
def Tells (shelf : Shelf) (entry : Except Failure (Nat × Value × Value))
    (result : Except Failure Result) : Prop :=
  ((∃ item, result = .ok (.item item)) ∧
      ∃ place configuration found, entry = .ok (place, found) ∧
        shelf.get? place = some configuration) ∨
    (((∃ cause, result = .error cause) ∨ ∃ cause item, result = .ok (.notSet cause item)) ∧
      ∀ place found, entry = .ok (place, found) → shelf.get? place = none)

/-- A command to set a value looks up its entry, puts it into the configuration that it has found, and
changes nothing else. -/
theorem on_perform_set (target : Argument) (setting : SettingArgument) (value : Argument)
    (workspace : Workspace) :
    ∃ result nextMark, (perform (.set target setting value)).on workspace =
        (result, { workspace with
          nextMark
          shelf := shelfAfter workspace.shelf
            ((setEntry target setting value).on workspace).1 }) ∧
      Tells workspace.shelf ((setEntry target setting value).on workspace).1 result := by
  have hperform : perform (.set target setting value) = (do
    let item ← resolve target
    let value ← resolveValue value
    tryCatch (setValue item setting value) fun cause => return .notSet cause item) := rfl
  -- Where something is missing, nothing is put anywhere.
  have hfails : ∀ cause : Failure, Tells workspace.shelf (.error cause) (.error cause) := by
    refine fun cause => .inr ⟨.inl ⟨cause, rfl⟩, ?_⟩
    rintro place found ⟨⟩
  have hnotSet : ∀ (cause told : Failure) (item : Item),
      Tells workspace.shelf (.error cause) (.ok (.notSet told item)) := by
    refine fun cause told item => .inr ⟨.inr ⟨told, item, rfl⟩, ?_⟩
    rintro place found ⟨⟩
  rw [hperform, setEntry, on_bind, on_bind]
  obtain ⟨found, mark₁, htarget⟩ := looksUp_resolve target workspace
  rw [htarget]
  rcases found with cause | item
  · exact ⟨.error cause, mark₁, rfl, hfails cause⟩
  dsimp only
  rw [on_bind, on_bind]
  obtain ⟨found, mark₂, hvalue⟩ := looksUp_resolveValue value { workspace with nextMark := mark₁ }
  rw [hvalue]
  rcases found with cause | value
  · exact ⟨.error cause, mark₂, rfl, hfails cause⟩
  dsimp only
  rw [on_tryCatch, setValue, on_bind, on_bind]
  obtain ⟨found, mark₃, hplace⟩ := looksUp_asPlace item { workspace with nextMark := mark₂ }
  rw [hplace]
  rcases found with cause | place
  · exact ⟨.ok (.notSet cause item), mark₃, rfl, hnotSet cause _ item⟩
  dsimp only
  rw [on_bind, on_bind]
  obtain ⟨found, mark₄, hsetting⟩ :=
    looksUp_resolveSetting setting { workspace with nextMark := mark₃ }
  rw [hsetting]
  rcases found with cause | ⟨setting, fallback⟩
  · exact ⟨.ok (.notSet cause item), mark₄, rfl, hnotSet cause _ item⟩
  dsimp only
  rw [on_bind, on_get]
  dsimp only
  rw [on_bind, on_lift, on_bind, on_lift, Shelf.set]
  -- All has been looked up: now the entry is put in, if there is one and a configuration for it.
  rcases hentry : setting.entry value with cause | entry
  · rcases workspace.shelf.get? place with _ | configuration
    · exact ⟨.ok (.notSet _ item), mark₄, rfl, hnotSet cause _ item⟩
    · dsimp only
      rw [Configuration.set_eq, hentry]
      exact ⟨.ok (.notSet _ item), mark₄, rfl, hnotSet cause _ item⟩
  dsimp only
  rw [on_pure]
  dsimp only [shelfAfter]
  rw [Shelf.put]
  rcases hfound : workspace.shelf.get? place with _ | configuration
  · refine ⟨.ok (.notSet _ item), mark₄, rfl, .inr ⟨.inr ⟨_, item, rfl⟩, ?_⟩⟩
    rintro _ _ ⟨⟩
    exact hfound
  · dsimp only
    rw [Configuration.set_eq, hentry]
    exact ⟨.ok (.item item), mark₄, rfl,
      .inl ⟨⟨item, rfl⟩, place, configuration, entry, rfl, hfound⟩⟩

/-- The place of the configuration that is to be copied, if there is one. -/
def copiedPlace : Value → Except Failure (Option Nat)
  | .null => .ok none
  | .object _ (.configuration place _) => .ok (some place)
  | _ => .error .noSuchOperation

/-- What a command to make a configuration looks up: the place of the one to be copied, if there is
one, and the entries to be put over the copy. -/
def configurationParts (other data : Option Argument) : Session (Option Nat × Entries) := do
  let other ← resolveValue? other
  let data ← resolveValue? data
  let source ← lift (copiedPlace other)
  let entries ← asEntries data
  return (source, entries)

/-- To make a configuration is to find the one that is copied and the entries first. -/
theorem configuration_eq (other data : Value) :
    Session.configuration other data = (do
      let source ← lift (copiedPlace other)
      let entries ← asEntries data
      makeConfiguration source entries >>= itemOf) := by
  cases other with
  | object mark form => cases form <;> rfl
  | _ => rfl

/-- A configuration is made at the next place. -/
theorem on_makeConfiguration (source : Option Nat) (data : Entries) (workspace : Workspace) :
    (makeConfiguration source data >>= itemOf).on workspace =
      (.ok ⟨workspace.nextMark, .object workspace.nextMark
          (.configuration workspace.shelf.contents.length
            (((workspace.shelf.make source data).1.get?
              workspace.shelf.contents.length).getD .empty).entries)⟩,
        { workspace with
          shelf := (workspace.shelf.make source data).1
          nextMark := workspace.nextMark + 1 }) := rfl

/-- A command to make a configuration looks up its parts and makes the configuration of them. -/
theorem on_perform_configuration (other data : Option Argument) (workspace : Workspace) :
    (perform (.configuration other data)).on workspace =
      match (configurationParts other data).on workspace with
      | (.ok (source, entries), found) =>
        (Result.item <$> (makeConfiguration source entries >>= itemOf)).on found
      | (.error cause, found) => (.error cause, found) := by
  have hperform : perform (.configuration other data) = (do
    let other ← resolveValue? other
    let data ← resolveValue? data
    Result.item <$> configuration other data) := rfl
  rw [hperform, configurationParts, on_bind, on_bind]
  rcases (resolveValue? other).on workspace with ⟨cause | other, found⟩
  · rfl
  dsimp only
  rw [on_bind, on_bind]
  rcases (resolveValue? data).on found with ⟨cause | data, found⟩
  · rfl
  dsimp only
  rw [on_map, configuration_eq, on_bind, on_bind, on_lift]
  rcases copiedPlace other with cause | source
  · rfl
  dsimp only
  rw [on_bind, on_bind]
  rcases (asEntries data).on found with ⟨cause | entries, after⟩
  · rfl
  dsimp only
  rw [on_pure]
  dsimp only
  rw [on_map]

/-- Looking up the parts of a configuration leaves the configurations as they are. -/
theorem keepsShelf_configurationParts (other data : Option Argument) :
    KeepsShelf (configurationParts other data) := by
  refine keepsShelf_bind (looksUp_resolveValue? other).keepsShelf fun other => ?_
  refine keepsShelf_bind (looksUp_resolveValue? data).keepsShelf fun data => ?_
  refine keepsShelf_bind (looksUp_lift _).keepsShelf fun source => ?_
  exact keepsShelf_bind (keepsShelf_asEntries data) fun entries => (looksUp_pure _).keepsShelf

end Session

namespace Workspace

/-- The workspace in which the session of a command starts. -/
def started (workspace : Workspace) : Workspace :=
  { workspace with around := workspace.unlogged }

section Perform

variable {workspace : Workspace}

/-- A command leaves what its session leaves, and may name an item. -/
theorem perform_eq (command : Command) (name : Option String) :
    ∃ items, (workspace.perform command name).2 =
      { ((Session.perform command).on workspace.started).2 with items } := by
  unfold perform
  unfold Session.on started unlogged
  dsimp only
  generalize (Session.perform command).run.run
    { workspace with around := { workspace.around with log := [] } } = ran
  have hnamed : ∀ item : Item, ∃ items,
      (name.map (ran.2.name · item)).getD ran.2 = { ran.2 with items } := by
    intro item
    cases name with
    | none => exact ⟨ran.2.items, rfl⟩
    | some name => exact ⟨(ran.2.name name item).items, rfl⟩
  rcases ran with ⟨cause | item | item | _ | _ | _, after⟩
  · exact ⟨after.items, rfl⟩
  · exact hnamed item
  · exact hnamed item
  · exact ⟨after.items, rfl⟩
  · exact ⟨after.items, rfl⟩
  · exact ⟨after.items, rfl⟩

/-- A command leaves the configurations that its session leaves. -/
theorem shelf_perform (command : Command) (name : Option String) :
    (workspace.perform command name).2.shelf =
      ((Session.perform command).on workspace.started).2.shelf := by
  obtain ⟨items, hafter⟩ := @perform_eq workspace command name
  rw [hafter]

/-- A command whose session comes to an item tells of it, and may name it. -/
theorem perform_of_item {command : Command} {item : Item} {after : Workspace}
    (h : (Session.perform command).on workspace.started = (.ok (.item item), after))
    (name : Option String) :
    workspace.perform command name =
      (⟨.shown (after.refresh item.value), after.around.log⟩,
        (name.map (after.name · item)).getD after) := by
  unfold Session.on started unlogged at h
  unfold perform
  dsimp only
  rw [h]
  cases name <;> rfl

/-- A command whose session fails tells of the failure. -/
theorem perform_of_error {command : Command} {cause : Failure} {after : Workspace}
    (h : (Session.perform command).on workspace.started = (.error cause, after))
    (name : Option String) :
    workspace.perform command name = (⟨.failed cause none, after.around.log⟩, after) := by
  unfold Session.on started unlogged at h
  unfold perform
  dsimp only
  rw [h]

/-! ## Setting values -/

/-- The configurations that were there before are as they were. -/
def Adds (before after : Workspace) : Prop :=
  ∀ place configuration, before.shelf.get? place = some configuration →
    after.shelf.get? place = some configuration

/-- Where the configurations are the same nothing has happened to them. -/
theorem adds_of_shelf {before after : Workspace} (h : after.shelf = before.shelf) :
    before.Adds after := fun place configuration hfound => by rw [h]; exact hfound

/-- Whatever is done, configurations are only added, unless a value is set. -/
theorem tolerant_adds : Tolerant Adds where
  refl _ := adds_of_shelf rfl
  trans hfirst hsecond place configuration hfound :=
    hsecond place configuration (hfirst place configuration hfound)
  mark _ _ := adds_of_shelf rfl
  stamper _ _ _ := adds_of_shelf rfl
  made workspace other data := by
    intro place configuration hfound
    obtain ⟨hlt, -⟩ := List.getElem?_eq_some_iff.mp hfound
    exact (List.getElem?_append_left hlt).trans hfound
  reader _ _ := adds_of_shelf rfl
  pipeline _ _ := adds_of_shelf rfl
  debug _ _ _ := adds_of_shelf rfl
  around _ _ := adds_of_shelf rfl
  called _ _ := adds_of_shelf rfl
  asked _ _ _ := adds_of_shelf rfl

/-- Naming an item leaves the configurations as they are. -/
theorem nameable_adds (name : String) : Nameable Adds name := fun _ _ => adds_of_shelf rfl

/-- What a command stores, and in the configuration at which place: it has to be a command to set a
value that finds its entry. -/
def stores? (workspace : Workspace) : Command → Option (Nat × Value × Value)
  | .set target setting value =>
    ((Session.setEntry target setting value).on workspace.started).1.toOption
  | _ => none

/-- What a command stores in the configuration at a place: an entry, or nothing. -/
def storedAt (workspace : Workspace) (place : Nat) (command : Command) : Entries :=
  match workspace.stores? command with
  | some (found, entry) => if found = place then [entry] else []
  | none => []

/-- What the commands store in the configuration at a place, one after the other. -/
def history (place : Nat) : Workspace → List (Command × Option String) → Entries
  | _, [] => []
  | workspace, (command, name) :: rest =>
    workspace.storedAt place command ++ history place (workspace.perform command name).2 rest

/-- A command puts into a configuration what it stores there, and does nothing else to it. -/
theorem get?_perform {place : Nat} {configuration : Configuration}
    (h : workspace.shelf.get? place = some configuration) (command : Command)
    (name : Option String) :
    (workspace.perform command name).2.shelf.get? place =
      some ⟨configuration.entries.overlay (workspace.storedAt place command)⟩ := by
  -- Only commands to set a value have an effect on what is there.
  have hother : (∀ target setting value, command ≠ .set target setting value) →
      workspace.stores? command = none →
      (workspace.perform command name).2.shelf.get? place =
        some ⟨configuration.entries.overlay (workspace.storedAt place command)⟩ := by
    intro hset hnone
    rw [storedAt, hnone]
    exact perform_tolerant tolerant_adds command name workspace
      (fun target setting value hcommand => absurd hcommand (hset target setting value))
      (fun n _ => nameable_adds n) place configuration h
  cases command with
  | set target setting value =>
    obtain ⟨result, nextMark, hafter, -⟩ :=
      Session.on_perform_set target setting value workspace.started
    rw [shelf_perform, hafter]
    dsimp only [storedAt, stores?]
    rcases ((Session.setEntry target setting value).on workspace.started).1 with
      cause | ⟨found, entry⟩
    · exact h
    · exact Shelf.get?_put h found entry
  | _ => exact hother (by simp) rfl

/-- What a configuration holds after any commands is what it held before with its history put over
it. -/
theorem get?_performAll {place : Nat} {configuration : Configuration}
    (h : workspace.shelf.get? place = some configuration)
    (commands : List (Command × Option String)) :
    (workspace.performAll commands).2.shelf.get? place =
      some ⟨configuration.entries.overlay (history place workspace commands)⟩ := by
  induction commands generalizing workspace configuration with
  | nil => exact h
  | cons command rest ih =>
    obtain ⟨command, name⟩ := command
    calc ((workspace.perform command name).2.performAll rest).2.shelf.get? place
        = some ⟨(configuration.entries.overlay (workspace.storedAt place command)).overlay
            (history place (workspace.perform command name).2 rest)⟩ :=
          ih (get?_perform h command name)
      _ = some ⟨configuration.entries.overlay
            (history place workspace ((command, name) :: rest))⟩ := by
          rw [← Entries.overlay_append, history]

/-- A command to set a value succeeds just when it stores something in a configuration that is
there. -/
theorem shown_perform_set (target : Argument) (setting : SettingArgument) (value : Argument)
    (name : Option String) :
    (∃ shown, (workspace.perform (.set target setting value) name).1.answer = .shown shown) ↔
      ∃ place configuration entry, workspace.shelf.get? place = some configuration ∧
        workspace.stores? (.set target setting value) = some (place, entry) := by
  obtain ⟨result, nextMark, hafter, htells⟩ :=
    Session.on_perform_set target setting value workspace.started
  have hanswer : (∃ shown,
      (workspace.perform (.set target setting value) name).1.answer = .shown shown) ↔
      ∃ item, result = .ok (.item item) := by
    unfold Session.on started unlogged at hafter
    unfold perform
    dsimp only
    rw [hafter]
    rcases htells with ⟨⟨item, rfl⟩, -⟩ | ⟨⟨cause, rfl⟩ | ⟨cause, item, rfl⟩, -⟩
    · simp
    · simp
    · simp
  rw [hanswer]
  dsimp only [stores?]
  constructor
  · rintro ⟨item, rfl⟩
    rcases htells with ⟨-, place, configuration, entry, hentry, hfound⟩ |
      ⟨⟨cause, ⟨⟩⟩ | ⟨cause, item, ⟨⟩⟩, -⟩
    exact ⟨place, configuration, entry, hfound, by rw [hentry]; rfl⟩
  · rintro ⟨place, configuration, entry, hfound, hentry⟩
    rcases htells with ⟨hitem, -⟩ | ⟨-, hmissing⟩
    · exact hitem
    · rcases hfinds : ((Session.setEntry target setting value).on workspace.started).1 with
        cause | found
      · rw [hfinds] at hentry
        cases hentry
      · rw [hfinds] at hentry
        obtain rfl := Option.some.inj hentry
        have hnone : workspace.shelf.get? place = none := hmissing place entry hfinds
        rw [hfound] at hnone
        cases hnone

/-- The keys of all configurations are distinct. -/
def Distinct (workspace : Workspace) : Prop :=
  ∀ configuration ∈ workspace.shelf.contents, configuration.entries.Distinct

/-- Where the configurations are the same, so are their keys. -/
theorem distinct_of_shelf {before after : Workspace} (h : after.shelf = before.shelf) :
    before.Distinct → after.Distinct := fun hdistinct configuration hmem =>
  hdistinct configuration (by rw [← h]; exact hmem)

/-- Configurations are made with distinct keys. -/
theorem tolerant_distinct : Tolerant fun before after => before.Distinct → after.Distinct where
  refl _ := distinct_of_shelf rfl
  trans hfirst hsecond hdistinct := hsecond (hfirst hdistinct)
  mark _ _ := distinct_of_shelf rfl
  stamper _ _ _ := distinct_of_shelf rfl
  made workspace other data := by
    intro hdistinct configuration hmem
    have hsource : ((other.bind workspace.shelf.get?).getD .empty).entries.Distinct := by
      rcases hother : other.bind workspace.shelf.get? with _ | source
      · exact List.Pairwise.nil
      · obtain ⟨place, -, hplace⟩ := Option.bind_eq_some_iff.mp hother
        exact hdistinct source (List.mem_of_getElem? hplace)
    rcases List.mem_append.mp hmem with hold | hnew
    · exact hdistinct configuration hold
    · rw [List.mem_singleton.mp hnew]
      exact hsource.overlay data
  reader _ _ := distinct_of_shelf rfl
  pipeline _ _ := distinct_of_shelf rfl
  debug _ _ _ := distinct_of_shelf rfl
  around _ _ := distinct_of_shelf rfl
  called _ _ := distinct_of_shelf rfl
  asked _ _ _ := distinct_of_shelf rfl

/-- Setting a value keeps the keys distinct. -/
theorem settable_distinct : Settable fun before after => before.Distinct → after.Distinct := by
  intro workspace place setting value shelf hset hdistinct other hmem
  obtain ⟨configuration, entry, hfound, -, rfl⟩ := Shelf.set_eq_ok.mp hset
  rw [Shelf.put, hfound] at hmem
  rcases List.mem_or_eq_of_mem_set hmem with hold | hnew
  · exact hdistinct other hold
  · rw [hnew]
    exact (hdistinct configuration (List.mem_of_getElem? hfound)).insert entry.1 entry.2

/-- Whatever commands are carried out, the keys of all configurations stay distinct. -/
theorem Distinct.performAll (h : workspace.Distinct) (commands : List (Command × Option String)) :
    (workspace.performAll commands).2.Distinct :=
  performAll_keeps tolerant_distinct commands workspace (fun _ _ _ _ _ _ => settable_distinct)
    (fun _ _ _ _ _ _ => distinct_of_shelf rfl) h

/-! ## Making configurations -/

/-- What configuration a command makes, if it makes one: the place of the one that it copies, if it
does, and what it puts over the copy. -/
def creates (workspace : Workspace) : Command → Option (Option Nat × Entries)
  | .configuration other data =>
    ((Session.configurationParts other data).on workspace.started).1.toOption
  | .copy target =>
    match ((Session.resolve target).on workspace.started).1 with
    | .ok ⟨_, .object _ (.configuration place _)⟩ => some (some place, [])
    | _ => none
  | _ => none

/-- A command that makes a configuration does so in a workspace in which the configurations are
those from before. -/
theorem on_perform_of_creates {command : Command} {source : Option Nat} {data : Entries}
    (h : workspace.creates command = some (source, data)) :
    ∃ found : Workspace, found.shelf = workspace.shelf ∧
      (Session.perform command).on workspace.started =
        (Result.item <$> (Session.makeConfiguration source data >>= Session.itemOf)).on found := by
  cases command with
  | configuration other data' =>
    have hshelf := Session.keepsShelf_configurationParts other data' workspace.started
    rw [Session.on_perform_configuration]
    dsimp only [creates] at h
    generalize (Session.configurationParts other data').on workspace.started = ran at h hshelf ⊢
    rcases ran with ⟨cause | parts, found⟩
    · cases h
    · obtain rfl := Option.some.inj h
      exact ⟨found, hshelf, rfl⟩
  | copy target =>
    obtain ⟨result, nextMark, htarget⟩ := Session.looksUp_resolve target workspace.started
    have hperform : Session.perform (.copy target) =
      Result.item <$> (Session.resolve target >>= Session.copyItem) := rfl
    refine ⟨{ workspace.started with nextMark }, rfl, ?_⟩
    rw [hperform, Session.on_map, Session.on_bind, htarget]
    dsimp only [creates] at h
    rw [htarget] at h
    -- Only a configuration is copied as one, into another one without data.
    rcases result with cause | ⟨mark, value⟩
    · cases h
    · dsimp only at h ⊢
      split at h
      · rename_i heq
        obtain ⟨rfl, rfl⟩ := Prod.mk.inj (Option.some.inj h)
        cases heq
        rw [Session.on_map]
        rfl
      · cases h
  | _ => cases h

/-- The place of the configuration that a name stands for. -/
def placeOf? (workspace : Workspace) (name : String) : Option Nat :=
  match (workspace.find? name).map Item.value with
  | some (.object _ (.configuration place _)) => some place
  | _ => none

/-- An item is found under the name that it gets. -/
theorem find?_name (workspace : Workspace) (name : String) (item : Item) :
    (workspace.name name item).find? name =
      some { item with value := workspace.refresh item.value } := by
  unfold find? Workspace.name
  rw [List.find?_cons_of_pos (by simp)]
  rfl

/-- The name that a configuration gets stands for its place. -/
theorem placeOf?_name (workspace : Workspace) (name : String) (mark m place : Nat)
    (entries : Entries) :
    (workspace.name name ⟨mark, .object m (.configuration place entries)⟩).placeOf? name =
      some place := by
  rw [placeOf?, find?_name]
  rfl

/-- A command that makes a configuration puts it at the next place, fills it out of the one that it
copies and the data, and tells of it; the name that is given stands for it. -/
theorem shelf_of_creates {command : Command} {source : Option Nat} {data : Entries}
    (h : workspace.creates command = some (source, data)) (name : Option String) :
    (workspace.perform command name).2.shelf = (workspace.shelf.make source data).1 ∧
      (∃ mark entries, (workspace.perform command name).1.answer =
        .shown (.object mark (.configuration workspace.shelf.contents.length entries))) ∧
      ∀ n, name = some n →
        (workspace.perform command name).2.placeOf? n = some workspace.shelf.contents.length := by
  obtain ⟨found, hshelf, hon⟩ := on_perform_of_creates h
  rw [Session.on_map, Session.on_makeConfiguration] at hon
  have hperform := perform_of_item hon name
  rw [hperform, ← hshelf]
  refine ⟨?_, ⟨_, _, rfl⟩, ?_⟩
  · cases name <;> rfl
  · rintro n rfl
    exact placeOf?_name _ n _ _ _ _

/-- A new configuration holds what the one that is copied holds, with the data put over it. -/
theorem get?_of_creates {command : Command} {source : Option Nat} {data : Entries}
    (h : workspace.creates command = some (source, data)) (name : Option String) :
    (workspace.perform command name).2.shelf.get? workspace.shelf.contents.length =
      some (.make (source.bind workspace.shelf.get?) data) := by
  rw [(shelf_of_creates h name).1]
  exact Shelf.get?_add workspace.shelf _

end Perform

end Workspace

end NumberFeed
