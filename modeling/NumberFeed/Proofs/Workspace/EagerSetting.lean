import NumberFeed.Proofs.Config.Keys
import NumberFeed.Proofs.Config.Typed
import NumberFeed.Proofs.Workspace.Configurations

/-!
# Values are converted when they are set

A value is converted before it is stored. If that fails, the failure is told and nothing is stored
anywhere; otherwise the converted value is stored under the key, and every other key keeps its value
and its place. When the value is read it is converted again, but what a conversion gives is converted
to itself, so that a value is read as it was set until another one is set under its key.
`Workspace.eager_setting` says this for all configurations with keys of one world, and for any
commands that come later.
-/

namespace NumberFeed

namespace Present

/-- Values are brought up to date one by one. -/
theorem refreshAll_eq_map (present : Present) (items : List Value) :
    present.refreshAll items = items.map present.refresh := by
  induction items with
  | nil => rfl
  | cons item rest ih => rw [refreshAll, ih, List.map_cons]

end Present

namespace Value

/-- A value that shows the same whatever becomes of configurations and timestamp functions. -/
def Steady (value : Value) : Prop := ∀ present : Present, present.refresh value = value

/-- Plain data does not change. -/
theorem Data.steady {value : Value} (h : value.Data) : value.Steady := by
  intro present
  induction value using partsInduction with
  | made value ih =>
    have hparts : ∀ part ∈ value.parts, present.refresh part = part := fun part hpart =>
      ih part hpart (World.data.parts h hpart)
    cases value with
    | list items | tuple items =>
      have hitems : ∀ item ∈ items, present.refresh item = item := hparts
      rw [Present.refresh, Present.refreshAll_eq_map, List.map_congr_left hitems, List.map_id']
    | dict entries =>
      have hentry : ∀ entry ∈ entries,
          (present.refresh entry.1, present.refresh entry.2) = entry := by
        intro entry hentry
        obtain ⟨hkey, hvalue⟩ := mem_parts_of_mem hentry
        rw [hparts _ hkey, hparts _ hvalue]
      rw [Present.refresh, Present.refreshEntries_eq_map, List.map_congr_left hentry, List.map_id']
    | object mark form =>
      -- An object has a mark.
      obtain ⟨-, hunmarked, -, -⟩ := h
      have hmark : isSameObject (.object mark form) (.object mark form) = true :=
        beq_self_eq_true mark
      rw [hunmarked] at hmark
      cases hmark
    | null | bool | int | float | nan | text | bytes | duration | span | instant | moment =>
      simp only [Present.refresh]

end Value

/-- Where keys do not change, a key finds what it found, as it is at the moment. -/
theorem Entries.get?_refresh {entries : Entries} (h : ∀ entry ∈ entries, entry.1.Steady)
    (present : Present) (key : Value) :
    Entries.get? (entries.map fun entry => (present.refresh entry.1, present.refresh entry.2)) key =
      (entries.get? key).map present.refresh := by
  induction entries with
  | nil => rfl
  | cons entry rest ih =>
    have hkey : present.refresh entry.1 = entry.1 := h entry List.mem_cons_self present
    have hrest := ih fun other hother => h other (List.mem_cons_of_mem entry hother)
    unfold get? at hrest ⊢
    rw [List.map_cons, List.find?_cons, List.find?_cons, hkey]
    cases entry.1.matchesKey key with
    | true => rfl
    | false => exact hrest

namespace Workspace

section Law

variable {workspace : Workspace} {name : String} {place : Nat} {configuration : Configuration}

/-! ## Commands on the configuration of a name -/

/-- A command whose session could not set a value tells of the failure and of the target. -/
theorem perform_of_notSet {command : Command} {cause : Failure} {item : Item} {after : Workspace}
    (h : (Session.perform command).on workspace.started = (.ok (.notSet cause item), after))
    (given : Option String) :
    workspace.perform command given =
      (⟨.failed cause (some (after.refresh item.value)), after.around.log⟩, after) := by
  unfold Session.on started unlogged at h
  unfold perform
  dsimp only
  rw [h]

/-- To set a value in the configuration of a name comes to what the configuration makes of it: it is
replaced, or the failure is told and everything stays as it was but for the marks. -/
theorem on_perform_set_named (hplace : workspace.placeOf? name = some place)
    (hfound : workspace.shelf.get? place = some configuration) (setting : Setting) (value : Value) :
    ∃ item nextMark,
      (Session.perform (.set (.named name) (.known setting) (.literal value))).on
          workspace.started =
        match configuration.set setting value with
        | .ok changed => (.ok (.item item), { workspace.started with
            nextMark
            shelf := workspace.shelf.replace place changed })
        | .error cause => (.ok (.notSet cause item), { workspace.started with nextMark }) := by
  obtain ⟨mark, m, entries, hresolve⟩ := on_resolve_of_placeOf? hplace
  -- The value and the setting take a mark each, and nothing else changes until the value is set.
  obtain ⟨mark₁, hvalue⟩ : ∃ mark₁, (Session.resolveValue (.literal value)).on workspace.started =
      (.ok value, { workspace.started with nextMark := mark₁ }) := ⟨_, rfl⟩
  have htarget : (Session.asPlace ⟨mark, .object m (.configuration place entries)⟩).on
      { workspace.started with nextMark := mark₁ } =
        (.ok place, { workspace.started with nextMark := mark₁ }) := rfl
  obtain ⟨fallback, mark₂, hsetting⟩ : ∃ fallback mark₂,
      (Session.resolveSetting (.known setting)).on { workspace.started with nextMark := mark₁ } =
        (.ok (setting, fallback), { workspace.started with nextMark := mark₂ }) := ⟨_, _, rfl⟩
  have hperform : Session.perform (.set (.named name) (.known setting) (.literal value)) = (do
    let item ← Session.resolve (.named name)
    let value ← Session.resolveValue (.literal value)
    tryCatch (Session.setValue item (.known setting) value)
      fun cause => return .notSet cause item) := rfl
  have hset : workspace.shelf.set place setting value =
      (configuration.set setting value).map (workspace.shelf.replace place) := by
    rw [Shelf.set, hfound]
  refine ⟨⟨mark, .object m (.configuration place entries)⟩, mark₂, ?_⟩
  rw [hperform, Session.on_bind_of_ok hresolve, Session.on_bind_of_ok hvalue, Session.on_tryCatch,
    Session.setValue, Session.on_bind_of_ok htarget, Session.on_bind_of_ok hsetting,
    Session.on_bind_of_ok (Session.on_get _), Session.on_bind, Session.on_lift]
  dsimp only [started]
  rw [hset]
  rcases configuration.set setting value with cause | changed
  · rfl
  · rfl

/-- What is stored under the key of a setting in its type is told, if no key has changed. -/
theorem answer_perform_get (hplace : workspace.placeOf? name = some place)
    (hfound : workspace.shelf.get? place = some configuration) {setting : Setting} {typed : Value}
    (hhash : setting.key.checkHash = .ok ())
    (hsteady : ∀ entry ∈ configuration.entries, entry.1.Steady)
    (hstored : configuration.entries.get? setting.key = some typed)
    (htyped : setting.type.Has typed) (given : Option String) :
    (workspace.perform (.get (.named name) (.known setting)) given).1.answer = .shown typed := by
  obtain ⟨mark, m, entries, hresolve⟩ := on_resolve_of_placeOf? hplace
  -- What is seen under the key is what is stored there.
  have hseen : (workspace.configurationAt place).entries.get? setting.key = some typed := by
    obtain ⟨present, hentries⟩ := configurationAt_of_get? hfound
    rw [hentries, Entries.get?_refresh hsteady, hstored, Option.map_some, htyped.data.steady present]
  have hget : (workspace.configurationAt place).get setting = .ok typed :=
    Configuration.get_of_has hseen htyped hhash
  have hhas : (workspace.configurationAt place).hasKey setting.key = true := by
    rw [Configuration.hasKey, Entries.hasKey, hseen, Option.isSome_some]
  have hperform : Session.perform (.get (.named name) (.known setting)) = (do
    let target ← Session.resolve (.named name)
    Result.item <$> Session.getValue target (.known setting)) := rfl
  have hvalue : Session.getValue ⟨mark, .object m (.configuration place entries)⟩
      (.known setting) = (do
    let configuration ← Session.asConfiguration ⟨mark, .object m (.configuration place entries)⟩
    let found ← Session.resolveSetting (.known setting)
    let value ← Session.lift (configuration.get found.1)
    if configuration.hasKey found.1.key then Session.itemOf value else return found.2) := rfl
  have hconfiguration :
      (Session.asConfiguration ⟨mark, .object m (.configuration place entries)⟩).on
        workspace.started = (.ok (workspace.configurationAt place), workspace.started) := rfl
  obtain ⟨fallback, mark₁, hsetting⟩ : ∃ fallback mark₁,
      (Session.resolveSetting (.known setting)).on workspace.started =
        (.ok (setting, fallback), { workspace.started with nextMark := mark₁ }) := ⟨_, _, rfl⟩
  obtain ⟨mark₂, after, hitem⟩ : ∃ mark₂ after,
      (Session.itemOf typed).on { workspace.started with nextMark := mark₁ } =
        (.ok ⟨mark₂, typed⟩, after) := by
    cases typed <;> exact ⟨_, _, rfl⟩
  have hon : (Session.perform (.get (.named name) (.known setting))).on workspace.started =
      (.ok (.item ⟨mark₂, typed⟩), after) := by
    rw [hperform, Session.on_bind_of_ok hresolve, Session.on_map, hvalue,
      Session.on_bind_of_ok hconfiguration, Session.on_bind_of_ok hsetting]
    dsimp only
    rw [hget, Session.on_bind_of_ok (Session.on_lift _ _), hhas, if_pos rfl, hitem]
    rfl
  rw [perform_of_item hon]
  exact congrArg Answer.shown (htyped.data.steady _)

end Law

/-! ## The law -/

/-- A configuration that a name stands for, and a setting whose key has a hash, with all keys in one
world. -/
structure Target (world : World) (workspace : Workspace) (name : String) (place : Nat)
    (configuration : Configuration) (setting : Setting) : Prop where
  /-- The name stands for the place. -/
  named : workspace.placeOf? name = some place
  /-- The configuration stands at the place. -/
  there : workspace.shelf.get? place = some configuration
  /-- Its keys are in the world. -/
  keys : world.HasKeys configuration.entries
  /-- So is the key of the setting. -/
  key : world.has setting.key
  /-- This key has a hash. -/
  hashed : setting.key.checkHash = .ok ()

section Target

variable {world : World} {workspace : Workspace} {name : String} {place : Nat}
  {configuration : Configuration} {setting : Setting} {value typed : Value}

/-- A value that can be converted is put in, and that is told. -/
theorem Target.perform_of_ok (h : Target world workspace name place configuration setting)
    (hconvert : setting.convert value = .ok typed) (given : Option String) :
    let after := workspace.perform (.set (.named name) (.known setting) (.literal value)) given
    (∃ shown, after.1.answer = .shown shown) ∧
      after.2.shelf.get? place = some ⟨configuration.entries.insert setting.key typed⟩ := by
  intro after
  have hentry := Setting.entry_of_convert_ok hconvert h.hashed
  constructor
  · obtain ⟨item, nextMark, hon⟩ := on_perform_set_named h.named h.there setting value
    rw [Configuration.set_eq, hentry] at hon
    exact ⟨_, congrArg (·.1.answer) (perform_of_item hon given)⟩
  · have hstores := stores?_named h.named setting value
    rw [hentry] at hstores
    have hat : workspace.storedAt place (.set (.named name) (.known setting) (.literal value)) =
        [(setting.key, typed)] := by
      rw [storedAt, hstores]
      exact if_pos rfl
    rw [get?_perform h.there, hat]
    rfl

/-- A value that cannot be converted is not stored anywhere, and the failure is told. -/
theorem Target.perform_of_error (h : Target world workspace name place configuration setting)
    {cause : Failure} (hconvert : setting.convert value = .error cause) (given : Option String) :
    let command := Command.set (.named name) (.known setting) (.literal value)
    (∃ shown, (workspace.perform command given).1.answer = .failed cause (some shown)) ∧
      workspace.stores? command = none ∧
      (workspace.perform command given).2.shelf = workspace.shelf := by
  intro command
  have hentry := Setting.entry_of_convert_error hconvert
  have hstores : workspace.stores? command = none := by
    rw [stores?_named h.named, hentry]
    rfl
  obtain ⟨item, nextMark, hon⟩ := on_perform_set_named h.named h.there setting value
  rw [Configuration.set_eq, hentry] at hon
  refine ⟨⟨_, congrArg (·.1.answer) (perform_of_notSet hon given)⟩, hstores, ?_⟩
  rw [shelf_perform, hon]
  rfl

/-- What is put in under the key of the setting is found there, as the key matches itself. -/
theorem Target.get?_insert (h : Target world workspace name place configuration setting)
    (typed : Value) :
    (configuration.entries.insert setting.key typed).get? setting.key = some typed :=
  Entries.get?_insert_self _ (world.matchesKey_refl h.key) typed

end Target

/-- What becomes of a value that is set. -/
structure EagerSetting (world : World) (workspace : Workspace) : Prop where
  /-- The failure of the conversion is told as it is, and nothing is stored: all configurations stay
  as they were, with their keys, their values and their order. -/
  refused : ∀ name place configuration setting value cause given,
    Target world workspace name place configuration setting →
    setting.convert value = .error cause →
    let command := Command.set (.named name) (.known setting) (.literal value)
    (∃ shown, (workspace.perform command given).1.answer = .failed cause (some shown)) ∧
      workspace.stores? command = none ∧
      (workspace.perform command given).2.shelf = workspace.shelf
  /-- Otherwise the key is put in with the converted value, which is read from now on. Every other key
  finds what it found, and where it found it. -/
  stored : ∀ name place configuration setting value typed given,
    Target world workspace name place configuration setting →
    setting.convert value = .ok typed →
    let after := workspace.perform (.set (.named name) (.known setting) (.literal value)) given
    (∃ shown, after.1.answer = .shown shown) ∧
      ∃ changed, after.2.shelf.get? place = some changed ∧ changed.get setting = .ok typed ∧
        configuration.entries.Put setting.key typed changed.entries ∧
        ∀ other, world.has other → setting.key.matchesKey other = false →
          changed.entries.get? other = configuration.entries.get? other ∧
            changed.entries.position? other = configuration.entries.position? other
  /-- It is read after any more commands, if these store nothing in the configuration, as all that
  fail do, or store under other keys. -/
  kept : ∀ name place configuration setting value typed given commands,
    Target world workspace name place configuration setting →
    setting.convert value = .ok typed →
    let after :=
      (workspace.perform (.set (.named name) (.known setting) (.literal value)) given).2
    (∀ entry ∈ history place after commands,
      world.has entry.1 ∧ entry.1.matchesKey setting.key = false) →
    ∃ later, (after.performAll commands).2.shelf.get? place = some later ∧
      later.get setting = .ok typed ∧
      ∀ other anyName, (after.performAll commands).2.placeOf? other = some place →
        (∀ entry ∈ later.entries, entry.1.Steady) →
        ((after.performAll commands).2.perform (.get (.named other) (.known setting)) anyName).1.answer
          = .shown typed
  /-- What a conversion gives is converted to itself; so is every integer and every duration. -/
  idempotent : ∀ (setting : Setting) (typed : Value),
    ((∃ value, setting.convert value = .ok typed) ↔ setting.type.Has typed) ∧
      (setting.type.Has typed → setting.convert typed = .ok typed)

/-- Values are set in every workspace as the law says. -/
theorem eager_setting (world : World) (workspace : Workspace) : EagerSetting world workspace := by
  refine ⟨?_, ?_, ?_, ?_⟩
  · intro name place configuration setting value cause given htarget hconvert
    exact htarget.perform_of_error hconvert given
  · intro name place configuration setting value typed given htarget hconvert after
    obtain ⟨hanswer, hchanged⟩ := htarget.perform_of_ok hconvert given
    have hput := Entries.put_insert configuration.entries setting.key typed
    have htyped := Setting.has_of_convert hconvert
    refine ⟨hanswer, _, hchanged, ?_, hput, fun other hother hmiss => ?_⟩
    · exact Configuration.get_of_has (htarget.get?_insert typed) htyped htarget.hashed
    · exact hput.elsewhere htarget.keys htarget.key hother hmiss
  · intro name place configuration setting value typed given commands htarget hconvert after hapart
    obtain ⟨-, hchanged⟩ := htarget.perform_of_ok hconvert given
    have htyped := Setting.has_of_convert hconvert
    have hkeys := htarget.keys.insert htarget.key typed
    -- What is there later is what is there now, with that put over it which is stored later.
    have hlater := get?_performAll hchanged commands
    have hfound := Entries.get?_overlay_of_apart hkeys htarget.key hapart
    rw [htarget.get?_insert typed] at hfound
    refine ⟨_, hlater, Configuration.get_of_has hfound htyped htarget.hashed, ?_⟩
    intro other anyName hplace hsteady
    exact answer_perform_get hplace hlater htarget.hashed hsteady hfound htyped anyName
  · intro setting typed
    refine ⟨⟨?_, fun htyped => ⟨typed, Setting.convert_of_has htyped⟩⟩, Setting.convert_of_has⟩
    rintro ⟨value, hconvert⟩
    exact Setting.has_of_convert hconvert

/-- A new configuration that gets a name is set by the names of the inputs' settings. -/
example (around : Surroundings) :
    Target World.data ((new around 0).perform (.configuration none none) (some "c")).2 "c" 1 .empty
      Input.numElements := by
  have hcreates : (new around 0).creates (.configuration none none) = some (none, []) :=
    creates_of_mapping rfl
  obtain ⟨-, -, hnamed⟩ := shelf_of_creates hcreates (some "c")
  refine ⟨hnamed "c" rfl, get?_of_creates hcreates (some "c"), ?_, Value.data_text _, rfl⟩
  intro key hkey
  cases hkey

end Workspace

end NumberFeed
