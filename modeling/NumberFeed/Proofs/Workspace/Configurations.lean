import NumberFeed.Proofs.Input.Configured
import NumberFeed.Proofs.Workspace.Views

/-!
# The law of configurations

A workspace may hold any number of configurations, made of one another and of data, and set in any
order. Each of them holds what it was made of, with its own history put over it, and nothing that is
set in another one. `Workspace.configuration_law` says this for what the configurations hold, for the
order of the keys, and for what can be seen of a configuration by any name.
-/

namespace NumberFeed

namespace Present

/-- Entries are brought up to date one by one. -/
theorem refreshEntries_eq_map (present : Present) (entries : Entries) :
    present.refreshEntries entries =
      entries.map fun entry => (present.refresh entry.1, present.refresh entry.2) := by
  induction entries with
  | nil => rfl
  | cons entry rest ih => rw [refreshEntries, ih, List.map_cons]

end Present

namespace Shelf

/-- Nothing leads anywhere from a value that mentions no configuration. -/
theorem not_leads_of_places_nil {shelf : Shelf} {place : Nat} {value : Value}
    (h : value.places = []) : ¬ shelf.Leads place value := by
  intro hleads
  cases hleads with
  | mentioned hmentions =>
    rw [h] at hmentions
    cases hmentions
  | through hmentions _ _ =>
    rw [h] at hmentions
    cases hmentions

end Shelf

namespace Session

/-- An input of a configuration mentions no configuration. -/
theorem places_inputOf {item made : Item} {workspace after : Workspace}
    (h : (inputOf item).on workspace = (.ok made, after)) : made.value.places = [] := by
  have hunbounded : ∀ (records : Option Count) (time : Option Duration) (found : Workspace),
      (makeInputOf (.unbounded (.ofParts .now records time))).on found = (.ok made, after) →
      made.value.places = [] := by
    intro records time found hmade
    obtain ⟨hmade, -⟩ := Prod.mk.inj hmade
    cases hmade
    cases time <;> rfl
  unfold inputOf at h
  split at h
  · cases h
  · exact hunbounded none none workspace h
  · rw [on_bind] at h
    generalize (asConfiguration item).on workspace = ran at h
    rcases ran with ⟨cause | configuration, found⟩
    · cases h
    dsimp only at h
    rw [on_bind, on_lift] at h
    rcases hinput : Input.ofConfiguration configuration with cause | input | input
    · rw [hinput] at h
      cases h
    · rw [hinput] at h
      obtain ⟨hmade, -⟩ := Prod.mk.inj h
      cases hmade
      rfl
    · obtain ⟨records, time, rfl⟩ := Input.ofConfiguration_ofParts hinput
      rw [hinput] at h
      exact hunbounded records time found h

end Session

namespace Workspace

section Law

variable {workspace : Workspace}

/-- An input that is made of a configuration and gets a name mentions no configuration. -/
theorem itemAt?_inputOf {target : Argument} {name : String} {shown : Value}
    (h : (workspace.perform (.inputOf target) (some name)).1.answer = .shown shown) :
    ∃ item, (workspace.perform (.inputOf target) (some name)).2.itemAt? name = some item ∧
      item.value.places = [] := by
  have hperform : Session.perform (.inputOf target) =
      Result.item <$> (Session.resolve target >>= Session.inputOf) := rfl
  have hon := Session.on_map Result.item (Session.resolve target >>= Session.inputOf)
    workspace.started
  rw [← hperform] at hon
  rcases hran : (Session.resolve target >>= Session.inputOf).on workspace.started with
    ⟨cause | item, after⟩
  · rw [hran] at hon
    rw [perform_of_error hon] at h
    cases h
  · rw [hran] at hon
    refine ⟨item, ?_, ?_⟩
    · rw [perform_of_item hon, Option.map_some, Option.getD_some, itemAt?_name_self]
    · rw [Session.on_bind] at hran
      generalize (Session.resolve target).on workspace.started = found at hran
      rcases found with ⟨cause | found, before⟩
      · cases hran
      · exact Session.places_inputOf hran

/-! ## What commands on names do -/

/-- A name that stands for a configuration is looked up as such. -/
theorem on_resolve_of_placeOf? {name : String} {place : Nat}
    (h : workspace.placeOf? name = some place) : ∃ mark m entries,
      (Session.resolve (.named name)).on workspace.started =
        (.ok ⟨mark, .object m (.configuration place entries)⟩, workspace.started) := by
  have hfind : workspace.started.find? name = workspace.find? name := rfl
  unfold placeOf? at h
  rcases hfound : workspace.find? name with _ | ⟨mark, value⟩
  · rw [hfound] at h
    cases h
  · rw [hfound] at h
    dsimp only [Option.map_some] at h
    split at h
    · rename_i m found entries heq
      cases h
      cases heq
      exact ⟨mark, m, entries, by rw [Session.on_resolve_named, hfind, hfound]⟩
    · cases h

/-- To set a value in the configuration of a name stores the entry that the setting makes of it. -/
theorem stores?_named {name : String} {place : Nat} (h : workspace.placeOf? name = some place)
    (setting : Setting) (value : Value) :
    workspace.stores? (.set (.named name) (.known setting) (.literal value)) =
      ((setting.entry value).map fun entry => (place, entry)).toOption := by
  obtain ⟨mark, m, entries, hresolve⟩ := on_resolve_of_placeOf? h
  -- The literal and the setting take a mark each, and the place is found.
  obtain ⟨after, hvalue⟩ : ∃ after, (Session.resolveValue (.literal value)).on workspace.started =
      (.ok value, after) := ⟨_, rfl⟩
  have hplace : (Session.asPlace ⟨mark, .object m (.configuration place entries)⟩).on after =
      (.ok place, after) := rfl
  obtain ⟨item, later, hsetting⟩ : ∃ item later,
      (Session.resolveSetting (.known setting)).on after = (.ok (setting, item), later) :=
    ⟨_, _, rfl⟩
  rw [stores?, Session.setEntry, Session.on_bind_of_ok hresolve, Session.on_bind_of_ok hvalue,
    Session.on_bind_of_ok hplace, Session.on_bind_of_ok hsetting, Session.on_bind, Session.on_lift]
  cases setting.entry value <;> rfl

/-- The entries of a mapping that is given as it is or by its name, and none if it is left out. -/
def mapping? (workspace : Workspace) : Option Argument → Option Entries
  | none => some []
  | some (.literal (.dict entries)) => some entries
  | some (.named name) =>
    match (workspace.find? name).map Item.value with
    | some (.dict entries) => some entries
    | _ => none
  | _ => none

/-- A mapping is looked up, and its entries are those that are put over a copy. -/
theorem on_resolveValue?_of_mapping {data : Option Argument} {entries : Entries}
    (h : workspace.mapping? data = some entries) :
    ∃ value after, (Session.resolveValue? data).on workspace.started = (.ok value, after) ∧
      ∀ found : Workspace, (Session.asEntries value).on found = (.ok entries, found) := by
  have hnull : Session.asEntries .null = pure [] := rfl
  have hdict : Session.asEntries (.dict entries) = pure entries := rfl
  unfold mapping? at h
  split at h
  · cases h
    exact ⟨.null, _, rfl, fun found => by rw [hnull, Session.on_pure]⟩
  · cases h
    exact ⟨.dict entries, _, rfl, fun found => by rw [hdict, Session.on_pure]⟩
  · rename_i name
    have hfind : workspace.started.find? name = workspace.find? name := rfl
    rcases hfound : workspace.find? name with _ | ⟨mark, value⟩
    · rw [hfound] at h
      cases h
    · rw [hfound] at h
      dsimp only [Option.map_some] at h
      split at h
      · rename_i heq
        cases h
        cases heq
        refine ⟨.dict entries, workspace.started, ?_, fun found => by rw [hdict, Session.on_pure]⟩
        rw [Session.resolveValue?, Session.resolveValue, Session.on_map,
          Session.on_resolve_named, hfind, hfound]
        rfl
      · cases h
  · cases h

/-- What is copied is looked up before the mapping that is put over it. -/
theorem creates_of_copiedPlace {other data : Option Argument} {copied : Value} {source : Option Nat}
    {entries : Entries}
    (hother : (Session.resolveValue? other).on workspace.started = (.ok copied, workspace.started))
    (hsource : Session.copiedPlace copied = .ok source) (h : workspace.mapping? data = some entries) :
    workspace.creates (.configuration other data) = some (source, entries) := by
  obtain ⟨value, after, hdata, hentries⟩ := on_resolveValue?_of_mapping h
  have hlift := Session.on_lift (Session.copiedPlace copied) after
  rw [hsource] at hlift
  rw [creates, Session.configurationParts, Session.on_bind_of_ok hother,
    Session.on_bind_of_ok hdata, hsource, Session.on_bind_of_ok hlift,
    Session.on_bind_of_ok (hentries after)]
  rfl

/-- A configuration may be made of a mapping alone, of which nothing may be left. -/
theorem creates_of_mapping {data : Option Argument} {entries : Entries}
    (h : workspace.mapping? data = some entries) :
    workspace.creates (.configuration none data) = some (none, entries) :=
  have hother : (Session.resolveValue? none).on workspace.started =
      (.ok .null, workspace.started) := rfl
  creates_of_copiedPlace hother rfl h

/-- A configuration may be made of another one with a mapping put over the copy. -/
theorem creates_of_other {name : String} {place : Nat} {data : Option Argument} {entries : Entries}
    (hplace : workspace.placeOf? name = some place) (h : workspace.mapping? data = some entries) :
    workspace.creates (.configuration (some (.named name)) data) = some (some place, entries) := by
  obtain ⟨mark, m, contents, hresolve⟩ := on_resolve_of_placeOf? hplace
  have hother : (Session.resolveValue? (some (.named name))).on workspace.started =
      (.ok (.object m (.configuration place contents)), workspace.started) := by
    rw [Session.resolveValue?, Session.resolveValue, Session.on_map, hresolve]
    rfl
  exact creates_of_copiedPlace hother rfl h

/-- A copy of a configuration is one that is made of it alone. -/
theorem creates_copy {name : String} {place : Nat} (h : workspace.placeOf? name = some place) :
    workspace.creates (.copy (.named name)) = some (some place, []) := by
  obtain ⟨mark, m, entries, hresolve⟩ := on_resolve_of_placeOf? h
  rw [creates, hresolve]

/-! ## The law -/

/-- What is seen of a configuration are the entries that it holds, with the configurations within them
as they are at the moment. -/
theorem configurationAt_of_get? {place : Nat} {configuration : Configuration}
    (h : workspace.shelf.get? place = some configuration) :
    ∃ present : Present, (workspace.configurationAt place).entries =
      configuration.entries.map fun entry => (present.refresh entry.1, present.refresh entry.2) := by
  have hcontents : workspace.shelf.contents[place]? = some configuration := h
  refine ⟨Present.make workspace.stampers ⟨workspace.shelf.contents.take place⟩, ?_⟩
  rw [configurationAt, Present.entriesAt, Present.contents_make, hcontents, Option.map_some,
    Option.getD_some, Present.refreshEntries_eq_map]

/-- The keys that a configuration has stay where they are, whatever commands are carried out. -/
theorem keys_prefix_performAll {place : Nat} {configuration after : Configuration}
    (h : workspace.shelf.get? place = some configuration)
    {commands : List (Command × Option String)}
    (hafter : (workspace.performAll commands).2.shelf.get? place = some after) :
    configuration.entries.keys <+: after.entries.keys := by
  rw [get?_performAll h] at hafter
  rw [← Option.some.inj hafter]
  exact Entries.keys_prefix_overlay _ _

/-- The configurations of a new workspace have distinct keys, as they have none. -/
theorem distinct_new (around : Surroundings) (firstMark : Nat) :
    (new around firstMark).Distinct := by
  intro configuration hmem
  rw [List.mem_singleton.mp hmem]
  exact List.Pairwise.nil

/-- An input that has been made of a configuration shows the same before and after a value is set, at
whatever later time. -/
theorem find?_input_perform_set {source : Argument} {name : String} {shown : Value}
    (hmade : (workspace.perform (.inputOf source) (some name)).1.answer = .shown shown)
    {commands : List (Command × Option String)}
    (hcommands : ∀ command ∈ commands, command.2 ≠ some name)
    (target : Argument) (setting : SettingArgument) (value : Argument) {given : Option String}
    (hgiven : given ≠ some name) :
    let later := ((workspace.perform (.inputOf source) (some name)).2.performAll commands).2
    (later.perform (.set target setting value) given).2.find? name = later.find? name := by
  intro later
  obtain ⟨item, hitem, hplaces⟩ := itemAt?_inputOf hmade
  -- Its item has been the same ever since it was made.
  refine find?_perform_set target setting value hgiven fun place entry _ found hfound => ?_
  rw [itemAt?_performAll hcommands, hitem] at hfound
  rw [← Option.some.inj hfound]
  exact Shelf.not_leads_of_places_nil hplaces

end Law

/-- What the configurations of a workspace hold, from now on and whatever is done. -/
structure ConfigurationLaw (workspace : Workspace) : Prop where
  /-- A configuration is made without anything, of data, of another one, of another one with data put
  over it, or as a copy. -/
  kinds : ∀ data entries, workspace.mapping? data = some entries →
    workspace.creates (.configuration none data) = some (none, entries) ∧
      ∀ name place, workspace.placeOf? name = some place →
        workspace.creates (.configuration (some (.named name)) data) = some (some place, entries) ∧
          workspace.creates (.copy (.named name)) = some (some place, [])
  /-- A new configuration is told of, gets a place of its own, and the name that is given stands for
  it. -/
  made : ∀ command source data name, workspace.creates command = some (source, data) →
    (∃ mark entries, (workspace.perform command name).1.answer =
        .shown (.object mark (.configuration workspace.shelf.contents.length entries))) ∧
      ∀ n, name = some n →
        (workspace.perform command name).2.placeOf? n = some workspace.shelf.contents.length
  /-- After any more commands it holds what the one that it was made of held when it was made, with
  the data put over it, and its own history over that. -/
  replayed : ∀ command source data name commands,
    workspace.creates command = some (source, data) →
    let after := (workspace.perform command name).2
    let place := workspace.shelf.contents.length
    let copied := ((source.bind workspace.shelf.get?).getD .empty).entries
    (after.performAll commands).2.shelf.get? place =
      some ⟨(copied.overlay data).overlay (history place after commands)⟩
  /-- A configuration that was there before holds what it held, with its own history put over it. -/
  kept : ∀ place configuration commands, workspace.shelf.get? place = some configuration →
    (workspace.performAll commands).2.shelf.get? place =
      some ⟨configuration.entries.overlay (history place workspace commands)⟩
  /-- To set a value in the configuration of a name stores the key with the converted value, if the
  value can be converted and the key has a hash. -/
  sets : ∀ name place setting value, workspace.placeOf? name = some place →
    workspace.stores? (.set (.named name) (.known setting) (.literal value)) =
      ((setting.entry value).map fun entry => (place, entry)).toOption
  /-- A command to set a value is successful just when it stores something in a configuration. -/
  succeeds : ∀ target setting value name,
    (∃ shown, (workspace.perform (.set target setting value) name).1.answer = .shown shown) ↔
      ∃ place configuration entry, workspace.shelf.get? place = some configuration ∧
        workspace.stores? (.set target setting value) = some (place, entry)
  /-- What is put over entries is put in one after the other: a new key is appended, and a key that is
  there keeps its place. -/
  put : ∀ (entries first second : Entries) key value,
    entries.overlay (first ++ second) = (entries.overlay first).overlay second ∧
      Entries.Put entries key value (entries.overlay [(key, value)])
  /-- The keys of a configuration stay where they are. -/
  order : ∀ place configuration after commands,
    workspace.shelf.get? place = some configuration →
    (workspace.performAll commands).2.shelf.get? place = some after →
    configuration.entries.keys <+: after.entries.keys
  /-- The keys of all configurations stay distinct, from the beginning on. -/
  unique : (workspace.Distinct → ∀ commands, (workspace.performAll commands).2.Distinct) ∧
    ∀ around firstMark, (new around firstMark).Distinct
  /-- What is seen of a configuration are its entries in order, and its texts are those of the values
  seen, under the same keys and in the same order. -/
  seen : ∀ place configuration, workspace.shelf.get? place = some configuration →
    (∃ present : Present, (workspace.configurationAt place).entries =
        configuration.entries.map fun entry => (present.refresh entry.1, present.refresh entry.2)) ∧
      ∀ texts, (workspace.configurationAt place).toTexts = .ok texts ↔
        List.Forall₂ (fun entry text => text.1 = entry.1 ∧
          ∃ shown, entry.2.shown = .ok shown ∧ text.2 = .text shown)
          (workspace.configurationAt place).entries texts
  /-- The item of a name, such as the mapping that a configuration was made of, stays what it is until
  the name is given to another one. What is seen of it are the present contents. -/
  items : ∀ name commands, (∀ command ∈ commands, command.2 ≠ some name) →
    let after := (workspace.performAll commands).2
    after.itemAt? name = workspace.itemAt? name ∧
      after.find? name = (workspace.itemAt? name).map fun item =>
        { item with value := after.refresh item.value }
  /-- What is set in one configuration changes no other one, and nothing that is seen of an item that
  does not hold this one: neither of the one that it was copied from nor of the mapping that it was
  made of. -/
  apart : ∀ target setting value name place entry,
    workspace.stores? (.set target setting value) = some (place, entry) →
    (∀ other, other ≠ place →
        (workspace.perform (.set target setting value) name).2.shelf.get? other =
          workspace.shelf.get? other) ∧
      ∀ n, name ≠ some n →
        (∀ item, workspace.itemAt? n = some item → ¬ workspace.shelf.Leads place item.value) →
        (workspace.perform (.set target setting value) name).2.find? n = workspace.find? n
  /-- An input that has been made of a configuration shows the same before and after a value is set,
  at whatever later time. -/
  input : ∀ source name shown commands,
    (workspace.perform (.inputOf source) (some name)).1.answer = .shown shown →
    (∀ command ∈ commands, command.2 ≠ some name) →
    let later := ((workspace.perform (.inputOf source) (some name)).2.performAll commands).2
    ∀ target setting value given, given ≠ some name →
      (later.perform (.set target setting value) given).2.find? name = later.find? name

/-- The configurations of every workspace obey the law. -/
theorem configuration_law (workspace : Workspace) : ConfigurationLaw workspace := by
  refine ⟨?_, ?_, ?_, ?_, ?_, ?_, ?_, ?_, ?_, ?_, ?_, ?_, ?_⟩
  · intro data entries hdata
    refine ⟨creates_of_mapping hdata, fun name place hplace => ?_⟩
    exact ⟨creates_of_other hplace hdata, creates_copy hplace⟩
  · intro command source data name hcreates
    exact (shelf_of_creates hcreates name).2
  · intro command source data name commands hcreates after place copied
    exact get?_performAll (get?_of_creates hcreates name) commands
  · intro place configuration commands hfound
    exact get?_performAll hfound commands
  · intro name place setting value hplace
    exact stores?_named hplace setting value
  · intro target setting value name
    exact shown_perform_set target setting value name
  · intro entries first second key value
    exact ⟨Entries.overlay_append entries first second, Entries.put_insert entries key value⟩
  · intro place configuration after commands hfound hafter
    exact keys_prefix_performAll hfound hafter
  · exact ⟨fun hdistinct commands => hdistinct.performAll commands, distinct_new⟩
  · intro place configuration hfound
    exact ⟨configurationAt_of_get? hfound, fun texts => Configuration.toTexts_eq_ok_iff⟩
  · intro name commands hcommands after
    have hitem := itemAt?_performAll hcommands workspace
    exact ⟨hitem, by rw [find?_eq, hitem]⟩
  · -- The shelf changes at one place only, and names that lead elsewhere do not see it.
    intro target setting value name place entry hstores
    obtain ⟨-, hshelf⟩ := @perform_set workspace target setting value name
    refine ⟨fun other hother => ?_, fun n hname hleads => ?_⟩
    · rw [hshelf, hstores]
      exact Shelf.get?_put_of_ne workspace.shelf hother entry
    · refine find?_perform_set target setting value hname fun found entry' hfound => ?_
      rw [hstores] at hfound
      rw [← (Prod.mk.inj (Option.some.inj hfound)).1]
      exact hleads
  · intro source name shown commands hmade hcommands later target setting value given hgiven
    exact find?_input_perform_set hmade hcommands target setting value hgiven

end Workspace

end NumberFeed
