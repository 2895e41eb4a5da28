import Mathlib.Data.List.Induction
import NumberFeed.Proofs.Workspace.Shelving

/-!
# What names show

An item shows the configurations within it as they are at the moment, also those that these hold in
turn. Which ones they are is settled by the places that its value mentions (`Value.places`) and by
what leads from there to other places (`Shelf.Leads`). An item from which nothing leads to a
configuration does not show what becomes of that configuration (`Present.refresh_of_not_leads`). So
to set a value in a configuration changes what a name shows only if the name leads to this very
configuration (`Workspace.find?_perform_set`).
-/

namespace NumberFeed

mutual

/-- The places of the configurations that a value mentions. -/
def Value.places : Value → List Nat
  | .list items => placesOfAll items
  | .tuple items => placesOfAll items
  | .dict entries => placesOfEntries entries
  | .object _ form => form.places
  | _ => []

/-- The places of the configurations that an object mentions. A configuration mentions only itself:
what it holds is found at its place. -/
def Form.places : Form → List Nat
  | .element value timestamp => value.places ++ timestamp.places
  | .configuration place _ => [place]
  | .unboundedInput stamper _ time => stamper.places ++ time.places
  | .counting kept => kept.places
  | .read _ _ source => source.places
  | .limitedRead _ _ source => source.places
  | .collection _ producer => producer.places
  | _ => []

/-- The places that values mention. -/
def placesOfAll : List Value → List Nat
  | [] => []
  | value :: rest => value.places ++ placesOfAll rest

/-- The places that entries mention. -/
def placesOfEntries : List (Value × Value) → List Nat
  | [] => []
  | (key, value) :: rest => key.places ++ (value.places ++ placesOfEntries rest)

end

/-- A value leads to the configuration at a place if it mentions it, or mentions another one whose
entries lead there. -/
inductive Shelf.Leads (shelf : Shelf) (place : Nat) : Value → Prop
  | mentioned {value : Value} (mentions : place ∈ value.places) : Leads shelf place value
  | through {value : Value} {other : Nat} {configuration : Configuration}
      (mentions : other ∈ value.places) (found : shelf.get? other = some configuration)
      (leads : Leads shelf place (.dict configuration.entries)) : Leads shelf place value

namespace Present

section Alike

variable {present other : Present}

mutual

/-- A value shows the same wherever the configurations that it mentions hold the same. -/
theorem refresh_congr (hformulas : present.formulas = other.formulas) :
    ∀ value : Value,
    (∀ place ∈ value.places, present.entriesAt place = other.entriesAt place) →
    present.refresh value = other.refresh value
  | .list items, h => by
    rw [refresh, refresh, refreshAll_congr hformulas items h]
  | .tuple items, h => by
    rw [refresh, refresh, refreshAll_congr hformulas items h]
  | .dict entries, h => by
    rw [refresh, refresh, refreshEntries_congr hformulas entries h]
  | .object mark form, h => by
    rw [refresh, refresh, refreshForm_congr hformulas form h]
  | .null, _ | .bool _, _ | .int _, _ | .float _, _ | .nan _, _ | .text _, _ | .bytes _, _
  | .duration _, _ | .span _, _ | .instant _, _ | .moment _ _, _ => by simp only [refresh]

/-- So does an object. -/
theorem refreshForm_congr (hformulas : present.formulas = other.formulas) :
    ∀ form : Form,
    (∀ place ∈ form.places, present.entriesAt place = other.entriesAt place) →
    present.refreshForm form = other.refreshForm form
  | .stamper cell formula, _ => by
    rw [refreshForm, refreshForm, formulaAt, formulaAt, hformulas]
  | .element value timestamp, h => by
    rw [refreshForm, refreshForm,
      refresh_congr hformulas value fun place hplace => h place (List.mem_append_left _ hplace),
      refresh_congr hformulas timestamp fun place hplace => h place (List.mem_append_right _ hplace)]
  | .configuration place entries, h => by
    rw [refreshForm, refreshForm, h place (List.mem_singleton_self place)]
  | .unboundedInput stamper records time, h => by
    rw [refreshForm, refreshForm,
      refresh_congr hformulas stamper fun place hplace => h place (List.mem_append_left _ hplace),
      refresh_congr hformulas time fun place hplace => h place (List.mem_append_right _ hplace)]
  | .counting kept, h => by
    rw [refreshForm, refreshForm, refresh_congr hformulas kept h]
  | .read bounded mark source, h => by
    rw [refreshForm, refreshForm, refresh_congr hformulas source h]
  | .limitedRead limits mark source, h => by
    rw [refreshForm, refreshForm, refresh_congr hformulas source h]
  | .collection bounded producer, h => by
    rw [refreshForm, refreshForm, refresh_congr hformulas producer h]
  | .boundedInput _, _ | .range _ _, _ | .reader _ _, _ => by simp only [refreshForm]

/-- So do values. -/
theorem refreshAll_congr (hformulas : present.formulas = other.formulas) :
    ∀ items : List Value,
    (∀ place ∈ placesOfAll items, present.entriesAt place = other.entriesAt place) →
    present.refreshAll items = other.refreshAll items
  | [], _ => rfl
  | value :: rest, h => by
    rw [refreshAll, refreshAll,
      refresh_congr hformulas value fun place hplace => h place (List.mem_append_left _ hplace),
      refreshAll_congr hformulas rest fun place hplace => h place (List.mem_append_right _ hplace)]

/-- So do entries. -/
theorem refreshEntries_congr (hformulas : present.formulas = other.formulas) :
    ∀ entries : List (Value × Value),
    (∀ place ∈ placesOfEntries entries, present.entriesAt place = other.entriesAt place) →
    present.refreshEntries entries = other.refreshEntries entries
  | [], _ => rfl
  | (key, value) :: rest, h => by
    rw [refreshEntries, refreshEntries,
      refresh_congr hformulas key fun place hplace => h place (List.mem_append_left _ hplace),
      refresh_congr hformulas value fun place hplace =>
        h place (List.mem_append_right _ (List.mem_append_left _ hplace)),
      refreshEntries_congr hformulas rest fun place hplace =>
        h place (List.mem_append_right _ (List.mem_append_right _ hplace))]

end

end Alike

section Make

variable {stampers : List Stamper}

/-- The last configuration is brought up to date with the ones before it. -/
theorem make_concat (contents : List Configuration) (configuration : Configuration) :
    make stampers ⟨contents ++ [configuration]⟩ =
      { make stampers ⟨contents⟩ with contents := (make stampers ⟨contents⟩).contents ++
        [(make stampers ⟨contents⟩).refreshEntries configuration.entries] } := by
  unfold make
  rw [List.foldl_append]
  rfl

/-- The formulas are those of the timestamp functions. -/
theorem formulas_make (contents : List Configuration) :
    (make stampers ⟨contents⟩).formulas = stampers.map Stamper.formula? := by
  induction contents using List.reverseRecOn with
  | nil => rfl
  | append_singleton contents configuration ih => rw [make_concat]; exact ih

/-- There are as many contents as configurations. -/
theorem length_make (contents : List Configuration) :
    (make stampers ⟨contents⟩).contents.length = contents.length := by
  induction contents using List.reverseRecOn with
  | nil => rfl
  | append_singleton contents configuration ih =>
    rw [make_concat, List.length_append, List.length_append, ih]
    rfl

/-- Every configuration is brought up to date with the ones before it. -/
theorem contents_make (contents : List Configuration) (place : Nat) :
    (make stampers ⟨contents⟩).contents[place]? = contents[place]?.map fun configuration =>
      (make stampers ⟨contents.take place⟩).refreshEntries configuration.entries := by
  induction contents using List.reverseRecOn with
  | nil => rfl
  | append_singleton contents configuration ih =>
    rw [make_concat]
    show ((make stampers ⟨contents⟩).contents ++ [_])[place]? = _
    rcases Nat.lt_trichotomy place contents.length with hlt | heq | hgt
    · rw [List.getElem?_append_left (by rw [length_make]; exact hlt), ih,
        List.getElem?_append_left hlt, List.take_append_of_le_length (by omega)]
    · subst heq
      have hlength := @length_make stampers contents
      rw [List.getElem?_append_right (by omega), hlength, Nat.sub_self,
        List.getElem?_append_right (by omega), Nat.sub_self, List.take_left]
      rfl
    · rw [List.getElem?_eq_none (by simp [length_make]; omega),
        List.getElem?_eq_none (by simp; omega)]
      rfl

/-- Of the first few configurations each holds what it holds among all of them. -/
theorem entriesAt_take (contents : List Configuration) (count place : Nat) :
    (make stampers ⟨contents.take count⟩).entriesAt place = if place < count then
      (contents[place]?.map fun configuration =>
        (make stampers ⟨contents.take place⟩).refreshEntries configuration.entries).getD []
      else [] := by
  rw [entriesAt, contents_make, List.getElem?_take]
  by_cases hcount : place < count
  · rw [if_pos hcount, if_pos hcount, List.take_take, Nat.min_eq_left (Nat.le_of_lt hcount)]
  · rw [if_neg hcount, if_neg hcount]
    rfl

variable {shelf after : Shelf} {place : Nat}

/-- A configuration that does not lead to the one that changes holds the same afterwards. -/
theorem entriesAt_of_not_leads (h : ∀ other, other ≠ place → after.get? other = shelf.get? other)
    (at' : Nat) (hne : at' ≠ place)
    (hleads : ∀ configuration, shelf.get? at' = some configuration →
      ¬ shelf.Leads place (.dict configuration.entries)) (count : Nat) :
    (make stampers ⟨shelf.contents.take count⟩).entriesAt at' =
      (make stampers ⟨after.contents.take count⟩).entriesAt at' := by
  -- A configuration is brought up to date with those before it, so that the induction is on places.
  induction at' using Nat.strongRecOn generalizing count with
  | ind at' ih =>
    have hsame : after.contents[at']? = shelf.contents[at']? := h at' hne
    rw [entriesAt_take, entriesAt_take, hsame]
    rcases hfound : shelf.contents[at']? with _ | configuration
    · rfl
    have hrefresh : (make stampers ⟨shelf.contents.take at'⟩).refreshEntries configuration.entries =
        (make stampers ⟨after.contents.take at'⟩).refreshEntries configuration.entries := by
      refine refreshEntries_congr (by rw [formulas_make, formulas_make]) _ fun other hother => ?_
      -- What it mentions does not lead there either, and is not the one that changes.
      have hnot := hleads configuration hfound
      have hother_ne : other ≠ place := by
        rintro rfl
        exact hnot (.mentioned hother)
      have hother_leads : ∀ inner, shelf.get? other = some inner →
          ¬ shelf.Leads place (.dict inner.entries) := fun inner hinner hleads =>
        hnot (.through hother hinner hleads)
      by_cases hlt : other < at'
      · exact ih other hlt hother_ne hother_leads at'
      · rw [entriesAt_take, entriesAt_take, if_neg hlt, if_neg hlt]
    rw [Option.map_some, Option.map_some, hrefresh]

/-- A value that does not lead to the configuration that changes shows the same afterwards. -/
theorem refresh_of_not_leads (h : ∀ other, other ≠ place → after.get? other = shelf.get? other)
    {value : Value} (hleads : ¬ shelf.Leads place value) :
    (make stampers after).refresh value = (make stampers shelf).refresh value := by
  have hne : ∀ other ∈ value.places, other ≠ place := by
    rintro other hother rfl
    exact hleads (.mentioned hother)
  -- All configurations are the first few for some number.
  obtain ⟨count, hshelf, hafter⟩ : ∃ count,
      shelf.contents.length ≤ count ∧ after.contents.length ≤ count :=
    ⟨shelf.contents.length + after.contents.length, by omega, by omega⟩
  have hentries : ∀ other ∈ value.places,
      (make stampers shelf).entriesAt other = (make stampers after).entriesAt other := by
    intro other hother
    have htake := @entriesAt_of_not_leads stampers shelf after place h other (hne other hother)
      (fun inner hinner hinner_leads => hleads (.through hother hinner hinner_leads)) count
    rwa [List.take_of_length_le hshelf, List.take_of_length_le hafter] at htake
  refine refresh_congr ?_ value fun other hother => (hentries other hother).symm
  exact (formulas_make after.contents).trans (formulas_make shelf.contents).symm

end Make

end Present

namespace Workspace

/-- The item that was given a name, with the contents as they were then. -/
def itemAt? (workspace : Workspace) (name : String) : Option Item :=
  (workspace.items.find? (·.1 == name)).map (·.2)

/-- A name shows its item with the present contents. -/
theorem find?_eq (workspace : Workspace) (name : String) :
    workspace.find? name = (workspace.itemAt? name).map fun item =>
      { item with value := workspace.refresh item.value } := by
  rw [find?, itemAt?, Option.map_map]
  rfl

/-- A name has the item that it is given to. -/
theorem itemAt?_name_self (workspace : Workspace) (name : String) (item : Item) :
    (workspace.name name item).itemAt? name = some item := by
  unfold itemAt? Workspace.name
  rw [List.find?_cons_of_pos (by simp)]
  rfl

/-- Giving a name to an item leaves the items of other names alone. -/
theorem itemAt?_name {name other : String} (h : name ≠ other) (workspace : Workspace)
    (item : Item) : (workspace.name name item).itemAt? other = workspace.itemAt? other := by
  unfold itemAt? Workspace.name
  rw [List.find?_cons_of_neg (by simpa using h), List.find?_filter]
  congr 2
  funext entry
  by_cases hentry : entry.1 = other
  · simp [hentry, Ne.symm h]
  · simp [hentry]

/-- Whatever is done, a name keeps its item until it is given to another one. -/
theorem tolerant_itemAt? (name : String) :
    Tolerant fun before after => after.itemAt? name = before.itemAt? name where
  refl _ := rfl
  trans hfirst hsecond := hsecond.trans hfirst
  mark _ _ := rfl
  stamper _ _ _ := rfl
  made _ _ _ := rfl
  reader _ _ := rfl
  pipeline _ _ := rfl
  debug _ _ _ := rfl
  around _ _ := rfl
  called _ _ := rfl
  asked _ _ _ := rfl

/-- Setting a value leaves the items of names alone. -/
theorem settable_itemAt? (name : String) :
    Settable fun before after => after.itemAt? name = before.itemAt? name :=
  fun _ _ _ _ _ _ => rfl

/-- A name that commands give to none of their results keeps its item. -/
theorem itemAt?_performAll {name : String} {commands : List (Command × Option String)}
    (h : ∀ command ∈ commands, command.2 ≠ some name) (workspace : Workspace) :
    (workspace.performAll commands).2.itemAt? name = workspace.itemAt? name := by
  refine performAll_keeps (tolerant_itemAt? name) commands workspace
    (fun _ _ _ _ _ _ => settable_itemAt? name) ?_
  intro command hcommand other hother workspace item
  refine itemAt?_name ?_ workspace item
  rintro rfl
  exact h command hcommand hother

section Perform

variable {workspace : Workspace}

/-- A command to set a value puts what it stores into its configuration, and leaves all other
configurations and the timestamp functions alone. -/
theorem perform_set (target : Argument) (setting : SettingArgument) (value : Argument)
    (name : Option String) :
    (workspace.perform (.set target setting value) name).2.stampers = workspace.stampers ∧
      (workspace.perform (.set target setting value) name).2.shelf =
        match workspace.stores? (.set target setting value) with
        | some (place, entry) => workspace.shelf.put place entry
        | none => workspace.shelf := by
  obtain ⟨items, hperform⟩ := @perform_eq workspace (.set target setting value) name
  obtain ⟨result, nextMark, hafter, -⟩ :=
    Session.on_perform_set target setting value workspace.started
  rw [hperform, hafter]
  refine ⟨rfl, ?_⟩
  dsimp only [stores?]
  rcases ((Session.setEntry target setting value).on workspace.started).1 with
    cause | ⟨place, entry⟩
  · rfl
  · rfl

/-- To set a value in a configuration changes nothing of what a name shows that does not lead to this
configuration and is not given to the target. -/
theorem find?_perform_set (target : Argument) (setting : SettingArgument) (value : Argument)
    {name : Option String} {other : String} (hname : name ≠ some other)
    (h : ∀ place entry, workspace.stores? (.set target setting value) = some (place, entry) →
      ∀ item, workspace.itemAt? other = some item → ¬ workspace.shelf.Leads place item.value) :
    (workspace.perform (.set target setting value) name).2.find? other =
      workspace.find? other := by
  obtain ⟨hstampers, hshelf⟩ := @perform_set workspace target setting value name
  have hitem : (workspace.perform (.set target setting value) name).2.itemAt? other =
      workspace.itemAt? other :=
    @itemAt?_performAll other [(.set target setting value, name)] (by simpa using hname) workspace
  rw [find?_eq, find?_eq, hitem]
  rcases hfound : workspace.itemAt? other with _ | item
  · rfl
  -- The item is the same, so that only the contents could be others.
  have hrefresh : (workspace.perform (.set target setting value) name).2.refresh item.value =
      workspace.refresh item.value := by
    unfold refresh
    rw [hstampers, hshelf]
    rcases hstores : workspace.stores? (.set target setting value) with _ | ⟨place, entry⟩
    · rfl
    · exact Present.refresh_of_not_leads
        (fun other hother => Shelf.get?_put_of_ne workspace.shelf hother entry)
        (h place entry hstores item hfound)
  rw [Option.map_some, Option.map_some, hrefresh]

end Perform

end Workspace

end NumberFeed
