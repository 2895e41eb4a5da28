import Mathlib.Data.List.Forall2
import NumberFeed.Config.Shelf

/-!
# Configurations as ordered maps

Putting a key into entries either appends it, if no key matches it, or gives the first entry that
matches another value, and changes neither the key nor the place of any entry (`Entries.Put`,
`Entries.put_insert`). So keys stay distinct (`Distinct.insert`), and those that are there stay
where they are (`Entries.keys_insert`). Setting a value in one configuration of a shelf puts it into
the entries of this one and leaves the others alone (`Shelf.get?_attempt`).
-/

namespace NumberFeed

namespace Entries

/-- The keys in order. -/
def keys (entries : Entries) : List Value := entries.map (·.1)

/-- No key is found under one that stands before it. -/
def Distinct (entries : Entries) : Prop :=
  entries.keys.Pairwise fun earlier later => earlier.matchesKey later = false

/-- What putting in a key with its value makes of entries. -/
inductive Put (entries : Entries) (key value : Value) : Entries → Prop
  /-- A key that no entry matches is appended. -/
  | appended (fresh : ∀ entry ∈ entries, entry.1.matchesKey key = false) :
      Put entries key value (entries ++ [(key, value)])
  /-- Otherwise the first entry that matches gets the value, and keeps its key and its place. -/
  | overwritten {before after : Entries} {found old : Value}
      (split : entries = before ++ (found, old) :: after)
      (first : ∀ entry ∈ before, entry.1.matchesKey key = false)
      (hit : found.matchesKey key = true) :
      Put entries key value (before ++ (found, value) :: after)

/-- Putting in a key appends it or overwrites the value that is there. -/
theorem put_insert (entries : Entries) (key value : Value) :
    Put entries key value (insert entries key value) := by
  induction entries with
  | nil => exact .appended fun entry hentry => nomatch hentry
  | cons entry rest ih =>
    by_cases hit : entry.1.matchesKey key = true
    · rw [insert, if_pos hit]
      show Put (entry :: rest) key value ([] ++ (entry.1, value) :: rest)
      exact .overwritten rfl (fun other hother => nomatch hother) hit
    · have hmiss : entry.1.matchesKey key = false := by simpa using hit
      rw [insert, if_neg hit]
      generalize insert rest key value = result at ih
      cases ih with
      | appended fresh =>
        show Put (entry :: rest) key value (entry :: rest ++ [(key, value)])
        refine .appended fun other hother => ?_
        rcases List.mem_cons.mp hother with rfl | hother
        · exact hmiss
        · exact fresh other hother
      | @overwritten before after found old split first hit =>
        have hsplit : entry :: rest = entry :: before ++ (found, old) :: after := by
          rw [split]
          rfl
        show Put (entry :: rest) key value (entry :: before ++ (found, value) :: after)
        refine .overwritten hsplit ?_ hit
        intro other hother
        rcases List.mem_cons.mp hother with rfl | hother
        · exact hmiss
        · exact first other hother

/-- The keys that are there stay where they are, and a new one comes last. -/
theorem keys_insert (entries : Entries) (key value : Value) :
    (insert entries key value).keys = entries.keys ∨
      (insert entries key value).keys = entries.keys ++ [key] := by
  have hput := put_insert entries key value
  generalize insert entries key value = result at hput ⊢
  cases hput with
  | appended fresh => exact .inr (by simp [keys])
  | overwritten split first hit => exact .inl (by simp [split, keys])

/-- Keys stay distinct when one is put in. -/
theorem Distinct.insert {entries : Entries} (h : entries.Distinct) (key value : Value) :
    (insert entries key value).Distinct := by
  have hput := put_insert entries key value
  generalize Entries.insert entries key value = result at hput ⊢
  cases hput with
  | appended fresh =>
    have hkeys : (entries ++ [(key, value)]).keys = entries.keys ++ [key] := by simp [keys]
    rw [Distinct, hkeys]
    refine List.pairwise_append.mpr ⟨h, List.pairwise_singleton _ _, ?_⟩
    intro earlier hearlier later hlater
    obtain ⟨entry, hentry, rfl⟩ := List.mem_map.mp hearlier
    rw [List.mem_singleton.mp hlater]
    exact fresh entry hentry
  | @overwritten before after found old split first hit =>
    -- Only a value is another one, and only keys have to be distinct.
    have hkeys : (before ++ (found, value) :: after).keys = entries.keys := by simp [split, keys]
    rw [Distinct, hkeys]
    exact h

/-- Keys stay distinct when entries are put over others. -/
theorem Distinct.overlay {entries : Entries} (h : entries.Distinct) (additions : Entries) :
    (overlay entries additions).Distinct := by
  unfold Entries.overlay
  induction additions generalizing entries with
  | nil => exact h
  | cons entry rest ih => exact ih (h.insert entry.1 entry.2)

/-- The keys that are there stay where they are when entries are put over them. -/
theorem keys_prefix_overlay (entries additions : Entries) :
    entries.keys <+: (overlay entries additions).keys := by
  unfold overlay
  induction additions generalizing entries with
  | nil => exact List.prefix_rfl
  | cons entry rest ih =>
    refine List.IsPrefix.trans ?_ (ih _)
    rcases keys_insert entries entry.1 entry.2 with hkeys | hkeys
    · exact ⟨[], by rw [hkeys, List.append_nil]⟩
    · exact ⟨[entry.1], hkeys.symm⟩

/-- Entries are put over others one after the other. -/
theorem overlay_append (entries first second : Entries) :
    overlay entries (first ++ second) = overlay (overlay entries first) second :=
  List.foldl_append

end Entries

namespace Setting

/-- The entry that a setting makes of a value: its key with the converted value. The value has to be
convertible, and the key needs a hash. -/
def entry (setting : Setting) (value : Value) : Except Failure (Value × Value) := do
  let converted ← setting.convert value
  setting.key.checkHash
  return (setting.key, converted)

end Setting

namespace Configuration

/-- A value is set by putting in the entry that the setting makes of it. -/
theorem set_eq (configuration : Configuration) (setting : Setting) (value : Value) :
    configuration.set setting value = (setting.entry value).map fun entry =>
      ⟨configuration.entries.insert entry.1 entry.2⟩ := by
  unfold set Setting.entry
  rcases setting.convert value with cause | converted
  · rfl
  rcases setting.key.checkHash with cause | _
  · rfl
  · rfl

/-- The texts of a configuration are those of its values, each under its key and in the order of the
keys; they are there if each value has a text. -/
theorem toTexts_eq_ok_iff {configuration : Configuration} {texts : Entries} :
    configuration.toTexts = .ok texts ↔
      List.Forall₂ (fun entry text => text.1 = entry.1 ∧
        ∃ shown, entry.2.shown = .ok shown ∧ text.2 = .text shown) configuration.entries texts := by
  unfold toTexts Value.textEntries
  generalize configuration.entries = entries
  induction entries generalizing texts with
  | nil =>
    rw [List.forall₂_nil_left_iff]
    constructor
    · exact fun h => (Except.ok.inj h).symm
    · rintro rfl
      rfl
  | cons entry rest ih =>
    rw [List.mapM_cons, List.forall₂_cons_left_iff]
    constructor
    · intro h
      rcases hshown : entry.2.shown with cause | shown
      · rw [hshown] at h
        cases h
      · rw [hshown] at h
        rcases hrest : rest.mapM fun entry : Value × Value =>
          entry.2.shown.map fun shown => (entry.1, Value.text shown) with cause | others
        · rw [hrest] at h
          cases h
        · rw [hrest] at h
          cases h
          exact ⟨(entry.1, .text shown), others, ⟨rfl, shown, rfl, rfl⟩, ih.mp hrest, rfl⟩
    · rintro ⟨⟨key, value⟩, others, ⟨hkey, shown, hshown, hvalue⟩, hrest, rfl⟩
      dsimp only at hkey hvalue
      rw [hshown, ih.mpr hrest, hkey, hvalue]
      rfl

end Configuration

namespace Shelf

/-- Puts an entry into the configuration at a place, if there is one. -/
def put (shelf : Shelf) (place : Nat) (entry : Value × Value) : Shelf :=
  match shelf.get? place with
  | some configuration =>
    shelf.replace place ⟨configuration.entries.insert entry.1 entry.2⟩
  | none => shelf

/-- A value is set in a configuration that is there by putting in the entry that the setting makes
of it. -/
theorem set_eq_ok {shelf after : Shelf} {place : Nat} {setting : Setting} {value : Value} :
    shelf.set place setting value = .ok after ↔
      ∃ configuration entry, shelf.get? place = some configuration ∧
        setting.entry value = .ok entry ∧ shelf.put place entry = after := by
  unfold set put
  rcases shelf.get? place with _ | configuration
  · simp
  dsimp only
  rw [Configuration.set_eq]
  rcases setting.entry value with cause | entry
  · simp [Except.map]
  · simp [Except.map]

/-- What is put into the configuration at one place leaves all other places alone. -/
theorem get?_put_of_ne (shelf : Shelf) {target place : Nat} (h : place ≠ target)
    (entry : Value × Value) : (shelf.put target entry).get? place = shelf.get? place := by
  unfold put
  rcases shelf.get? target with _ | configuration
  · rfl
  · exact get?_replace_of_ne shelf h.symm _

/-- A configuration holds what is put into it. -/
theorem get?_put {shelf : Shelf} {place : Nat} {configuration : Configuration}
    (h : shelf.get? place = some configuration) (target : Nat) (entry : Value × Value) :
    (shelf.put target entry).get? place =
      some ⟨configuration.entries.overlay (if target = place then [entry] else [])⟩ := by
  by_cases htarget : target = place
  · subst htarget
    obtain ⟨hlt, -⟩ := List.getElem?_eq_some_iff.mp h
    rw [if_pos rfl, put, h]
    exact List.getElem?_set_self hlt
  · rw [if_neg htarget, get?_put_of_ne shelf (Ne.symm htarget)]
    exact h

end Shelf

end NumberFeed
