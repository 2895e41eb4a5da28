import NumberFeed.Proofs.Value.Sameness

/-!
# Keys of one world

Keys of one world that match stand for one another (`World.matchesKey_congr`), so that entries can be
told apart by their keys: what is put in under a key is found under this key, and every other key
finds what it found before, at the place where it found it (`Entries.Put.elsewhere`). Entries with
distinct keys are made again when they are put over nothing (`Entries.overlay_nil_of_distinct`).
-/

namespace NumberFeed

open Value

namespace World

variable (world : World)

/-- A key matches itself. -/
theorem matchesKey_refl {key : Value} (h : world.has key) : key.matchesKey key = true :=
  world.agreesAs_refl h

/-- Keys match in either order. -/
theorem matchesKey_comm {key other : Value} (hkey : world.has key) (hother : world.has other) :
    key.matchesKey other = other.matchesKey key := by
  rw [Bool.eq_iff_iff]
  exact ⟨world.agreesAs_symm hkey hother, world.agreesAs_symm hother hkey⟩

/-- Keys that match one another match the same keys. -/
theorem matchesKey_congr {key found other : Value} (hkey : world.has key) (hfound : world.has found)
    (hother : world.has other) (h : found.matchesKey key = true) :
    found.matchesKey other = key.matchesKey other := by
  have hback : key.matchesKey found = true := world.agreesAs_symm hfound hkey h
  rw [Bool.eq_iff_iff]
  exact ⟨world.agreesAs_trans hkey hfound hother hback, world.agreesAs_trans hfound hkey hother h⟩

/-- Whether entries have their keys in a world. -/
def HasKeys (entries : Entries) : Prop := ∀ key ∈ entries.keys, world.has key

variable {world}

/-- A key that is put in comes from the world. -/
theorem HasKeys.insert {entries : Entries} (h : world.HasKeys entries) {key : Value}
    (hkey : world.has key) (value : Value) : world.HasKeys (entries.insert key value) := by
  intro other hother
  rcases Entries.keys_insert entries key value with hkeys | hkeys
  · rw [hkeys] at hother
    exact h other hother
  · rw [hkeys] at hother
    rcases List.mem_append.mp hother with hother | hother
    · exact h other hother
    · rw [List.mem_singleton.mp hother]
      exact hkey

end World

namespace Entries

/-- The place at which a key is found. -/
def position? (entries : Entries) (key : Value) : Option Nat :=
  entries.findIdx? fun entry => entry.1.matchesKey key

section Apart

variable {world : World} {entries : Entries} {key : Value}

/-- What is put in under one key changes nothing under any other key, and moves none. -/
theorem Put.elsewhere {value : Value} {result : Entries} (h : Put entries key value result)
    (hkeys : world.HasKeys entries) (hkey : world.has key) {other : Value}
    (hother : world.has other) (hmiss : key.matchesKey other = false) :
    result.get? other = entries.get? other ∧ result.position? other = entries.position? other := by
  cases h with
  | appended fresh => simp [get?, position?, List.find?_append, List.findIdx?_append, hmiss]
  | @overwritten before after found old split first hit =>
    -- The key that stays in the entry does not match the other one either.
    have hfound : world.has found := hkeys found (List.mem_map.mpr
      ⟨(found, old), by rw [split]; simp, rfl⟩)
    have hfar : found.matchesKey other = false := by
      rw [world.matchesKey_congr hkey hfound hother hit]
      exact hmiss
    simp [split, get?, position?, List.find?_append, List.findIdx?_append, List.findIdx?_cons, hfar]

/-- A key keeps its value when entries under other keys are put over it. -/
theorem get?_overlay_of_apart (hkeys : world.HasKeys entries) (hkey : world.has key)
    {additions : Entries}
    (hapart : ∀ entry ∈ additions, world.has entry.1 ∧ entry.1.matchesKey key = false) :
    (entries.overlay additions).get? key = entries.get? key := by
  unfold overlay
  induction additions generalizing entries with
  | nil => rfl
  | cons entry rest ih =>
    obtain ⟨hentry, hmiss⟩ := hapart entry List.mem_cons_self
    have hrest := ih (hkeys.insert hentry entry.2) fun other hother =>
      hapart other (List.mem_cons_of_mem entry hother)
    have hput := (put_insert entries entry.1 entry.2).elsewhere hkeys hentry hkey hmiss
    exact hrest.trans hput.1

/-- The entry that stands under a key among distinct ones is the one that is found. -/
theorem get?_of_mem (hdistinct : entries.Distinct) (hkeys : world.HasKeys entries)
    (hkey : world.has key) {entry : Value × Value} (hentry : entry ∈ entries)
    (hit : entry.1.matchesKey key = true) : entries.get? key = some entry.2 := by
  obtain ⟨before, after, rfl⟩ := List.append_of_mem hentry
  have hhas : ∀ other ∈ before ++ entry :: after, world.has other.1 := fun other hother =>
    hkeys other.1 (List.mem_map.mpr ⟨other, hother, rfl⟩)
  have hentry' := hhas entry hentry
  have hnone : before.find? (fun other => other.1.matchesKey key) = none := by
    refine List.find?_eq_none.mpr fun other hmem => ?_
    have hother := hhas other (List.mem_append_left _ hmem)
    have hmiss : other.1.matchesKey key = false := by
      calc other.1.matchesKey key
          = key.matchesKey other.1 := world.matchesKey_comm hother hkey
        _ = entry.1.matchesKey other.1 := (world.matchesKey_congr hkey hentry' hother hit).symm
        _ = other.1.matchesKey entry.1 := world.matchesKey_comm hentry' hother
        _ = false := (List.pairwise_append.mp (List.pairwise_map.mp hdistinct)).2.2 other hmem entry
            List.mem_cons_self
    rw [hmiss]
    exact Bool.false_ne_true
  simp [get?, List.find?_append, hnone, hit]

end Apart

/-- Entries with distinct keys are appended to one another. -/
theorem overlay_of_distinct {entries additions : Entries}
    (h : Distinct (entries ++ additions)) : entries.overlay additions = entries ++ additions := by
  unfold overlay
  induction additions generalizing entries with
  | nil => simp
  | cons entry rest ih =>
    have hsplit : entries ++ entry :: rest = entries ++ [entry] ++ rest := by simp
    have hinsert : entries.insert entry.1 entry.2 = entries ++ [entry] := by
      have hput := put_insert entries entry.1 entry.2
      generalize entries.insert entry.1 entry.2 = result at hput ⊢
      cases hput with
      | appended fresh => rfl
      | @overwritten before after found old split first hit =>
        -- No key of the entries matches one that comes later.
        have hmem : (found, old) ∈ entries := by
          rw [split]
          simp
        have hmiss : found.matchesKey entry.1 = false :=
          (List.pairwise_append.mp (List.pairwise_map.mp h)).2.2 _ hmem entry List.mem_cons_self
        rw [hmiss] at hit
        cases hit
    rw [List.foldl_cons, hinsert, hsplit]
    exact ih (by rw [← hsplit]; exact h)

/-- Entries with distinct keys are made again when they are put over nothing. -/
theorem overlay_nil_of_distinct {entries : Entries} (h : entries.Distinct) :
    overlay [] entries = entries := by
  have hnil : Distinct ([] ++ entries) := h
  exact overlay_of_distinct hnil

end Entries

end NumberFeed
