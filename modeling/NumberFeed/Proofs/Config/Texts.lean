import NumberFeed.Proofs.Config.Keys

/-!
# The texts of a configuration

The texts of entries are entries again: the text of each value under the same key and at the same
place (`Entries.Told`). So they have the same keys, a key finds the text of what it finds among the
values (`Entries.Told.get?_eq`), and they are there if each value has a text
(`Entries.exists_told_iff`).
-/

namespace NumberFeed

namespace Entries

/-- Each value comes with its text, under the same key. -/
def Told (entries texts : Entries) : Prop :=
  List.Forall₂ (fun entry text => text.1 = entry.1 ∧
    ∃ shown, entry.2.shown = .ok shown ∧ text.2 = .text shown) entries texts

variable {entries texts : Entries}

/-- The texts have the keys of the values. -/
theorem Told.keys_eq (h : entries.Told texts) : texts.keys = entries.keys := by
  unfold keys
  induction h with
  | nil => rfl
  | cons hentry _ ih => rw [List.map_cons, List.map_cons, hentry.1, ih]

/-- Under a key the text is found of the value that is found. -/
theorem Told.get?_eq (h : entries.Told texts) {key value : Value}
    (hvalue : entries.get? key = some value) :
    ∃ shown, value.shown = .ok shown ∧ texts.get? key = some (.text shown) := by
  unfold get? at hvalue ⊢
  induction h with
  | nil => cases hvalue
  | @cons entry text entries texts hentry _ ih =>
    obtain ⟨hkey, shown, hshown, htext⟩ := hentry
    rw [List.find?_cons] at hvalue ⊢
    rw [hkey]
    cases hmatch : entry.1.matchesKey key with
    | true =>
      rw [hmatch] at hvalue
      obtain rfl : entry.2 = value := Option.some.inj hvalue
      exact ⟨shown, hshown, congrArg some htext⟩
    | false =>
      rw [hmatch] at hvalue
      exact ih hvalue

/-- There are texts if each value has one. -/
theorem exists_told_iff :
    (∃ texts, entries.Told texts) ↔ ∀ entry ∈ entries, ∃ shown, entry.2.shown = .ok shown := by
  induction entries with
  | nil => exact ⟨fun _ entry hentry => absurd hentry List.not_mem_nil, fun _ => ⟨[], .nil⟩⟩
  | cons entry rest ih =>
    rw [List.forall_mem_cons, ← ih]
    constructor
    · rintro ⟨texts, htold⟩
      obtain ⟨text, texts, ⟨-, shown, hshown, -⟩, hrest, -⟩ := List.forall₂_cons_left_iff.mp htold
      exact ⟨⟨shown, hshown⟩, texts, hrest⟩
    · rintro ⟨⟨shown, hshown⟩, texts, hrest⟩
      exact ⟨(entry.1, .text shown) :: texts, .cons ⟨rfl, shown, hshown, rfl⟩ hrest⟩

/-- Each value has its text among the texts. -/
theorem Told.exists_text (h : entries.Told texts) {entry : Value × Value} (hentry : entry ∈ entries) :
    ∃ shown, entry.2.shown = .ok shown ∧ (entry.1, .text shown) ∈ texts := by
  obtain ⟨text, hmem, hkey, shown, hshown, htext⟩ := exists_of_forall₂ h hentry
  refine ⟨shown, hshown, ?_⟩
  rw [← hkey, ← htext]
  exact hmem

/-- Each text is that of a value. -/
theorem Told.exists_value (h : entries.Told texts) {text : Value × Value} (htext : text ∈ texts) :
    ∃ entry ∈ entries, text.1 = entry.1 ∧
      ∃ shown, entry.2.shown = .ok shown ∧ text.2 = .text shown :=
  exists_of_forall₂ (forall₂_symm_of_mem h fun _ _ _ _ htold => htold) htext

end Entries

end NumberFeed
