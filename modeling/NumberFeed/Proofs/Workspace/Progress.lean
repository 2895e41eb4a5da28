import NumberFeed.Proofs.Workspace.Tolerant

/-!
# Progress of the readers of a workspace

Whatever commands are carried out on a workspace, a reader in its cell is only ever asked for an
element: what is in the cell afterwards is what some moments have left of the reader
(`advances_performAll`). So the life of a reader in a workspace is a life as in `Reader.steps`, and
a cell in which a reader has ended holds one that has ended from then on.
-/

namespace NumberFeed

namespace Workspace

/-- The readers of a workspace have been asked for elements, and nothing else has happened to
them. -/
def Advances (before after : Workspace) : Prop :=
  ∀ (cell : Nat) (reader : Reader), before.readers[cell]? = some reader →
    ∃ moments, after.readers[cell]? = some (reader.left moments)

/-- Where the readers are the same nothing has happened to them. -/
theorem advances_of_readers {before after : Workspace} (h : after.readers = before.readers) :
    before.Advances after := fun cell reader hreader => ⟨[], by rw [h]; exact hreader⟩

/-- What is made leaves the readers alone that were there before, and whatever is done to a reader
asks it for elements. -/
theorem tolerant_advances : Tolerant Advances where
  refl _ := advances_of_readers rfl
  trans := by
    intro first second third hfirst hsecond cell reader hreader
    obtain ⟨moments, hafter⟩ := hfirst cell reader hreader
    obtain ⟨moments', hafter'⟩ := hsecond cell _ hafter
    exact ⟨moments ++ moments', by rw [Reader.left_append]; exact hafter'⟩
  mark _ _ := advances_of_readers rfl
  stamper _ _ _ := advances_of_readers rfl
  made _ _ _ := advances_of_readers rfl
  pipeline _ _ := advances_of_readers rfl
  debug _ _ _ := advances_of_readers rfl
  reader workspace source := by
    intro cell reader hreader
    obtain ⟨hlt, -⟩ := List.getElem?_eq_some_iff.mp hreader
    exact ⟨[], by rw [List.getElem?_append_left hlt]; exact hreader⟩
  around _ _ := advances_of_readers rfl
  called _ _ := advances_of_readers rfl
  asked := by
    intro workspace cell moments other reader hreader
    show ∃ moments, (workspace.readers.set cell _)[other]? = some (reader.left moments)
    -- Only the reader in the cell itself is asked.
    by_cases hcell : cell = other
    · subst hcell
      obtain ⟨hlt, -⟩ := List.getElem?_eq_some_iff.mp hreader
      refine ⟨moments, ?_⟩
      rw [List.getElem?_set_self hlt, hreader]
      rfl
    · exact ⟨[], by rw [List.getElem?_set_ne hcell]; exact hreader⟩

/-- Setting a value leaves the readers alone. -/
theorem settable_advances : Settable Advances := fun _ _ _ _ _ _ => advances_of_readers rfl

/-- Naming an item leaves the readers alone. -/
theorem nameable_advances (name : String) : Nameable Advances name := fun _ _ =>
  advances_of_readers rfl

/-- Whatever commands are carried out, the readers are only asked for elements. -/
theorem advances_performAll (commands : List (Command × Option String)) (workspace : Workspace) :
    workspace.Advances (workspace.performAll commands).2 :=
  performAll_keeps tolerant_advances commands workspace (fun _ _ _ _ _ _ => settable_advances)
    fun _ _ name _ => nameable_advances name

end Workspace

end NumberFeed
