import NumberFeed.Proofs.Reading.Life
import NumberFeed.Proofs.Workspace.SettingUp

/-!
# What all commands leave alone

Some commands do more than make things: they take elements from readers, call timestamp functions,
read the clocks. A frame that holds also then is a `Workspace.Tolerant` relation, and every command
whatever keeps it (`Session.keeps_command`), so that it holds between a workspace and any later one
(`Workspace.performAll_keeps`). Only to set a value in a configuration and to name an item have to be
permitted besides.
-/

namespace NumberFeed

/-- A frame that holds also when time passes, timestamp functions are called and readers are asked
for elements in between. It does not matter what new timestamp functions are made of. -/
structure Workspace.Tolerant (R : Workspace → Workspace → Prop) : Prop
    extends Workspace.Frame (fun _ => True) R where
  now := trivial
  assume _ _ h := h fun _ _ => trivial
  /-- The clocks may be read, and the log written. -/
  around : ∀ (workspace : Workspace) around, R workspace { workspace with around }
  /-- Timestamp functions may be called. -/
  called : ∀ (workspace : Workspace) stampers, R workspace { workspace with stampers }
  /-- The reader in a cell may be asked for elements. -/
  asked : ∀ (workspace : Workspace) cell moments, R workspace { workspace with
    readers := workspace.readers.set cell
      ((workspace.readers[cell]?.getD .ended).left moments) }

namespace Session

variable {R : Workspace → Workspace → Prop} (hR : Workspace.Tolerant R)

include hR

/-! ## Sessions that take elements -/

/-- Taking elements from the reader in a cell asks that reader for elements, while time passes. -/
theorem keeps_takeAt (cell : Nat) {act : Reader → Surroundings → Taken}
    (hact : ∀ reader around, ∃ moments, (act reader around).reader = reader.left moments) :
    Keeps R (takeAt cell act) := by
  intro workspace
  rw [on_takeAt]
  obtain ⟨moments, hleft⟩ := hact (workspace.readers[cell]?.getD .ended) workspace.around
  dsimp only
  rw [hleft]
  exact hR.trans (hR.asked workspace cell moments)
    (hR.around { workspace with readers := workspace.readers.set cell _ } _)

/-- Making values of elements makes new objects. -/
theorem keeps_elementValues (valuesOnly : Bool) (elements : List Timestamped) :
    Keeps R (elementValues valuesOnly elements) := by
  induction elements with
  | nil => exact keeps_pure hR.toFrame _
  | cons element rest ih =>
    unfold elementValues
    dsimp only
    split
    · refine keeps_bind hR.toFrame (keeps_pure hR.toFrame _) fun _ => ?_
      exact keeps_bind hR.toFrame ih fun _ => keeps_pure hR.toFrame _
    · refine keeps_bind hR.toFrame (keeps_make hR.toFrame _) fun _ => ?_
      exact keeps_bind hR.toFrame ih fun _ => keeps_pure hR.toFrame _

/-- Going through the members of a value may read a reader to its end. -/
theorem keeps_members (value : Value) : Keeps R (members value) := by
  unfold members
  split
  · exact keeps_pure hR.toFrame _
  · exact keeps_pure hR.toFrame _
  · exact keeps_pure hR.toFrame _
  · exact keeps_pure hR.toFrame _
  · exact keeps_pure hR.toFrame _
  · refine keeps_bind hR.toFrame (keeps_takeAt hR _ fun reader around =>
      Reader.exists_left_take (reader.remaining around.largest + 1) reader around) fun taken => ?_
    split
    · exact keeps_throw hR.toFrame _
    · exact keeps_elementValues hR _ _
  · exact keeps_throw hR.toFrame _

/-- Putting pairs into entries goes through the members of each. -/
theorem keeps_putPairs (before : Entries) (pairs : List Value) :
    Keeps R (putPairs before pairs) := by
  induction pairs generalizing before with
  | nil => exact keeps_pure hR.toFrame _
  | cons pair rest ih =>
    unfold putPairs
    refine keeps_bind hR.toFrame (keeps_members hR pair) fun found => ?_
    split
    · exact keeps_bind hR.toFrame (keeps_lift hR.toFrame _) fun _ => ih _
    · exact keeps_throw hR.toFrame _

/-- Taking entries out of a value may take an element from a reader. -/
theorem keeps_asEntries (value : Value) : Keeps R (asEntries value) := by
  unfold asEntries
  split
  · exact keeps_pure hR.toFrame _
  · exact keeps_pure hR.toFrame _
  · refine keeps_bind hR.toFrame (keeps_takeAt hR _ (Reader.exists_left_take 1))
      fun taken => ?_
    split
    · exact keeps_throw hR.toFrame _
    · exact keeps_pure hR.toFrame _
    · exact keeps_throw hR.toFrame _
  · exact keeps_bind hR.toFrame (keeps_members hR _) fun _ => keeps_putPairs hR _ _

/-- Making a configuration may take elements out of a reader that stands for the data. -/
theorem keeps_configuration (other data : Value) :
    Keeps R (Session.configuration other data) := by
  have hmake : ∀ place, Keeps R (do
      makeConfiguration place (← asEntries data) >>= itemOf : Session Item) := fun place =>
    keeps_bind hR.toFrame (keeps_asEntries hR data) fun entries =>
      keeps_bind hR.toFrame (keeps_makeConfiguration hR.toFrame place entries)
        (keeps_itemOf hR.toFrame)
  unfold Session.configuration
  dsimp only
  split
  · exact keeps_bind hR.toFrame (keeps_pure hR.toFrame _) hmake
  · exact keeps_bind hR.toFrame (keeps_pure hR.toFrame _) hmake
  · exact keeps_throw hR.toFrame _

/-- Taking elements from an item asks the reader that it is. -/
theorem keeps_take (item : Item) (count : Nat) : Keeps R (take item count) := by
  unfold take
  split
  · exact keeps_bind hR.toFrame (keeps_takeAt hR _ (Reader.exists_left_take count)) fun _ =>
      keeps_pure hR.toFrame _
  · exact keeps_pure hR.toFrame _

/-- Calling a timestamp function may take a reading of a clock. -/
theorem keeps_callStamper (cell : Nat) (value : Item) :
    Keeps R (callStamper cell value) := by
  refine keeps_bind hR.toFrame (keeps_get hR.toFrame) fun workspace => ?_
  refine keeps_bind hR.toFrame (keeps_newMark hR.toFrame) fun mark => ?_
  refine keeps_bind hR.toFrame (fun workspace => ?_) fun _ => ?_
  · exact hR.trans (hR.called workspace _)
      (hR.around { workspace with stampers := workspace.stampers.set cell _ } _)
  refine keeps_bind hR.toFrame (keeps_lift hR.toFrame _) fun stamp => ?_
  split
  · exact keeps_pure hR.toFrame _
  · exact keeps_itemOf hR.toFrame _

/-- Collecting a collection reads it, with a reader that is not kept. -/
theorem keeps_collect (item : Item) (limit : Value) : Keeps R (collect item limit) := by
  unfold collect
  split
  · exact keeps_throw hR.toFrame _
  · refine keeps_bind hR.toFrame (keeps_within_of fun workspace => hR.around workspace _)
      fun collected => ?_
    split
    · exact keeps_itemOf hR.toFrame _
    · exact keeps_itemOf hR.toFrame _

/-- Every command keeps a relation that tolerates it; one that sets a value has to be permitted to do
so. -/
theorem keeps_command (command : Command)
    (hset : ∀ target setting value, command = .set target setting value → Workspace.Settable R) :
    Keeps R (perform command) := by
  cases command with
  | callStamper target value =>
    refine keeps_bind hR.toFrame (keeps_resolve hR.toFrame target) fun target => ?_
    refine keeps_bind hR.toFrame (keeps_resolve hR.toFrame value) fun value => ?_
    split
    · exact keeps_map _ (keeps_callStamper hR _ _)
    · exact keeps_throw hR.toFrame _
  | take target count =>
    exact keeps_bind hR.toFrame (keeps_resolve hR.toFrame target) fun target =>
      keeps_take hR target count
  | setClock clock =>
    refine keeps_bind hR.toFrame (fun workspace => hR.around workspace _) fun _ => ?_
    exact keeps_map _ (keeps_itemOf hR.toFrame _)
  | configuration other data =>
    refine keeps_bind hR.toFrame (keeps_resolveValue? hR.toFrame other) fun other => ?_
    refine keeps_bind hR.toFrame (keeps_resolveValue? hR.toFrame data) fun data => ?_
    exact keeps_map _ (keeps_configuration hR other data)
  | collect target limit =>
    refine keeps_bind hR.toFrame (keeps_resolve hR.toFrame target) fun target => ?_
    refine keeps_bind hR.toFrame (keeps_resolveValue hR.toFrame limit) fun limit => ?_
    exact keeps_map _ (keeps_collect hR target limit)
  | _ => exact keeps_perform hR.toFrame trivial (fun _ _ => trivial) hset

end Session

namespace Workspace

variable {R : Workspace → Workspace → Prop} (hR : Tolerant R)

include hR

/-- A relation that every command keeps holds between a workspace and the one after any command. -/
theorem perform_tolerant (command : Command) (name : Option String) (workspace : Workspace)
    (hset : ∀ target setting value, command = .set target setting value → Settable R)
    (hname : ∀ n, name = some n → Nameable R n) :
    R workspace (workspace.perform command name).2 :=
  hR.trans (hR.around workspace workspace.unlogged)
    (perform_keeps hR.toFrame (Session.keeps_command hR command hset) workspace hname)

/-- A relation that every command keeps holds between a workspace and the one after any commands. -/
theorem performAll_keeps (commands : List (Command × Option String)) (workspace : Workspace)
    (hset : ∀ command ∈ commands, ∀ target setting value,
      command.1 = .set target setting value → Settable R)
    (hname : ∀ command ∈ commands, ∀ n, command.2 = some n → Nameable R n) :
    R workspace (workspace.performAll commands).2 := by
  induction commands generalizing workspace with
  | nil => exact hR.refl workspace
  | cons command rest ih =>
    obtain ⟨command, name⟩ := command
    have hfirst := perform_tolerant hR command name workspace (hset _ List.mem_cons_self)
      (hname _ List.mem_cons_self)
    exact hR.trans hfirst (ih _ (fun next hnext => hset next (List.mem_cons_of_mem _ hnext))
      fun next hnext => hname next (List.mem_cons_of_mem _ hnext))

end Workspace

end NumberFeed
