import NumberFeed.Workspace.Command

/-!
# Sessions step by step

`Session.on` is what a session comes to on a workspace: a result, or the failure that broke it off,
and the workspace as it was then. The lemmas follow a session from one step to the next.
-/

namespace NumberFeed.Session

variable {α β : Type}

/-- What a session comes to on a workspace. -/
def on (session : Session α) (workspace : Workspace) : Except Failure α × Workspace :=
  session.run.run workspace

/-- A session that has a result already leaves the workspace alone. -/
@[simp] theorem on_pure (result : α) (workspace : Workspace) :
    (pure result : Session α).on workspace = (.ok result, workspace) := rfl

/-- A session goes on with a result, and breaks off with a failure. -/
theorem on_bind (first : Session α) (next : α → Session β) (workspace : Workspace) :
    (first >>= next).on workspace =
      match first.on workspace with
      | (.ok result, after) => (next result).on after
      | (.error cause, after) => (.error cause, after) := by
  unfold on
  rw [ExceptT.run_bind, StateT.run_bind]
  rcases first.run.run workspace with ⟨cause | result, after⟩ <;> rfl

/-- A session goes on with the result that it has, from the workspace as it is then. -/
theorem on_bind_of_ok {first : Session α} {workspace after : Workspace} {result : α}
    (h : first.on workspace = (.ok result, after)) (next : α → Session β) :
    (first >>= next).on workspace = (next result).on after := by
  rw [on_bind, h]

/-- Making something of the result of a session. -/
theorem on_map (make : α → β) (session : Session α) (workspace : Workspace) :
    (make <$> session).on workspace =
      ((session.on workspace).1.map make, (session.on workspace).2) := by
  rw [map_eq_pure_bind, on_bind]
  rcases session.on workspace with ⟨_ | _, _⟩ <;> rfl

/-- A result that may be a failure leaves the workspace alone. -/
@[simp] theorem on_lift (result : Except Failure α) (workspace : Workspace) :
    (lift result).on workspace = (result, workspace) := by
  cases result with
  | ok result => rfl
  | error cause => rfl

/-- Looking at the workspace leaves it alone. -/
@[simp] theorem on_get (workspace : Workspace) :
    (get : Session Workspace).on workspace = (.ok workspace, workspace) := rfl

/-- Putting another workspace in place. -/
@[simp] theorem on_set (workspace after : Workspace) :
    (set after : Session PUnit).on workspace = (.ok ⟨⟩, after) := rfl

/-- What changes the surroundings changes nothing else. -/
theorem on_within (act : Surroundings → Pipeline.Result α) (workspace : Workspace) :
    (within act).on workspace =
      ((act workspace.around).1, { workspace with around := (act workspace.around).2 }) := by
  rw [within, on_bind, on_get]
  show ((set { workspace with around := (act workspace.around).2 } : Session PUnit) >>= fun _ =>
    lift (act workspace.around).1).on workspace = _
  rw [on_bind, on_set]
  exact on_lift _ _

/-- A failure that is caught goes on from the workspace as it is then. -/
theorem on_tryCatch (session : Session α) (rescue : Failure → Session α) (workspace : Workspace) :
    (tryCatch session rescue).on workspace =
      match session.on workspace with
      | (.ok result, after) => (.ok result, after)
      | (.error cause, after) => (rescue cause).on after := by
  unfold on
  rw [ExceptT.run_tryCatch, StateT.run_bind]
  rcases session.run.run workspace with ⟨cause | result, after⟩ <;> rfl

/-- A name is looked up, and the workspace left alone. -/
theorem on_resolve_named (name : String) (workspace : Workspace) :
    (resolve (.named name)).on workspace =
      (match workspace.find? name with
        | some item => .ok item
        | none => .error (.unboundName name), workspace) := by
  rw [resolve, on_bind, on_get]
  dsimp only
  cases workspace.find? name with
  | some item => rfl
  | none => rfl

/-- Elements are taken from the reader in a cell. -/
theorem on_takeAt (cell : Nat) (act : Reader → Surroundings → Taken) (workspace : Workspace) :
    (takeAt cell act).on workspace =
      let taken := act (workspace.readers[cell]?.getD .ended) workspace.around
      (.ok taken, { workspace with
        readers := workspace.readers.set cell taken.reader
        around := taken.around }) := rfl

end NumberFeed.Session
