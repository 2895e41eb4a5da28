import NumberFeed.Pipeline

/-!
# What a pipeline logs

Applying a transform logs texts for debugging, if they are wanted, and leaves its surroundings alone
apart from that (`logsDebug_apply`): no clock is read, and nothing is told to anyone who has not
asked for records of this level. A text that cannot be put together is not missed, unless the
surroundings demand it (`Surroundings.Demands`): then what would have logged it fails, and otherwise
it goes on with the records of those texts that there are (`logging_noting`).
-/

namespace NumberFeed

namespace Surroundings

/-- Texts for debugging have to be there: they are wanted, and a record that cannot be put together is
not dropped. -/
def Demands (around : Surroundings) : Prop := around.verbose = true ∧ around.forgiving = false

/-- The records for debugging that come of texts: none if they are not wanted, and otherwise one of
each text that there is. -/
def debugging (around : Surroundings) (texts : List (Origin × Except Failure String)) :
    List LogRecord :=
  if around.verbose then
    texts.filterMap fun text => text.2.toOption.map fun message => ⟨.debug, text.1, message⟩
  else []

/-- The surroundings after texts have been logged for debugging. -/
def noting (around : Surroundings) (texts : List (Origin × Except Failure String)) : Surroundings :=
  { around with log := around.log ++ around.debugging texts }

variable {around : Surroundings}

/-- Where no records for debugging are wanted, there are none. -/
theorem debugging_of_quiet (h : around.verbose = false)
    (texts : List (Origin × Except Failure String)) : around.debugging texts = [] := by
  rw [debugging, h]
  rfl

/-- Texts for debugging make records for debugging. -/
theorem level_of_mem_debugging {texts : List (Origin × Except Failure String)} {record : LogRecord}
    (h : record ∈ around.debugging texts) : record.level = .debug := by
  unfold debugging at h
  split at h
  · obtain ⟨text, -, htext⟩ := List.mem_filterMap.mp h
    obtain ⟨message, -, rfl⟩ := Option.map_eq_some_iff.mp htext
    rfl
  · cases h

/-- To log no texts changes nothing. -/
@[simp] theorem noting_nil (around : Surroundings) : around.noting [] = around := by
  simp [noting, debugging]

/-- Texts can be logged one after the other. -/
theorem noting_noting (around : Surroundings)
    (first second : List (Origin × Except Failure String)) :
    (around.noting first).noting second = around.noting (first ++ second) := by
  have hsame : (around.noting first).debugging second = around.debugging second := rfl
  unfold debugging at hsame
  unfold noting debugging
  cases hverbose : around.verbose with
  | true => simp [List.append_assoc]
  | false => simp

/-- What has been logged does not change what is demanded. -/
theorem demands_noting (texts : List (Origin × Except Failure String)) :
    (around.noting texts).Demands ↔ around.Demands := Iff.rfl

end Surroundings

namespace Pipeline

section Logging

variable {α : Type} {origin : Origin} {next : Surroundings → Result α} {around : Surroundings}

/-- What logs a text for debugging that there is, or that is not demanded, goes on. -/
theorem logging_noting {message : Except Failure String}
    (h : around.Demands → ∃ text, message = .ok text) :
    logging origin message next around = next (around.noting [(origin, message)]) := by
  obtain ⟨clock, wall, largest, verbose, log, forgiving, memory, zones⟩ := around
  unfold logging Surroundings.record Surroundings.noting Surroundings.debugging
  cases verbose with
  | false => simp
  | true =>
    cases message with
    | ok text => simp [Surroundings.write, Except.toOption]
    | error cause =>
      -- The record is dropped, because it would have to be there otherwise.
      cases forgiving with
      | true => simp [Except.toOption]
      | false =>
        obtain ⟨text, ⟨⟩⟩ := h ⟨rfl, rfl⟩

/-- What is logged on the way to a result comes before that. -/
theorem exists_of_logging {message : Except Failure String} {after : Surroundings} {result : α}
    (h : logging origin message next around = (.ok result, after)) :
    ∃ later, next later = (.ok result, after) := by
  unfold logging at h
  split at h
  · split at h
    · exact ⟨_, h⟩
    · cases h
  · exact ⟨_, h⟩

/-- A text that is demanded and cannot be put together is a failure. -/
theorem logging_error (h : around.Demands) (cause : Failure) :
    logging origin (.error cause) next around = (.error cause, around) := by
  obtain ⟨hverbose, hforgiving⟩ := h
  unfold logging Surroundings.record
  simp [hverbose, hforgiving]

end Logging

/-- An input of so many numbers stands for the read of their range. -/
theorem materialize_bounded (input : BoundedInput) (around : Surroundings) :
    materialize (.bounded input) around =
      applyRead (.read true (.range 0 input.count.value)) around := by
  have hcount : Count.ofValue? (.int input.count.value) = some input.count := by
    exact Count.ofValue?_eq_some_iff.mpr rfl
  rw [materialize, Source.upTo, Count.ofValue, hcount]
  rfl

/-- What leaves its surroundings alone but for texts that it logs for debugging. -/
def LogsDebug {α : Type} (act : Surroundings → Result α) : Prop :=
  ∀ around, ∃ texts, (act around).2 = around.noting texts

/-- What leaves its surroundings alone logs nothing. -/
theorem logsDebug_of_idle {α : Type} {act : Surroundings → Result α}
    (h : ∀ around, (act around).2 = around) : LogsDebug act := by
  intro around
  exact ⟨[], by rw [h, Surroundings.noting_nil]⟩

/-- Logging a text for debugging and going on. -/
theorem logsDebug_logging {α : Type} (origin : Origin) (message : Except Failure String)
    {next : Surroundings → Result α} (hnext : LogsDebug next) :
    LogsDebug (logging origin message next) := by
  intro around
  by_cases htext : around.Demands → ∃ text, message = .ok text
  · obtain ⟨texts, hafter⟩ := hnext (around.noting [(origin, message)])
    rw [logging_noting htext, hafter, Surroundings.noting_noting]
    exact ⟨_, rfl⟩
  · obtain ⟨hdemands, hnone⟩ := Classical.not_imp.mp htext
    rcases message with cause | text
    · rw [logging_error hdemands]
      exact ⟨[], (Surroundings.noting_nil around).symm⟩
    · exact absurd ⟨text, rfl⟩ hnone

/-- Applying a read. -/
theorem logsDebug_applyRead (source : Source) : LogsDebug (applyRead source) :=
  logsDebug_logging _ _ (logsDebug_of_idle fun _ => rfl)

/-- Applying what an input stands for. -/
theorem logsDebug_materialize (input : Input) : LogsDebug (materialize input) := by
  cases input with
  | bounded input =>
    intro around
    rw [materialize_bounded]
    exact logsDebug_applyRead _ around
  | unbounded input =>
    rcases hsource : Source.ofStamper input.stamper with cause | source
    · refine logsDebug_of_idle fun around => ?_
      rw [materialize, hsource]
    · intro around
      rw [materialize, hsource]
      refine logsDebug_logging .input (limitsMessage input) ?_ around
      rcases limitedRead input source with cause | read
      · exact logsDebug_of_idle fun _ => rfl
      · exact logsDebug_applyRead read

/-- Applying a transform. -/
theorem logsDebug_apply (transform : Transform) : LogsDebug (apply transform) := by
  refine logsDebug_logging _ _ ?_
  cases transform with
  | input input => exact logsDebug_materialize input
  | source source => exact logsDebug_of_idle fun _ => rfl
  | other value => exact logsDebug_of_idle fun _ => rfl

/-- Where no records for debugging are wanted, applying a transform leaves everything alone. -/
theorem around_apply_of_quiet {around : Surroundings} (h : around.verbose = false)
    (transform : Transform) : (apply transform around).2 = around := by
  obtain ⟨texts, hafter⟩ := logsDebug_apply transform around
  rw [hafter, Surroundings.noting, Surroundings.debugging_of_quiet h, List.append_nil]

/-- Collecting without a limit opens the collection and does nothing else. -/
theorem logsDebug_collect_null (collection : Collection) :
    LogsDebug (collect collection .null) := by
  refine logsDebug_of_idle fun around => ?_
  unfold collect
  rcases collection.open? with cause | reader <;> rfl

end Pipeline

end NumberFeed
