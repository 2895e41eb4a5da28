import NumberFeed.Source

/-!
# Texts are never refused

A refusal is about an argument. To put together the text of something may fail as well, because a
number in it has too many digits, but such a failure is never a refusal
(`Value.unrefused_render`, `Source.unrefused_text`).
-/

namespace NumberFeed

/-- A result that is not the refusal of an argument. -/
def Unrefused {α : Type} (result : Except Failure α) : Prop :=
  ∀ reason, result ≠ .error (.refused reason)

namespace Unrefused

variable {α β : Type}

/-- What succeeds is not refused. -/
theorem ok (result : α) : Unrefused (.ok result) := fun _ h => nomatch h

/-- What is made of a result is not refused if the result is not. -/
theorem map {result : Except Failure α} (h : Unrefused result) (make : α → β) :
    Unrefused (result.map make) := by
  rintro reason heq
  rcases result with cause | result
  · exact h reason (congrArg Except.error (Except.error.inj heq))
  · cases heq

/-- Two results one after the other are not refused if neither is. -/
theorem bind {first : Except Failure α} {next : α → Except Failure β} (hfirst : Unrefused first)
    (hnext : ∀ result, Unrefused (next result)) : Unrefused (first >>= next) := by
  rintro reason heq
  rcases first with cause | result
  · exact hfirst reason (congrArg Except.error (Except.error.inj heq))
  · exact hnext result reason heq

end Unrefused

/-! ## Numbers and times -/

/-- To write a number is not refused. -/
theorem Number.unrefused_write (n : Int) : Unrefused (write n) := by
  intro reason
  unfold write
  split
  · exact Unrefused.ok _ reason
  · exact fun h => nomatch h

/-- Neither is the text of a duration. -/
theorem Duration.unrefused_text (duration : Duration) : Unrefused duration.text :=
  (Number.unrefused_write _).map _

/-- Neither is the text of an instant. -/
theorem Instant.unrefused_text (instant : Instant) : Unrefused instant.text :=
  (Number.unrefused_write _).bind fun _ => (Number.unrefused_write _).bind fun _ =>
    Unrefused.ok _

/-- Neither is the text of a calendar span. -/
theorem Span.unrefused_text (span : Span) : Unrefused span.text :=
  (Number.unrefused_write _).bind fun _ => Unrefused.ok _

/-- Neither is its literal. -/
theorem Span.unrefused_literal (span : Span) : Unrefused span.literal := by
  -- Each of the three parts is left out if it is zero.
  have hpart : ∀ (name : String) (n : Int), Unrefused
      (if n = 0 then (.ok [] : Except Failure (List String))
        else (Number.write n).map fun shown => [name ++ "=" ++ shown]) := by
    intro name n
    split
    · exact Unrefused.ok _
    · exact (Number.unrefused_write n).map _
  exact (hpart _ _).bind fun _ => (hpart _ _).bind fun _ => (hpart _ _).bind fun _ => Unrefused.ok _

/-! ## The wording of objects -/

namespace Wording

/-- The text of a timestamp function is not refused. -/
theorem unrefused_stamper (formula : Option StampFormula) : Unrefused (stamper formula) := by
  rcases formula with _ | formula
  · exact Unrefused.ok _
  · exact (Number.unrefused_write _).bind fun _ => (Number.unrefused_write _).bind fun _ =>
      Unrefused.ok _

/-- Neither is that of a number of records. -/
theorem unrefused_records (count : Option Count) : Unrefused (records count) := by
  rcases count with _ | count
  · exact Unrefused.ok _
  · exact Number.unrefused_write _

/-- Neither is that of an amount of time. -/
theorem unrefused_time (duration : Option Duration) : Unrefused (time duration) := by
  rcases duration with _ | duration
  · exact Unrefused.ok _
  · exact duration.unrefused_text

/-- Neither is that of an input of so many numbers. -/
theorem unrefused_boundedInput (count : Count) : Unrefused (boundedInput count) :=
  (Number.unrefused_write _).map _

/-- Neither is that of an input without bound. -/
theorem unrefused_unboundedInput (stamper : String) (count : Option Count) (time : String) :
    Unrefused (unboundedInput stamper count time) :=
  (unrefused_records count).map _

/-- Neither is that of a range. -/
theorem unrefused_range (start stop : Int) : Unrefused (range start stop) :=
  (Number.unrefused_write _).bind fun _ => (Number.unrefused_write _).bind fun _ =>
    Unrefused.ok _

/-- Neither is that of a read with limits. -/
theorem unrefused_limitedRead (limits : Limits) (source : String) :
    Unrefused (limitedRead limits source) :=
  (unrefused_records _).bind fun _ => (unrefused_time _).bind fun _ => Unrefused.ok _

end Wording

/-! ## Values and objects -/

namespace Value

mutual

/-- The text and the literal of a value are not refused. -/
theorem unrefused_render (asLiteral : Bool) : ∀ value : Value, Unrefused (value.render asLiteral)
  | .null | .bool _ | .float _ | .nan _ | .text _ | .bytes _ | .moment _ _ => by
    rw [render]
    exact Unrefused.ok _
  | .int n => by
    rw [render]
    exact Number.unrefused_write n
  | .list items => by
    rw [render]
    exact (unrefused_literals items).map _
  | .tuple items => by
    rw [render]
    exact (unrefused_literals items).map _
  | .dict entries => by
    rw [render]
    exact (unrefused_entryLiterals entries).map _
  | .duration d => by
    rw [render]
    exact d.unrefused_text
  | .span s => by
    rw [render]
    split
    · exact s.unrefused_literal
    · exact s.unrefused_text
  | .instant i => by
    rw [render]
    exact i.unrefused_text
  | .object _ form => by
    rw [render]
    exact unrefused_formText form

/-- Neither is the text of an object. -/
theorem unrefused_formText : ∀ form : Form, Unrefused (formText form)
  | .stamper _ formula => by
    rw [formText]
    exact Wording.unrefused_stamper formula
  | .element value timestamp => by
    rw [formText]
    exact (unrefused_render false value).bind fun _ => (unrefused_render false timestamp).bind
      fun _ => Unrefused.ok _
  | .configuration _ entries => by
    rw [formText]
    exact (unrefused_entryTexts entries).map _
  | .boundedInput count => by
    rw [formText]
    exact Wording.unrefused_boundedInput count
  | .unboundedInput stamper records time => by
    rw [formText]
    exact (unrefused_render true stamper).bind fun _ => (unrefused_render true time).bind
      fun _ => Wording.unrefused_unboundedInput _ _ _
  | .range start stop => by
    rw [formText]
    exact Wording.unrefused_range start stop
  | .counting _ => by
    rw [formText]
    exact Unrefused.ok _
  | .read _ _ source => by
    rw [formText]
    exact (unrefused_render false source).map _
  | .limitedRead limits _ source => by
    rw [formText]
    exact (unrefused_render false source).bind fun _ => Wording.unrefused_limitedRead limits _
  | .collection _ producer => by
    rw [formText]
    exact (unrefused_render false producer).map _
  | .reader _ _ => by
    rw [formText]
    exact Unrefused.ok _

/-- Neither are the literals of values. -/
theorem unrefused_literals : ∀ items : List Value, Unrefused (literals items)
  | [] => Unrefused.ok _
  | value :: rest => by
    rw [literals]
    exact (unrefused_render true value).bind fun _ => (unrefused_literals rest).bind
      fun _ => Unrefused.ok _

/-- Neither are the literals of entries. -/
theorem unrefused_entryLiterals : ∀ entries : List (Value × Value),
    Unrefused (entryLiterals entries)
  | [] => Unrefused.ok _
  | (key, value) :: rest => by
    rw [entryLiterals]
    exact (unrefused_render true key).bind fun _ => (unrefused_render true value).bind
      fun _ => (unrefused_entryLiterals rest).bind fun _ => Unrefused.ok _

/-- Neither are the texts of entries. -/
theorem unrefused_entryTexts : ∀ entries : List (Value × Value), Unrefused (entryTexts entries)
  | [] => Unrefused.ok _
  | (key, value) :: rest => by
    rw [entryTexts]
    exact (unrefused_render true key).bind fun _ => (unrefused_render false value).bind
      fun _ => (unrefused_entryTexts rest).bind fun _ => Unrefused.ok _

end

end Value

namespace Stamper

/-- The text of a stamper is not refused. -/
theorem unrefused_text (stamper : Stamper) : Unrefused stamper.text := by
  cases stamper with
  | now => exact Wording.unrefused_stamper none
  | ofFunction f => exact Unrefused.ok _
  | ofFormula formula => exact Wording.unrefused_stamper (some formula)
  | shared f => exact Unrefused.ok _
  | uncallable value => exact Value.unrefused_render false value

/-- Neither is its literal. -/
theorem unrefused_literal (stamper : Stamper) : Unrefused stamper.literal := by
  cases stamper with
  | now => exact unrefused_text now
  | ofFunction f => exact unrefused_text (ofFunction f)
  | ofFormula formula => exact unrefused_text (ofFormula formula)
  | shared f => exact unrefused_text (shared f)
  | uncallable value => exact Value.unrefused_render true value

end Stamper

/-- The text of a source is not refused. -/
theorem Source.unrefused_text (source : Source) : Unrefused source.text := by
  induction source with
  | range start stop => exact Wording.unrefused_range start stop
  | counting stamper => exact Unrefused.ok _
  | read bounded source ih => exact ih.map _
  | limited limits source ih => exact ih.bind fun _ => Wording.unrefused_limitedRead limits _
  | foreign value => exact Value.unrefused_render false value

end NumberFeed
