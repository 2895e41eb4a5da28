import NumberFeed.Stamper

/-!
# Stamping the numbers in order

A count calls its stamper on the numbers from zero on, one after the other. `Stamper.after` is the
stamper, with the surroundings, after its calls on the numbers below a given one, and
`Stamper.stampOf` the timestamp that it gives a number then. A call touches nothing but the wall
clock and what shared functions remember (`Stamper.call_frame`), so that timestamps do not depend on
the monotonic clock or the log. A function of the number gives its value whatever was called before
(`stampOf_ofFunction`).
-/

namespace NumberFeed.Stamper

/-- A stamper and its surroundings after the calls on the numbers below `count`, in order. -/
def after (stamper : Stamper) (around : Surroundings) : Nat → Stamper × Surroundings
  | 0 => (stamper, around)
  | count + 1 =>
    ((stamper.after around count).1.call count (stamper.after around count).2).2

/-- What a stamper makes of a number once it has been called on all smaller ones. -/
def stampOf (stamper : Stamper) (around : Surroundings) (number : Nat) : Except Failure Value :=
  ((stamper.after around number).1.call number (stamper.after around number).2).1

/-- Before the first call nothing has happened. -/
@[simp] theorem after_zero (stamper : Stamper) (around : Surroundings) :
    stamper.after around 0 = (stamper, around) := rfl

/-- A call gives the next timestamp and leads to the next state. -/
theorem call_after (stamper : Stamper) (around : Surroundings) (number : Nat) :
    (stamper.after around number).1.call number (stamper.after around number).2 =
      (stamper.stampOf around number, stamper.after around (number + 1)) := rfl

/-- A call neither looks at the monotonic clock and the log nor touches them. -/
theorem call_frame (stamper : Stamper) (number : Int) (around : Surroundings)
    (clock : Readings Float) (log : List LogRecord) :
    stamper.call number { around with clock, log } =
      ((stamper.call number around).1, (stamper.call number around).2.1,
        { (stamper.call number around).2.2 with clock, log }) := by
  cases stamper <;> rfl

/-- A call changes nothing in its surroundings but the wall clock and what is remembered. -/
theorem around_call (stamper : Stamper) (number : Int) (around : Surroundings) :
    (stamper.call number around).2.2 =
      { around with
        wall := (stamper.call number around).2.2.wall
        memory := (stamper.call number around).2.2.memory } := by
  cases stamper <;> rfl

/-- The calls change nothing in their surroundings but the wall clock and what is remembered. -/
theorem around_after (stamper : Stamper) (around : Surroundings) (count : Nat) :
    (stamper.after around count).2 =
      { around with
        wall := (stamper.after around count).2.wall
        memory := (stamper.after around count).2.memory } := by
  induction count with
  | zero => rfl
  | succ count ih =>
    rw [after, around_call, ih]

/-- A function gives its value, and is what it was after any number of calls. -/
theorem stampOf_ofFunction (f : Int → Except Failure Value) (around : Surroundings)
    (number : Nat) : (ofFunction f).stampOf around number = f number := by
  have hafter : (ofFunction f).after around number = (ofFunction f, around) := by
    induction number with
    | zero => rfl
    | succ number ih => rw [after, ih, call]
  rw [stampOf, hafter, call]

end NumberFeed.Stamper
