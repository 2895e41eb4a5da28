import NumberFeed.Surroundings
import NumberFeed.Value.Equality
import NumberFeed.Value.Numeric

/-!
# Timestamp functions

A stamper gives each number its timestamp: the time at which the number is made, a function of the
number, or a rule with two parameters. A rule may count on its own calls, so that calling a stamper
gives back the stamper as it is afterwards. A function that goes by its name remembers nothing
itself: what it remembers is part of the surroundings, where all that use the function find it.
Whatever stands in the place of a stamper without being one is kept too, and fails when it is called.
-/

namespace NumberFeed

/-- A timestamp function. -/
inductive Stamper
  /-- The time at which the number is made. -/
  | now
  /-- A function of the number. -/
  | ofFunction (f : Int → Except Failure Value)
  /-- A rule with its parameters. -/
  | ofFormula (formula : StampFormula)
  /-- A function that goes by its name: it makes something of the number and of what is remembered,
  and leaves something else to remember. -/
  | shared (f : Int → Value → Except Failure Value × Value)
  /-- Something else, which cannot be called. -/
  | uncallable (value : Value)

namespace Stamper

/-- Whether a stamper can be called. -/
def isCallable : Stamper → Bool
  | uncallable _ => false
  | _ => true

/-- Whether nothing was given in the place of a stamper. -/
def isMissing : Stamper → Bool
  | uncallable value => value.isNull
  | _ => false

/-- The formula of a stamper that has one. -/
def formula? : Stamper → Option StampFormula
  | ofFormula formula => some formula
  | _ => none

/-- The text of a stamper. -/
def text : Stamper → Except Failure String
  | now => Wording.stamper none
  | ofFunction _ | shared _ => .ok "function"
  | ofFormula formula => Wording.stamper (some formula)
  | uncallable value => value.shown

/-- The literal of a stamper, as it appears within the text of an input. -/
def literal : Stamper → Except Failure String
  | uncallable value => value.literal
  | stamper => stamper.text

/-- What a source keeps of a stamper: the stamper in its present state, or only its name. -/
def kept : Stamper → Except Failure Stamper
  | ofFormula ⟨.unkept, _, _⟩ => .error .wrongType
  | stamper => .ok stamper

/-- The timestamp of so many milliseconds after the epoch. -/
def stampAt (millis : Int) : Value := .instant (.ofEpochMilli millis)

/-- What a formula makes of a number, and the formula afterwards. -/
def callFormula (formula : StampFormula) (number : Int) : Except Failure Value × StampFormula :=
  let ⟨rule, a, b⟩ := formula
  match rule with
  | .linear => (.ok (stampAt (number * a + b)), formula)
  | .counter => (.ok (stampAt (a + b)), ⟨rule, a + b, b⟩)
  | .failing => (if number = a then .error .stamperFailed else .ok (stampAt number), formula)
  | .index => (.ok (.int number), formula)
  | .nothing | .unkept => (.ok .null, formula)

/-- Calls a stamper on a number. -/
def call (stamper : Stamper) (number : Int) (around : Surroundings) :
    Except Failure Value × Stamper × Surroundings :=
  match stamper with
  | now =>
    let (nanos, around) := around.readWall
    (.ok (.instant (.ofEpochNanos nanos)), now, around)
  | ofFunction f => (f number, stamper, around)
  | ofFormula formula =>
    let (stamp, formula) := callFormula formula number
    (stamp, ofFormula formula, around)
  | shared f =>
    let (stamp, memory) := f number around.memory
    (stamp, stamper, { around with memory })
  | uncallable _ => (.error .wrongType, stamper, around)

/-- The greatest factor by which a sequence can be repeated. -/
def greatestFactor : Int := 0x7fffffffffffffff

/-- What `linear` makes of something that is no whole number. A float makes a moment, which gets the
given mark. A sequence is repeated and a span multiplied before it turns out that nothing can be
added to the product. -/
def linearOn (a b : Int) (mark : Nat) : Value → Except Failure Value
  | .text _ | .bytes _ | .list _ | .tuple _ =>
    .error (if -greatestFactor - 1 ≤ a ∧ a ≤ greatestFactor then .wrongType else .tooLarge)
  | .span s => s.times a >>= fun _ => .error .wrongType
  | value => do
    let x ← value.toFloat
    let slope ← Value.nearestFloat a
    let offset ← Value.nearestFloat b
    let millis := x * slope + offset
    return .moment (.ofEpochMilli millis) mark

/-- What a formula makes of something that is no whole number, and the formula afterwards. -/
def callFormulaOn (formula : StampFormula) (value : Value) (mark : Nat) :
    Except Failure Value × StampFormula :=
  match formula with
  | ⟨.linear, a, b⟩ => (linearOn a b mark value, formula)
  | ⟨.failing, a, _⟩ =>
    (if value.equal (.int a) then .error .stamperFailed else value.ofEpochMilli mark, formula)
  | ⟨.index, _, _⟩ => (.ok value, formula)
  | formula => callFormula formula 0

/-- Calls a stamper on any value. A rule that looks at the number takes a float for one too. A new
moment gets the given mark. -/
def callOn (stamper : Stamper) (value : Value) (mark : Nat) (around : Surroundings) :
    Except Failure Value × Stamper × Surroundings :=
  match stamper, value.wholeNumber with
  | ofFormula ⟨.index, _, _⟩, _ => (.ok value, stamper, around)
  | ofFormula formula, .error _ =>
    let (stamp, formula) := callFormulaOn formula value mark
    (stamp, ofFormula formula, around)
  | ofFunction _, .error _ | shared _, .error _ => (.error .wrongType, stamper, around)
  | stamper, .error _ => stamper.call 0 around
  | stamper, .ok number => stamper.call number around

end Stamper

end NumberFeed
