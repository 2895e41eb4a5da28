import NumberFeed.Number.Integer

/-!
# Rules for timestamps

A rule makes the timestamp of a number out of the number and two parameters. Its name is part of its
text.
-/

namespace NumberFeed

/-- The rules for timestamps with two parameters `a` and `b`. -/
inductive StampRule
  /-- The instant `number * a + b` milliseconds after the epoch. -/
  | linear
  /-- The instant `a` milliseconds after the epoch, where each call first adds `b` to `a`. -/
  | counter
  /-- Failure at the number `a`, else the instant as many milliseconds after the epoch. -/
  | failing
  /-- The number itself. -/
  | index
  /-- No timestamp. -/
  | nothing
  /-- No timestamp, and the rule cannot be written down for a source to keep. -/
  | unkept
  deriving DecidableEq, Repr

/-- The name of a rule. -/
def StampRule.name : StampRule → String
  | linear => "linear"
  | counter => "counter"
  | failing => "raise_at"
  | index => "index"
  | nothing => "none"
  | unkept => "unpicklable"

/-- A rule with its parameters. -/
structure StampFormula where
  /-- The rule. -/
  rule : StampRule
  /-- The first parameter. -/
  a : Int
  /-- The second parameter. -/
  b : Int
  deriving DecidableEq, Repr

/-- The text of a formula. -/
def StampFormula.text (formula : StampFormula) : Except Failure String := do
  let a ← Number.write formula.a
  let b ← Number.write formula.b
  return "Fn(" ++ formula.rule.name ++ "," ++ a ++ "," ++ b ++ ")"

end NumberFeed
