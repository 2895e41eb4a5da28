import NumberFeed.Value.Order

/-!
# Comparisons

All that can be asked of two things at once: whether they are equal, which order relations hold, and
how many members a set of the two has. Each question may fail for itself.
-/

namespace NumberFeed

/-- The answers to all comparisons of two things. -/
structure Comparison where
  /-- Whether they are equal. -/
  equal : Bool
  /-- Whether an order relation holds. -/
  relates : Relation → Except Failure Bool
  /-- The number of different members of a set of the two. -/
  setSize : Except Failure Nat

/-- The comparison of two values. -/
def Comparison.ofValues (a b : Value) : Comparison where
  equal := a.equal b
  relates relation := Value.relates relation a b
  setSize := a.setSize b

end NumberFeed
