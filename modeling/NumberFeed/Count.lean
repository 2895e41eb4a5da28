/-!
# Counts

A count is a positive integer: how many numbers an input holds, or how many records a read stops
after.
-/

namespace NumberFeed

/-- A positive integer. -/
structure Count where
  /-- The integer. -/
  value : Int
  /-- It is positive. -/
  positive : 0 < value
  deriving DecidableEq, Repr

end NumberFeed
