import NumberFeed.Count
import NumberFeed.Time.Duration

/-!
# Limits of a read

A read may stop after a number of records, after an amount of time, at whichever of the two comes
first, or not at all.
-/

namespace NumberFeed

/-- The limits of a read. -/
structure Limits where
  /-- The greatest number of records. -/
  records : Option Count
  /-- The greatest amount of time. -/
  time : Option Duration
  deriving DecidableEq, Repr

/-- No limits. -/
def Limits.none : Limits := ⟨.none, .none⟩

end NumberFeed
