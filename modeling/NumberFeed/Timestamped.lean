import NumberFeed.Value

/-!
# Elements with timestamps

An element of a feed is a value with its timestamp, which is absent in a bounded feed.
-/

namespace NumberFeed

/-- A value with its timestamp. -/
structure Timestamped where
  /-- The value. -/
  value : Value
  /-- The timestamp, or the absent value. -/
  timestamp : Value

end NumberFeed
