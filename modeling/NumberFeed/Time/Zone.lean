/-!
# Time zones

A zone is an offset from universal time, in minutes, that changes at certain seconds. Before the
first change an offset of its own holds, and from each change on the one that comes with it. Zones
go by their names, whatever the case of the letters.
-/

namespace NumberFeed

/-- A time zone. -/
structure Zone where
  /-- The name. -/
  name : String
  /-- The offset before the first change. -/
  first : Int
  /-- The changes in order: the second since the epoch, and the offset from then on. -/
  changes : List (Int × Int)
  deriving DecidableEq, Repr

namespace Zone

/-- The offset that holds at a second since the epoch. -/
def offsetAt (zone : Zone) (second : Int) : Int :=
  match (zone.changes.takeWhile fun change => decide (change.1 ≤ second)).getLast? with
  | some change => change.2
  | none => zone.first

/-- Characters in which the words that stand for signs are replaced by the signs. -/
def withSigns : List Char → List Char
  | '_' :: 'p' :: 'l' :: 'u' :: 's' :: '_' :: rest => '+' :: withSigns rest
  | '_' :: 'm' :: 'i' :: 'n' :: 'u' :: 's' :: '_' :: rest => '-' :: withSigns rest
  | c :: rest => c :: withSigns rest
  | [] => []

/-- Whether a name means this zone. -/
def hasName (zone : Zone) (name : String) : Bool :=
  zone.name.toList.map Char.toLower == (withSigns name.toList).map Char.toLower

/-- Without changes the first offset always holds. -/
theorem offsetAt_of_changes_eq_nil {zone : Zone} (h : zone.changes = []) (second : Int) :
    zone.offsetAt second = zone.first := by
  simp [offsetAt, h]

end Zone

end NumberFeed
