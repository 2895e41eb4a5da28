import NumberFeed.Value.Equality

/-!
# Items of a workspace

An item is a value with a mark that says which one it is, so that two equal values can be told
apart. Only the least values have no identity of their own: they exist once.
-/

namespace NumberFeed

/-- A value with its identity. -/
structure Item where
  /-- The mark that tells the value from all others. -/
  mark : Nat
  /-- The value. -/
  value : Value

namespace Item

/-- Whether there is only one of a value: the absent value and the truth values, small integers,
texts of at most one character of the first 256, single bytes, and what is empty and cannot
change. -/
def existsOnce : Value → Bool
  | .null | .bool _ => true
  | .int n => -5 ≤ n && n ≤ 256
  | .text s => s.toList.length ≤ 1 && s.toList.all fun c => c.toNat < 256
  | .bytes bs => bs.length ≤ 1
  | .tuple items => items.isEmpty
  | _ => false

/-- Whether two items are one object. -/
def isSame (a b : Item) : Bool :=
  a.mark == b.mark ||
    (existsOnce a.value && existsOnce b.value && a.value.typeName == b.value.typeName &&
      a.value.equal b.value)

end Item

end NumberFeed
