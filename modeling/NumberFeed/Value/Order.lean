import NumberFeed.Text.Quoted
import NumberFeed.Value.Equality

/-!
# Order of values

Numbers are ordered by their amount, texts and bytes by their characters, lists and tuples by the
first place at which they differ, spans, durations and instants by time. Other pairs have no order.
-/

namespace NumberFeed

/-- The four order relations. -/
inductive Relation
  | lt
  | le
  | gt
  | ge
  deriving DecidableEq, Repr

namespace Relation

/-- Whether the relation holds of two things that compare in a given way. -/
def holds : Relation → Ordering → Bool
  | lt, o => o.isLT
  | le, o => o.isLE
  | gt, o => o.isGT
  | ge, o => o.isGE

/-- Whether the relation holds of two instants. -/
def ofInstants : Relation → Instant → Instant → Bool
  | lt => Instant.lt
  | le => Instant.le
  | gt => Instant.gt
  | ge => Instant.ge

/-- Whether the relation holds of two things of which it is known whether the first one comes before
the second one, and whether they are equal. -/
def derived (before equal : Bool) : Relation → Bool
  | lt => before
  | le => before || equal
  | gt => !before && !equal
  | ge => !before

end Relation

namespace Value

/-- The nanoseconds from the epoch to a point in time. -/
def epochNanos? : Value → Option Number.Quantity
  | instant i => some (.ofInt i.epochNanos)
  | moment m _ => some (.ofFloat m.epochNanos)
  | _ => none

/-- Whether a relation holds of two numbers or of two points in time. None holds of a float that is
not a number. -/
def amountsRelate (relation : Relation) (a b : Value) : Except Failure Bool :=
  match a.quantity?, b.quantity? with
  | some x, some y => .ok ((x.compare? y).any relation.holds)
  | _, _ =>
    match a.epochNanos?, b.epochNanos? with
    | some x, some y => .ok (relation.derived (x.compare? y == some .lt) (a.sameTime b))
    | _, _ => .error .wrongType

mutual

/-- Whether an order relation holds of two values. -/
def relates (relation : Relation) : Value → Value → Except Failure Bool
  | text a, text b => .ok (relation.holds (compare a b))
  | bytes a, bytes b =>
    .ok (relation.holds
      (compare (String.ofList (Text.bytesAsChars a)) (String.ofList (Text.bytesAsChars b))))
  | list as, list bs => itemsRelate relation as bs
  | tuple as, tuple bs => itemsRelate relation as bs
  | duration a, duration b => .ok (relation.holds (compare a.nanos b.nanos))
  | span a, span b => .ok (relation.holds (compare a.micros b.micros))
  | instant a, instant b => .ok (relation.ofInstants a b)
  | a, b => amountsRelate relation a b

/-- Whether an order relation holds of two lists of values. -/
def itemsRelate (relation : Relation) : List Value → List Value → Except Failure Bool
  | [], [] => .ok (relation.holds .eq)
  | [], _ :: _ => .ok (relation.holds .lt)
  | _ :: _, [] => .ok (relation.holds .gt)
  | a :: as, b :: bs => if agrees a b then itemsRelate relation as bs else relates relation a b

end

end Value

end NumberFeed
