import NumberFeed.Number.Quantity

/-!
# Amounts that are the same

Numbers of all types compare by their exact amounts. That two amounts are the same
(`Quantity.Same`) is told by the comparison (`Quantity.compare?_eq_iff`), and goes in either order
and from one to the next, although it is asked of cross products.
-/

namespace NumberFeed.Number

/-- Exact values are equal when their cross products are. -/
theorem Dyadic.compare_eq_iff {x y : Dyadic} :
    x.compare y = .eq ↔ x.numerator * y.denominator = y.numerator * x.denominator := by
  unfold Dyadic.compare
  exact Std.LawfulEqCmp.compare_eq_iff_eq

namespace Quantity

/-- Two amounts that are the same: both infinite to one side, or finite and equal. -/
inductive Same : Quantity → Quantity → Prop
  | lowest : Same negativeInfinity negativeInfinity
  | highest : Same positiveInfinity positiveInfinity
  | finite {x y : Dyadic} (cross : x.numerator * y.denominator = y.numerator * x.denominator) :
      Same (finite x) (finite y)

/-- Amounts compare as equal when they are the same. -/
theorem compare?_eq_iff {x y : Quantity} : x.compare? y = some .eq ↔ Same x y := by
  constructor
  · intro h
    unfold compare? at h
    split at h
    · cases h
    · cases h
    · exact .lowest
    · cases h
    · cases h
    · exact .highest
    · cases h
    · cases h
    · exact .finite (Dyadic.compare_eq_iff.mp (Option.some.inj h))
  · intro h
    cases h with
    | lowest => rfl
    | highest => rfl
    | finite cross => exact congrArg some (Dyadic.compare_eq_iff.mpr cross)

/-- An amount is the same as itself if there is one. -/
theorem Same.refl {x : Quantity} (h : x ≠ undefined) : Same x x := by
  cases x with
  | undefined => exact absurd rfl h
  | negativeInfinity => exact .lowest
  | finite value => exact .finite rfl
  | positiveInfinity => exact .highest

/-- Amounts are the same in either order. -/
theorem Same.symm {x y : Quantity} (h : Same x y) : Same y x := by
  cases h with
  | lowest => exact .lowest
  | highest => exact .highest
  | finite cross => exact .finite cross.symm

/-- Two amounts that are the same as a third one are the same. -/
theorem Same.trans {x y z : Quantity} (hxy : Same x y) (hyz : Same y z) : Same x z := by
  cases hxy with
  | lowest => exact hyz
  | highest => exact hyz
  | @finite a b hab =>
    cases hyz with
    | @finite _ c hbc =>
      have hpos : (b.denominator : Int) ≠ 0 := by
        have hpos := b.denominator_pos
        omega
      -- The middle denominator is cancelled.
      have hac : a.numerator * c.denominator * b.denominator =
          c.numerator * a.denominator * b.denominator := by
        calc a.numerator * c.denominator * b.denominator
            = a.numerator * b.denominator * c.denominator := Int.mul_right_comm _ _ _
          _ = b.numerator * c.denominator * a.denominator := by rw [hab, Int.mul_right_comm]
          _ = c.numerator * a.denominator * b.denominator := by rw [hbc, Int.mul_right_comm]
      exact .finite (Int.eq_of_mul_eq_mul_right hpos hac)

/-- Integers have the same amount only if they are the same. -/
theorem same_ofInt {n m : Int} : Same (ofInt n) (ofInt m) ↔ n = m := by
  obtain ⟨hn, hn'⟩ := Dyadic.numerator_ofInt n
  obtain ⟨hm, hm'⟩ := Dyadic.numerator_ofInt m
  constructor
  · intro h
    cases h with
    | finite cross =>
      rw [hn, hn', hm, hm'] at cross
      omega
  · rintro rfl
    exact .finite rfl

end Quantity

end NumberFeed.Number
