import Mathlib.Tactic.ByContra
import NumberFeed.Proofs.Time.InstantArithmetic
import NumberFeed.Stamper
import NumberFeed.Value.Comparison

/-!
# Order of instants

Equality and hash look at the fields of an instant, `<` looks at the point that it denotes, and the
other three relations are made of both. They contradict each other only at `Twins`: two instants
that denote one point with different fields, each of which is greater than the other. All other
pairs compare like their points (`Instant.relates_comparison_of_not_twins`).

What a clock, a number of milliseconds or the addition of a duration makes is normal
(`Instant.Made.isNormal`), and normal instants are no twins. So among these the comparisons are
those of a total order, and adding one duration to both sides changes none of them.
`Instant.order_law` puts this together.
-/

namespace NumberFeed

namespace Relation

/-- What the relations say of two numbers that compare in a given way is what they make of `<` and
`=` between them. -/
theorem holds_compare (relation : Relation) (x y : Int) :
    relation.holds (compare x y) = relation.derived (decide (x < y)) (decide (x = y)) := by
  rcases Int.lt_trichotomy x y with hlt | heq | hgt
  · have hcompare : compare x y = .lt := Int.compare_eq_lt.mpr hlt
    have hne : x ≠ y := by omega
    rw [hcompare, decide_eq_true hlt, decide_eq_false hne]
    cases relation <;> rfl
  · have hcompare : compare x y = .eq := Int.compare_eq_eq.mpr heq
    have hnot : ¬ x < y := by omega
    rw [hcompare, decide_eq_false hnot, decide_eq_true heq]
    cases relation <;> rfl
  · have hcompare : compare x y = .gt := Int.compare_eq_gt.mpr hgt
    have hnot : ¬ x < y := by omega
    have hne : x ≠ y := by omega
    rw [hcompare, decide_eq_false hnot, decide_eq_false hne]
    cases relation <;> rfl

/-- The relations of instants are made of `<` between their points and `=` between their fields. -/
theorem ofInstants_eq (relation : Relation) (a b : Instant) :
    relation.ofInstants a b =
      relation.derived (decide (a.epochNanos < b.epochNanos)) (decide (a = b)) := by
  have hequal : (a == b) = decide (a = b) := Bool.beq_eq_decide_eq a b
  cases relation with
  | lt => rfl
  | le =>
    show (a.lt b || a == b) = _
    rw [hequal]
    rfl
  | gt =>
    show (!a.lt b && !(a == b)) = _
    rw [hequal]
    rfl
  | ge => rfl

end Relation

namespace Instant

/-- All comparisons of two instants. -/
def comparison (a b : Instant) : Comparison := .ofValues (.instant a) (.instant b)

/-- Two instants are equal if their fields are. -/
@[simp] theorem equal_comparison (a b : Instant) : (a.comparison b).equal = decide (a = b) :=
  Bool.beq_eq_decide_eq a b

/-- The order relations of two instants have an answer each. -/
@[simp] theorem relates_comparison (a b : Instant) (relation : Relation) :
    (a.comparison b).relates relation =
      .ok (relation.derived (decide (a.epochNanos < b.epochNanos)) (decide (a = b))) := by
  rw [← Relation.ofInstants_eq]
  rfl

/-- A set takes two instants for one member if they are equal. -/
@[simp] theorem setSize_comparison (a b : Instant) :
    (a.comparison b).setSize = .ok (if a = b then 1 else 2) := by
  show Except.ok (if (a == b) = true then 1 else 2) = _
  simp only [beq_iff_eq]

/-- Two instants are twins if they denote one point with different fields. -/
def Twins (a b : Instant) : Prop := a.epochNanos = b.epochNanos ∧ a ≠ b

instance (a b : Instant) : Decidable (Twins a b) := inferInstanceAs (Decidable (_ ∧ _))

/-- Apart from twins, instants with equal points have equal fields. -/
theorem eq_iff_of_not_twins {a b : Instant} (h : ¬ Twins a b) :
    a = b ↔ a.epochNanos = b.epochNanos := by
  constructor
  · exact congrArg epochNanos
  · intro hpoint
    by_contra hne
    exact h ⟨hpoint, hne⟩

/-- Apart from twins, instants compare like the points that they denote. -/
theorem relates_comparison_of_not_twins {a b : Instant} (h : ¬ Twins a b) (relation : Relation) :
    (a.comparison b).relates relation =
      .ok (relation.holds (compare a.epochNanos b.epochNanos)) := by
  rw [relates_comparison, Relation.holds_compare, decide_eq_decide.mpr (eq_iff_of_not_twins h)]

/-- Normal instants are no twins. -/
theorem not_twins_of_isNormal {a b : Instant} (ha : a.IsNormal) (hb : b.IsNormal) :
    ¬ Twins a b := by
  rintro ⟨hpoint, hne⟩
  exact hne (eq_of_isNormal ha hb hpoint)

/-- The earlier point comes first, also of twins. -/
theorem lt_iff {a b : Instant} :
    (a.comparison b).relates .lt = .ok true ↔ a.epochNanos < b.epochNanos := by
  simp only [relates_comparison, Relation.derived, Except.ok.injEq, decide_eq_true_eq]

/-- Apart from twins, an instant is before another one or equal to it if its point is not later. -/
theorem le_iff_of_not_twins {a b : Instant} (h : ¬ Twins a b) :
    (a.comparison b).relates .le = .ok true ↔ a.epochNanos ≤ b.epochNanos := by
  have hequal := eq_iff_of_not_twins h
  simp only [relates_comparison, Relation.derived, Except.ok.injEq, Bool.or_eq_true,
    decide_eq_true_eq, hequal]
  omega

/-- Sums with one duration are equal if they are made of the same point. -/
theorem plus_eq_plus_iff {a b : Instant} {duration : Duration} :
    a.plus duration = b.plus duration ↔ a.epochNanos = b.epochNanos := by
  have hsums := not_twins_of_isNormal (isNormal_plus a duration) (isNormal_plus b duration)
  rw [eq_iff_of_not_twins hsums, epochNanos_plus, epochNanos_plus]
  omega

/-- The instants that a clock, a number of milliseconds or the addition of a duration makes. What
the duration is added to may be any instant. -/
inductive Made : Instant → Prop
  /-- The time at which a number is made. -/
  | ofClock {instant : Instant} (number : Int) (around : Surroundings)
      (stamp : (Stamper.now.call number around).1 = .ok (.instant instant)) : Made instant
  /-- So many milliseconds after the epoch. -/
  | ofMillis (millis : Int) : Made (ofEpochMilli millis)
  /-- So much later than another instant. -/
  | later (instant : Instant) (duration : Duration) : Made (instant.plus duration)

/-- All of them are normal. -/
theorem Made.isNormal {instant : Instant} (h : instant.Made) : instant.IsNormal := by
  cases h with
  | ofClock number around stamp =>
    have hreading : Value.instant (ofEpochNanos around.readWall.1) = .instant instant :=
      Except.ok.inj stamp
    rw [← Value.instant.inj hreading]
    exact isNormal_ofEpochNanos _
  | ofMillis millis => exact isNormal_ofEpochMilli millis
  | later instant duration => exact isNormal_plus instant duration

/-- What the comparisons of any two instants come to. -/
structure OrderLaw (a b : Instant) : Prop where
  /-- Each is greater than the other just if they are twins. -/
  bothGreater : (a.comparison b).relates .gt = .ok true ∧ (b.comparison a).relates .gt = .ok true ↔
    Twins a b
  /-- So it is just then that `a <= b` and `b >= a` have different answers, -/
  leAgainstGe : (a.comparison b).relates .le ≠ (b.comparison a).relates .ge ↔ Twins a b
  /-- and `a > b` and `b < a`. -/
  gtAgainstLt : (a.comparison b).relates .gt ≠ (b.comparison a).relates .lt ↔ Twins a b
  /-- Of any other pair exactly one of `a < b`, `a = b` and `b < a` holds. -/
  oneOfThree : ¬ Twins a b →
    ((a.comparison b).relates .lt = .ok true ∧ (a.comparison b).equal = false ∧
        (b.comparison a).relates .lt = .ok false) ∨
      ((a.comparison b).relates .lt = .ok false ∧ (a.comparison b).equal = true ∧
        (b.comparison a).relates .lt = .ok false) ∨
      ((a.comparison b).relates .lt = .ok false ∧ (a.comparison b).equal = false ∧
        (b.comparison a).relates .lt = .ok true)
  /-- Any other pair is equal or not, and stands in the four relations, as the points do. -/
  faithful : ¬ Twins a b → (a.comparison b).equal = decide (a.epochNanos = b.epochNanos) ∧
    ∀ relation, (a.comparison b).relates relation =
      .ok (relation.holds (compare a.epochNanos b.epochNanos))

/-- What the comparisons of instants come to that have been made. -/
structure MadeOrderLaw (a b c : Instant) (duration : Duration) : Prop where
  /-- They are no twins. -/
  apart : ¬ Twins a b
  /-- They are equal if they denote one point. -/
  equal : (a.comparison b).equal = true ↔ a.epochNanos = b.epochNanos
  /-- If they are equal, so are the pairs of fields that are hashed, and a set of the two has one
  member. -/
  hashed : (a.comparison b).equal = true →
    (a.seconds, a.nanos) = (b.seconds, b.nanos) ∧
      Value.sameHash (.instant a) (.instant b) = .ok true ∧ (a.comparison b).setSize = .ok 1
  /-- One of the two is not after the other. -/
  total : (a.comparison b).relates .le = .ok true ∨ (b.comparison a).relates .le = .ok true
  /-- If neither is after the other, they are equal. -/
  antisymm : (a.comparison b).relates .le = .ok true → (b.comparison a).relates .le = .ok true →
    (a.comparison b).equal = true
  /-- Both orders lead from one to the next. -/
  trans : ((a.comparison b).relates .le = .ok true → (b.comparison c).relates .le = .ok true →
      (a.comparison c).relates .le = .ok true) ∧
    ((a.comparison b).relates .lt = .ok true → (b.comparison c).relates .lt = .ok true →
      (a.comparison c).relates .lt = .ok true)
  /-- One duration added to both sides changes no comparison. -/
  shifted : ((a.plus duration).comparison (b.plus duration)).equal = (a.comparison b).equal ∧
    ∀ relation, ((a.plus duration).comparison (b.plus duration)).relates relation =
      (a.comparison b).relates relation

/-- Any two instants obey the law. -/
theorem orderLaw (a b : Instant) : OrderLaw a b := by
  have hpoints : a = b → a.epochNanos = b.epochNanos := congrArg epochNanos
  have hfields : b = a ↔ a = b := eq_comm
  have hbefore := Int.lt_trichotomy a.epochNanos b.epochNanos
  refine ⟨?_, ?_, ?_, fun htwins => ?_, fun htwins => ⟨?_, ?_⟩⟩
  · simp only [relates_comparison, Relation.derived, Twins, Except.ok.injEq]
    grind
  · simp only [relates_comparison, Relation.derived, Twins, ne_eq, Except.ok.injEq]
    grind
  · simp only [relates_comparison, Relation.derived, Twins, ne_eq, Except.ok.injEq]
    grind
  · have hequal := eq_iff_of_not_twins htwins
    simp only [relates_comparison, equal_comparison, Relation.derived, Except.ok.injEq]
    grind
  · rw [equal_comparison, decide_eq_decide.mpr (eq_iff_of_not_twins htwins)]
  · exact relates_comparison_of_not_twins htwins

/-- Instants that have been made obey the law of these. -/
theorem madeOrderLaw {a b c : Instant} (ha : a.Made) (hb : b.Made) (hc : c.Made)
    (duration : Duration) : MadeOrderLaw a b c duration := by
  have hab := not_twins_of_isNormal ha.isNormal hb.isNormal
  have hba := not_twins_of_isNormal hb.isNormal ha.isNormal
  have hbc := not_twins_of_isNormal hb.isNormal hc.isNormal
  have hac := not_twins_of_isNormal ha.isNormal hc.isNormal
  have hequal := eq_iff_of_not_twins hab
  refine ⟨hab, ?_, ?_, ?_, ?_, ⟨?_, ?_⟩, ?_, ?_⟩
  · rw [equal_comparison, decide_eq_true_eq]
    exact hequal
  · intro hsame
    rw [equal_comparison, decide_eq_true_eq] at hsame
    subst hsame
    refine ⟨rfl, ?_, ?_⟩
    · show Except.ok (a == a) = _
      rw [beq_self_eq_true]
    · rw [setSize_comparison, if_pos rfl]
  · rw [le_iff_of_not_twins hab, le_iff_of_not_twins hba]
    omega
  · rw [le_iff_of_not_twins hab, le_iff_of_not_twins hba, equal_comparison, decide_eq_true_eq,
      hequal]
    omega
  · rw [le_iff_of_not_twins hab, le_iff_of_not_twins hbc, le_iff_of_not_twins hac]
    omega
  · rw [lt_iff, lt_iff, lt_iff]
    omega
  · rw [equal_comparison, equal_comparison, decide_eq_decide, plus_eq_plus_iff, hequal]
  · intro relation
    -- Both comparisons ask the same two questions about the points.
    have hsums : a.plus duration = b.plus duration ↔ a = b := by rw [plus_eq_plus_iff, hequal]
    have hbefore : (a.plus duration).epochNanos < (b.plus duration).epochNanos ↔
        a.epochNanos < b.epochNanos := by
      rw [epochNanos_plus, epochNanos_plus]
      omega
    rw [relates_comparison, relates_comparison, decide_eq_decide.mpr hsums,
      decide_eq_decide.mpr hbefore]

/-- The comparisons of instants contradict each other only at twins, and instants that have been
made are in a total order that durations keep. -/
theorem order_law (a b c : Instant) (duration : Duration) :
    OrderLaw a b ∧ (a.Made → b.Made → c.Made → MadeOrderLaw a b c duration) :=
  ⟨orderLaw a b, fun ha hb hc => madeOrderLaw ha hb hc duration⟩

/-- A second and a thousand million nanoseconds are twins. -/
example : Twins ⟨1, 0⟩ ⟨0, 1000000000⟩ := by decide

end Instant

end NumberFeed
