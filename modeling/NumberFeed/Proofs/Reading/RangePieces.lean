import Mathlib.Data.List.Basic
import NumberFeed.Proofs.Reading.Run
import NumberFeed.Proofs.Value.CountDecision
import NumberFeed.Value.Comparison
import NumberFeed.Workspace.Object

/-!
# Ranges that are cut into pieces

A range that is read to its end yields the numbers between its two bounds (`between`), of which the
upper one is left out. So pieces that share their bounds fit: the numbers of two adjacent ranges,
one after the other, are those of the range that covers both (`between_append`).
`Source.readPieces` reads all the pieces between the cuts of a range, one after the other, and by
induction on the cuts it comes to the read of the whole (`Source.readPieces_eq`).

Ranges are made from two values that are checked for it. `Source.RangeDecision` says which pairs are
ranges and how the others are refused: the first value is looked at first, and alone.
`Source.range_law` gathers both, with the range of the numbers below a count as a special case.
-/

namespace NumberFeed

/-! ## The numbers between two bounds -/

/-- The numbers from `first` up to but not including `last`, in order. -/
def between (first last : Int) : List Int :=
  (List.range (last - first).toNat).map fun i => first + (i : Nat)

/-- They are those that lie between the bounds. -/
theorem mem_between {first last n : Int} : n ∈ between first last ↔ first ≤ n ∧ n < last := by
  unfold between
  rw [List.mem_map]
  constructor
  · rintro ⟨i, hi, rfl⟩
    have hlt := List.mem_range.mp hi
    omega
  · rintro ⟨hfirst, hlast⟩
    exact ⟨(n - first).toNat, List.mem_range.mpr (by omega), by omega⟩

/-- Each comes before all that are greater, so that none comes twice. -/
theorem pairwise_between (first last : Int) : (between first last).Pairwise (· < ·) := by
  unfold between
  rw [List.pairwise_map]
  refine List.Pairwise.imp ?_ List.pairwise_lt_range
  intro i j hlt
  omega

/-- There is nothing between a bound and itself. -/
theorem between_self (bound : Int) : between bound bound = [] := by
  simp [between]

/-- The numbers up to a cut and those from the cut on are all the numbers. -/
theorem between_append {first cut last : Int} (hfirst : first ≤ cut) (hlast : cut ≤ last) :
    between first cut ++ between cut last = between first last := by
  have hlength : (last - first).toNat = (cut - first).toNat + (last - cut).toNat := by omega
  unfold between
  rw [hlength, List.range_add, List.map_append, List.map_map]
  congr 1
  apply List.map_congr_left
  intro i _
  show cut + (i : Int) = first + (((cut - first).toNat + i : Nat) : Int)
  omega

/-- A number without a timestamp. -/
def Timestamped.bare (n : Int) : Timestamped := ⟨.int n, .null⟩

namespace Source

/-! ## Reading ranges -/

/-- What is read from the range between two values: the range is made, opened and read to its
end. -/
def readRange (start stop : Value) (around : Surroundings) : Except Failure Taken := do
  let source ← ofRange start stop
  let reader ← source.open?
  return reader.drain around

/-- What is read from the pieces of a range, one after the other: from the first number to the first
cut, from there to the next one, and so on. -/
def readPieces : Int → List Int → Surroundings → Except Failure (List Timestamped × Surroundings)
  | _, [], around => .ok ([], around)
  | first, cut :: cuts, around => do
    let taken ← readRange (.int first) (.int cut) around
    let (elements, after) ← readPieces cut cuts taken.around
    return (taken.elements ++ elements, after)

section Read

variable {first last : Int}

/-- Two integers in order make a range, unless they are negative. -/
theorem ofRange_int (hfirst : 0 ≤ first) (hlast : first ≤ last) :
    ofRange (.int first) (.int last) = .ok (range first last) := by
  simp [ofRange, Value.int?, Option.filter, hfirst, hlast]

/-- A range that is read to its end yields the numbers between its bounds without timestamps, and
touches nothing else. -/
theorem readRange_int (hfirst : 0 ≤ first) (hlast : first ≤ last) (around : Surroundings) :
    readRange (.int first) (.int last) around =
      .ok ⟨(between first last).map .bare, .ended, .ended, around⟩ := by
  have hdrain := Reader.drain_range first last around
  rw [readRange, ofRange_int hfirst hlast]
  show Except.ok ((Reader.range first last).drain around) = _
  rw [hdrain, between, List.map_map]
  rfl

/-- The pieces of a range are read as the range from the first number to the last cut. -/
theorem readPieces_eq {first : Int} {cuts : List Int} (hfirst : 0 ≤ first)
    (hcuts : List.IsChain (· ≤ ·) (first :: cuts)) (around : Surroundings) :
    first ≤ cuts.getLastD first ∧ readPieces first cuts around =
      .ok ((between first (cuts.getLastD first)).map .bare, around) := by
  -- One piece is read for each cut, and leaves the rest of the cuts to the next one.
  induction cuts generalizing first with
  | nil =>
    refine ⟨Int.le_refl first, ?_⟩
    rw [List.getLastD_nil, between_self]
    rfl
  | cons cut cuts ih =>
    obtain ⟨hcut, hrest⟩ := List.isChain_cons_cons.mp hcuts
    obtain ⟨hlast, hpieces⟩ := ih (Int.le_trans hfirst hcut) hrest
    rw [List.getLastD_cons]
    refine ⟨Int.le_trans hcut hlast, ?_⟩
    rw [readPieces, readRange_int hfirst hcut]
    show (readPieces cut cuts around >>= _) = _
    rw [hpieces, ← between_append hcut hlast, List.map_append]
    rfl

end Read

/-! ## Which values make a range -/

section Decision

variable {start stop : Value} {first : Int}

/-- What has to come of two values that are given as the bounds of a range. -/
structure RangeDecision (start stop : Value) (result : Except Failure Source) : Prop where
  /-- Two integers in order are let through and kept as they are, if the first one is a natural
  number, and nothing else is let through. -/
  accepted : ∀ source, result = .ok source ↔ ∃ first last : Int,
    start = .int first ∧ stop = .int last ∧ 0 ≤ first ∧ first ≤ last ∧ source = range first last
  /-- If the first value is no natural number, this is what is told, and nothing about the other. -/
  startFirst : (∀ first : Int, start = .int first → first < 0) →
    (∀ shown, start.shown = .ok shown → ∃ reason, result = .error (.refused reason) ∧
      reason.message = "start (" ++ shown ++ ") must be greater than or equal to 0") ∧
    (¬ start.Tellable → result = .error .tooManyDigits)
  /-- If only the second value is wrong, it is told with the first. -/
  stopThen : ∀ first : Int, start = .int first → 0 ≤ first →
    (∀ last : Int, stop = .int last → last < first) →
    (∀ shownStop shownStart, stop.shown = .ok shownStop → start.shown = .ok shownStart →
      ∃ reason, result = .error (.refused reason) ∧ reason.message = "end (" ++ shownStop ++
        ") must be greater than or equal to start (" ++ shownStart ++ ")") ∧
    (¬ stop.Tellable ∨ ¬ start.Tellable → result = .error .tooManyDigits)

/-- A value that is no natural number is refused as the start of a range, whatever the end is. -/
theorem ofRange_of_start (h : ∀ first : Int, start = .int first → first < 0) :
    ofRange start stop = start.shown >>= fun shown => .error (.refused (.startNegative shown)) := by
  have hnone : start.int?.filter (0 ≤ ·) = none := by
    cases start with
    | int first =>
      have hneg := h first rfl
      simp only [Value.int?, Option.filter, decide_eq_true_eq]
      rw [if_neg (by omega)]
    | _ => rfl
  rw [ofRange, hnone]

/-- A value that is no integer or too small is refused as the end of a range from a natural
number. -/
theorem ofRange_of_stop (hfirst : 0 ≤ first) (h : ∀ last : Int, stop = .int last → last < first) :
    ofRange (.int first) stop = stop.shown >>= fun shownStop =>
      (Value.int first).shown >>= fun shownStart =>
        .error (.refused (.endBeforeStart shownStop shownStart)) := by
  have hsome : (Value.int first).int?.filter (0 ≤ ·) = some first := by
    simp [Value.int?, Option.filter, hfirst]
  have hnone : stop.int?.filter (first ≤ ·) = none := by
    cases stop with
    | int last =>
      have hlt := h last rfl
      simp only [Value.int?, Option.filter, decide_eq_true_eq]
      rw [if_neg (by omega)]
    | _ => rfl
  rw [ofRange, hsome]
  dsimp only
  rw [hnone]

/-- The bounds that are let through are two integers in order. -/
theorem ofRange_eq_ok_iff {source : Source} :
    ofRange start stop = .ok source ↔ ∃ first last : Int, start = .int first ∧ stop = .int last ∧
      0 ≤ first ∧ first ≤ last ∧ source = range first last := by
  constructor
  · intro hmade
    by_cases hstart : ∀ first : Int, start = .int first → first < 0
    · rw [ofRange_of_start hstart] at hmade
      obtain ⟨_, -, ⟨⟩⟩ := exists_of_bind_eq_ok hmade
    · obtain ⟨first, hfirst⟩ := not_forall.mp hstart
      obtain ⟨rfl, hnatural⟩ := Classical.not_imp.mp hfirst
      have hfirst : 0 ≤ first := Int.not_lt.mp hnatural
      by_cases hstop : ∀ last : Int, stop = .int last → last < first
      · rw [ofRange_of_stop hfirst hstop] at hmade
        obtain ⟨_, -, hrefused⟩ := exists_of_bind_eq_ok hmade
        obtain ⟨_, -, ⟨⟩⟩ := exists_of_bind_eq_ok hrefused
      · obtain ⟨last, hlast⟩ := not_forall.mp hstop
        obtain ⟨rfl, hordered⟩ := Classical.not_imp.mp hlast
        have hlast : first ≤ last := Int.not_lt.mp hordered
        rw [ofRange_int hfirst hlast] at hmade
        exact ⟨first, last, rfl, rfl, hfirst, hlast, (Except.ok.inj hmade).symm⟩
  · rintro ⟨first, last, rfl, rfl, hfirst, hlast, rfl⟩
    exact ofRange_int hfirst hlast

/-- The bounds of a range are decided as said. -/
theorem decision_ofRange (start stop : Value) : RangeDecision start stop (ofRange start stop) where
  accepted _ := ofRange_eq_ok_iff
  startFirst hstart := by
    rw [ofRange_of_start hstart]
    refine ⟨fun shown hshown => ?_, fun hlong => ?_⟩
    · rw [hshown]
      exact ⟨_, rfl, rfl⟩
    · rw [Value.shown_of_not_tellable hlong]
      rfl
  stopThen first hstart hfirst hstop := by
    subst hstart
    rw [ofRange_of_stop hfirst hstop]
    refine ⟨fun shownStop shownStart hshownStop hshownStart => ?_, fun hlong => ?_⟩
    · rw [hshownStop, hshownStart]
      exact ⟨_, rfl, rfl⟩
    · -- The text of the end is put together first, and either may be missing.
      by_cases htellable : stop.Tellable
      · obtain ⟨shown, hshown⟩ := Value.tellable_iff.mp htellable
        have hstart := hlong.resolve_left (not_not_intro htellable)
        rw [hshown, Value.shown_of_not_tellable hstart]
        rfl
      · rw [Value.shown_of_not_tellable htellable]
        rfl

end Decision

/-! ## The law -/

/-- The values that are a range are the objects of this range. -/
theorem ofValue_eq_range_iff {value : Value} {first last : Int} :
    ofValue value = range first last ↔ ∃ mark, value = .object mark (.range first last) := by
  constructor
  · intro h
    unfold ofValue at h
    split at h
    · obtain ⟨rfl, rfl⟩ := Source.range.inj h
      exact ⟨_, rfl⟩
    all_goals cases h
  · rintro ⟨mark, rfl⟩
    rfl

/-- What ranges and their pieces come to. -/
structure RangeLaw : Prop where
  /-- Two adjacent ranges, read one after the other or at any other moments, have the elements of
  the range that covers both. -/
  adjacent : ∀ first cut last : Int, 0 ≤ first → first ≤ cut → cut ≤ last →
    ∀ early late around : Surroundings, ∃ left right whole,
      readRange (.int first) (.int cut) early = .ok left ∧
      readRange (.int cut) (.int last) late = .ok right ∧
      readRange (.int first) (.int last) around = .ok whole ∧
      whole.elements = left.elements ++ right.elements
  /-- So have all the pieces between cuts in order: every number from the first cut up to the last
  one comes once and in order, without a timestamp. Nothing else is touched by any of the reads. -/
  pieces : ∀ (first : Int) (cuts : List Int), 0 ≤ first →
    List.IsChain (· ≤ ·) (first :: cuts) → ∀ around : Surroundings, ∃ numbers : List Int,
      readPieces first cuts around = .ok (numbers.map .bare, around) ∧
      readRange (.int first) (.int (cuts.getLastD first)) around =
        .ok ⟨numbers.map .bare, .ended, .ended, around⟩ ∧
      numbers.Pairwise (· < ·) ∧ ∀ n, n ∈ numbers ↔ first ≤ n ∧ n < cuts.getLastD first
  /-- What can be the bounds of a range is decided as said. -/
  decided : ∀ start stop : Value, RangeDecision start stop (ofRange start stop)
  /-- The numbers below a count are the range from zero to the count. As values the two are equal
  and one member of a set, and what is read from them is the same. -/
  upTo : ∀ count : Int, 0 < count → ∃ source, upTo (.int count) = .ok source ∧
    ofRange (.int 0) (.int count) = .ok source ∧
    (∀ a b : Value, ofValue a = source → ofValue b = source →
      (Comparison.ofValues a b).equal = true ∧ (Comparison.ofValues a b).setSize = .ok 1) ∧
    ∀ around : Surroundings, ∃ reader, source.open? = .ok reader ∧
      readRange (.int 0) (.int count) around = .ok (reader.drain around)

/-- Ranges can be cut and put together without a loss. -/
theorem range_law : RangeLaw where
  adjacent first cut last hfirst hcut hlast early late around := by
    refine ⟨_, _, _, readRange_int hfirst hcut early,
      readRange_int (Int.le_trans hfirst hcut) hlast late,
      readRange_int hfirst (Int.le_trans hcut hlast) around, ?_⟩
    rw [← between_append hcut hlast, List.map_append]
  pieces first cuts hfirst hcuts around := by
    obtain ⟨hlast, hpieces⟩ := readPieces_eq hfirst hcuts around
    exact ⟨between first (cuts.getLastD first), hpieces, readRange_int hfirst hlast around,
      pairwise_between first _, fun _ => mem_between⟩
  decided := decision_ofRange
  upTo count hpositive := by
    have hmade : Count.ofValue (.countNotPositive "num_elements") (.int count) =
        .ok ⟨count, hpositive⟩ := Count.ofValue_of_count _ ⟨count, hpositive⟩
    have hrange := ofRange_int (Int.le_refl 0) (Int.le_of_lt hpositive)
    refine ⟨range 0 count, ?_, hrange, fun a b ha hb => ?_, fun around => ⟨_, rfl, ?_⟩⟩
    · rw [Source.upTo, hmade]
      rfl
    · obtain ⟨mark, rfl⟩ := ofValue_eq_range_iff.mp ha
      obtain ⟨other, rfl⟩ := ofValue_eq_range_iff.mp hb
      have hequal (hashed : Bool) : Value.equalAs hashed (.object mark (.range 0 count))
          (.object other (.range 0 count)) = true := by
        simp [Value.equalAs, Value.formsEqual]
      refine ⟨hequal false, ?_⟩
      show Except.ok (if Value.matchesKey _ _ then 1 else 2) = _
      rw [Value.matchesKey, hequal true, Bool.or_true, if_pos rfl]
    · rw [readRange, hrange]
      rfl

/-- A range that is cut twice at one number has an empty piece, which yields nothing. -/
example : readPieces 1 [3, 3, 4] (.still 9) =
    .ok ([1, 2, 3].map .bare, .still 9) := by
  rfl

end Source

end NumberFeed
