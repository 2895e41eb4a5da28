import NumberFeed.Proofs.Input.CountChecks
import NumberFeed.Proofs.Reading.LimitedCount

/-!
# Limited reads of limited reads

A limited read can be read like a source, and so be limited again, to any depth. Each level keeps a
count of its own, and a step goes from the outermost level inwards: every level that has reached its
number of records stops there, before it looks at what is within, and the others only pass on what
comes from within. So the read ends with the least of the numbers, and where several levels have this
number the outermost of them is the one that stops and tells so (`Reader.nested_law`).

The levels of a read in progress are all at the same count, `Reader.levels`. That a step keeps them
so is shown by induction on the levels (`Reader.step_levels_of_yielded`), and then the run along the
path of these readers as for one limited read. At its end the levels are cut in three: those outside
of the one that stops, which have not reached their numbers, that one, and those within it, which are
not asked any more.
-/

namespace NumberFeed

namespace Source

/-- A read without limits of a source, which is then given a number of records. -/
def limitAgain (source : Source) (count : Count) : Except Failure Source :=
  ofRead false source >>= withMaxRecords (.int count.value)

/-- Limits a source again and again, each read being the source of the next one. -/
def nest (source : Source) (counts : List Count) : Except Failure Source :=
  counts.foldlM limitAgain source

/-- Limited reads around a source, the outermost level first. -/
def stacked (source : Source) : List Count → Source
  | [] => source
  | count :: rest => .limited ⟨some count, none⟩ (source.stacked rest)

/-- The text of limited reads around a source, the outermost level first. -/
def stackedText (shown : String) : List Count → String
  | [] => shown
  | count :: rest => "BoundedReadFromUnboundedSource(" ++ stackedText shown rest ++
      ", max_num_records=" ++ String.ofList (Number.decimal count.value) ++ ", max_read_time=" ++
      Wording.absent ++ ")"

variable {source : Source}

/-- To limit a source again puts a level around it, unless there is no source. -/
theorem limitAgain_eq (hsource : source ≠ .foreign .null) (count : Count) :
    source.limitAgain count = .ok (.limited ⟨some count, none⟩ source) := by
  have hread : ofRead false source = .ok (.read false source) := by
    rw [ofRead]
    exact hsource
  have hcount : Count.ofRecords (.int count.value) = .ok count := Count.ofValue_of_count _ count
  show (ofRead false source >>= withMaxRecords (.int count.value)) = _
  rw [hread]
  show withMaxRecords (.int count.value) (.read false source) = _
  rw [withMaxRecords_read, hcount]
  rfl

/-- The levels of one stack around another. -/
theorem stacked_append (outer inner : List Count) :
    source.stacked (outer ++ inner) = (source.stacked inner).stacked outer := by
  induction outer with
  | nil => rfl
  | cons count outer ih => rw [List.cons_append, stacked, stacked, ih]

/-- A source that is limited again and again is a stack, the last number outermost. -/
theorem nest_eq (hsource : source ≠ .foreign .null) (counts : List Count) :
    source.nest counts = .ok (source.stacked counts.reverse) := by
  induction counts generalizing source with
  | nil => rfl
  | cons count counts ih =>
    have hlimited : Source.limited ⟨some count, none⟩ source ≠ .foreign .null := by
      rintro ⟨⟩
    -- The first number goes around the source itself, which makes it the innermost of them.
    rw [nest, List.foldlM_cons, limitAgain_eq hsource]
    show nest (.limited ⟨some count, none⟩ source) counts = _
    rw [ih hlimited, List.reverse_cons, stacked_append]
    rfl

/-- The text of a stack, if its numbers can be written. -/
theorem text_stacked {shown : String} (hshown : source.text = .ok shown) {counts : List Count}
    (hwritable : ∀ count ∈ counts, Number.Writable count.value) :
    (source.stacked counts).text = .ok (stackedText shown counts) := by
  induction counts with
  | nil => exact hshown
  | cons count rest ih =>
    rw [List.forall_mem_cons] at hwritable
    rw [stacked, text, ih hwritable.2]
    show Wording.limitedRead ⟨some count, none⟩ (stackedText shown rest) = _
    rw [Wording.limitedRead, Wording.records, Number.write_of_writable hwritable.1]
    rfl

end Source

namespace Reader

/-! ## Levels in progress -/

/-- How far each level has come before its element `i`. -/
def levelPhase : Nat → Phase
  | 0 => .fresh
  | i + 1 => .running none (i + 1)

/-- The levels of a read in progress before its element `i`, the outermost first. -/
def levels (source : Source) (i : Nat) (inner : Reader) : List Count → Reader
  | [] => inner
  | count :: rest =>
    .limited ⟨some count, none⟩ (source.stacked rest) (levelPhase i) (levels source i inner rest)

section Levels

variable {source : Source} {i : Nat} {inner : Reader} {around after : Surroundings}

/-- A stack opens with all levels before their first element. -/
theorem levels_zero (source : Source) (counts : List Count) :
    levels source 0 source.reader counts = (source.stacked counts).reader := by
  induction counts with
  | nil => rfl
  | cons count rest ih =>
    rw [levels, ih]
    rfl

/-- The levels of one stack around those of another. -/
theorem levels_append (outer rest : List Count) :
    levels source i inner (outer ++ rest) =
      levels (source.stacked rest) i (levels source i inner rest) outer := by
  induction outer with
  | nil => rfl
  | cons count outer ih => rw [List.cons_append, levels, levels, ih, Source.stacked_append]

/-- As many elements are left as there are within. -/
theorem remaining_levels (largest : Int) (counts : List Count) :
    (levels source i inner counts).remaining largest = inner.remaining largest := by
  induction counts with
  | nil => rfl
  | cons count rest ih => exact ih

/-- A level without a read time has no deadline, and has yielded all elements before this one. -/
theorem deadline_levelPhase (records : Option Count) (i : Nat) (around : Surroundings) :
    deadline ⟨records, none⟩ (levelPhase i) around = (.ok (none, i), around) := by
  cases i with
  | zero => rfl
  | succ i => rfl

/-- A level that has not reached its number goes on. -/
theorem reached?_of_lt {count : Count} (h : (i : Int) < count.value) :
    reached? ⟨some count, none⟩ i = none := by
  simp [reached?, Option.filter, h]

/-- What comes from within is passed on through all levels, if none has reached its number. -/
theorem step_levels_of_yielded {element : Timestamped} {rest : Reader} {counts : List Count}
    (hcounts : ∀ count ∈ counts, (i : Int) < count.value)
    (hinner : inner.step around = ⟨.yielded element, rest, after⟩) :
    (levels source i inner counts).step around =
      ⟨.yielded element, levels source (i + 1) rest counts, after⟩ := by
  induction counts with
  | nil => exact hinner
  | cons count others ih =>
    rw [List.forall_mem_cons] at hcounts
    rw [levels, step_limited_of_yielded (deadline_levelPhase _ i around)
      (reached?_of_lt hcounts.1) (ih hcounts.2)]
    rfl

/-- So is the end. -/
theorem step_levels_of_ended {counts : List Count}
    (hcounts : ∀ count ∈ counts, (i : Int) < count.value)
    (hinner : inner.step around = .ended after) :
    (levels source i inner counts).step around = .ended after := by
  induction counts with
  | nil => exact hinner
  | cons count others ih =>
    rw [List.forall_mem_cons] at hcounts
    rw [levels, step_limited_of_ended (deadline_levelPhase _ i around)
      (reached?_of_lt hcounts.1) (ih hcounts.2)]

/-- The outermost level that has reached its number stops the read and tells so, and what is within
it is not asked. -/
theorem step_levels_of_reached {outer rest : List Count} {count : Count} {message : String}
    (houter : ∀ other ∈ outer, (i : Int) < other.value) (hcount : (i : Int) = count.value)
    (hmessage : recordsMessage (source.stacked rest) count = .ok message) :
    (levels source i inner (outer ++ count :: rest)).step around =
      .ended (around.write .info .read message) := by
  -- To the levels outside of it, the one that stops is a reader within that ends.
  rw [levels_append]
  refine step_levels_of_ended houter ?_
  have hreached : reached? ⟨some count, none⟩ i = some count := by
    simp [reached?, Option.filter, hcount]
  rw [levels, step_limited_of_reached (deadline_levelPhase _ i around) hreached, hmessage,
    stopWith_ok]

end Levels

/-! ## The run -/

/-- The number of elements of a read of the unbounded count that is limited again and again: the
least of the numbers, or as many as there are. -/
def nestedEnd (largest : Int) : List Count → Int
  | [] => largest + 1
  | count :: rest => min count.value (nestedEnd largest rest)

/-- What a read of the unbounded count comes to that is limited again and again, the innermost number
first. -/
structure NestedLaw (stamper : Stamper) (stamp : Nat → Value) (around : Surroundings)
    (counts : List Count) (k : Nat) (taken : Taken) : Prop where
  /-- The numbers below `k` have been yielded in order, each with its timestamp. -/
  elements : taken.elements = (List.range k).map fun i => ⟨.int (i : Nat), stamp i⟩
  /-- The read has ended, -/
  stop : taken.stop = .ended
  /-- and nothing is left of it. -/
  reader : taken.reader = .ended
  /-- If the least of the numbers is reached, this is recorded once. The stamper has been called on
  the numbers below `k`, and nothing else has happened. The record tells of the outermost level with
  this number: all numbers outside of it are greater, and no number within it is less. -/
  recorded : (∃ count ∈ counts, count.value ≤ around.largest + 1) →
    ∃ inner count outer, counts = inner ++ count :: outer ∧ (k : Int) = count.value ∧
      (∀ other ∈ inner, (k : Int) ≤ other.value) ∧ (∀ other ∈ outer, (k : Int) < other.value) ∧
      taken.around = around.afterRead .none stamper k 0
        ["Stopped reading " ++ Source.stackedText Wording.counting inner.reverse ++
          " after max number of records " ++ String.ofList (Number.decimal count.value)]
  /-- If all numbers are greater than the number of elements that there are, there is no record. -/
  unrecorded : (∀ count ∈ counts, around.largest + 1 < count.value) →
    taken.around = around.afterRead .none stamper k 0 []

section Path

variable {stamper : Stamper} {stamp : Nat → Value} {around : Surroundings} {counts : List Count}

/-- The end is not beyond any of the numbers, nor beyond the last element. -/
theorem nestedEnd_le (largest : Int) (counts : List Count) :
    nestedEnd largest counts ≤ largest + 1 ∧
      ∀ count ∈ counts, nestedEnd largest counts ≤ count.value := by
  induction counts with
  | nil => exact ⟨Int.le_refl _, fun count hcount => absurd hcount List.not_mem_nil⟩
  | cons count rest ih =>
    rw [List.forall_mem_cons, nestedEnd]
    refine ⟨Int.le_trans (Int.min_le_right _ _) ih.1, Int.min_le_left _ _, fun other hother => ?_⟩
    exact Int.le_trans (Int.min_le_right _ _) (ih.2 other hother)

/-- The end is one of the numbers, or that of the elements. -/
theorem nestedEnd_cases (largest : Int) (counts : List Count) :
    nestedEnd largest counts = largest + 1 ∨
      ∃ count ∈ counts, count.value = nestedEnd largest counts := by
  induction counts with
  | nil => exact .inl rfl
  | cons count rest ih =>
    rw [nestedEnd]
    by_cases hle : count.value ≤ nestedEnd largest rest
    · exact .inr ⟨count, List.mem_cons_self, (Int.min_eq_left hle).symm⟩
    · rw [Int.min_eq_right (by omega)]
      obtain hend | ⟨other, hother, heq⟩ := ih
      · exact .inl hend
      · exact .inr ⟨other, List.mem_cons_of_mem count hother, heq⟩

/-- The end is not before the first element. -/
theorem nestedEnd_nonneg {largest : Int} (hlargest : 0 ≤ largest) (counts : List Count) :
    0 ≤ nestedEnd largest counts := by
  obtain hend | ⟨count, -, hcount⟩ := nestedEnd_cases largest counts
  · omega
  · have hpositive := count.positive
    omega

/-- If one of the numbers is reached, one of them is the end. -/
theorem exists_eq_nestedEnd {largest : Int} (h : ∃ count ∈ counts, count.value ≤ largest + 1) :
    ∃ count ∈ counts, count.value = nestedEnd largest counts := by
  obtain hend | hcount := nestedEnd_cases largest counts
  · obtain ⟨count, hmem, hle⟩ := h
    have hge := (nestedEnd_le largest counts).2 count hmem
    exact ⟨count, hmem, by omega⟩
  · exact hcount

/-- The levels before the element `i`, with the stamper after its calls on the smaller numbers. -/
def nestedReader (stamper : Stamper) (around : Surroundings) (levelsOutermostFirst : List Count)
    (i : Nat) : Reader :=
  levels (.counting stamper) i (counting (stamper.after around i).1 i) levelsOutermostFirst

/-- The surroundings in which the element `i` is asked for. -/
def nestedAround (stamper : Stamper) (around : Surroundings) (i : Nat) : Surroundings :=
  around.afterRead .none stamper i 0 []

/-- Before the first element nothing has happened. -/
theorem nestedAround_zero (stamper : Stamper) (around : Surroundings) :
    nestedAround stamper around 0 = around := by
  simp [nestedAround, Surroundings.afterRead, Limits.clockReadings]

/-- The largest number stays what it is. -/
theorem largest_nestedAround (stamper : Stamper) (around : Surroundings) (i : Nat) :
    (nestedAround stamper around i).largest = around.largest := by
  rw [nestedAround, Surroundings.afterRead, Stamper.around_after]

/-- While no level has reached its number and there are elements left, a step yields the next one. -/
theorem step_nestedReader {i : Nat} (hcounts : ∀ count ∈ counts, (i : Int) < count.value)
    (hlargest : (i : Int) ≤ around.largest) (hstamp : stamper.stampOf around i = .ok (stamp i)) :
    (nestedReader stamper around counts i).step (nestedAround stamper around i) =
      ⟨.yielded ⟨.int i, stamp i⟩, nestedReader stamper around counts (i + 1),
        nestedAround stamper around (i + 1)⟩ :=
  step_levels_of_yielded hcounts (@step_counting_after .none stamper around stamp i hlargest hstamp)

/-- Past the largest number the read ends, if no level has reached its number. -/
theorem step_nestedReader_of_exhausted {k : Nat}
    (hcounts : ∀ count ∈ counts, (k : Int) < count.value) (hk : (k : Int) = around.largest + 1) :
    (nestedReader stamper around counts k).step (nestedAround stamper around k) =
      .ended (around.afterRead .none stamper k 0 []) := by
  have hpast : ¬ (k : Int) ≤ (nestedAround stamper around k).largest := by
    rw [largest_nestedAround]
    omega
  refine step_levels_of_ended hcounts ?_
  rw [step, if_neg hpast, nestedAround]

/-- The outermost level that has reached its number tells so. -/
theorem step_nestedReader_of_reached {k : Nat} {outer inner : List Count} {count : Count}
    (houter : ∀ other ∈ outer, (k : Int) < other.value) (hcount : (k : Int) = count.value)
    (hwritable : Number.Writable count.value)
    (hinner : ∀ other ∈ inner, Number.Writable other.value) :
    (nestedReader stamper around (outer ++ count :: inner) k).step (nestedAround stamper around k) =
      .ended (around.afterRead .none stamper k 0
        ["Stopped reading " ++ Source.stackedText Wording.counting inner ++
          " after max number of records " ++ String.ofList (Number.decimal count.value)]) := by
  have hmessage : recordsMessage ((Source.counting stamper).stacked inner) count =
      .ok ("Stopped reading " ++ Source.stackedText Wording.counting inner ++
        " after max number of records " ++ String.ofList (Number.decimal count.value)) := by
    rw [recordsMessage, Source.text_stacked rfl hinner, Number.write_of_writable hwritable]
    rfl
  rw [nestedReader, step_levels_of_reached houter hcount hmessage, nestedAround,
    Surroundings.write_afterRead]

/-- The run to an end that is seen in the step after the last element. -/
theorem drain_nestedReader {k : Nat} {final : Surroundings}
    (hcounts : ∀ count ∈ counts, (k : Int) ≤ count.value) (hlargest : (k : Int) ≤ around.largest + 1)
    (hstamp : ∀ i < k, stamper.stampOf around i = .ok (stamp i))
    (hend : (nestedReader stamper around counts k).step (nestedAround stamper around k) =
      .ended final) :
    (nestedReader stamper around counts 0).drain around =
      ⟨(List.range k).map fun i => ⟨.int (i : Nat), stamp i⟩, .ended, .ended, final⟩ := by
  have hremaining : (nestedReader stamper around counts 0).remaining around.largest =
      (around.largest + 1).toNat := by
    rw [nestedReader, remaining_levels]
    show (around.largest + 1 - 0).toNat = _
    omega
  -- A full read takes one step more than there are elements left, which is enough to see the end.
  have hfuel : (around.largest + 1).toNat + 1 = k + ((around.largest + 1).toNat - k + 1) := by omega
  have hrun := take_of_path (nestedReader stamper around counts) (nestedAround stamper around)
    (fun i => ⟨.int i, stamp i⟩) k
    (fun i hi => step_nestedReader
      (fun count hcount => by
        have hle := hcounts count hcount
        omega)
      (by omega) (hstamp i hi)) ((around.largest + 1).toNat - k + 1)
  rw [nestedAround_zero] at hrun
  rw [drain, hremaining, hfuel, hrun, take_of_step_ended hend, Taken.prepend, List.append_nil]

/-- Of the levels with one number there is an outermost one: further out there is none. -/
theorem exists_outermost {k : Int} (h : ∃ count ∈ counts, count.value = k) :
    ∃ inner count outer, counts = inner ++ count :: outer ∧ k = count.value ∧
      ∀ other ∈ outer, other.value ≠ k := by
  induction counts with
  | nil =>
    obtain ⟨count, hmem, -⟩ := h
    exact absurd hmem List.not_mem_nil
  | cons first rest ih =>
    -- What comes later in the list lies further out, and is asked first.
    by_cases hrest : ∃ count ∈ rest, count.value = k
    · obtain ⟨inner, count, outer, hcounts, hcount, houter⟩ := ih hrest
      exact ⟨first :: inner, count, outer, by rw [hcounts, List.cons_append], hcount, houter⟩
    · obtain ⟨count, hmem, hcount⟩ := h
      obtain rfl | hmem := List.mem_cons.mp hmem
      · exact ⟨[], count, rest, rfl, hcount.symm, fun other hother heq => hrest ⟨other, hother, heq⟩⟩
      · exact absurd ⟨count, hmem, hcount⟩ hrest

/-- A stack of reads of the unbounded count opens with all levels before their first element. -/
theorem open?_stacked (stamper : Stamper) (around : Surroundings) (stack : List Count) :
    ((Source.counting stamper).stacked stack).open? = .ok (nestedReader stamper around stack 0) := by
  have hreader : nestedReader stamper around stack 0 =
      ((Source.counting stamper).stacked stack).reader := levels_zero (.counting stamper) stack
  rw [hreader]
  cases stack with
  | nil => rfl
  | cons count rest => rfl

/-- If one of the numbers is reached, the outermost level with the least of them ends the read. -/
theorem law_of_reached (hwritable : ∀ count ∈ counts, Number.Writable count.value) {k : Nat}
    (hk : (k : Int) = nestedEnd around.largest counts)
    (hstamp : ∀ i < k, stamper.stampOf around i = .ok (stamp i))
    (hreached : ∃ count ∈ counts, count.value ≤ around.largest + 1) :
    NestedLaw stamper stamp around counts k
      ((nestedReader stamper around counts.reverse 0).drain around) := by
  obtain ⟨hend, hleast⟩ := nestedEnd_le around.largest counts
  rw [← hk] at hend hleast
  obtain ⟨inner, count, outer, hcounts, hcount, hne⟩ :=
    exists_outermost (exists_eq_nestedEnd hreached)
  rw [← hk] at hcount hne
  -- What lies further out is greater, as it is neither less than the least number nor the same.
  have houter : ∀ other ∈ outer, (k : Int) < other.value := by
    intro other hother
    have hle := hleast other (by rw [hcounts]; simp [hother])
    have hother := hne other hother
    omega
  have hinner : ∀ other ∈ inner, (k : Int) ≤ other.value := fun other hother =>
    hleast other (by rw [hcounts]; simp [hother])
  have hstack : counts.reverse = outer.reverse ++ count :: inner.reverse := by
    rw [hcounts]
    simp
  have hstep := @step_nestedReader_of_reached stamper around k outer.reverse inner.reverse count
    (fun other hother => houter other (List.mem_reverse.mp hother)) hcount
    (hwritable count (by rw [hcounts]; simp))
    (fun other hother => hwritable other (by rw [hcounts]; simp [List.mem_reverse.mp hother]))
  have hrun := drain_nestedReader (fun other hother => hleast other (List.mem_reverse.mp hother)) hend
    hstamp (hstack ▸ hstep)
  rw [hrun]
  refine ⟨rfl, rfl, rfl, fun _ => ?_, fun hgreater => ?_⟩
  · exact ⟨inner, count, outer, hcounts, hcount, hinner, houter, rfl⟩
  · obtain ⟨other, hother, hle⟩ := hreached
    have hgreater := hgreater other hother
    omega

/-- If none of the numbers is reached, the read ends with the count. -/
theorem law_of_unreached {k : Nat} (hk : (k : Int) = nestedEnd around.largest counts)
    (hstamp : ∀ i < k, stamper.stampOf around i = .ok (stamp i))
    (hgreater : ∀ count ∈ counts, around.largest + 1 < count.value) :
    NestedLaw stamper stamp around counts k
      ((nestedReader stamper around counts.reverse 0).drain around) := by
  have hend : (k : Int) = around.largest + 1 := by
    obtain hend | ⟨count, hcount, heq⟩ := nestedEnd_cases around.largest counts
    · omega
    · have hle := (nestedEnd_le around.largest counts).1
      have hgreater := hgreater count hcount
      omega
  have hlevels : ∀ count ∈ counts.reverse, (k : Int) < count.value := by
    intro count hcount
    have hgreater := hgreater count (List.mem_reverse.mp hcount)
    omega
  have hstep := @step_nestedReader_of_exhausted stamper around _ k hlevels hend
  have hrun := drain_nestedReader (fun count hcount => Int.le_of_lt (hlevels count hcount))
    (Int.le_of_eq hend) hstamp hstep
  rw [hrun]
  refine ⟨rfl, rfl, rfl, fun hreached => ?_, fun _ => rfl⟩
  obtain ⟨count, hcount, hle⟩ := hreached
  have hgreater := hgreater count hcount
  omega

/-- A read of the unbounded count that is limited again and again can be made and opened, and comes
to what the law says when it is read to its end. The stamper need not give a timestamp to any number
but those that are yielded, so that it is not called on another one: the read would fail there. -/
theorem nested_law (hlargest : 0 ≤ around.largest)
    (hwritable : ∀ count ∈ counts, Number.Writable count.value)
    (hstamp : ∀ i : Nat, (i : Int) < nestedEnd around.largest counts →
      stamper.stampOf around i = .ok (stamp i)) :
    ∃ source reader, (Source.counting stamper).nest counts = .ok source ∧
      source.open? = .ok reader ∧
      NestedLaw stamper stamp around counts (nestedEnd around.largest counts).toNat
        (reader.drain around) := by
  have hk := Int.toNat_of_nonneg (nestedEnd_nonneg hlargest counts)
  have hsource : Source.counting stamper ≠ .foreign .null := by
    rintro ⟨⟩
  refine ⟨_, _, Source.nest_eq hsource counts, open?_stacked stamper around counts.reverse, ?_⟩
  -- From here on the end matters only as a natural number, of which the run is told.
  generalize (nestedEnd around.largest counts).toNat = k at hk ⊢
  have hbefore : ∀ i < k, stamper.stampOf around i = .ok (stamp i) := fun i hi =>
    hstamp i (by omega)
  by_cases hreached : ∃ count ∈ counts, count.value ≤ around.largest + 1
  · exact law_of_reached hwritable hk hbefore hreached
  · have hgreater : ∀ count ∈ counts, around.largest + 1 < count.value := by
      intro count hcount
      refine Int.not_le.mp fun hle => hreached ⟨count, hcount, hle⟩
    exact law_of_unreached hk hbefore hgreater

end Path

/-- The count of at most ten numbers, limited to two, to five and to two again. -/
theorem nested_two_five_two :
    let counts : List Count := [⟨2, by decide⟩, ⟨5, by decide⟩, ⟨2, by decide⟩]
    let around : Surroundings := .still 9
    let stamper : Stamper := .ofFunction fun n => .ok (.int n)
    0 ≤ around.largest ∧ (∀ count ∈ counts, Number.Writable count.value) ∧
      (∀ i : Nat, (i : Int) < nestedEnd around.largest counts →
        stamper.stampOf around i = .ok (.int i)) ∧
      ∃ source reader, (Source.counting stamper).nest counts = .ok source ∧
        source.open? = .ok reader ∧
        NestedLaw stamper (fun i => .int i) around counts (nestedEnd around.largest counts).toNat
          (reader.drain around) := by
  intro counts around stamper
  have hlargest : 0 ≤ around.largest := by decide
  have hwritable : ∀ count ∈ counts, Number.Writable count.value := by decide
  have hstamp : ∀ i : Nat, (i : Int) < nestedEnd around.largest counts →
      stamper.stampOf around i = .ok (.int i) :=
    fun i _ => Stamper.stampOf_ofFunction _ around i
  exact ⟨hlargest, hwritable, hstamp, nested_law hlargest hwritable hstamp⟩

/-- Of the two levels with the least number the outer one tells of it. -/
example :
    let source := (Source.counting (.ofFunction fun n => .ok (.int n))).stacked
      [⟨2, by decide⟩, ⟨5, by decide⟩, ⟨2, by decide⟩]
    let read := source.reader.drain (.still 9)
    read.around.log.map (·.message) =
      ["Stopped reading BoundedReadFromUnboundedSource(BoundedReadFromUnboundedSource(" ++
        "UnboundedCountingSource, max_num_records=2, max_read_time=None), max_num_records=5, " ++
        "max_read_time=None) after max number of records 2"] := by
  decide +kernel

end Reader

end NumberFeed
