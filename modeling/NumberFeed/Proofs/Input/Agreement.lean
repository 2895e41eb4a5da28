import NumberFeed.Proofs.Input.Applied
import NumberFeed.Proofs.Input.Configured
import NumberFeed.Proofs.Reading.LimitedCount
import NumberFeed.Proofs.Reading.Unfailing

/-!
# Two ways to so many numbers

The numbers below `n` can be read from the bounded input of `n`, which is a range, and from an
unbounded input with a greatest number of records, which is a count that is stopped. The range has
just these numbers (`BoundedInput.exists_apply`, `Reader.drain_range`). The count may run out before
it is stopped: it has no numbers past the largest one (`Reader.drain_records`). So the two ways agree
as long as `n` is at most one more than the largest number, and then the stop is recorded, even where
the count runs out at the same point; past it the limited count is shorter and nothing is recorded.

`Input.agreement` gathers this for every stamper that is total. A stamper that is total may still be
one that no source can keep, and then there is nothing to read (`Input.unkept_not_applied`).
-/

namespace NumberFeed

namespace Stamper

/-- A total stamper gives every number a timestamp when it is called on the numbers in order. -/
theorem Total.exists_stamps {stamper : Stamper} (h : stamper.Total) (around : Surroundings) :
    ∃ stamp : Nat → Value, ∀ i, stamper.stampOf around i = .ok (stamp i) := by
  obtain ⟨keeps, hkeeps, hcall⟩ := h
  -- Whatever makes a stamper total is kept by each of the calls.
  have hafter : ∀ i, keeps (stamper.after around i).1 := by
    intro i
    induction i with
    | zero => exact hkeeps
    | succ i ih =>
      obtain ⟨stamp, s', around', heq, hkept⟩ := hcall _ ih i (stamper.after around i).2
      rw [after, heq]
      exact hkept
  have hstamp : ∀ i : Nat, ∃ stamp, stamper.stampOf around i = .ok stamp := by
    intro i
    obtain ⟨stamp, s', around', heq, -⟩ := hcall _ (hafter i) i (stamper.after around i).2
    exact ⟨stamp, by rw [stampOf, heq]⟩
  choose stamp hstamp using hstamp
  exact ⟨stamp, hstamp⟩

/-- What cannot be called is not total. -/
theorem Total.isCallable {stamper : Stamper} (h : stamper.Total) : stamper.isCallable = true := by
  cases stamper with
  | uncallable value =>
    obtain ⟨stamp, s', around', heq, -⟩ := h.call 0 (.still 0)
    cases heq
  | _ => rfl

/-- A stamper that can be called is set on every input. -/
theorem withStamper_of_isCallable {stamper : Stamper} (h : stamper.isCallable = true)
    (input : UnboundedInput) :
    UnboundedInput.withStamper stamper input = .ok { input with stamper } := by
  have hmissing : stamper.isMissing = false := by
    cases stamper with
    | uncallable value => cases h
    | _ => rfl
  simp [UnboundedInput.withStamper, hmissing, h]

end Stamper

/-- What a count comes to that is stopped after a number of records, or runs out before that. -/
structure CountedRead (count : Count) (stamper : Stamper) (moment : Surroundings) (taken : Taken) :
    Prop where
  /-- The numbers that there are come in order, each once and with its timestamp. -/
  elements : ∃ stamp : Nat → Value, (∀ i, stamper.stampOf moment i = .ok (stamp i)) ∧
    taken.elements = (List.range (min count.value (moment.largest + 1)).toNat).map
      fun i => ⟨.int (i : Nat), stamp i⟩
  /-- Then the read ends. -/
  ends : taken.stop = .ended ∧ taken.reader = .ended
  /-- The monotonic clock has not been read. -/
  clock : taken.around.clock = moment.clock
  /-- One record tells that the read was stopped, unless it ran out before. -/
  log : taken.around.log = moment.log ++
    if count.value ≤ moment.largest + 1 then
      [⟨.info, .read, "Stopped reading " ++ Wording.counting ++ " after max number of records " ++
        String.ofList (Number.decimal count.value)⟩]
    else []

namespace Reader

/-- A count with a total stamper that is stopped by a number of records gives as many numbers as
that, or those that there are. That it was stopped is recorded even where it would have run out at
the same point. -/
theorem drain_records {count : Count} (hwritable : Number.Writable count.value) {stamper : Stamper}
    (htotal : stamper.Total) {moment : Surroundings} (hlargest : 0 ≤ moment.largest) :
    CountedRead count stamper moment
      ((Source.limited ⟨some count, none⟩ (.counting stamper)).reader.drain moment) := by
  have hpositive := count.positive
  obtain ⟨stamp, hstamp⟩ := htotal.exists_stamps moment
  have hrecords : Limits.RecordsFit ⟨some count, none⟩ := by
    rintro _ ⟨⟩
    exact hwritable
  have htime : Limits.TimeFits ⟨some count, none⟩ := by
    rintro _ ⟨⟩
  obtain ⟨k, hk⟩ : ∃ k, k = (min count.value (moment.largest + 1)).toNat := ⟨_, rfl⟩
  have hbefore : ∀ j < k, ¬ moment.Stops ⟨some count, none⟩ j := by
    rintro j hj (⟨records, hlimit, hreached⟩ | hexhausted | hover)
    · obtain rfl : count = records := Option.some.inj hlimit
      omega
    · have hpast : (j : Int) = moment.largest + 1 := hexhausted
      omega
    · obtain ⟨time, hlimit⟩ := hover.time_isSome
      cases hlimit
  obtain ⟨rest, hdrain⟩ := drain_of_path htime (fun i _ => hstamp i) hlargest (by omega) hbefore
  rw [hdrain]
  by_cases hle : count.value ≤ moment.largest + 1
  · -- The number of records is looked at before the count is.
    have hvalue : (k : Int) = count.value := by omega
    have hlaw := @law_of_records_reached ⟨some count, none⟩ stamper moment stamp hrecords htime k count
      rfl hvalue rest
    obtain ⟨hstop, haround⟩ := hlaw.byRecords count rfl hvalue
    refine ⟨⟨stamp, hstamp, hk ▸ hlaw.elements⟩, ⟨hstop, hlaw.reader⟩, ?_, ?_⟩
    · rw [haround]
      rfl
    · rw [haround, if_pos hle]
      rfl
  · have hvalue : moment.Exhausted k := by
      show (k : Int) = moment.largest + 1
      omega
    have hshort : ∀ j ≤ k, ¬ Limits.RecordsReached ⟨some count, none⟩ j := by
      rintro j hj ⟨records, hlimit, hreached⟩
      obtain rfl : count = records := Option.some.inj hlimit
      omega
    have hlaw := @law_of_exhausted ⟨some count, none⟩ stamper moment stamp htime k hshort hvalue rest
    obtain ⟨hstop, haround⟩ := hlaw.bySource (hshort k (le_refl k)) hvalue
    refine ⟨⟨stamp, hstamp, hk ▸ hlaw.elements⟩, ⟨hstop, hlaw.reader⟩, ?_, ?_⟩
    · rw [haround]
      rfl
    · rw [haround, if_neg hle]
      rfl

end Reader

/-- Opens a collection and reads it to its end at a moment. -/
def Collection.readOut (collection : Collection) (moment : Surroundings) : Except Failure Taken :=
  collection.open?.map fun reader => reader.drain moment

namespace BoundedInput

/-- The collection of a bounded input. -/
def collection (input : BoundedInput) : Collection :=
  ⟨.read true (.range 0 input.count.value), true⟩

/-- A bounded input whose number can be written becomes its collection, and leaves nothing behind but
records for debugging, if these are wanted. -/
theorem exists_apply {input : BoundedInput} (hwritable : Number.Writable input.count.value)
    (around : Surroundings) :
    ∃ records, Pipeline.apply (.input (.bounded input)) around =
        (.ok input.collection, { around with log := around.log ++ records }) ∧
      (∀ record ∈ records, record.level = .debug) ∧ (around.verbose = false → records = []) := by
  have hwrite := Number.write_of_writable hwritable
  have hzero : Number.write 0 = .ok "0" := rfl
  -- Both texts tell the number.
  obtain ⟨shown, hshown⟩ : ∃ shown, input.text = .ok shown :=
    ⟨_, by rw [text, Wording.boundedInput, hwrite, Except.map]⟩
  obtain ⟨shownRead, hshownRead⟩ :
      ∃ shownRead, (Source.read true (.range 0 input.count.value)).text = .ok shownRead :=
    ⟨_, by rw [Source.text, Source.text, Wording.range, hzero, hwrite]; rfl⟩
  have happly : Pipeline.apply (.input (.bounded input)) around = (.ok input.collection,
      around.noting [(.pipeline, .ok ("Applying " ++ shown ++ " to the pipeline root")),
        (.pipeline, .ok ("Applying " ++ shownRead ++ " to the pipeline root"))]) := by
    rw [Pipeline.apply, Pipeline.applying, Transform.text, Input.text, hshown, Except.map,
      Pipeline.logging_noting fun _ => ⟨_, rfl⟩]
    dsimp only
    rw [Pipeline.materialize_bounded, Pipeline.applyRead, Pipeline.applying, hshownRead, Except.map,
      Pipeline.logging_noting fun _ => ⟨_, rfl⟩, Surroundings.noting_noting]
    rfl
  exact ⟨_, happly, fun record => Surroundings.level_of_mem_debugging,
    fun hquiet => Surroundings.debugging_of_quiet hquiet _⟩

end BoundedInput

namespace Input

/-- What reading the collection of the bounded input and that of the limited one comes to. -/
structure AgreementLaw (count : Count) (stamper : Stamper) : Prop where
  /-- Both ways take the number, and the second one the stamper. -/
  made : BoundedInput.make (.int count.value) = .ok ⟨count⟩ ∧
    (UnboundedInput.withStamper stamper .unlimited >>=
      UnboundedInput.withMaxRecords (.int count.value)) = .ok (.ofParts stamper (some count) none)
  /-- The bounded input becomes a bounded collection, and leaves nothing behind but records. Whenever
  the collection is read, it gives the numbers, and nothing else changes. -/
  upTo : ∀ around : Surroundings, ∃ collection records,
    Pipeline.apply (.input (.bounded ⟨count⟩)) around =
        (.ok collection, { around with log := around.log ++ records }) ∧
      collection.bounded = true ∧
      ∀ moment, collection.readOut moment = .ok ⟨(List.range count.value.toNat).map
        fun i => ⟨.int (i : Nat), .null⟩, .ended, .ended, moment⟩
  /-- Where a record is dropped whose text cannot be put together, or none is wanted for debugging,
  the limited input becomes one just when its stamper can be kept. -/
  applies : ∀ around : Surroundings, ¬ around.Demands →
    ((∃ collection, (Pipeline.apply
        (.input (.unbounded (.ofParts stamper (some count) none))) around).1 = .ok collection) ↔
      stamper.kept = .ok stamper)
  /-- It is bounded too, and nothing but records is left behind. Whenever it is read, it gives the
  numbers that there are. -/
  limited : ∀ around collection after,
    Pipeline.apply (.input (.unbounded (.ofParts stamper (some count) none))) around =
        (.ok collection, after) →
      collection.bounded = true ∧
      (∃ records, after = { around with log := around.log ++ records }) ∧
      ∀ moment : Surroundings, 0 ≤ moment.largest →
        ∃ taken, collection.readOut moment = .ok taken ∧ CountedRead count stamper moment taken
  /-- The two ways give the same values, and the second one records its stop, just when no number is
  past the largest one. -/
  agree : ∀ (around moment : Surroundings) upTo limited first second, 0 ≤ moment.largest →
    (Pipeline.apply (.input (.bounded ⟨count⟩)) around).1 = .ok upTo →
    (Pipeline.apply (.input (.unbounded (.ofParts stamper (some count) none))) around).1 =
      .ok limited →
    upTo.readOut moment = .ok first → limited.readOut moment = .ok second →
    (first.elements.map (·.value) = second.elements.map (·.value) ↔
        count.value ≤ moment.largest + 1) ∧
      ((∃ record, record.IsStop ∧ second.around.log = moment.log ++ [record]) ↔
        count.value ≤ moment.largest + 1)

section Agreement

variable {count : Count} {stamper : Stamper} {moment : Surroundings} {taken : Taken}

/-- The collection of a bounded input gives its numbers. -/
theorem readOut_bounded (count : Count) (moment : Surroundings) :
    (BoundedInput.collection ⟨count⟩).readOut moment =
      .ok ⟨(List.range count.value.toNat).map fun i => ⟨.int (i : Nat), .null⟩, .ended, .ended,
        moment⟩ := by
  have hdrain := Reader.drain_range 0 count.value moment
  simp only [Int.zero_add, Int.sub_zero] at hdrain
  rw [← hdrain]
  rfl

/-- The values that a limited count gives are all those below its number just when none of these is
past the largest one. -/
theorem values_countedRead (hlargest : 0 ≤ moment.largest)
    (h : CountedRead count stamper moment taken) :
    (List.range count.value.toNat).map (fun i => Value.int (i : Nat)) =
        taken.elements.map (·.value) ↔ count.value ≤ moment.largest + 1 := by
  have hpositive := count.positive
  obtain ⟨stamp, -, helements⟩ := h.elements
  rw [helements, List.map_map]
  constructor
  · intro hvalues
    have hlength := congrArg List.length hvalues
    simp only [List.length_map, List.length_range] at hlength
    omega
  · intro hle
    have hmin : min count.value (moment.largest + 1) = count.value := by omega
    rw [hmin]
    rfl

/-- A limited count records a stop just when none of the numbers is past the largest one. -/
theorem records_countedRead (h : CountedRead count stamper moment taken) :
    (∃ record, record.IsStop ∧ taken.around.log = moment.log ++ [record]) ↔
      count.value ≤ moment.largest + 1 := by
  rw [h.log]
  by_cases hle : count.value ≤ moment.largest + 1
  · rw [if_pos hle]
    exact ⟨fun _ => hle, fun _ => ⟨_, ⟨rfl, rfl⟩, rfl⟩⟩
  · rw [if_neg hle]
    constructor
    · rintro ⟨record, -, hlog⟩
      simp at hlog
    · exact fun h => absurd h hle

/-- A number and a stamper that can be called make a limited input. -/
theorem made_ofParts (count : Count) (hcallable : stamper.isCallable = true) :
    (UnboundedInput.withStamper stamper .unlimited >>=
        UnboundedInput.withMaxRecords (.int count.value)) =
      .ok (.ofParts stamper (some count) none) := by
  rw [Stamper.withStamper_of_isCallable hcallable]
  exact UnboundedInput.apply_records count _

end Agreement

/-- For every number that can be written and every total stamper, the two ways to so many numbers
agree as far as there are numbers. -/
theorem agreement {count : Count} (hwritable : Number.Writable count.value) {stamper : Stamper}
    (htotal : stamper.Total) : AgreementLaw count stamper := by
  have hcallable := htotal.isCallable
  have hlimited : ∀ {around collection after},
      Pipeline.apply (.input (.unbounded (.ofParts stamper (some count) none))) around =
        (.ok collection, after) → ∀ moment : Surroundings, 0 ≤ moment.largest →
      ∃ taken, collection.readOut moment = .ok taken ∧ CountedRead count stamper moment taken := by
    intro around collection after happly moment hlargest
    obtain ⟨-, hopen, -⟩ := UnboundedInput.collection_of_apply_ofParts hcallable happly
    exact ⟨_, by rw [Collection.readOut, hopen]; rfl, Reader.drain_records hwritable htotal hlargest⟩
  refine ⟨⟨?_, made_ofParts count hcallable⟩, ?_, ?_, ?_, ?_⟩
  · rw [BoundedInput.make, Count.ofValue_of_pos count.positive]
    rfl
  · intro around
    obtain ⟨records, happly, -⟩ := @BoundedInput.exists_apply ⟨count⟩ hwritable around
    exact ⟨_, records, happly, rfl, readOut_bounded count⟩
  · intro around hdemands
    rw [UnboundedInput.exists_apply_ofParts hcallable]
    exact ⟨And.left, fun hkept => ⟨hkept, fun h => absurd h hdemands⟩⟩
  · intro around collection after happly
    obtain ⟨rfl, -, rfl⟩ := UnboundedInput.collection_of_apply_ofParts hcallable happly
    exact ⟨rfl, ⟨_, rfl⟩, hlimited happly⟩
  · intro around moment upTo limited first second hlargest hupTo happly hfirst hsecond
    obtain ⟨records, hcollection, -⟩ :=
      @BoundedInput.exists_apply ⟨count⟩ hwritable around
    rw [hcollection] at hupTo
    obtain rfl := Except.ok.inj hupTo
    rw [readOut_bounded] at hfirst
    obtain rfl := Except.ok.inj hfirst
    obtain ⟨taken, htaken, hread⟩ := hlimited (Prod.ext happly rfl) moment hlargest
    obtain rfl : taken = second := Except.ok.inj (htaken.symm.trans hsecond)
    refine ⟨?_, records_countedRead hread⟩
    rw [List.map_map]
    exact values_countedRead hlargest hread

/-- The two ways to seven numbers, of which the second has the wall clock for its timestamps. -/
theorem agreement_seven :
    Number.Writable (Count.value ⟨7, by decide⟩) ∧ Stamper.now.Total ∧
      AgreementLaw ⟨7, by decide⟩ .now :=
  ⟨by decide, Stamper.total_now, agreement (by decide) Stamper.total_now⟩

/-- Not every total stamper makes a collection to read, whatever becomes of the log: one that no
source can keep is total too. -/
theorem unkept_not_applied :
    ¬ ∀ (count : Count) (stamper : Stamper), Number.Writable count.value → stamper.Total →
      ∀ around : Surroundings, ¬ around.Demands → ∃ collection, (Pipeline.apply
        (.input (.unbounded (.ofParts stamper (some count) none))) around).1 = .ok collection := by
  intro hall
  have htotal : (Stamper.ofFormula ⟨.unkept, 0, 0⟩).Total :=
    ⟨(· = .ofFormula ⟨.unkept, 0, 0⟩), rfl, fun s hs number around => by
      subst hs
      exact ⟨_, _, _, rfl, rfl⟩⟩
  have happlied := hall ⟨3, by decide⟩ _ (by decide) htotal
    (.still Surroundings.usualLargest) fun hdemands => Bool.false_ne_true hdemands.1
  rw [UnboundedInput.exists_apply_ofParts rfl] at happlied
  cases happlied.1

end Input

end NumberFeed
