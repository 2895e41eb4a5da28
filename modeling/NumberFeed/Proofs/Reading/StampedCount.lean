import NumberFeed.Proofs.Input.Applied
import NumberFeed.Proofs.Reading.LimitedCount

/-!
# Counts whose timestamps are a function of the number

Such a stamper has no state and reads no clock, so that what a read leaves behind is a number of
readings of the monotonic clock and, at its end, at most one record (`Surroundings.afterCount`). How
the read ends before the element at which it stops is told by `Surroundings.Halts`, one case for each
of the three reasons.

The reader of an input with this stamper takes one path whether or not it has limits
(`Reader.exists_path_ofParts`). From the path come the run over any number of elements
(`Reader.take_ofParts`) and the run to the end (`Reader.drain_ofParts`).
-/

namespace NumberFeed

namespace Stamper

/-- Calls of a function change nothing. -/
theorem after_ofFunction (f : Int → Except Failure Value) (around : Surroundings) (count : Nat) :
    (ofFunction f).after around count = (ofFunction f, around) := by
  induction count with
  | zero => rfl
  | succ count ih =>
    rw [after, ih]
    rfl

end Stamper

namespace Surroundings

/-- The surroundings after a read has taken so many readings of the clock, if it has a read time, and
has written stop records. -/
def afterCount (around : Surroundings) (limits : Limits) (readings : Nat) (messages : List String) :
    Surroundings :=
  { around with
    clock := around.clock.skip (limits.clockReadings readings)
    log := around.log ++ messages.map fun message => ⟨.info, .read, message⟩ }

/-- Where the timestamps are a function of the number, the stamper leaves nothing behind. -/
theorem afterRead_ofFunction (around : Surroundings) (limits : Limits)
    (f : Int → Except Failure Value) (stamps readings : Nat) (messages : List String) :
    around.afterRead limits (.ofFunction f) stamps readings messages =
      around.afterCount limits readings messages := by
  rw [afterRead, Stamper.after_ofFunction]
  rfl

/-- How a read of a count ends that stops before the element `k`: the records it writes, and the
readings of the clock that it has taken if it has a read time. -/
inductive Halts (around : Surroundings) (limits : Limits) (k : Nat) : List String → Nat → Prop
  /-- It has reached its number of records, and says so. -/
  | records {records : Count} (limit : limits.records = some records)
      (reached : (k : Int) = records.value) :
      Halts around limits k
        ["Stopped reading " ++ Wording.counting ++ " after max number of records " ++
          String.ofList (Number.decimal records.value)] (k + 1)
  /-- There are no more numbers, and nothing to say. -/
  | exhausted (unreached : ¬ limits.RecordsReached k) (past : around.Exhausted k) :
      Halts around limits k [] (k + 1)
  /-- Its time is over, and it says so. One more reading has told it that. -/
  | time {time : Duration} (limit : limits.time = some time) (unreached : ¬ limits.RecordsReached k)
      (left : ¬ around.Exhausted k) (late : limits.TimeOver around.clock k) :
      Halts around limits k
        ["Stopped reading " ++ Wording.counting ++ " after max read time " ++ time.written ++ " (" ++
          String.ofList (Number.decimal k) ++ " records read)"] (k + 2)

/-- Surroundings that are alike stop a read at the same elements. -/
theorem Alike.stops_iff {a b : Surroundings} (h : a.Alike b) (limits : Limits) (i : Nat) :
    a.Stops limits i ↔ b.Stops limits i := by
  unfold Stops Exhausted
  rw [h.largest, h.clock]

/-- In surroundings that are alike a read ends in the same way. -/
theorem Halts.of_alike {a b : Surroundings} (h : a.Alike b) {limits : Limits} {k : Nat}
    {messages : List String} {readings : Nat} (hhalts : a.Halts limits k messages readings) :
    b.Halts limits k messages readings := by
  have hpast : a.Exhausted k ↔ b.Exhausted k := by
    unfold Exhausted
    rw [h.largest]
  cases hhalts with
  | records hlimit hreached => exact .records hlimit hreached
  | exhausted hunreached hexhausted => exact .exhausted hunreached (hpast.mp hexhausted)
  | time hlimit hunreached hleft hover =>
    exact .time hlimit hunreached (fun hexhausted => hleft (hpast.mpr hexhausted)) (h.clock ▸ hover)

/-- Where something stops a read, it ends in one of these ways. -/
theorem exists_halts {around : Surroundings} {limits : Limits} {k : Nat}
    (h : around.Stops limits k) : ∃ messages readings, around.Halts limits k messages readings := by
  by_cases hreached : limits.RecordsReached k
  · obtain ⟨records, hlimit, hcount⟩ := hreached
    exact ⟨_, _, .records hlimit hcount⟩
  · by_cases hpast : around.Exhausted k
    · exact ⟨_, _, .exhausted hreached hpast⟩
    · -- Nothing is left but the time.
      have hover : limits.TimeOver around.clock k := by
        rcases h with hstops | hstops | hstops
        · exact absurd hstops hreached
        · exact absurd hstops hpast
        · exact hstops
      obtain ⟨time, hlimit⟩ := hover.time_isSome
      exact ⟨_, _, .time hlimit hreached hpast hover⟩

end Surroundings

namespace Reader

section FunctionCount

variable {f : Int → Except Failure Value} {stamp : Nat → Value} {limits : Limits}
  {around : Surroundings} {k : Nat} {messages : List String} {readings : Nat}

/-- The surroundings before each element. -/
def moment (limits : Limits) (around : Surroundings) : Nat → Surroundings
  | 0 => around
  | i + 1 => around.afterCount limits (i + 2) []

/-- They are those of the path of a limited read. -/
theorem moment_eq (f : Int → Except Failure Value) (limits : Limits) (around : Surroundings)
    (i : Nat) : moment limits around i = countAround limits (.ofFunction f) around i := by
  cases i with
  | zero => rfl
  | succ i => exact (around.afterRead_ofFunction limits f (i + 1) (i + 2) []).symm

/-- The last step of a limited read ends it in one of the three ways. -/
theorem step_of_halts (hf : ∀ i : Nat, f i = .ok (stamp i)) (hrecords : limits.RecordsFit)
    (htime : limits.TimeFits) (hbefore : ∀ j < k, ¬ around.Stops limits j)
    (hk : (k : Int) ≤ around.largest + 1) (hhalts : around.Halts limits k messages readings)
    (hwritable : limits.records = none → Number.Writable k) :
    (countReader limits (.ofFunction f) around k).step
        (countAround limits (.ofFunction f) around k) =
      .ended (around.afterCount limits readings messages) := by
  have hnone : ¬ limits.RecordsReached k → ∀ j ≤ k, ¬ limits.RecordsReached j := by
    intro hreached j hj hstops
    rcases Nat.lt_or_eq_of_le hj with hlt | rfl
    · exact hbefore j hlt (.inl hstops)
    · exact hreached hstops
  cases hhalts with
  | @records records hlimit hcount =>
    rw [step_of_records_reached htime hlimit hcount (hrecords records hlimit),
      Surroundings.afterRead_ofFunction]
  | exhausted hreached hpast =>
    rw [step_of_exhausted htime (hnone hreached) hpast, Surroundings.afterRead_ofFunction]
  | @time time hlimit hreached hleft hover =>
    obtain ⟨seconds, hseconds⟩ := htime time hlimit
    have hstamp : (Stamper.ofFunction f).stampOf around k = .ok (stamp k) := by
      rw [Stamper.stampOf_ofFunction, hf]
    have hlargest : (k : Int) ≤ around.largest := by
      have hne : (k : Int) ≠ around.largest + 1 := hleft
      omega
    have htold := timeMessage_counting (.ofFunction f) hseconds
      (writable_of_not_reached hrecords (hnone hreached) hwritable)
    rw [step_of_time_over hlimit htime hstamp hlargest (hnone hreached) hover, htold, stopWith_ok,
      Surroundings.write_afterRead, Surroundings.afterRead_ofFunction]

/-- The reader of an input whose timestamps are a function of the number takes a path: while nothing
stops it, it yields the next number, and where something does, it ends as that says. -/
theorem exists_path_ofParts (hf : ∀ i : Nat, f i = .ok (stamp i)) (hrecords : limits.RecordsFit)
    (htime : limits.TimeFits) (hlargest : 0 ≤ around.largest) :
    ∃ reader : Nat → Reader, reader 0 = ofParts (.ofFunction f) limits.records limits.time ∧
      (∀ i, (∀ j ≤ i, ¬ around.Stops limits j) → (reader i).step (moment limits around i) =
        ⟨.yielded ⟨.int i, stamp i⟩, reader (i + 1), moment limits around (i + 1)⟩) ∧
      ∀ k messages readings, (∀ j < k, ¬ around.Stops limits j) → (k : Int) ≤ around.largest + 1 →
        around.Halts limits k messages readings → (limits.records = none → Number.Writable k) →
        (reader k).step (moment limits around k) =
          .ended (around.afterCount limits readings messages) := by
  by_cases hunlimited : limits.records.isNone ∧ limits.time.isNone
  · -- Without limits the source itself is read, and only its end stops it.
    obtain ⟨records, time⟩ := limits
    obtain ⟨hnone, hnever⟩ := hunlimited
    obtain rfl : records = none := Option.isNone_iff_eq_none.mp hnone
    obtain rfl : time = none := Option.isNone_iff_eq_none.mp hnever
    have hidle : ∀ i, moment ⟨none, none⟩ around i = around := by
      rintro (_ | i)
      · rfl
      · simp [moment, Surroundings.afterCount, Limits.clockReadings]
    refine ⟨fun i => counting (.ofFunction f) i, rfl, ?_, ?_⟩
    · intro i hstops
      have hle : (i : Int) ≤ around.largest := by
        by_contra hpast
        refine hstops (around.largest + 1).toNat (by omega) (.inr (.inl ?_))
        show ((around.largest + 1).toNat : Int) = around.largest + 1
        omega
      rw [hidle, hidle, step, if_pos hle, Stamper.call, hf]
      rfl
    · intro k messages readings _ _ hhalts _
      cases hhalts with
      | records hlimit => cases hlimit
      | exhausted _ hpast =>
        have hend : (k : Int) = around.largest + 1 := hpast
        rw [hidle, step, if_neg (by omega)]
        simp [Surroundings.afterCount, Limits.clockReadings]
      | time hlimit => cases hlimit
  · have hstamp : around.Stamps (.ofFunction f) stamp := fun i _ => by
      rw [Stamper.stampOf_ofFunction, hf]
    refine ⟨countReader limits (.ofFunction f) around, ?_, ?_, ?_⟩
    · rw [ofParts, if_neg hunlimited]
      rfl
    · intro i hstops
      rw [moment_eq f, moment_eq f]
      exact step_countReader htime hstamp hlargest hstops
    · intro k messages readings hbefore hk hhalts hwritable
      rw [moment_eq f]
      exact step_of_halts hf hrecords htime hbefore hk hhalts hwritable

/-- The run over the elements up to one at which nothing has stopped it yet. -/
theorem take_ofParts (hf : ∀ i : Nat, f i = .ok (stamp i)) (hrecords : limits.RecordsFit)
    (htime : limits.TimeFits) (hlargest : 0 ≤ around.largest) {j : Nat}
    (hbefore : ∀ i ≤ j, ¬ around.Stops limits i) :
    ∃ rest, (ofParts (.ofFunction f) limits.records limits.time).take (j + 1) around =
      ⟨(List.range (j + 1)).map fun i => ⟨.int (i : Nat), stamp i⟩, .paused, rest,
        around.afterCount limits (j + 2) []⟩ := by
  obtain ⟨reader, hstart, hpath, -⟩ := exists_path_ofParts hf hrecords htime hlargest
  have hrun := take_of_path reader (moment limits around) (fun i => ⟨.int i, stamp i⟩) (j + 1)
    (fun i hi => hpath i fun m hm => hbefore m (by omega)) 0
  refine ⟨reader (j + 1), ?_⟩
  rw [← hstart]
  refine hrun.trans ?_
  simp [Taken.prepend, moment]

/-- The run to the end. -/
theorem drain_ofParts (hf : ∀ i : Nat, f i = .ok (stamp i)) (hrecords : limits.RecordsFit)
    (htime : limits.TimeFits) (hlargest : 0 ≤ around.largest)
    (hbefore : ∀ j < k, ¬ around.Stops limits j) (hk : (k : Int) ≤ around.largest + 1)
    (hhalts : around.Halts limits k messages readings)
    (hwritable : limits.records = none → Number.Writable k) :
    (ofParts (.ofFunction f) limits.records limits.time).drain around =
      ⟨(List.range k).map fun i => ⟨.int (i : Nat), stamp i⟩, .ended, ended,
        around.afterCount limits readings messages⟩ := by
  obtain ⟨reader, hstart, hpath, hend⟩ := exists_path_ofParts hf hrecords htime hlargest
  -- The steps of a read to the end reach beyond the path, by one step at least.
  have hremaining : (ofParts (.ofFunction f) limits.records limits.time).remaining around.largest =
      (around.largest + 1).toNat := by
    unfold ofParts
    split
    · show (around.largest + 1 - 0).toNat = _
      omega
    · show (around.largest + 1 - 0).toNat = _
      omega
  have hfuel : (around.largest + 1).toNat + 1 = k + ((around.largest + 1).toNat - k + 1) := by omega
  have hrun := take_of_path reader (moment limits around) (fun i => ⟨.int i, stamp i⟩) k
    (fun i hi => hpath i fun m hm => hbefore m (by omega)) ((around.largest + 1).toNat - k + 1)
  rw [drain, hremaining, hfuel, ← hstart]
  refine hrun.trans ?_
  rw [take_of_step_ended (hend k messages readings hbefore hk hhalts hwritable), Taken.prepend]
  simp

end FunctionCount

end Reader

end NumberFeed
