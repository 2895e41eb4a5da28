import NumberFeed.Proofs.Reading.Step

/-!
# Runs of a reader

A run takes several steps: `Reader.take` takes as many as it is asked for, unless the reader stops
before. A run is frugal like its steps (`Reader.take_frugal`), can be cut in two
(`Reader.take_add`), and gives consecutive numbers (`Reader.values_take`). A run that is not paused
leaves a reader that has ended, from which nothing more comes (`Reader.take_ended`). Over a whole
run the log grows by one stop record at most, and only in a run that ends (`Reader.log_take`).

`Reader.take_of_path` is the way to a closed form: a sequence of readers and surroundings in which
each steps to the next makes up a run. The first of these closed forms is that of a range
(`Reader.drain_range`).
-/

namespace NumberFeed

namespace Taken

/-- A run as a result and the surroundings afterwards. -/
def parts (taken : Taken) : (List Timestamped × Stop × Reader) × Surroundings :=
  ((taken.elements, taken.stop, taken.reader), taken.around)

/-- A run with an element in front. -/
def cons (element : Timestamped) (taken : Taken) : Taken :=
  { taken with elements := element :: taken.elements }

/-- A run with elements in front. -/
def prepend (elements : List Timestamped) (taken : Taken) : Taken :=
  { taken with elements := elements ++ taken.elements }

end Taken

/-- The first number of a source. -/
def Source.first : Source → Int
  | range start _ => start
  | read _ source | limited _ source => source.first
  | counting _ | foreign _ => 0

namespace Reader

/-- A run of no steps. -/
@[simp] theorem take_zero (reader : Reader) (around : Surroundings) :
    reader.take 0 around = ⟨[], .paused, reader, around⟩ := rfl

/-- A run starts with a step, and goes on if that yields. -/
theorem take_succ (reader : Reader) (count : Nat) (around : Surroundings) :
    reader.take (count + 1) around =
      match reader.step around with
      | ⟨.yielded element, rest, after⟩ => (rest.take count after).cons element
      | ⟨.ended, rest, after⟩ => ⟨[], .ended, rest, after⟩
      | ⟨.failed cause, rest, after⟩ => ⟨[], .failed cause, rest, after⟩ := rfl

/-- A run as an act. -/
def takeAct (count : Nat) (reader : Reader) : Act (List Timestamped × Stop × Reader) :=
  fun around => (reader.take count around).parts

/-- A run does the same in all surroundings that agree on what it uses, and uses the same there. -/
theorem take_frugal (count : Nat) (reader : Reader) : Frugal (reader.takeAct count) := by
  induction count generalizing reader with
  | zero => exact Frugal.idle (([] : List Timestamped), Stop.paused, reader)
  | succ count ih =>
    -- After a step that yields, the rest is a shorter run of another reader.
    have hrun : reader.takeAct (count + 1) = reader.stepAct.andThen fun
        | (.yielded element, rest) => (rest.takeAct count).andThen fun taken =>
            Act.idle (element :: taken.1, taken.2)
        | (.ended, rest) => Act.idle (([] : List Timestamped), Stop.ended, rest)
        | (.failed cause, rest) => Act.idle (([] : List Timestamped), Stop.failed cause, rest) := by
      funext around
      simp only [takeAct, take_succ, Act.andThen, stepAct]
      rcases reader.step around with ⟨_ | _ | _, rest, after⟩ <;> rfl
    rw [hrun]
    refine reader.step_frugal.andThen ?_
    rintro ⟨element | _ | cause, rest⟩
    · exact (ih rest).andThen fun _ => Frugal.idle _
    · exact Frugal.idle _
    · exact Frugal.idle _

/-- A reader that has ended gives nothing and leaves its surroundings alone. -/
theorem take_ended (count : Nat) (around : Surroundings) :
    ended.take count around = ⟨[], if count = 0 then .paused else .ended, ended, around⟩ := by
  cases count with
  | zero => rfl
  | succ count => rfl

/-- A run can be cut in two: the second part goes on where the first was paused. -/
theorem take_add (m n : Nat) (reader : Reader) (around : Surroundings) :
    reader.take (m + n) around =
      let first := reader.take m around
      match first.stop with
      | .paused => (first.reader.take n first.around).prepend first.elements
      | _ => first := by
  induction m generalizing reader around with
  | zero => simp [Taken.prepend]
  | succ m ih =>
    rw [Nat.succ_add, take_succ, take_succ]
    rcases reader.step around with ⟨element | _ | cause, rest, after⟩
    · simp only [Taken.cons]
      rw [ih]
      rcases rest.take m after with ⟨elements, _ | _ | _, rest', after'⟩ <;> rfl
    · rfl
    · rfl

/-- A run uses something, and in all surroundings that agree on that it is the same run. -/
theorem take_agrees (count : Nat) (reader : Reader) (a : Surroundings) :
    ∃ usage : Usage, (reader.take count a).around = a.after usage ∧
      ∀ b, a.Agrees b usage →
        (reader.take count b).elements = (reader.take count a).elements ∧
          (reader.take count b).stop = (reader.take count a).stop ∧
          (reader.take count b).reader = (reader.take count a).reader ∧
          (reader.take count b).around = b.after usage := by
  obtain ⟨usage, hafter, hagree⟩ := take_frugal count reader a
  refine ⟨usage, hafter, fun b hagrees => ?_⟩
  obtain ⟨hparts, haround⟩ := Prod.mk.inj (hagree b hagrees)
  simp only [takeAct, Taken.parts, Prod.mk.injEq] at hparts
  exact ⟨hparts.1, hparts.2.1, hparts.2.2, haround⟩

/-- A run in surroundings that are alike is the same run, and they are alike afterwards. -/
theorem take_alike (count : Nat) (reader : Reader) {a b : Surroundings} (h : a.Alike b) :
    (reader.take count a).elements = (reader.take count b).elements ∧
      (reader.take count a).stop = (reader.take count b).stop ∧
      (reader.take count a).reader = (reader.take count b).reader ∧
      (reader.take count a).around.Alike (reader.take count b).around := by
  obtain ⟨usage, hafter, hagree⟩ := take_agrees count reader a
  obtain ⟨helements, hstop, hreader, haround⟩ := hagree b (h.agrees usage)
  refine ⟨helements.symm, hstop.symm, hreader.symm, ?_⟩
  rw [hafter, haround]
  exact h.after usage

/-- A path makes up a run: if the first `k` readers of a sequence each yield an element and step to
the next one, a run from the first is those elements and the run from the last. -/
theorem take_of_path (reader : Nat → Reader) (around : Nat → Surroundings)
    (element : Nat → Timestamped) (k : Nat)
    (hpath : ∀ i < k, (reader i).step (around i) =
      ⟨.yielded (element i), reader (i + 1), around (i + 1)⟩) (count : Nat) :
    (reader 0).take (k + count) (around 0) =
      ((reader k).take count (around k)).prepend ((List.range k).map element) := by
  induction k generalizing count with
  | zero => simp [Taken.prepend]
  | succ k ih =>
    rw [Nat.add_right_comm, Nat.add_assoc, ih (fun i hi => hpath i (by omega)), take_succ,
      hpath k (by omega)]
    simp [Taken.prepend, Taken.cons, List.range_succ]

/-! ## What a run comes to -/

/-- A reader of a source stands at the first number of the source. -/
theorem position_reader (source : Source) : source.reader.position = source.first := by
  induction source with
  | read bounded source ih => exact ih
  | limited limits source ih => exact ih
  | _ => rfl

/-- The numbers of a run are consecutive, from the one at which the reader stands. A run that is
paused has as many as were asked for, and leaves the reader at the number that is next. -/
theorem values_take (count : Nat) (reader : Reader) (around : Surroundings) :
    (reader.take count around).elements.map (·.value) =
        (List.range (reader.take count around).elements.length).map
          (fun i => Value.int (reader.position + (i : Nat))) ∧
      ((reader.take count around).stop = .paused →
        (reader.take count around).elements.length = count ∧
          (reader.take count around).reader.position = reader.position + count) := by
  induction count generalizing reader around with
  | zero => simp
  | succ count ih =>
    rw [take_succ]
    have hmoves := moves_step reader around
    generalize reader.step around = s at hmoves
    cases hmoves with
    | @yields element rest after hvalue hposition _ =>
      -- The rest of the run starts one number further on.
      obtain ⟨hvalues, hpaused⟩ := ih rest after
      refine ⟨?_, ?_⟩
      · simp only [Taken.cons, List.map_cons, List.length_cons, List.range_succ_eq_map,
          List.map_map, hvalues, hvalue, hposition]
        congr 1
        · simp
        · apply List.map_congr_left
          intro i _
          simp only [Function.comp, Value.int.injEq]
          push_cast
          omega
      · intro hstop
        obtain ⟨hlength, hrest⟩ := hpaused hstop
        refine ⟨by simp [Taken.cons, hlength], ?_⟩
        show (rest.take count after).reader.position = _
        rw [hrest, hposition]
        push_cast
        omega
    | ends => simp
    | fails => simp

/-- A run that is not paused leaves a reader that has ended. -/
theorem reader_take (count : Nat) (reader : Reader) (around : Surroundings)
    (h : (reader.take count around).stop ≠ .paused) :
    (reader.take count around).reader = ended := by
  induction count generalizing reader around with
  | zero => exact absurd rfl h
  | succ count ih =>
    rw [take_succ] at h ⊢
    have hmoves := moves_step reader around
    generalize reader.step around = s at h hmoves
    cases hmoves with
    | @yields element rest after => exact ih rest after h
    | ends => rfl
    | fails => rfl

/-- The elements of a run are those of its first part and those of a run from there. -/
theorem elements_take_add (m n : Nat) (reader : Reader) (around : Surroundings) :
    (reader.take (m + n) around).elements =
      (reader.take m around).elements ++
        ((reader.take m around).reader.take n (reader.take m around).around).elements := by
  by_cases hstop : (reader.take m around).stop = .paused
  · rw [take_add]
    dsimp only
    rw [hstop]
    rfl
  · -- A first part that is not paused leaves nothing for the second.
    rw [reader_take m reader around hstop, take_ended, List.append_nil, take_add]
    dsimp only
    split
    · rename_i hpaused
      exact absurd hpaused hstop
    · rfl

/-- A run adds at most one record to the log, a stop record, and none unless it ends. -/
theorem log_take (count : Nat) (reader : Reader) (around : Surroundings) :
    ∃ records, (reader.take count around).around.log = around.log ++ records ∧
      records.length ≤ 1 ∧ (∀ record ∈ records, record.IsStop) ∧
      ((reader.take count around).stop ≠ .ended → records = []) := by
  induction count generalizing reader around with
  | zero => exact ⟨[], by simp⟩
  | succ count ih =>
    rw [take_succ]
    have hmoves := moves_step reader around
    generalize reader.step around = s at hmoves
    cases hmoves with
    | @yields element rest after _ _ hlog =>
      obtain ⟨records, hrecords, hrest⟩ := ih rest after
      exact ⟨records, by rw [← hlog]; exact hrecords, hrest⟩
    | ends records hsingle hstops hlog =>
      exact ⟨records, hlog, hsingle, hstops, fun hstop => absurd rfl hstop⟩
    | fails hlog => exact ⟨[], by simp [hlog], by simp⟩

/-! ## Ranges -/

/-- A range that is read to its end yields its numbers in order, each once and without a timestamp,
and leaves its surroundings alone. -/
theorem drain_range (next stop : Int) (around : Surroundings) :
    (range next stop).drain around =
      ⟨(List.range (stop - next).toNat).map fun i => ⟨.int (next + (i : Nat)), .null⟩, .ended, ended,
        around⟩ := by
  have hpath : ∀ i < (stop - next).toNat, (range (next + (i : Nat)) stop).step around =
      ⟨.yielded ⟨.int (next + (i : Nat)), .null⟩, range (next + ((i + 1 : Nat) : Int)) stop,
        around⟩ := by
    intro i hi
    have hlt : next + (i : Int) < stop := by omega
    have hnext : next + (i : Int) + 1 = next + ((i + 1 : Nat) : Int) := by omega
    rw [step, if_pos hlt, hnext]
  have hrun := take_of_path (fun i => range (next + (i : Nat)) stop) (fun _ => around)
    (fun i => ⟨.int (next + (i : Nat)), .null⟩) (stop - next).toNat hpath 1
  -- One step more than there are numbers shows the end.
  have hend : (range (next + ((stop - next).toNat : Int)) stop).step around = .ended around := by
    rw [step, if_neg (by omega)]
  have hzero : next + ((0 : Nat) : Int) = next := by omega
  simp only [hzero] at hrun
  rw [drain, remaining, hrun, take_succ, hend]
  simp [Step.ended, Taken.prepend]

end Reader

end NumberFeed
