import NumberFeed.Proofs.Reading.Run

/-!
# The life of a reader

A reader is asked for an element again and again, each time in the surroundings of the moment:
others may have read the clocks and written records in between. Its life consists of steps that
yield, of one step at most that does not, and of steps after that, each of which only ends
(`steps_of_finished`). Over its whole life a reader writes at most one record, and none at all if it
fails (`written_of_life`).

The deadline of a limited read is fixed by the first moment (`left_of_yields`), and readings that
are taken before that moment only shift the ones that the read will see (`take_skip`).
-/

namespace NumberFeed

/-- The records that a step adds to the log of its moment. -/
def Step.written (step : Step) (moment : Surroundings) : List LogRecord :=
  step.around.log.drop moment.log.length

/-- A step that adds records to the log has written these. -/
theorem Step.written_eq {step : Step} {moment : Surroundings} {records : List LogRecord}
    (h : step.around.log = moment.log ++ records) : step.written moment = records := by
  rw [written, h, List.drop_left]

namespace Reader

/-- The steps of a reader that is asked for an element at each of several moments. -/
def steps : Reader → List Surroundings → List Step
  | _, [] => []
  | reader, moment :: later => reader.step moment :: (reader.step moment).reader.steps later

/-- What is left of a reader after several moments. -/
def left (reader : Reader) (moments : List Surroundings) : Reader :=
  moments.foldl (fun reader moment => (reader.step moment).reader) reader

/-- All records that a reader writes at several moments. -/
def written : Reader → List Surroundings → List LogRecord
  | _, [] => []
  | reader, moment :: later =>
    (reader.step moment).written moment ++ (reader.step moment).reader.written later

/-- What is left after some moments and then others. -/
theorem left_append (reader : Reader) (earlier later : List Surroundings) :
    reader.left (earlier ++ later) = (reader.left earlier).left later :=
  List.foldl_append

/-- The reader that a run leaves is what is left after some moments. -/
theorem exists_left_take (count : Nat) (reader : Reader) (around : Surroundings) :
    ∃ moments, (reader.take count around).reader = reader.left moments := by
  induction count generalizing reader around with
  | zero => exact ⟨[], rfl⟩
  | succ count ih =>
    have hfirst : reader.left [around] = (reader.step around).reader := rfl
    rw [take_succ]
    generalize reader.step around = s at hfirst
    rcases s with ⟨element | _ | cause, rest, after⟩
    · obtain ⟨moments, hrest⟩ := ih rest after
      exact ⟨[around] ++ moments, by rw [left_append, hfirst]; exact hrest⟩
    · exact ⟨[around], hfirst.symm⟩
    · exact ⟨[around], hfirst.symm⟩

/-! ## The end -/

/-- A reader that has ended only ends, and leaves every moment as it is. -/
theorem steps_ended (moments : List Surroundings) :
    ended.steps moments = moments.map Step.ended := by
  induction moments with
  | nil => rfl
  | cons moment later ih =>
    rw [steps, List.map_cons]
    exact congrArg _ ih

/-- A reader that has ended writes nothing. -/
theorem written_ended (moments : List Surroundings) : ended.written moments = [] := by
  induction moments with
  | nil => rfl
  | cons moment later ih =>
    have hnone : (ended.step moment).written moment = [] :=
      Step.written_eq (by simp [step, Step.ended])
    rw [written, hnone, List.nil_append]
    exact ih

/-- Nothing is left of a reader that has ended but one that has ended. -/
theorem left_ended (moments : List Surroundings) : ended.left moments = ended := by
  induction moments with
  | nil => rfl
  | cons moment later ih => exact ih

/-- Once a reader has not yielded, it only ends, and leaves every later moment as it is. -/
theorem steps_of_finished {reader : Reader} {moment : Surroundings}
    (h : ∀ element, (reader.step moment).outcome ≠ .yielded element) (later : List Surroundings) :
    (reader.step moment).reader.steps later = later.map Step.ended := by
  rw [reader_of_not_yielded h, steps_ended]

/-- In its whole life a reader writes at most one record, which tells why it has stopped, and none
if it ever fails. -/
theorem written_of_life (reader : Reader) (moments : List Surroundings) :
    (reader.written moments).length ≤ 1 ∧ (∀ record ∈ reader.written moments, record.IsStop) ∧
      ∀ step ∈ reader.steps moments, ∀ cause, step.outcome = .failed cause →
        reader.written moments = [] := by
  induction moments generalizing reader with
  | nil => simp [written, steps]
  | cons moment later ih =>
    rw [written, steps]
    have hmoves := moves_step reader moment
    generalize reader.step moment = s at hmoves
    cases hmoves with
    | @yields element rest after _ _ hlog =>
      have hnone : (⟨.yielded element, rest, after⟩ : Step).written moment = [] :=
        Step.written_eq (by rw [List.append_nil]; exact hlog)
      obtain ⟨hsingle, hstops, hfails⟩ := ih rest
      rw [hnone, List.nil_append]
      refine ⟨hsingle, hstops, ?_⟩
      intro step hstep cause hcause
      rcases List.mem_cons.mp hstep with rfl | hstep
      · cases hcause
      · exact hfails step hstep cause hcause
    | @ends records after hsingle hstops hlog =>
      -- This step has written all that is ever written.
      have hrecords : (⟨.ended, ended, after⟩ : Step).written moment = records :=
        Step.written_eq hlog
      rw [hrecords, written_ended, List.append_nil, steps_ended]
      refine ⟨hsingle, hstops, ?_⟩
      intro step hstep cause hcause
      rcases List.mem_cons.mp hstep with rfl | hstep
      · cases hcause
      · obtain ⟨moment', -, rfl⟩ := List.mem_map.mp hstep
        cases hcause
    | @fails cause after hlog =>
      have hnone : (⟨.failed cause, ended, after⟩ : Step).written moment = [] :=
        Step.written_eq (by rw [List.append_nil]; exact hlog)
      rw [hnone, written_ended]
      simp

/-! ## The beginning -/

/-- Stopping with a record yields nothing. -/
theorem outcome_stopWith (message : Except Failure String) (around : Surroundings)
    (element : Timestamped) : (stopWith message around).outcome ≠ .yielded element := by
  have hstopped := stopped_stopWith message around
  generalize stopWith message around = s at hstopped
  cases hstopped with
  | told message => simp [Step.ended]
  | dropped cause forgiving => simp [Step.ended]
  | failed cause strict => simp [Step.failed]

/-- An element that is passed on is counted, and the deadline stays what it is. -/
theorem reader_of_pass_yields {limits : Limits} {source : Source} {due : Option Float}
    {count : Nat} {made element : Timestamped} {inner : Reader} {around : Surroundings}
    (h : (pass limits source due count made inner around).outcome = .yielded element) :
    (pass limits source due count made inner around).reader =
      limited limits source (.running due (count + 1)) inner := by
  unfold pass at h ⊢
  split at h
  · dsimp only at h ⊢
    split at h
    · exact absurd h (outcome_stopWith _ _ _)
    · rename_i hintime
      rw [if_neg hintime]
  · rfl

/-- A limited read that yields knows its deadline, and counts one more element. -/
theorem reader_of_limited_yields {limits : Limits} {source : Source} {phase : Phase}
    {inner : Reader} {moment : Surroundings} {element : Timestamped}
    (h : ((limited limits source phase inner).step moment).outcome = .yielded element) :
    ∃ due count rest, (deadline limits phase moment).1 = .ok (due, count) ∧
      ((limited limits source phase inner).step moment).reader =
        limited limits source (.running due (count + 1)) rest := by
  rcases hdeadline : deadline limits phase moment with ⟨cause | ⟨due, count⟩, found⟩
  · rw [step, hdeadline] at h
    cases h
  · rw [step, hdeadline] at h ⊢
    simp only at h ⊢
    split at h
    · exact absurd h (outcome_stopWith _ _ _)
    · generalize inner.step found = s at h ⊢
      rcases s with ⟨made | _ | cause, rest, after⟩
      · exact ⟨due, count, rest, rfl, reader_of_pass_yields h⟩
      · cases h
      · cases h

/-- A limited read that yields at some moments knows its deadline from the first of them on, and is
after that a read in progress that yields at the others. -/
theorem running_of_yields {limits : Limits} {source : Source} {phase : Phase} {inner : Reader}
    {moment : Surroundings} {later : List Surroundings}
    (h : ∀ step ∈ (limited limits source phase inner).steps (moment :: later),
      ∃ element, step.outcome = .yielded element) :
    ∃ due count rest, (deadline limits phase moment).1 = .ok (due, count) ∧
      (limited limits source phase inner).left (moment :: later) =
        (limited limits source (.running due (count + 1)) rest).left later ∧
      ∀ step ∈ (limited limits source (.running due (count + 1)) rest).steps later,
        ∃ element, step.outcome = .yielded element := by
  obtain ⟨element, hyields⟩ := h _ List.mem_cons_self
  obtain ⟨due, count, rest, hdeadline, hreader⟩ := reader_of_limited_yields hyields
  refine ⟨due, count, rest, hdeadline, ?_, ?_⟩
  · exact congrArg (fun reader => reader.left later) hreader
  · intro step hstep
    refine h step (List.mem_cons_of_mem _ ?_)
    rw [hreader]
    exact hstep

/-- A read in progress that yields at every moment keeps its deadline, and counts the moments. -/
theorem left_of_running {limits : Limits} {source : Source} {due : Option Float} {count : Nat}
    {inner : Reader} {moments : List Surroundings}
    (h : ∀ step ∈ (limited limits source (.running due count) inner).steps moments,
      ∃ element, step.outcome = .yielded element) :
    ∃ rest, (limited limits source (.running due count) inner).left moments =
      limited limits source (.running due (count + moments.length)) rest := by
  induction moments generalizing count inner with
  | nil => exact ⟨inner, rfl⟩
  | cons moment later ih =>
    obtain ⟨due', count', rest, hdeadline, hleft, hlater⟩ := running_of_yields h
    -- A read in progress has its deadline already.
    have hsame : (due, count) = (due', count') := Except.ok.inj hdeadline
    obtain ⟨rfl, rfl⟩ := Prod.mk.inj hsame
    obtain ⟨last, hlast⟩ := ih hlater
    have hcount : count + 1 + later.length = count + (moment :: later).length := by
      rw [List.length_cons]
      omega
    exact ⟨last, by rw [hleft, hlast, hcount]⟩

/-- The first step of a timed read takes one reading of the clock, and is then the step of a read
whose deadline is its read time after that reading. A read time that is no number of seconds is a
failure. -/
theorem step_of_fresh {limits : Limits} {time : Duration} (htime : limits.time = some time)
    (source : Source) (inner : Reader) (first : Surroundings) :
    (limited limits source .fresh inner).step first =
      match time.toSeconds with
      | .error cause => .failed cause first.readClock.2
      | .ok seconds =>
        (limited limits source (.running (some (first.clock.current + seconds)) 0) inner).step
          first.readClock.2 := by
  simp only [step, deadline, htime]
  rcases time.toSeconds with cause | seconds <;> rfl

/-- The deadline of a timed read is its read time after the reading of the clock that is taken at
its first moment. It stays that, whatever the clock shows at the later ones. -/
theorem left_of_yields {limits : Limits} {time : Duration} (htime : limits.time = some time)
    {source : Source} {inner : Reader} {first : Surroundings} {later : List Surroundings}
    (h : ∀ step ∈ (limited limits source .fresh inner).steps (first :: later),
      ∃ element, step.outcome = .yielded element) :
    ∃ seconds rest, time.toSeconds = .ok seconds ∧
      (limited limits source .fresh inner).left (first :: later) =
        limited limits source
          (.running (some (first.clock.current + seconds)) (first :: later).length) rest := by
  obtain ⟨due, count, rest, hdeadline, hleft, hlater⟩ := running_of_yields h
  rcases hseconds : time.toSeconds with cause | seconds
  · simp only [deadline, htime, hseconds] at hdeadline
    cases hdeadline
  · simp only [deadline, htime, hseconds] at hdeadline
    have hsame : (some (first.clock.current + seconds), 0) = (due, count) :=
      Except.ok.inj hdeadline
    obtain ⟨rfl, rfl⟩ := Prod.mk.inj hsame
    obtain ⟨last, hlast⟩ := left_of_running hlater
    have hcount : 0 + 1 + later.length = (first :: later).length := by
      rw [List.length_cons]
      omega
    exact ⟨seconds, last, rfl, by rw [hleft, hlast, hcount]⟩

/-- Readings of the clock that are taken before a run only shift the readings that the run sees: it
is the run over a clock that starts so many readings later. -/
theorem take_skip (count skipped : Nat) (reader : Reader) (around : Surroundings) :
    let skipping : Surroundings := { around with clock := around.clock.skip skipped }
    let shifted : Surroundings := { around with
      clock := ⟨fun i => around.clock.supply (i + skipped), around.clock.used⟩ }
    (reader.take count skipping).elements = (reader.take count shifted).elements ∧
      (reader.take count skipping).stop = (reader.take count shifted).stop ∧
      (reader.take count skipping).reader = (reader.take count shifted).reader ∧
      (reader.take count skipping).around.log = (reader.take count shifted).around.log := by
  intro skipping shifted
  obtain ⟨usage, hafter, hagree⟩ := take_agrees count reader skipping
  -- Both clocks show the same from here on, under different counts of what was read before.
  have hagrees : skipping.Agrees shifted usage := by
    refine ⟨rfl, ?_, rfl, rfl, fun _ => rfl⟩
    apply List.map_congr_left
    intro i _
    show around.clock.supply (around.clock.used + skipped + i) =
      around.clock.supply (around.clock.used + i + skipped)
    congr 1
    omega
  obtain ⟨helements, hstop, hreader, haround⟩ := hagree shifted hagrees
  refine ⟨helements.symm, hstop.symm, hreader.symm, ?_⟩
  rw [hafter, haround]
  rfl

end Reader

end NumberFeed
