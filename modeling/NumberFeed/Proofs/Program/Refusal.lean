import NumberFeed.Proofs.Input.Validated
import NumberFeed.Proofs.Program.Request
import NumberFeed.Proofs.Program.Transcript
import NumberFeed.Proofs.Reading.Unfailing
import NumberFeed.Proofs.Value.CountDecision

/-!
# Refusals come first

Where the program refuses an argument, it has neither logged nor read anything
(`Counting.refused_early`). Once the input is made, failures are of other kinds: a text is too long
to be put together, a read time does not fit a double, a point in time has no place in the calendar
or a time zone is not known. That is an invariant of the reader, `Reader.Unrefusing`: a step is no
refusal and leaves such a reader (`Reader.step_unrefusing`), and so the program is not refused while
it tells what it reads (`Counting.unrefused_advanceAll`).
-/

namespace NumberFeed

/-- What a step came to is not the refusal of an argument. -/
def Outcome.Unrefused (outcome : Outcome) : Prop :=
  ∀ reason, outcome ≠ .failed (.refused reason)

namespace Outcome.Unrefused

/-- An element is no refusal. -/
theorem yielded (element : Timestamped) : (yielded element).Unrefused :=
  fun _ => yielded_ne_failed _

/-- The end is no refusal. -/
theorem ended : ended.Unrefused :=
  fun _ => ended_ne_failed _

/-- A failure is none where the result that it comes from is none. -/
theorem failed {α : Type} {cause : Failure}
    (h : NumberFeed.Unrefused (α := α) (.error cause)) : (failed cause).Unrefused :=
  fun reason hrefused => h reason (congrArg Except.error (failed.inj hrefused))

end Outcome.Unrefused

/-- To open a source is no refusal: at worst there is nothing to open. -/
theorem Source.unrefused_open? (source : Source) : Unrefused source.open? := by
  have hbroken : ∀ cause, source.reader = .broken cause → cause = .noSuchOperation := by
    intro cause hreader
    induction source with
    | range start stop => cases hreader
    | counting stamper => cases hreader
    | read bounded source ih => exact ih hreader
    | limited limits source ih => cases hreader
    | foreign value => exact (Reader.broken.inj hreader).symm
  unfold open?
  split
  · rename_i cause hreader
    rw [hbroken cause hreader]
    rintro reason ⟨⟩
  · exact Unrefused.ok _

/-- A stamper that refuses nothing, unless it is a function that does. -/
def Stamper.Unrefusing : Stamper → Prop
  | ofFunction f => ∀ n, Unrefused (f n)
  | shared f => ∀ n memory, Unrefused (f n memory).1
  | _ => True

namespace Reader

/-- A reader that has no argument left to refuse: neither what stands in its place nor a function
that gives its timestamps does. -/
def Unrefusing : Reader → Prop
  | ended | range _ _ => True
  | broken cause => ∀ reason, cause ≠ .refused reason
  | counting stamper _ => stamper.Unrefusing
  | limited _ _ _ inner => inner.Unrefusing

/-- Stopping with a record that tells texts is no refusal. -/
theorem stopWith_unrefusing {message : Except Failure String} (h : Unrefused message)
    (around : Surroundings) :
    (stopWith message around).outcome.Unrefused ∧
      (stopWith message around).reader.Unrefusing := by
  have hstopped := stopped_stopWith message around
  generalize stopWith message around = s at hstopped
  cases hstopped with
  | told message => exact ⟨.ended, trivial⟩
  | dropped cause forgiving => exact ⟨.ended, trivial⟩
  | failed cause strict => exact ⟨.failed h, trivial⟩

/-- The record of a number of records tells texts. -/
theorem unrefused_recordsMessage (source : Source) (records : Count) :
    Unrefused (recordsMessage source records) :=
  source.unrefused_text.bind fun _ => (Number.unrefused_write _).bind fun _ => Unrefused.ok _

/-- The record of a read time tells texts. -/
theorem unrefused_timeMessage (source : Source) (time : Duration) (count : Nat) :
    Unrefused (timeMessage source time count) :=
  source.unrefused_text.bind fun _ => time.unrefused_text.bind fun _ =>
    (Number.unrefused_write _).bind fun _ => Unrefused.ok _

/-- To find the deadline is no refusal. -/
theorem unrefused_deadline (limits : Limits) (phase : Phase) (around : Surroundings) :
    Unrefused (deadline limits phase around).1 := by
  have hseconds : ∀ time : Duration, Unrefused time.toSeconds := by
    intro time reason hrefused
    unfold Duration.toSeconds at hrefused
    split at hrefused
    · cases hrefused
    · cases hrefused
  unfold deadline
  split
  · exact Unrefused.ok _
  · exact Unrefused.ok _
  · exact (hseconds _).map _

/-- A call of a stamper is no refusal unless it is a function that refuses. -/
theorem unrefused_call {stamper : Stamper} (h : stamper.Unrefusing) (number : Int)
    (around : Surroundings) :
    Unrefused (stamper.call number around).1 ∧
      (stamper.call number around).2.1.Unrefusing := by
  cases stamper with
  | now => exact ⟨Unrefused.ok _, trivial⟩
  | ofFunction f => exact ⟨h number, h⟩
  | shared f => exact ⟨h number around.memory, h⟩
  | ofFormula formula =>
    refine ⟨?_, trivial⟩
    obtain ⟨rule, a, b⟩ := formula
    cases rule with
    | failing =>
      intro reason hrefused
      simp only [Stamper.call, Stamper.callFormula] at hrefused
      split at hrefused
      · cases hrefused
      · cases hrefused
    | linear | counter | index | nothing | unkept => exact Unrefused.ok _
  | uncallable value =>
    refine ⟨?_, trivial⟩
    rintro reason ⟨⟩

/-- A step of a reader that has nothing to refuse is no refusal, and leaves such a reader. -/
theorem step_unrefusing {reader : Reader} (h : reader.Unrefusing) (around : Surroundings) :
    (reader.step around).outcome.Unrefused ∧ (reader.step around).reader.Unrefusing := by
  induction reader generalizing around with
  | ended => exact ⟨.ended, trivial⟩
  | broken cause =>
    exact ⟨fun reason hrefused => h reason (Outcome.failed.inj hrefused), trivial⟩
  | range next stop =>
    rw [step]
    split
    · exact ⟨.yielded _, trivial⟩
    · exact ⟨.ended, trivial⟩
  | counting stamper next =>
    rw [step]
    split
    · obtain ⟨hstamp, hstamper⟩ := unrefused_call h next around
      rcases hcall : stamper.call next around with ⟨cause | stamp, stamper', around'⟩
      · rw [hcall] at hstamp
        exact ⟨.failed hstamp, trivial⟩
      · rw [hcall] at hstamper
        exact ⟨.yielded _, hstamper⟩
    · exact ⟨.ended, trivial⟩
  | limited limits source phase inner ih =>
    have hdeadline := unrefused_deadline limits phase around
    rw [step]
    rcases hfound : deadline limits phase around with ⟨cause | ⟨due, count⟩, found⟩
    · rw [hfound] at hdeadline
      exact ⟨.failed hdeadline, trivial⟩
    · dsimp only
      split
      · exact stopWith_unrefusing (unrefused_recordsMessage _ _) _
      · -- The step is that of the read within, unless an element comes too late.
        obtain ⟨hinner, hrest⟩ := ih h found
        rcases hstep : inner.step found with ⟨element | _ | cause, rest, after⟩
        · rw [hstep] at hrest
          unfold pass
          dsimp only
          split
          · split
            · exact stopWith_unrefusing (unrefused_timeMessage _ _ _) _
            · exact ⟨.yielded _, hrest⟩
          · exact ⟨.yielded _, hrest⟩
        · exact ⟨.ended, trivial⟩
        · rw [hstep] at hinner
          exact ⟨hinner, trivial⟩

end Reader

/-- To tell the civil time of an instant is no refusal. -/
theorem Instant.unrefused_toCivil (instant : Instant) (zones : List Zone) (zone : Value) :
    Unrefused (instant.toCivil (Zone.ofValue zone zones)) := by
  have hzone : Unrefused (Zone.ofValue zone zones) := by
    have hname : ∀ name, Unrefused (Zone.ofName zones name) := by
      intro name reason hrefused
      unfold Zone.ofName at hrefused
      split at hrefused
      · cases hrefused
      · cases hrefused
    unfold Zone.ofValue
    split
    · exact hname _
    · split
      · exact hname _
      · rintro reason ⟨⟩
    · rintro reason ⟨⟩
  intro reason hrefused
  unfold toCivil at hrefused
  dsimp only at hrefused
  split at hrefused
  · unfold outsideFailure at hrefused
    split at hrefused
    · cases hrefused
    · split at hrefused
      · cases hrefused
      · cases hrefused
  · split at hrefused
    · cases hrefused
    · split at hrefused
      · rename_i cause hcause
        exact hzone reason (hcause.trans (congrArg Except.error (Except.error.inj hrefused)))
      · split at hrefused
        · cases hrefused
        · cases hrefused

namespace Counting

variable {request : Request} {around after : Surroundings} {reason : Refusal}

/-- To find the time of an element is no refusal, and to put its line together is none either. -/
theorem unrefused_line (zones : List Zone) (zone : Value) (element : Timestamped) :
    Unrefused (line zones zone element) ∧
      ∀ text, line zones zone element = .ok text → Unrefused text := by
  have hshown : Unrefused element.value.shown := Value.unrefused_render false _
  unfold line
  split
  · refine ⟨Unrefused.ok _, ?_⟩
    rintro _ ⟨⟩
    exact hshown
  · rename_i instant _
    refine ⟨(instant.unrefused_toCivil zones zone).map _, ?_⟩
    intro text htext
    obtain ⟨time, -, rfl⟩ := exists_of_map_eq_ok htext
    exact hshown.map _
  · constructor
    · rintro reason ⟨⟩
    · rintro text ⟨⟩

/-- So it is no refusal to tell an element. -/
theorem unrefused_told (around : Surroundings) (zone : Value) (element : Timestamped) :
    Unrefused (told around zone element) := by
  obtain ⟨hline, htext⟩ := unrefused_line around.zones zone element
  unfold told
  rcases h : line around.zones zone element with cause | cause | text
  · rw [h] at hline
    exact fun reason hrefused => hline reason (congrArg Except.error (Except.error.inj hrefused))
  · have hcause := htext _ h
    dsimp only
    split
    · exact Unrefused.ok _
    · exact fun reason hrefused =>
        hcause reason (congrArg Except.error (Except.error.inj hrefused))
  · exact Unrefused.ok _

/-- To tell what a reader yields that has nothing to refuse is no refusal. -/
theorem unrefused_advanceAll (zone : Value) (count : Nat) {reader : Reader}
    (h : reader.Unrefusing) (around : Surroundings) :
    Unrefused (advanceAll zone count reader around).1 := by
  induction count generalizing reader around with
  | zero => exact Unrefused.ok ()
  | succ count ih =>
    rw [advanceAll, advance]
    obtain ⟨houtcome, hrest⟩ := Reader.step_unrefusing h around
    rcases hstep : reader.step around with ⟨element | _ | cause, rest, after⟩
    · rw [hstep] at hrest
      have htold := unrefused_told after zone element
      dsimp only
      rw [record_line]
      rcases hline : told after zone element with cause | line?
      · rw [hline] at htold
        exact fun reason hrefused =>
          htold reason (congrArg Except.error (Except.error.inj hrefused))
      · exact ih hrest _
    · exact Unrefused.ok ()
    · rw [hstep] at houtcome
      exact fun reason hrefused =>
        houtcome reason (congrArg Outcome.failed (Except.error.inj hrefused))

/-- The collection of a request has a reader that has nothing to refuse. -/
theorem unrefusing_of_start {reader : Reader} {ready : Surroundings}
    (h : start request around = (.ok reader, ready)) : reader.Unrefusing := by
  unfold start at h
  rcases hinput : inputFor request with cause | input
  · simp only [hinput] at h
    cases h
  simp only [hinput] at h
  rcases happly : Pipeline.apply (.input input) around with ⟨cause | collection, after⟩
  · simp only [happly] at h
    cases h
  simp only [happly] at h
  obtain ⟨hopen, -⟩ := Prod.mk.inj h
  cases input with
  | bounded input =>
    obtain ⟨later, hlater⟩ := Pipeline.exists_of_logging happly
    rw [Pipeline.materialize_bounded] at hlater
    obtain ⟨last, hlast⟩ := Pipeline.exists_of_logging hlater
    obtain ⟨hcollection, -⟩ := Prod.mk.inj hlast
    obtain rfl := Except.ok.inj hcollection
    obtain rfl := Except.ok.inj hopen
    exact trivial
  | unbounded input =>
    obtain ⟨records, time, rfl⟩ := ofParts_of_inputFor hinput
    obtain ⟨-, hparts, -⟩ := UnboundedInput.collection_of_apply_ofParts rfl happly
    rw [hparts] at hopen
    obtain rfl := Except.ok.inj hopen
    -- The timestamps of the program are there for every number.
    have hstamper : secondsStamper.Unrefusing := fun _ => Unrefused.ok _
    unfold Reader.ofParts
    split
    · exact hstamper
    · exact hstamper

/-- To apply the input of a request is no refusal. -/
theorem unrefused_apply {input : Input} (h : inputFor request = .ok input)
    (around : Surroundings) : Unrefused (Pipeline.apply (.input input) around).1 := by
  cases input with
  | bounded input => exact Pipeline.unrefused_apply_bounded input around
  | unbounded input =>
    obtain ⟨records, time, rfl⟩ := ofParts_of_inputFor h
    intro reason hrefused
    -- Only a read time could be refused, and this one is a duration.
    obtain ⟨-, -, -, hnull, htime⟩ := (Pipeline.apply_refused_iff rfl around reason).mp hrefused
    rcases time with _ | time
    · cases hnull
    · cases htime

/-- Where the program refuses an argument, it has done nothing yet. -/
theorem refused_early (h : run request around = (.error (.refused reason), after)) :
    after = around := by
  unfold run at h
  rcases hstart : start request around with ⟨cause | reader, ready⟩
  · simp only [hstart] at h
    obtain ⟨hcause, rfl⟩ := Prod.mk.inj h
    obtain rfl := Except.error.inj hcause
    unfold start at hstart
    rcases hinput : inputFor request with cause | input
    · simp only [hinput] at hstart
      exact (Prod.mk.inj hstart).2.symm
    · simp only [hinput] at hstart
      have hunrefused := unrefused_apply hinput around
      rcases happly : Pipeline.apply (.input input) around with ⟨cause | collection, applied⟩
      · simp only [happly] at hstart hunrefused
        obtain ⟨hcause, -⟩ := Prod.mk.inj hstart
        rw [Except.error.inj hcause] at hunrefused
        exact absurd rfl (hunrefused reason)
      · simp only [happly] at hstart
        obtain ⟨hopen, -⟩ := Prod.mk.inj hstart
        exact absurd hopen (collection.producer.unrefused_open? reason)
  · simp only [hstart] at h
    have hunrefused := unrefused_advanceAll request.zone (reader.remaining ready.largest + 1)
      (unrefusing_of_start hstart) ready
    rw [h] at hunrefused
    exact absurd rfl (hunrefused reason)

end Counting

end NumberFeed
