import NumberFeed.Proofs.Input.Builder
import NumberFeed.Proofs.Number.Writable
import NumberFeed.Proofs.Pipeline.Logging

/-!
# Inputs applied to a pipeline

An unbounded input becomes a collection of a single read, whose limits are those of the input and
nothing else (`limitedRead_ofParts`): a read without limits if there are none, and otherwise a
limited read directly over the count. On its way through the pipeline the input logs three texts for
debugging, of which the second names the limits (`apply_ofParts`). A pipeline refuses such an input
if its stamper cannot be kept by a source, and otherwise only if a text is demanded that would tell a
number too long to be written (`exists_apply_ofParts`).

`builder_law` puts this together with what calls make of an input.
-/

namespace NumberFeed

namespace Wording

/-- One result after another is there if both are. -/
theorem exists_bind {α β : Type} {first : Except Failure α} {next : α → Except Failure β} :
    (∃ result, (first >>= next) = .ok result) ↔
      ∃ a, first = .ok a ∧ ∃ result, next a = .ok result := by
  cases first with
  | error cause =>
    constructor
    · rintro ⟨_, ⟨⟩⟩
    · rintro ⟨_, ⟨⟩, _⟩
  | ok a =>
    constructor
    · rintro ⟨result, hresult⟩
      exact ⟨a, rfl, result, hresult⟩
    · rintro ⟨_, ⟨⟩, hresult⟩
      exact hresult

/-- Something made of a result is there if the result is. -/
theorem exists_map {α β : Type} {first : Except Failure α} {make : α → β} :
    (∃ result, first.map make = .ok result) ↔ ∃ a, first = .ok a := by
  cases first with
  | error cause => simp [Except.map]
  | ok a => simp [Except.map]

/-- A number of records has a text just when it can be written. -/
theorem exists_records {count? : Option Count} :
    (∃ shown, records count? = .ok shown) ↔
      ∀ count, count? = some count → Number.Writable count.value := by
  cases count? with
  | none => simp [records]
  | some count =>
    by_cases hwritable : Number.Writable count.value
    · simp [records, Number.write_of_writable hwritable, hwritable]
    · simp [records, Number.write_of_not_writable hwritable, hwritable]

/-- An amount of time has a text just when its nanoseconds can be written. -/
theorem exists_time {time? : Option Duration} :
    (∃ shown, time time? = .ok shown) ↔
      ∀ duration, time? = some duration → Number.Writable duration.nanos := by
  cases time? with
  | none => simp [time]
  | some duration =>
    by_cases hwritable : Number.Writable duration.nanos
    · simp [time, Duration.text_of_writable hwritable, hwritable]
    · simp [time, Duration.text, Number.write_of_not_writable hwritable, hwritable, Except.map]

end Wording

/-- The read that stands behind an input with a stamper and limits. -/
def Source.ofParts (stamper : Stamper) (records : Option Count) (time : Option Duration) : Source :=
  if records.isNone ∧ time.isNone then .read false (.counting stamper)
  else .limited ⟨records, time⟩ (.counting stamper)

/-- A reader of such a read before its first step. -/
def Reader.ofParts (stamper : Stamper) (records : Option Count) (time : Option Duration) : Reader :=
  if records.isNone ∧ time.isNone then .counting stamper 0
  else .limited ⟨records, time⟩ (.counting stamper) .fresh (.counting stamper 0)

namespace UnboundedInput

/-- The texts of the parts of an input can be written. -/
structure Renders (stamper : Stamper) (records : Option Count) (time : Option Duration) : Prop where
  /-- The stamper has a text. -/
  stamper : ∃ shown, stamper.text = .ok shown
  /-- The greatest number of records can be written. -/
  records : ∀ count, records = some count → Number.Writable count.value
  /-- The greatest amount of time can be written. -/
  time : ∀ duration, time = some duration → Number.Writable duration.nanos

/-- How the limits of an input are named for debugging. -/
def limitsText : Option Count → Option Duration → String
  | none, none => "Reading counting input without limit"
  | some count, none =>
    "Reading counting input up to " ++ String.ofList (Number.decimal count.value) ++ " records"
  | none, some time => "Reading counting input for at most " ++ time.written
  | some count, some time =>
    "Reading counting input for at most " ++ time.written ++ " and up to " ++
      String.ofList (Number.decimal count.value) ++ " records"

section Parts

variable {stamper : Stamper} {records : Option Count} {time : Option Duration}

/-- The limits of an input are named in the log if they can be written. -/
theorem limitsMessage_ofParts
    (hwritable : ∀ count, records = some count → Number.Writable count.value)
    (hamount : ∀ duration, time = some duration → Number.Writable duration.nanos) :
    Pipeline.limitsMessage (ofParts stamper records time) = .ok (limitsText records time) := by
  have hrecords : ∀ count, records = some count → Number.write count.value =
      .ok (String.ofList (Number.decimal count.value)) := fun count hcount =>
    Number.write_of_writable (hwritable count hcount)
  have htime : ∀ duration, time = some duration → (Value.duration duration).shown =
      .ok duration.written := by
    intro duration hduration
    rw [Value.shown, Value.render]
    exact Duration.text_of_writable (hamount duration hduration)
  unfold Pipeline.limitsMessage ofParts
  rcases records with _ | count <;> rcases time with _ | duration
  · rfl
  · simp only [Option.map, Option.getD, htime duration rfl]
    rfl
  · simp only [Option.map, hrecords count rfl]
    rfl
  · simp only [Option.map, Option.getD, htime duration rfl, hrecords count rfl]
    rfl

/-- The literal of a stamper that can be called is its text. -/
theorem literal_of_isCallable (h : stamper.isCallable = true) : stamper.literal = stamper.text := by
  cases stamper with
  | uncallable value => cases h
  | _ => rfl

/-- An input has a text just when the texts of its parts can be written. -/
theorem exists_text_ofParts (h : stamper.isCallable = true) :
    (∃ shown, (ofParts stamper records time).text = .ok shown) ↔ Renders stamper records time := by
  have htext : (ofParts stamper records time).text = (do
      let shownStamper ← stamper.text
      let shownTime ← Wording.time time
      Wording.unboundedInput shownStamper records shownTime) := by
    unfold text ofParts
    rw [literal_of_isCallable h]
    rcases time with _ | duration <;> rfl
  rw [htext, Wording.exists_bind]
  constructor
  · rintro ⟨shownStamper, hstamper, hrest⟩
    obtain ⟨shownTime, htime, hrest⟩ := Wording.exists_bind.mp hrest
    obtain ⟨shownRecords, hrecords⟩ := Wording.exists_map.mp hrest
    exact ⟨⟨shownStamper, hstamper⟩, Wording.exists_records.mp ⟨shownRecords, hrecords⟩,
      Wording.exists_time.mp ⟨shownTime, htime⟩⟩
  · rintro ⟨⟨shownStamper, hstamper⟩, hrecords, htime⟩
    obtain ⟨shownTime, htime⟩ := Wording.exists_time.mpr htime
    exact ⟨shownStamper, hstamper, Wording.exists_bind.mpr ⟨shownTime, htime,
      Wording.exists_map.mpr (Wording.exists_records.mpr hrecords)⟩⟩

/-- The read behind an input whose texts can be written has a text. -/
theorem exists_text_source (h : Renders stamper records time) :
    ∃ shown, (Source.ofParts stamper records time).text = .ok shown := by
  unfold Source.ofParts
  split
  · exact ⟨_, rfl⟩
  · obtain ⟨shownRecords, hrecords⟩ := Wording.exists_records.mpr h.records
    obtain ⟨shownTime, htime⟩ := Wording.exists_time.mpr h.time
    show ∃ shown, Wording.limitedRead ⟨records, time⟩ Wording.counting = .ok shown
    rw [Wording.limitedRead, hrecords, htime]
    exact ⟨_, rfl⟩

/-- The limits of an input are put on its read one after the other, and become the limits of a
single limited read. -/
theorem limitedRead_ofParts :
    Pipeline.limitedRead (ofParts stamper records time) (.counting stamper) =
      .ok (Source.ofParts stamper records time) := by
  have hcount : ∀ count : Count, Count.ofRecords (.int count.value) = .ok count := by
    intro count
    rw [Count.ofRecords, Count.ofValue, Count.ofValue?_eq_some_iff.mpr rfl]
  unfold Pipeline.limitedRead ofParts Source.ofParts
  -- The number of records is put on last, on a read that the time may have limited already.
  rcases records with _ | count <;> rcases time with _ | duration
  · rfl
  · rfl
  · show Source.withMaxRecords (.int count.value) (.read false (.counting stamper)) = _
    rw [Source.withMaxRecords, Source.limitWith, hcount]
    rfl
  · show Source.withMaxRecords (.int count.value)
      (.limited ⟨none, some duration⟩ (.counting stamper)) = _
    rw [Source.withMaxRecords, Source.limitWith, hcount]
    rfl

/-- The read behind an input makes a collection, which is bounded just when there is a limit. -/
theorem ofRead_ofParts :
    Pipeline.ofRead (Source.ofParts stamper records time) =
      .ok ⟨Source.ofParts stamper records time, records.isSome || time.isSome⟩ := by
  unfold Source.ofParts
  rcases records with _ | count <;> rcases time with _ | duration <;> rfl

/-- The collection of an input opens with the reader of its read. -/
theorem open?_ofParts :
    (Source.ofParts stamper records time).open? = .ok (Reader.ofParts stamper records time) := by
  unfold Source.ofParts Reader.ofParts
  split <;> rfl

/-- The records for debugging that an input leaves behind when it is applied. -/
def appliedRecords (shown shownRead : String) (records : Option Count) (time : Option Duration) :
    List LogRecord :=
  [⟨.debug, .pipeline, "Applying " ++ shown ++ " to the pipeline root"⟩,
    ⟨.debug, .input, limitsText records time⟩,
    ⟨.debug, .pipeline, "Applying " ++ shownRead ++ " to the pipeline root"⟩]

/-- The texts that are logged for debugging when an input is applied: the input, its limits, and the
read that it stands for. -/
def appliedTexts (stamper : Stamper) (records : Option Count) (time : Option Duration) :
    List (Origin × Except Failure String) :=
  [(.pipeline, (ofParts stamper records time).text.map
      fun shown => "Applying " ++ shown ++ " to the pipeline root"),
    (.input, Pipeline.limitsMessage (ofParts stamper records time)),
    (.pipeline, (Source.ofParts stamper records time).text.map
      fun shown => "Applying " ++ shown ++ " to the pipeline root")]

/-- A source is made of a stamper that can be called if the stamper can be kept. -/
theorem ofStamper_of_isCallable (h : stamper.isCallable = true) :
    Source.ofStamper stamper = stamper.kept.map .counting := by
  cases stamper with
  | uncallable value => cases h
  | _ => rfl

/-- A stamper that can be called and kept makes a source. -/
theorem ofStamper_of_kept (hcallable : stamper.isCallable = true)
    (hkept : stamper.kept = .ok stamper) : Source.ofStamper stamper = .ok (.counting stamper) := by
  rw [ofStamper_of_isCallable hcallable, hkept]
  rfl

/-- The stamper of an input with a stamper and limits. -/
theorem stamper_ofParts : (ofParts stamper records time).stamper = stamper := rfl

/-- An input whose stamper can be kept becomes a collection, and its texts are logged for debugging,
unless one of them is missing and demanded. -/
theorem apply_ofParts {around : Surroundings} (hcallable : stamper.isCallable = true)
    (hkept : stamper.kept = .ok stamper)
    (hrenders : around.Demands → Renders stamper records time) :
    Pipeline.apply (.input (.unbounded (ofParts stamper records time))) around =
      (.ok ⟨Source.ofParts stamper records time, records.isSome || time.isSome⟩,
        around.noting (appliedTexts stamper records time)) := by
  have htext : around.Demands → ∃ text, (ofParts stamper records time).text.map
      (fun shown => "Applying " ++ shown ++ " to the pipeline root") = .ok text :=
    fun hdemands => Wording.exists_map.mpr ((exists_text_ofParts hcallable).mpr (hrenders hdemands))
  have hlimits : around.Demands →
      ∃ text, Pipeline.limitsMessage (ofParts stamper records time) = .ok text :=
    fun hdemands => ⟨_, limitsMessage_ofParts (hrenders hdemands).records (hrenders hdemands).time⟩
  have hread : around.Demands → ∃ text, (Source.ofParts stamper records time).text.map
      (fun shown => "Applying " ++ shown ++ " to the pipeline root") = .ok text :=
    fun hdemands => Wording.exists_map.mpr (exists_text_source (hrenders hdemands))
  rw [Pipeline.apply, Pipeline.applying, Transform.text, Input.text, Pipeline.logging_noting htext]
  dsimp only [Pipeline.materialize]
  rw [stamper_ofParts, ofStamper_of_kept hcallable hkept]
  dsimp only
  rw [Pipeline.logging_noting (by exact hlimits), limitedRead_ofParts]
  dsimp only [Pipeline.applyRead, Pipeline.applying]
  rw [Pipeline.logging_noting (by exact hread), ofRead_ofParts, Surroundings.noting_noting,
    Surroundings.noting_noting]
  rfl

/-- If records for debugging are wanted, an input whose texts can be written leaves three behind. -/
theorem debugging_appliedTexts {around : Surroundings} (hcallable : stamper.isCallable = true)
    (hverbose : around.verbose = true) (hrenders : Renders stamper records time) :
    ∃ shown shownRead, (ofParts stamper records time).text = .ok shown ∧
      (Source.ofParts stamper records time).text = .ok shownRead ∧
      around.debugging (appliedTexts stamper records time) =
        appliedRecords shown shownRead records time := by
  obtain ⟨shown, hshown⟩ := (exists_text_ofParts hcallable).mpr hrenders
  obtain ⟨shownRead, hshownRead⟩ := exists_text_source hrenders
  refine ⟨shown, shownRead, hshown, hshownRead, ?_⟩
  rw [Surroundings.debugging, if_pos hverbose, appliedTexts, hshown, hshownRead,
    limitsMessage_ofParts hrenders.records hrenders.time]
  rfl

/-- A stamper is kept as it is, or cannot be kept. -/
theorem kept_cases (stamper : Stamper) :
    stamper.kept = .ok stamper ∨ stamper.kept = .error .wrongType := by
  cases stamper with
  | ofFormula formula =>
    obtain ⟨rule, a, b⟩ := formula
    cases rule with
    | unkept => exact .inr rfl
    | _ => exact .inl rfl
  | _ => exact .inl rfl

/-- An input with a stamper that cannot be kept is refused, whatever is logged before. -/
theorem materialize_of_not_kept {around : Surroundings} (hcallable : stamper.isCallable = true)
    (hkept : stamper.kept = .error .wrongType) :
    Pipeline.materialize (.unbounded (ofParts stamper records time)) around =
      (.error .wrongType, around) := by
  have hsource : Source.ofStamper stamper = .error .wrongType := by
    rw [ofStamper_of_isCallable hcallable, hkept]
    rfl
  simp only [Pipeline.materialize]
  rw [stamper_ofParts, hsource]

/-- A pipeline makes a collection of an input just when its stamper can be kept, and its texts can
be written if they are demanded. -/
theorem exists_apply_ofParts {around : Surroundings} (hcallable : stamper.isCallable = true) :
    (∃ collection,
        (Pipeline.apply (.input (.unbounded (ofParts stamper records time))) around).1 =
          .ok collection) ↔
      stamper.kept = .ok stamper ∧ (around.Demands → Renders stamper records time) := by
  constructor
  · rintro ⟨collection, happly⟩
    rw [Pipeline.apply, Pipeline.applying, Transform.text, Input.text] at happly
    have hrenders : around.Demands → Renders stamper records time := by
      intro hdemands
      -- The first record tells the text of the input, so that there has to be one.
      rcases hshown : (ofParts stamper records time).text with cause | shown
      · rw [hshown, Except.map, Pipeline.logging_error hdemands] at happly
        cases happly
      · exact (exists_text_ofParts hcallable).mp ⟨shown, hshown⟩
    refine ⟨?_, hrenders⟩
    rcases kept_cases stamper with hkept | hkept
    · exact hkept
    · rw [Pipeline.logging_noting fun hdemands =>
        Wording.exists_map.mpr ((exists_text_ofParts hcallable).mpr (hrenders hdemands))] at happly
      simp only [materialize_of_not_kept hcallable hkept] at happly
      cases happly
  · rintro ⟨hkept, hrenders⟩
    exact ⟨_, by rw [apply_ofParts hcallable hkept hrenders]⟩

/-- If an input becomes a collection, it is the one of its read, and nothing is left behind but the
records for debugging. -/
theorem collection_of_apply_ofParts {around after : Surroundings} {collection : Collection}
    (hcallable : stamper.isCallable = true)
    (happly : Pipeline.apply (.input (.unbounded (ofParts stamper records time))) around =
      (.ok collection, after)) :
    collection = ⟨Source.ofParts stamper records time, records.isSome || time.isSome⟩ ∧
      collection.open? = .ok (Reader.ofParts stamper records time) ∧
      after = around.noting (appliedTexts stamper records time) := by
  obtain ⟨hkept, hrenders⟩ := (exists_apply_ofParts hcallable).mp ⟨collection, by rw [happly]⟩
  rw [apply_ofParts hcallable hkept hrenders] at happly
  obtain ⟨hcollection, rfl⟩ := Prod.mk.inj happly
  cases hcollection
  exact ⟨rfl, open?_ofParts, rfl⟩

end Parts

/-- Applies an input to a pipeline and reads the collection to its end. -/
def readOut (input : UnboundedInput) (around : Surroundings) : Except Failure Taken :=
  match Pipeline.apply (.input (.unbounded input)) around with
  | (.error cause, _) => .error cause
  | (.ok collection, around) => collection.open?.map fun reader => reader.drain around

/-- What calls come to that last set these values: from the calls to the input, from the input to
the collection, and from the collection to its reader. -/
structure BuilderLaw (calls : List Change) (stamper : Stamper) (records : Option Count)
    (time : Option Duration) : Prop where
  /-- Each field of the input has the value that was last set. -/
  input : build calls = ofParts stamper records time
  /-- If no call is refused, that is what comes out of the calls made one after the other. -/
  chain : ∀ input, calls.foldlM (fun input call => call.apply input) unlimited = .ok input →
    build calls = input
  /-- A call that is refused is refused on every other input too, and leaves no trace. -/
  refused : ∀ before call after cause, calls = before ++ call :: after →
    call.apply (build before) = .error cause →
    (∀ other, call.apply other = .error cause) ∧ build calls = build (before ++ after)
  /-- Where a record is dropped whose text cannot be put together, or none is wanted for debugging,
  the input becomes a collection just when its stamper can be kept. -/
  applies : ∀ around : Surroundings, ¬ around.Demands →
    ((∃ collection,
        (Pipeline.apply (.input (.unbounded (build calls))) around).1 = .ok collection) ↔
      stamper.kept = .ok stamper)
  /-- The collection is the one of the read with these limits and bounded just when there is one,
  its reader has not taken a step, and nothing has been done but to log texts for debugging. -/
  collection : ∀ around collection after,
    Pipeline.apply (.input (.unbounded (build calls))) around = (.ok collection, after) →
    collection = ⟨Source.ofParts stamper records time, records.isSome || time.isSome⟩ ∧
      collection.open? = .ok (Reader.ofParts stamper records time) ∧
      after = around.noting (appliedTexts stamper records time)
  /-- The second of these texts names the limits that there are. -/
  limits : (∀ count, records = some count → Number.Writable count.value) →
    (∀ duration, time = some duration → Number.Writable duration.nanos) →
    Pipeline.limitsMessage (build calls) = .ok (limitsText records time)
  /-- If records for debugging are wanted, the texts that can be written make one record each. -/
  recorded : ∀ around : Surroundings, around.verbose = true → Renders stamper records time →
    ∃ shown shownRead, (ofParts stamper records time).text = .ok shown ∧
      (Source.ofParts stamper records time).text = .ok shownRead ∧
      around.debugging (appliedTexts stamper records time) =
        appliedRecords shown shownRead records time
  /-- Other calls that last set the same values make the same input, the same collection, and the
  same elements, readings of the clocks and records when it is read to its end. -/
  same : ∀ others, (Change.last Change.stamper? others).getD .now = stamper →
    Change.last Change.records? others = records → Change.last Change.readTime? others = time →
    build others = build calls ∧
      ∀ around, Pipeline.apply (.input (.unbounded (build others))) around =
          Pipeline.apply (.input (.unbounded (build calls))) around ∧
        readOut (build others) around = readOut (build calls) around

/-- Whatever calls are made, in any order and with any repetitions, their last values are all that
counts. -/
theorem builder_law (calls : List Change) :
    BuilderLaw calls ((Change.last Change.stamper? calls).getD .now)
      (Change.last Change.records? calls) (Change.last Change.readTime? calls) := by
  have hinput := build_eq calls
  have hcallable := Change.isCallable_last calls
  refine ⟨hinput, fun input hchain => build_of_chain hchain, ?_, ?_, ?_, ?_, ?_, ?_⟩
  · rintro before call after cause rfl hcall
    exact build_refused hcall
  · intro around hdemands
    rw [hinput, exists_apply_ofParts hcallable]
    exact ⟨And.left, fun hkept => ⟨hkept, fun h => absurd h hdemands⟩⟩
  · intro around collection after happly
    rw [hinput] at happly
    exact collection_of_apply_ofParts hcallable happly
  · intro hwritable hamount
    rw [hinput]
    exact limitsMessage_ofParts hwritable hamount
  · exact fun around => debugging_appliedTexts hcallable
  · intro others hstamper hrecords htime
    have hsame : build others = build calls := by
      rw [build_eq others, hinput, hstamper, hrecords, htime]
    rw [hsame]
    exact ⟨rfl, fun around => ⟨rfl, rfl⟩⟩

/-- A call may be accepted, and still no collection come of the input: a stamper that can be called,
but not be kept, is refused by the pipeline, whatever becomes of the log. -/
theorem accepted_call_not_applied :
    let unkept : Change := .stamper (.ofFormula ⟨.unkept, 0, 0⟩)
    (∃ input, unkept.apply unlimited = .ok input) ∧
      ¬ ∃ collection, (Pipeline.apply (.input (.unbounded (build [unkept])))
        (.still Surroundings.usualLargest)).1 = .ok collection := by
  intro unkept
  refine ⟨⟨_, rfl⟩, ?_⟩
  intro happlied
  have hbuild : build [unkept] = ofParts (.ofFormula ⟨.unkept, 0, 0⟩) none none := rfl
  rw [hbuild, exists_apply_ofParts rfl] at happlied
  cases happlied.1

end UnboundedInput

end NumberFeed
