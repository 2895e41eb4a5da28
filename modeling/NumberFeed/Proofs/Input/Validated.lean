import NumberFeed.Proofs.Input.Configured
import NumberFeed.Proofs.Value.Rendering

/-!
# What inputs are checked for, and when

An unbounded input is valid if its stamper can be called, its number of records is positive and its
read time is a duration, where there is one. Everything that makes or changes an input checks what it
is given, with one exception: the read time that an input is made with is taken as it is. So an input
is valid if the read times that inputs are made with are, and only then
(`UnboundedInput.validation`). Where one is not, the input is refused only when it is applied to a
pipeline, and this is the only refusal that comes so late (`Pipeline.apply_refused_iff`). A calendar
span as read time is not refused then either: it is converted like the one of a call.
-/

namespace NumberFeed

namespace Pipeline

/-! ## What a pipeline refuses -/

section Logging

variable {α : Type} {origin : Origin} {message : Except Failure String}
  {next : Surroundings → Result α} {around : Surroundings} {reason : Refusal}

/-- What is logged on the way is no refusal, but a text that is demanded has to be there for what
comes after it. -/
theorem logging_refused_iff {refuses : Prop} (hmessage : Unrefused message)
    (hnext : ∀ after : Surroundings, (after.Demands ↔ around.Demands) →
      ((next after).1 = .error (.refused reason) ↔ refuses)) :
    (logging origin message next around).1 = .error (.refused reason) ↔
      (around.Demands → ∃ text, message = .ok text) ∧ refuses := by
  by_cases htext : around.Demands → ∃ text, message = .ok text
  · rw [logging_noting htext, hnext _ (Surroundings.demands_noting _)]
    exact ⟨fun h => ⟨htext, h⟩, And.right⟩
  · obtain ⟨hdemands, hnone⟩ := Classical.not_imp.mp htext
    rcases message with cause | text
    · rw [logging_error hdemands]
      constructor
      · intro h
        exact absurd (congrArg Except.error (Except.error.inj h)) (hmessage reason)
      · exact fun h => absurd h.1 htext
    · exact absurd ⟨text, rfl⟩ hnone

end Logging

/-- A read is never refused. -/
theorem unrefused_applyRead (source : Source) (around : Surroundings) :
    Unrefused (applyRead source around).1 := by
  intro reason h
  have hread : ∀ after : Surroundings, (after.Demands ↔ around.Demands) →
      ((ofRead source, after).1 = .error (.refused reason) ↔ False) := by
    intro after _
    cases source <;> simp [ofRead]
  exact ((logging_refused_iff (source.unrefused_text.map _) hread).mp h).2

/-- The limits of an input are named without a refusal. -/
theorem unrefused_limitsMessage (input : UnboundedInput) : Unrefused (limitsMessage input) := by
  unfold limitsMessage
  dsimp only
  have htime := Value.unrefused_render false input.maxReadTime
  split
  · exact Unrefused.ok _
  · rename_i records _ hrecords
    obtain ⟨count, -, rfl⟩ := Option.map_eq_some_iff.mp hrecords
    exact (Number.unrefused_write _).map _
  · rename_i time _ hsome _
    split at hsome
    · cases hsome
    · obtain rfl := Option.some.inj hsome
      exact htime.map _
  · rename_i time records hsome hrecords
    obtain ⟨count, -, rfl⟩ := Option.map_eq_some_iff.mp hrecords
    split at hsome
    · cases hsome
    · obtain rfl := Option.some.inj hsome
      exact htime.bind fun _ => (Number.unrefused_write _).bind fun _ => Unrefused.ok _

section LimitedRead

variable {input : UnboundedInput} {stamper : Stamper} {reason : Refusal}

/-- A number of records that is a count can be put on every read of a count. -/
theorem withMaxRecords_count (count : Count) (limits : Limits) :
    Source.withMaxRecords (.int count.value) (.limited limits (.counting stamper)) =
        .ok (.limited { limits with records := some count } (.counting stamper)) ∧
      Source.withMaxRecords (.int count.value) (.read false (.counting stamper)) =
        .ok (.limited { Limits.none with records := some count } (.counting stamper)) := by
  have hcount : Count.ofRecords (.int count.value) = .ok count := by
    rw [Count.ofRecords, Count.ofValue, Count.ofValue?_eq_some_iff.mpr rfl]
  simp only [Source.withMaxRecords, Source.limitWith, hcount, Except.map, and_self]

/-- Without a read time there is nothing that could be refused. -/
theorem exists_limitedRead_of_isNull (h : input.maxReadTime.isNull = true) :
    ∃ read, limitedRead input (.counting stamper) = .ok read := by
  have hread : Source.ofRead false (.counting stamper) = .ok (.read false (.counting stamper)) := rfl
  unfold limitedRead
  rw [hread, h]
  dsimp only [bind, Except.bind]
  rw [if_pos rfl]
  rcases input.maxRecords with _ | count
  · exact ⟨_, rfl⟩
  · exact ⟨_, (withMaxRecords_count count .none).2⟩

/-- With a read time the read of an input is there just when the read time can be converted. -/
theorem limitedRead_of_time (h : input.maxReadTime.isNull = false) :
    limitedRead input (.counting stamper) = (Duration.ofReadTime input.maxReadTime).map fun time =>
      .limited ⟨input.maxRecords, some time⟩ (.counting stamper) := by
  have htimed : Source.withMaxReadTime input.maxReadTime (.read false (.counting stamper)) =
      (Duration.ofReadTime input.maxReadTime).map fun time =>
        .limited ⟨none, some time⟩ (.counting stamper) := by
    show ((Duration.ofReadTime input.maxReadTime).map fun time =>
      ({ Limits.none with time := some time } : Limits)).map _ = _
    cases Duration.ofReadTime input.maxReadTime <;> rfl
  have hread : Source.ofRead false (.counting stamper) = .ok (.read false (.counting stamper)) := rfl
  unfold limitedRead
  rw [hread, h]
  dsimp only [bind, Except.bind]
  rw [if_neg Bool.false_ne_true, htimed]
  rcases Duration.ofReadTime input.maxReadTime with cause | time
  · rfl
  · rcases input.maxRecords with _ | count
    · rfl
    · exact (withMaxRecords_count count ⟨none, some time⟩).1

/-- Of the limits of an input only the read time can be refused, because the number of records is a
count. -/
theorem limitedRead_refused_iff :
    limitedRead input (.counting stamper) = .error (.refused reason) ↔
      input.maxReadTime.isNull = false ∧
        Duration.ofReadTime input.maxReadTime = .error (.refused reason) := by
  rcases hnull : input.maxReadTime.isNull with _ | _
  · rw [limitedRead_of_time hnull]
    rcases Duration.ofReadTime input.maxReadTime with cause | time
    · simp [Except.map]
    · simp [Except.map]
  · obtain ⟨read, hread⟩ := @exists_limitedRead_of_isNull input stamper hnull
    simp [hread]

end LimitedRead

/-- Where the read of an input is applied, nothing is refused but the read itself. -/
theorem applied_refused_iff {read : Except Failure Source} {around : Surroundings}
    {reason : Refusal} :
    (match read with
      | .error cause => ((.error cause, around) : Result Collection)
      | .ok read => applyRead read around).1 = .error (.refused reason) ↔
      read = .error (.refused reason) := by
  rcases read with cause | read
  · exact ⟨fun h => congrArg Except.error (Except.error.inj h),
      fun h => congrArg Except.error (Except.error.inj h)⟩
  · constructor
    · exact fun h => absurd h (unrefused_applyRead read around reason)
    · intro h
      cases h

/-- An input with a stamper that can be called is refused when it is applied just when its read time
is, provided that its stamper can be kept and that the texts are there that are demanded. -/
theorem apply_refused_iff {input : UnboundedInput} (hcallable : input.stamper.isCallable = true)
    (around : Surroundings) (reason : Refusal) :
    (apply (.input (.unbounded input)) around).1 = .error (.refused reason) ↔
      (around.Demands → ∃ text, input.text = .ok text) ∧
        input.stamper.kept = .ok input.stamper ∧
        (around.Demands → ∃ text, limitsMessage input = .ok text) ∧
        input.maxReadTime.isNull = false ∧
        Duration.ofReadTime input.maxReadTime = .error (.refused reason) := by
  have htext : Unrefused input.text :=
    (Stamper.unrefused_literal _).bind fun _ => (Value.unrefused_render true _).bind fun _ =>
      Wording.unrefused_unboundedInput _ _ _
  have hsource := UnboundedInput.ofStamper_of_isCallable hcallable
  have hmaterialize : ∀ after : Surroundings, (after.Demands ↔ around.Demands) →
      ((materialize (.unbounded input) after).1 = .error (.refused reason) ↔
        input.stamper.kept = .ok input.stamper ∧
          (around.Demands → ∃ text, limitsMessage input = .ok text) ∧
          input.maxReadTime.isNull = false ∧
          Duration.ofReadTime input.maxReadTime = .error (.refused reason)) := by
    intro after hdemands
    -- A stamper is kept as it is or not at all.
    rcases UnboundedInput.kept_cases input.stamper with hkept | hkept
    · rw [hkept] at hsource
      dsimp only [materialize]
      rw [hsource, ← hdemands]
      refine (logging_refused_iff (unrefused_limitsMessage input) fun later _ =>
        applied_refused_iff.trans limitedRead_refused_iff).trans ?_
      exact ⟨fun h => ⟨hkept, h⟩, And.right⟩
    · -- What cannot be kept is a failure that is no refusal.
      rw [hkept] at hsource
      dsimp only [materialize]
      rw [hsource, hkept]
      constructor
      · intro h
        cases h
      · rintro ⟨⟨⟩, -⟩
  have hshown : (∃ text, (Transform.input (.unbounded input)).text.map
      (fun shown => "Applying " ++ shown ++ " to the pipeline root") = .ok text) ↔
      ∃ text, input.text = .ok text := Wording.exists_map
  rw [← hshown]
  exact logging_refused_iff (htext.map _) hmaterialize

/-- An input of so many numbers is never refused when it is applied. -/
theorem unrefused_apply_bounded (input : BoundedInput) (around : Surroundings) :
    Unrefused (apply (.input (.bounded input)) around).1 := by
  intro reason h
  have hread : ∀ after : Surroundings, (after.Demands ↔ around.Demands) →
      ((materialize (.bounded input) after).1 = .error (.refused reason) ↔ False) := by
    intro after _
    rw [materialize_bounded]
    exact iff_false_intro (unrefused_applyRead _ after reason)
  exact ((logging_refused_iff ((Wording.unrefused_boundedInput _).map _) hread).mp h).2

end Pipeline

namespace Duration

/-- Whether a value is a read time: a duration, or a calendar span, which is converted to one. -/
def IsReadTime (time : Value) : Prop :=
  (∃ d, time = .duration d) ∨ ∃ s, time = .span s

/-- A value is refused as a read time just when it is none. -/
theorem exists_refused_ofReadTime {time : Value} :
    (∃ reason, ofReadTime time = .error (.refused reason)) ↔ ¬ IsReadTime time := by
  unfold IsReadTime ofReadTime
  cases time <;> simp

end Duration

namespace Count

/-- A value is accepted as a number of records just when it is a positive integer. -/
theorem ofRecords_eq_ok_iff {value : Value} {count : Count} :
    ofRecords value = .ok count ↔ value = .int count.value := by
  rw [← ofValue?_eq_some_iff, ofRecords, ofValue]
  rcases ofValue? value with _ | found
  · obtain ⟨cause, hcause⟩ :=
      @UnboundedInput.Change.exists_refused Count value.shown .recordsNotPositive
    dsimp only
    rw [hcause]
    constructor
    · intro h
      cases h
    · intro h
      cases h
  · exact ⟨fun h => congrArg some (Except.ok.inj h), fun h => congrArg Except.ok (Option.some.inj h)⟩

end Count

namespace UnboundedInput

/-! ## What makes and changes inputs -/

/-- What an input that is made of parts is checked for: the stamper and the number of records. The
read time may be anything. -/
theorem make_eq_ok_iff {stamper : Stamper} {records time : Value} {input : UnboundedInput} :
    make stamper records time = .ok input ↔
      stamper.isCallable = true ∧
        ((records = .null ∧ input = ⟨stamper, none, time⟩) ∨
          ∃ count : Count, records = .int count.value ∧ input = ⟨stamper, some count, time⟩) := by
  unfold make
  by_cases hcallable : stamper.isCallable = true
  · rw [if_pos hcallable]
    split
    · simp [hcallable, eq_comm]
    · rename_i hnull
      rcases hcount : Count.ofRecords records with cause | count
      · constructor
        · intro h
          cases h
        · rintro ⟨-, ⟨rfl, -⟩ | ⟨count, hrecords, -⟩⟩
          · exact absurd rfl hnull
          · rw [Count.ofRecords_eq_ok_iff.mpr hrecords] at hcount
            cases hcount
      · constructor
        · intro h
          exact ⟨hcallable, .inr ⟨count, Count.ofRecords_eq_ok_iff.mp hcount, (Except.ok.inj h).symm⟩⟩
        · rintro ⟨-, ⟨rfl, -⟩ | ⟨found, hrecords, rfl⟩⟩
          · exact absurd rfl hnull
          · rw [Count.ofRecords_eq_ok_iff.mpr hrecords] at hcount
            rw [Except.ok.inj hcount]
            rfl
  · rw [if_neg hcallable]
    obtain ⟨cause, hcause⟩ :=
      @Change.exists_refused UnboundedInput stamper.text .stamperNotCallable
    rw [hcause]
    constructor
    · intro h
      cases h
    · exact fun h => absurd h.1 hcallable

/-- The inputs that can be obtained: by making one of its parts, with a read time of those that are
admitted, by making the one without limits, by making the one of a configuration, and by changing one
with a call that is accepted. -/
inductive Obtained (admits : Value → Prop) : UnboundedInput → Prop
  | made {stamper : Stamper} {records time : Value} {input : UnboundedInput} (admitted : admits time)
      (h : make stamper records time = .ok input) : Obtained admits input
  | unlimited : Obtained admits unlimited
  | ofConfiguration {configuration : Configuration} {input : UnboundedInput}
      (h : Input.ofConfiguration configuration = .ok (.unbounded input)) : Obtained admits input
  | changed {before input : UnboundedInput} {call : Change} (obtained : Obtained admits before)
      (h : call.apply before = .ok input) : Obtained admits input

/-- An input in which everything is what it has to be. -/
structure Valid (input : UnboundedInput) : Prop where
  /-- The stamper can be called. -/
  stamper : input.stamper.isCallable = true
  /-- The number of records is positive, if there is one. -/
  records : ∀ count, input.maxRecords = some count → 0 < count.value
  /-- The read time is a duration, if there is one. -/
  time : input.maxReadTime = .null ∨ ∃ d, input.maxReadTime = .duration d

/-- A call leaves an input with a stamper that can be called. -/
theorem Change.isCallable_set (call : Change) {input : UnboundedInput}
    (h : input.stamper.isCallable = true) : (call.set input).stamper.isCallable = true := by
  unfold Change.set
  dsimp only
  rcases call with s | count | time
  · by_cases hcallable : s.isCallable = true
    · rw [Change.stamper?, if_pos hcallable]
      exact hcallable
    · rw [Change.stamper?, if_neg hcallable]
      exact h
  · exact h
  · exact h

section Obtained

variable {admits : Value → Prop} {input : UnboundedInput}

/-- Every input that can be obtained has a stamper that can be called, and a read time that is a
duration unless one was given when an input was made. -/
theorem Obtained.checked (h : Obtained admits input) :
    input.stamper.isCallable = true ∧
      (input.maxReadTime = .null ∨ (∃ d, input.maxReadTime = .duration d) ∨
        admits input.maxReadTime) := by
  induction h with
  | made admitted h =>
    obtain ⟨hcallable, ⟨-, rfl⟩ | ⟨count, -, rfl⟩⟩ := make_eq_ok_iff.mp h
    · exact ⟨hcallable, .inr (.inr admitted)⟩
    · exact ⟨hcallable, .inr (.inr admitted)⟩
  | unlimited => exact ⟨rfl, .inl rfl⟩
  | ofConfiguration h =>
    obtain ⟨records, time, rfl⟩ := Input.ofConfiguration_ofParts h
    refine ⟨rfl, ?_⟩
    rcases time with _ | d
    · exact .inl rfl
    · exact .inr (.inl ⟨d, rfl⟩)
  | @changed before input call obtained h ih =>
    obtain ⟨hcallable, htime⟩ := ih
    -- A call that is accepted sets one field to what it has checked, and keeps the others.
    rcases call.apply_eq_set_or_refused with haccepted | ⟨cause, hrefused⟩
    · rw [haccepted before] at h
      obtain rfl := Except.ok.inj h
      refine ⟨call.isCallable_set hcallable, ?_⟩
      unfold Change.set
      dsimp only
      rcases call.readTime? with _ | d
      · exact htime
      · exact .inr (.inl ⟨d, rfl⟩)
    · rw [(hrefused before).1] at h
      cases h

/-- An input that can be obtained is valid if its read time is absent or a duration. -/
theorem Obtained.valid_iff (h : Obtained admits input) :
    Valid input ↔ input.maxReadTime = .null ∨ ∃ d, input.maxReadTime = .duration d :=
  ⟨Valid.time, fun htime => ⟨h.checked.1, fun count _ => count.positive, htime⟩⟩

end Obtained

/-- What the checks of inputs come to, if inputs are made of parts with the read times that are
admitted. -/
structure Validation (admits : Value → Prop) : Prop where
  /-- Whatever the read time is, an input can be made just when its stamper can be called and its
  number of records is a positive integer or absent, and it has these parts. -/
  made : ∀ stamper records time input, make stamper records time = .ok input ↔
    stamper.isCallable = true ∧
      ((records = .null ∧ input = ⟨stamper, none, time⟩) ∨
        ∃ count : Count, records = .int count.value ∧ input = ⟨stamper, some count, time⟩)
  /-- Every input that can be obtained has a stamper that can be called, a positive number of records
  if it has one, and a read time that is absent, a duration, or one of those admitted. -/
  checked : ∀ input, Obtained admits input →
    input.stamper.isCallable = true ∧
      (∀ count, input.maxRecords = some count → 0 < count.value) ∧
      (input.maxReadTime = .null ∨ (∃ d, input.maxReadTime = .duration d) ∨
        admits input.maxReadTime)
  /-- All inputs that can be obtained are valid just when only durations and the absent value are
  admitted. -/
  valid : (∀ input, Obtained admits input → Valid input) ↔
    ∀ time, admits time → time = .null ∨ ∃ d, time = .duration d
  /-- An input that can be obtained is refused when it is applied just when its read time is neither
  absent nor a duration nor a calendar span, its stamper can be kept, and the texts are there that
  are demanded. -/
  refused : ∀ input, Obtained admits input → ∀ (around : Surroundings) reason,
    (Pipeline.apply (.input (.unbounded input)) around).1 = .error (.refused reason) ↔
      (around.Demands → ∃ text, input.text = .ok text) ∧
        input.stamper.kept = .ok input.stamper ∧
        (around.Demands → ∃ text, Pipeline.limitsMessage input = .ok text) ∧
        input.maxReadTime.isNull = false ∧
        Duration.ofReadTime input.maxReadTime = .error (.refused reason)
  /-- No input that can be obtained is ever refused when it is applied just when only read times and
  the absent value are admitted. -/
  never : (∀ input, Obtained admits input → ∀ around,
      Unrefused (Pipeline.apply (.input (.unbounded input)) around).1) ↔
    ∀ time, admits time → time = .null ∨ Duration.IsReadTime time
  /-- An input of so many numbers is never refused when it is applied. -/
  bounded : ∀ (input : BoundedInput) around,
    Unrefused (Pipeline.apply (.input (.bounded input)) around).1

/-- Inputs are checked when they are made and changed, except for the read time that an input is made
with. -/
theorem validation (admits : Value → Prop) : Validation admits := by
  have hmade : ∀ time, admits time → Obtained admits ⟨.now, none, time⟩ := fun time htime =>
    .made htime (make_eq_ok_iff.mpr ⟨rfl, .inl ⟨rfl, rfl⟩⟩)
  refine ⟨fun stamper records time input => make_eq_ok_iff, ?_, ?_, ?_, ?_, ?_⟩
  · intro input hinput
    exact ⟨hinput.checked.1, fun count _ => count.positive, hinput.checked.2⟩
  · constructor
    · exact fun hvalid time htime => (hvalid _ (hmade time htime)).time
    · intro hadmits input hinput
      refine hinput.valid_iff.mpr ?_
      rcases hinput.checked.2 with hnull | hduration | hadmitted
      · exact .inl hnull
      · exact .inr hduration
      · exact hadmits _ hadmitted
  · intro input hinput around reason
    exact Pipeline.apply_refused_iff hinput.checked.1 around reason
  · constructor
    · intro hnever time htime
      by_contra hnone
      -- The input that is made with this read time alone is refused without any log.
      obtain ⟨hnull, hreadTime⟩ := not_or.mp hnone
      obtain ⟨reason, hreason⟩ := Duration.exists_refused_ofReadTime.mpr hreadTime
      have hquiet := hnever _ (hmade time htime) (.still Surroundings.usualLargest) reason
      refine hquiet ((Pipeline.apply_refused_iff rfl _ reason).mpr ⟨?_, rfl, ?_, ?_, hreason⟩)
      · exact fun hdemands => absurd hdemands.1 Bool.false_ne_true
      · exact fun hdemands => absurd hdemands.1 Bool.false_ne_true
      · cases time <;> first | rfl | exact absurd rfl hnull
    · intro hadmits input hinput around reason hrefused
      obtain ⟨-, -, -, hnull, htime⟩ :=
        (Pipeline.apply_refused_iff hinput.checked.1 around reason).mp hrefused
      have hnone := Duration.exists_refused_ofReadTime.mp ⟨reason, htime⟩
      rcases hinput.checked.2 with habsent | hduration | hadmitted
      · rw [habsent] at hnull
        cases hnull
      · exact hnone (.inl hduration)
      · rcases hadmits _ hadmitted with habsent | hreadTime
        · rw [habsent] at hnull
          cases hnull
        · exact hnone hreadTime
  · exact Pipeline.unrefused_apply_bounded

/-- An input can be made with an integer as read time: it is not valid, and it is refused only when
it is applied to a pipeline. -/
theorem made_and_refused_late :
    ∃ input, make .now .null (.int 5) = .ok input ∧ Obtained (fun _ => True) input ∧
      ¬ Valid input ∧
      (Pipeline.apply (.input (.unbounded input)) (.still Surroundings.usualLargest)).1 =
        .error (.refused (.readTimeNotDuration "int")) := by
  have hmake : make .now .null (.int 5) = .ok ⟨.now, none, .int 5⟩ := rfl
  refine ⟨⟨.now, none, .int 5⟩, hmake, .made trivial hmake, ?_, rfl⟩
  rintro ⟨-, -, htime | ⟨d, htime⟩⟩
  · cases htime
  · cases htime

end UnboundedInput

end NumberFeed
