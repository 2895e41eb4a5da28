import NumberFeed.Proofs.Input.Validated
import NumberFeed.Proofs.Value.CountDecision

/-!
# Counts and read times, wherever they are given

A count can be given in six places: to make a bounded input, a bounded source or an unbounded input,
and to change an unbounded input, a read without limits or a read with limits. The inputs stand in
front of the sources and the reads: what an input has been given is handed on when it is applied, and
checked once more. So all places have to decide alike, or an input that was accepted would be refused
late. `Value.checks_agree` says that each of the six comes to the same `Count.Decision`, that a read
time is decided alike by inputs and by reads, and that to apply an input that was changed is to make
the same change to the read that is applied.
-/

namespace NumberFeed

/-! ## Read times -/

namespace Duration

variable {α : Type} {make : Duration → α} {value : Value}

/-- What has to come of a value that must be a read time. -/
structure Decision (make : Duration → α) (value : Value) (result : Except Failure α) : Prop where
  /-- A duration is let through and kept as it is. -/
  duration : ∀ d, value = .duration d → result = .ok (make d)
  /-- A calendar span is let through as the duration that is equal to it. -/
  span : ∀ s, value = .span s → result = .ok (make (.ofSpan s))
  /-- Nothing else is let through; its type is told. -/
  other : (∀ d, value ≠ .duration d) → (∀ s, value ≠ .span s) →
    ∃ reason, result = .error (.refused reason) ∧
      reason.message = if value.isNull then "read_time cannot be None"
        else "read_time must be a Duration, got " ++ value.typeName

/-- To check a read time and to make something of the duration is decided as said. -/
theorem decision_ofReadTime (make : Duration → α) (value : Value) :
    Decision make value ((ofReadTime value).map make) where
  duration d hd := by
    rw [hd]
    rfl
  span s hs := by
    rw [hs]
    rfl
  other hduration hspan := by
    cases value with
    | duration d => exact absurd rfl (hduration d)
    | span s => exact absurd rfl (hspan s)
    | _ => exact ⟨_, rfl, rfl⟩

end Duration

/-! ## Changes of an input and of its read -/

namespace Source

variable {limits : Limits} {source : Source} {value : Value}

/-- A number of records is put on a read without limits if it is a count. -/
theorem withMaxRecords_read : withMaxRecords value (.read false source) =
    (Count.ofRecords value).map fun count => .limited ⟨some count, none⟩ source := by
  rw [withMaxRecords, limitWith]
  cases Count.ofRecords value <;> rfl

/-- So it is on a read with limits, of which the read time stays. -/
theorem withMaxRecords_limited : withMaxRecords value (.limited limits source) =
    (Count.ofRecords value).map fun count => .limited ⟨some count, limits.time⟩ source := by
  rw [withMaxRecords, limitWith]
  cases Count.ofRecords value <;> rfl

/-- A read time is put on a read without limits if it can be converted. -/
theorem withMaxReadTime_read : withMaxReadTime value (.read false source) =
    (Duration.ofReadTime value).map fun time => .limited ⟨none, some time⟩ source := by
  rw [withMaxReadTime, limitWith]
  cases Duration.ofReadTime value <;> rfl

/-- So it is on a read with limits, of which the number of records stays. -/
theorem withMaxReadTime_limited : withMaxReadTime value (.limited limits source) =
    (Duration.ofReadTime value).map fun time => .limited ⟨limits.records, some time⟩ source := by
  rw [withMaxReadTime, limitWith]
  cases Duration.ofReadTime value <;> rfl

/-- The read that an input stands for gets another number of records. -/
theorem withMaxRecords_ofParts {stamper : Stamper} {records : Option Count}
    {time : Option Duration} : withMaxRecords value (.ofParts stamper records time) =
      (Count.ofRecords value).map fun count => .ofParts stamper (some count) time := by
  cases records with
  | none =>
    cases time with
    | none => exact withMaxRecords_read
    | some time => exact withMaxRecords_limited
  | some earlier => exact withMaxRecords_limited

/-- The read that an input stands for gets another read time. -/
theorem withMaxReadTime_ofParts {stamper : Stamper} {records : Option Count}
    {time : Option Duration} : withMaxReadTime value (.ofParts stamper records time) =
      (Duration.ofReadTime value).map fun time => .limited ⟨records, some time⟩ (.counting stamper) := by
  cases records with
  | none =>
    cases time with
    | none => exact withMaxReadTime_read
    | some earlier => exact withMaxReadTime_limited
  | some count => exact withMaxReadTime_limited

end Source

namespace UnboundedInput

variable {input changed : UnboundedInput} {value : Value}

/-- The read time that an input has when it is applied: none if it has been given none, and otherwise
the duration that this is. -/
def readTime (input : UnboundedInput) : Except Failure (Option Duration) :=
  if input.maxReadTime.isNull then .ok none else (Duration.ofReadTime input.maxReadTime).map some

/-- A number of records that is accepted is a count, and the only thing that changes. -/
theorem exists_of_withMaxRecords (h : input.withMaxRecords value = .ok changed) :
    ∃ count : Count, value = .int count.value ∧
      changed = { input with maxRecords := some count } := by
  obtain ⟨count, hcount, hchanged⟩ := exists_of_map_eq_ok h
  exact ⟨count, Count.ofRecords_eq_ok_iff.mp hcount, hchanged⟩

/-- A read time that is accepted can be converted, and is the only thing that changes. -/
theorem exists_of_withMaxReadTime (h : input.withMaxReadTime value = .ok changed) :
    ∃ time, Duration.ofReadTime value = .ok time ∧
      changed = { input with maxReadTime := .duration time } :=
  exists_of_map_eq_ok h

end UnboundedInput

namespace Pipeline

variable {input changed : UnboundedInput} {value : Value} {stamper : Stamper}

/-- The read of an input without a read time. -/
theorem limitedRead_of_isNull (h : input.maxReadTime.isNull = true) :
    limitedRead input (.counting stamper) =
      .ok (Source.ofParts stamper input.maxRecords none) := by
  have hnull : input.maxReadTime = .null := by
    cases htime : input.maxReadTime with
    | null => rfl
    | _ =>
      rw [htime] at h
      cases h
  have hparts : limitedRead input (.counting stamper) =
      limitedRead (.ofParts stamper input.maxRecords none) (.counting stamper) := by
    unfold limitedRead
    rw [hnull]
    rfl
  rw [hparts, UnboundedInput.limitedRead_ofParts]

/-- The read of an input has the input's number of records, and its read time if that can be
converted. -/
theorem limitedRead_counting (input : UnboundedInput) (stamper : Stamper) :
    limitedRead input (.counting stamper) =
      input.readTime.map (Source.ofParts stamper input.maxRecords) := by
  unfold UnboundedInput.readTime
  cases hnull : input.maxReadTime.isNull with
  | true =>
    rw [limitedRead_of_isNull hnull]
    rfl
  | false =>
    have hparts (time : Duration) : Source.ofParts stamper input.maxRecords (some time) =
        .limited ⟨input.maxRecords, some time⟩ (.counting stamper) := by
      rw [Source.ofParts, if_neg (by simp)]
    rw [limitedRead_of_time hnull, if_neg Bool.false_ne_true]
    cases Duration.ofReadTime input.maxReadTime with
    | error cause => rfl
    | ok time =>
      show Except.ok _ = Except.ok (Source.ofParts stamper input.maxRecords (some time))
      rw [hparts]

/-- An input has the read that it would have without a number of records, with that put on. -/
theorem limitedRead_records (input : UnboundedInput) (count : Count) :
    limitedRead { input with maxRecords := some count } (.counting stamper) =
      limitedRead input (.counting stamper) >>= Source.withMaxRecords (.int count.value) := by
  have hcount : Count.ofRecords (.int count.value) = .ok count := Count.ofValue_of_count _ count
  rw [limitedRead_counting, limitedRead_counting]
  show input.readTime.map (Source.ofParts stamper (some count)) = _
  cases input.readTime with
  | error cause => rfl
  | ok time =>
    show _ = Source.withMaxRecords (.int count.value) (.ofParts stamper input.maxRecords time)
    rw [Source.withMaxRecords_ofParts, hcount]
    rfl

/-- To put a number of records on an input is to put it on the read of the input. -/
theorem limitedRead_withMaxRecords (h : input.withMaxRecords value = .ok changed) :
    limitedRead changed (.counting stamper) =
      limitedRead input (.counting stamper) >>= Source.withMaxRecords value := by
  obtain ⟨count, rfl, rfl⟩ := UnboundedInput.exists_of_withMaxRecords h
  exact limitedRead_records input count

/-- To put a read time on an input is to put it on the read that the input would have without. -/
theorem limitedRead_withMaxReadTime (h : input.withMaxReadTime value = .ok changed) :
    limitedRead changed (.counting stamper) =
      limitedRead { input with maxReadTime := .null } (.counting stamper) >>=
        Source.withMaxReadTime value := by
  obtain ⟨time, htime, rfl⟩ := UnboundedInput.exists_of_withMaxReadTime h
  rw [limitedRead_of_time rfl, limitedRead_of_isNull rfl]
  show _ = Source.withMaxReadTime value (.ofParts stamper input.maxRecords none)
  rw [Source.withMaxReadTime_ofParts, htime]
  rfl

/-- A number of records does not keep an input from having a read. -/
theorem exists_limitedRead_records {input : UnboundedInput} {read : Source} (count : Count)
    (hread : limitedRead input (.counting stamper) = .ok read) :
    ∃ limited, limitedRead { input with maxRecords := some count } (.counting stamper) =
      .ok limited := by
  rw [limitedRead_counting] at hread
  obtain ⟨time, htime, -⟩ := exists_of_map_eq_ok hread
  refine ⟨.ofParts stamper (some count) time, ?_⟩
  rw [limitedRead_counting]
  show input.readTime.map (Source.ofParts stamper (some count)) = _
  rw [htime]
  rfl

/-- To make an input with a number of records is to put it on the read that the input would have
without, and does not keep it from having one. -/
theorem limitedRead_make {time : Value} (hnull : value ≠ .null)
    (h : UnboundedInput.make stamper value time = .ok changed) :
    ∃ bare, UnboundedInput.make stamper .null time = .ok bare ∧ ∀ kept,
      limitedRead changed (.counting kept) =
        limitedRead bare (.counting kept) >>= Source.withMaxRecords value ∧
      ∀ read, limitedRead bare (.counting kept) = .ok read →
        ∃ limited, limitedRead changed (.counting kept) = .ok limited := by
  obtain ⟨hcallable, hrecords⟩ := UnboundedInput.make_eq_ok_iff.mp h
  have hbare : UnboundedInput.make stamper .null time = .ok ⟨stamper, none, time⟩ :=
    UnboundedInput.make_eq_ok_iff.mpr ⟨hcallable, .inl ⟨rfl, rfl⟩⟩
  -- As a value is given, it is a count, and the input differs from the other one in it alone.
  obtain ⟨habsent, -⟩ | ⟨count, rfl, rfl⟩ := hrecords
  · exact absurd habsent hnull
  · refine ⟨_, hbare, fun kept => ⟨?_, fun read hread => ?_⟩⟩
    · exact limitedRead_records ⟨stamper, none, time⟩ count
    · exact exists_limitedRead_records count hread

/-- Neither does a number of records that an input is given later. -/
theorem exists_limitedRead_of_records (h : input.withMaxRecords value = .ok changed) {read : Source}
    (hread : limitedRead input (.counting stamper) = .ok read) :
    ∃ limited, limitedRead changed (.counting stamper) = .ok limited := by
  obtain ⟨count, rfl, rfl⟩ := UnboundedInput.exists_of_withMaxRecords h
  exact exists_limitedRead_records count hread

/-- An input that accepts a read time has a read. -/
theorem exists_limitedRead_of_readTime (h : input.withMaxReadTime value = .ok changed) :
    ∃ limited, limitedRead changed (.counting stamper) = .ok limited := by
  obtain ⟨time, -, rfl⟩ := UnboundedInput.exists_of_withMaxReadTime h
  exact ⟨_, limitedRead_of_time rfl⟩

end Pipeline

/-! ## All places together -/

namespace Value

/-- The places in which a value has to be a count. -/
structure CountChecks (value : Value) : Prop where
  /-- A bounded input is made of it. -/
  boundedInput : Count.Decision "num_elements (" ") must be greater than 0" BoundedInput.mk value
    (BoundedInput.make value)
  /-- A bounded source is made of it. -/
  boundedSource : Count.Decision "num_elements (" ") must be greater than 0"
    (fun count => Source.range 0 count.value) value (Source.upTo value)
  /-- An unbounded input is made with it. -/
  unboundedInput : value ≠ .null → ∀ stamper time, stamper.isCallable = true →
    Count.Decision "max_num_records must be a positive (nonzero) value. Got " ""
      (fun count => ⟨stamper, some count, time⟩) value (UnboundedInput.make stamper value time)
  /-- An unbounded input is changed. -/
  changedInput : ∀ input : UnboundedInput,
    Count.Decision "max_num_records must be a positive (nonzero) value. Got " ""
      (fun count => { input with maxRecords := some count }) value (input.withMaxRecords value)
  /-- A read without limits gets its first one. -/
  unlimitedRead : ∀ source,
    Count.Decision "max_num_records must be a positive (nonzero) value. Got " ""
      (fun count => Source.limited ⟨some count, none⟩ source) value
      (Source.withMaxRecords value (.read false source))
  /-- A read with limits is changed. -/
  limitedRead : ∀ (limits : Limits) (source : Source),
    Count.Decision "max_num_records must be a positive (nonzero) value. Got " ""
      (fun count => Source.limited ⟨some count, limits.time⟩ source) value
      (Source.withMaxRecords value (.limited limits source))

/-- The places in which a value has to be a read time. -/
structure ReadTimeChecks (value : Value) : Prop where
  /-- An unbounded input is changed. -/
  changedInput : ∀ input : UnboundedInput, Duration.Decision
    (fun time => { input with maxReadTime := .duration time }) value (input.withMaxReadTime value)
  /-- A read without limits gets its first one. -/
  unlimitedRead : ∀ source, Duration.Decision
    (fun time => Source.limited ⟨none, some time⟩ source) value
    (Source.withMaxReadTime value (.read false source))
  /-- A read with limits is changed. -/
  limitedRead : ∀ (limits : Limits) (source : Source), Duration.Decision
    (fun time => Source.limited ⟨limits.records, some time⟩ source) value
    (Source.withMaxReadTime value (.limited limits source))

/-- What an input makes of a value that it has been given, when it is applied. -/
structure HandedOn (value : Value) : Prop where
  /-- A bounded input applies the read of the source that is made of the same value. -/
  elements : ∀ input, BoundedInput.make value = .ok input →
    ∃ read, Source.upTo value >>= Source.ofRead true = .ok read ∧
      ∀ around, Pipeline.materialize (.bounded input) around = Pipeline.applyRead read around
  /-- An unbounded input that was made with a number of records puts it on the read that it would
  have without, and has a read if it would have one without. -/
  madeRecords : value ≠ .null → ∀ stamper time input,
    UnboundedInput.make stamper value time = .ok input →
    ∃ bare, UnboundedInput.make stamper .null time = .ok bare ∧ ∀ kept,
      Pipeline.limitedRead input (.counting kept) =
        Pipeline.limitedRead bare (.counting kept) >>= Source.withMaxRecords value ∧
      ∀ read, Pipeline.limitedRead bare (.counting kept) = .ok read →
        ∃ limited, Pipeline.limitedRead input (.counting kept) = .ok limited
  /-- One that was given a number of records puts it on the read that it had. -/
  records : ∀ input changed : UnboundedInput, input.withMaxRecords value = .ok changed → ∀ kept,
    Pipeline.limitedRead changed (.counting kept) =
      Pipeline.limitedRead input (.counting kept) >>= Source.withMaxRecords value
  /-- One that was given a read time puts it on the read that it would have without. -/
  readTime : ∀ input changed : UnboundedInput, input.withMaxReadTime value = .ok changed → ∀ kept,
    Pipeline.limitedRead changed (.counting kept) =
      Pipeline.limitedRead { input with maxReadTime := .null } (.counting kept) >>=
        Source.withMaxReadTime value
  /-- A number of records that was accepted is not rejected then: the input has a read if it had one
  before. -/
  recordsKept : ∀ input changed : UnboundedInput, input.withMaxRecords value = .ok changed →
    ∀ kept read, Pipeline.limitedRead input (.counting kept) = .ok read →
      ∃ limited, Pipeline.limitedRead changed (.counting kept) = .ok limited
  /-- Neither is a read time that was accepted. -/
  readTimeKept : ∀ input changed : UnboundedInput, input.withMaxReadTime value = .ok changed →
    ∀ kept, ∃ limited, Pipeline.limitedRead changed (.counting kept) = .ok limited

/-- Numbers of elements are refused in the words of the first template. -/
theorem decision_elements {α : Type} (make : Count → α) (value : Value) :
    Count.Decision "num_elements (" ") must be greater than 0" make value
      ((Count.ofValue (.countNotPositive "num_elements") value).map make) :=
  Count.decision_ofValue (by decide) (by decide) (fun _ => rfl) make value

/-- Numbers of records are refused in the words of the second one. -/
theorem decision_records {α : Type} (make : Count → α) (value : Value) :
    Count.Decision "max_num_records must be a positive (nonzero) value. Got " "" make value
      ((Count.ofRecords value).map make) :=
  Count.decision_ofValue (by decide) (by decide) (fun shown => (String.append_empty).symm) make value

/-- The six places decide about every value as said. -/
theorem countChecks (value : Value) : CountChecks value where
  boundedInput := decision_elements _ value
  boundedSource := decision_elements _ value
  unboundedInput hnull stamper time hcallable := by
    have hmake : UnboundedInput.make stamper value time =
        (Count.ofRecords value).map fun count => ⟨stamper, some count, time⟩ := by
      rw [UnboundedInput.make, if_pos hcallable]
      exact hnull
    rw [hmake]
    exact decision_records _ value
  changedInput _ := decision_records _ value
  unlimitedRead _ := by
    rw [Source.withMaxRecords_read]
    exact decision_records _ value
  limitedRead _ _ := by
    rw [Source.withMaxRecords_limited]
    exact decision_records _ value

/-- So do the places for a read time. -/
theorem readTimeChecks (value : Value) : ReadTimeChecks value where
  changedInput _ := Duration.decision_ofReadTime _ value
  unlimitedRead _ := by
    rw [Source.withMaxReadTime_read]
    exact Duration.decision_ofReadTime _ value
  limitedRead _ _ := by
    rw [Source.withMaxReadTime_limited]
    exact Duration.decision_ofReadTime _ value

/-- A bounded input applies the read of the source that is made of the same value. -/
theorem materialize_of_make {value : Value} {input : BoundedInput}
    (h : BoundedInput.make value = .ok input) :
    ∃ read, Source.upTo value >>= Source.ofRead true = .ok read ∧
      ∀ around, Pipeline.materialize (.bounded input) around = Pipeline.applyRead read around := by
  obtain ⟨count, rfl⟩ := (countChecks value).boundedInput.counted input h
  have hinput := (countChecks (.int count.value)).boundedInput.accepted count rfl
  have hsource := (countChecks (.int count.value)).boundedSource.accepted count rfl
  obtain rfl : BoundedInput.mk count = input := Except.ok.inj (hinput.symm.trans h)
  refine ⟨.read true (.range 0 count.value), ?_, Pipeline.materialize_bounded ⟨count⟩⟩
  rw [hsource]
  rfl

/-- What an input has been given is handed on as said. -/
theorem handedOn (value : Value) : HandedOn value where
  elements _ h := materialize_of_make h
  madeRecords hnull _ _ _ h := Pipeline.limitedRead_make hnull h
  records _ _ h _ := Pipeline.limitedRead_withMaxRecords h
  readTime _ _ h _ := Pipeline.limitedRead_withMaxReadTime h
  recordsKept _ _ h _ _ hread := Pipeline.exists_limitedRead_of_records h hread
  readTimeKept _ _ h _ := Pipeline.exists_limitedRead_of_readTime h

/-- About every value all places agree, and what they accept is not rejected later. -/
theorem checks_agree (value : Value) :
    CountChecks value ∧ ReadTimeChecks value ∧ HandedOn value :=
  ⟨countChecks value, readTimeChecks value, handedOn value⟩

end Value

end NumberFeed
