import NumberFeed.Program.Counting
import NumberFeed.Proofs.Input.Configured

/-!
# What a request asks for

The program puts the arguments that it is given into a configuration, and makes its input of that. An
argument is given unless it is the absent value: zero, a truth value and the empty text are given.
The given arguments are converted one after the other (`Request.options`), and what input they make
is then settled by the table for configurations (`inputFor_eq`). So whether the input is bounded is
known from the arguments already (`isBounded_of_inputFor`), and that is what the program relies on
when it gives its own timestamps to an input that is not.
-/

namespace NumberFeed.Counting

open Input (elementsName recordsName timeName)

/-- An argument, if it is given. -/
def given? (value : Value) : Option Value := if value.isNull then none else some value

/-- A value is an argument unless it is the absent value. -/
theorem not_isNull_iff {value : Value} : (!value.isNull) = true ↔ value ≠ .null := by
  cases value <;> simp [Value.isNull]

/-- The converted arguments of a request, as far as they are given. -/
structure Options where
  /-- The number of elements. -/
  elements : Option Int
  /-- The greatest number of records. -/
  records : Option Int
  /-- The greatest amount of time. -/
  time : Option Duration

/-- Converts the arguments of a request in the order in which they are stored. The first one that
cannot be converted is the failure. -/
def Request.options (request : Request) : Except Failure Options := do
  let elements ← Setting.convertStored Setting.toInteger (given? request.elements)
  let records ← Setting.convertStored Setting.toInteger (given? request.records)
  let time ← Setting.convertStored Setting.toDuration (given? request.time)
  return ⟨elements, records, time⟩

/-! ## The configuration of a request -/

/-- Puts a value under a name, if there is one. -/
def put (name : String) (value? : Option Value) (configuration : Configuration) : Configuration :=
  match value? with
  | none => configuration
  | some value => ⟨configuration.entries.insert (.text name) value⟩

/-- The configuration of converted arguments. -/
def Options.configuration (options : Options) : Configuration :=
  put timeName (options.time.map .duration) <|
    put recordsName (options.records.map .int) <|
      put elementsName (options.elements.map .int) .empty

/-- An argument for an integer is stored under its name in converted form. -/
theorem store_integer (name : String) (fallback value : Value) (configuration : Configuration) :
    store ⟨.text name, .integer, fallback⟩ value configuration =
      (Setting.convertStored Setting.toInteger (given? value)).map
        fun n? => put name (n?.map .int) configuration := by
  unfold store given?
  by_cases hnull : value.isNull = true
  · rw [if_pos hnull, if_pos hnull]
    rfl
  · rw [if_neg hnull, if_neg hnull]
    show ((Setting.toInteger value).map Value.int >>= _) = ((Setting.toInteger value).map some).map _
    rcases Setting.toInteger value with cause | n <;> rfl

/-- An argument for a duration is stored under its name in converted form. -/
theorem store_duration (name : String) (fallback value : Value) (configuration : Configuration) :
    store ⟨.text name, .duration, fallback⟩ value configuration =
      (Setting.convertStored Setting.toDuration (given? value)).map
        fun d? => put name (d?.map .duration) configuration := by
  unfold store given?
  by_cases hnull : value.isNull = true
  · rw [if_pos hnull, if_pos hnull]
    rfl
  · rw [if_neg hnull, if_neg hnull]
    show ((Setting.toDuration value).map Value.duration >>= _) =
      ((Setting.toDuration value).map some).map _
    rcases Setting.toDuration value with cause | d <;> rfl

/-- The configuration of a request is that of its converted arguments. -/
theorem configure_eq (request : Request) :
    configure request = request.options.map Options.configuration := by
  have helements := store_integer elementsName .null request.elements
  have hrecords := store_integer recordsName .null request.records
  have htime := store_duration timeName .null request.time
  unfold configure Request.options
  show (store ⟨.text elementsName, .integer, .null⟩ request.elements .empty >>=
    store ⟨.text recordsName, .integer, .null⟩ request.records) >>=
      store ⟨.text timeName, .duration, .null⟩ request.time = _
  -- The next argument is looked at only if the one before could be converted.
  rw [helements]
  rcases Setting.convertStored _ (given? request.elements) with cause | elements?
  · rfl
  · show (store _ request.records _ >>= store _ request.time) = _
    rw [hrecords]
    rcases Setting.convertStored _ (given? request.records) with cause | records?
    · rfl
    · show store _ request.time _ = _
      rw [htime]
      rcases Setting.convertStored _ (given? request.time) with cause | time?
      · rfl
      · rfl

/-- The configuration of converted arguments stores each of them under its name. -/
theorem named?_configuration (options : Options) :
    options.configuration.entries.named? elementsName = options.elements.map .int ∧
      options.configuration.entries.named? recordsName = options.records.map .int ∧
      options.configuration.entries.named? timeName = options.time.map .duration := by
  obtain ⟨_ | n, _ | m, _ | d⟩ := options <;> exact ⟨rfl, rfl, rfl⟩

/-- The values of this configuration are converted to what they are. -/
theorem ofConfiguration_configuration (options : Options) :
    Input.ofConfiguration options.configuration =
      Input.ofOptions options.elements options.records options.time := by
  have hint : ∀ n? : Option Int,
      Setting.convertStored Setting.toInteger (n?.map .int) = .ok n? := by
    rintro (_ | n) <;> rfl
  have hduration : ∀ d? : Option Duration,
      Setting.convertStored Setting.toDuration (d?.map .duration) = .ok d? := by
    rintro (_ | d) <;> rfl
  obtain ⟨helements, hrecords, htime⟩ := named?_configuration options
  rw [Input.ofConfiguration_eq, helements, hrecords, htime, hint, hint, hduration]
  rfl

/-! ## The input of a request -/

/-- Gives the timestamps of the program to an input, unless that is bounded. -/
def stamped : Input → Input
  | .bounded input => .bounded input
  | .unbounded input => .unbounded { input with stamper := secondsStamper }

/-- An input of converted arguments is bounded just when there is a number of elements. -/
theorem isBounded_of_ofOptions {elements? records? : Option Int} {time? : Option Duration}
    {input : Input} (h : Input.ofOptions elements? records? time? = .ok input) :
    (∃ bounded, input = .bounded bounded) ↔ elements?.isSome = true := by
  rcases elements? with _ | n
  · rw [Input.ofOptions] at h
    generalize Input.ofCalls _ = calls at h
    rcases calls with cause | made
    · cases h
    · cases h
      simp
  · rw [Input.ofOptions] at h
    split at h
    · cases h
    · generalize BoundedInput.make _ = made at h
      rcases made with cause | made
      · cases h
      · cases h
        simp

/-- What is converted is there just when it was given. -/
theorem isSome_of_convertStored {α : Type} {convert : Value → Except Failure α} {value : Value}
    {converted? : Option α} (h : Setting.convertStored convert (given? value) = .ok converted?) :
    converted?.isSome = !value.isNull := by
  unfold given? at h
  rcases hnull : value.isNull with _ | _
  · rw [hnull] at h
    rcases hconvert : convert value with cause | converted
    · simp [Setting.convertStored, hconvert, Except.map] at h
    · simp only [Setting.convertStored, hconvert, Except.map, Bool.false_eq_true, if_false,
        Except.ok.injEq] at h
      rw [← h]
      rfl
  · rw [hnull] at h
    simp only [Setting.convertStored, if_true, Except.ok.injEq] at h
    rw [← h]
    rfl

/-- Converted arguments are there just when they were given. -/
theorem isSome_of_options {request : Request} {options : Options}
    (h : request.options = .ok options) :
    options.elements.isSome = !request.elements.isNull ∧
      options.records.isSome = !request.records.isNull ∧
      options.time.isSome = !request.time.isNull := by
  unfold Request.options at h
  rcases helements : Setting.convertStored Setting.toInteger (given? request.elements) with
    cause | elements?
  · rw [helements] at h
    cases h
  rcases hrecords : Setting.convertStored Setting.toInteger (given? request.records) with
    cause | records?
  · rw [helements, hrecords] at h
    cases h
  rcases htime : Setting.convertStored Setting.toDuration (given? request.time) with cause | time?
  · rw [helements, hrecords, htime] at h
    cases h
  rw [helements, hrecords, htime] at h
  obtain rfl := Except.ok.inj h
  exact ⟨isSome_of_convertStored helements, isSome_of_convertStored hrecords,
    isSome_of_convertStored htime⟩

/-- The input of a request is settled by its converted arguments, and has the timestamps of the
program if it is not bounded. -/
theorem inputFor_eq (request : Request) :
    inputFor request = request.options >>= fun options =>
      (Input.ofOptions options.elements options.records options.time).map stamped := by
  unfold inputFor
  rw [configure_eq]
  rcases hoptions : request.options with cause | options
  · rfl
  show (Input.ofConfiguration options.configuration >>= _) = Except.map stamped _
  rw [ofConfiguration_configuration]
  rcases hinput : Input.ofOptions options.elements options.records options.time with cause | input
  · rfl
  -- Both look at the number of elements to tell whether the input is bounded.
  have hbounded := isBounded_of_ofOptions hinput
  have hgiven := (isSome_of_options hoptions).1
  cases input with
  | bounded input => rfl
  | unbounded input =>
    have hnull : request.elements.isNull = true := by
      rcases hnull : request.elements.isNull with _ | _
      · rw [hnull] at hgiven
        obtain ⟨bounded, hcases⟩ := hbounded.mpr hgiven
        cases hcases
      · rfl
    show (if request.elements.isNull = true then _ else _) = _
    rw [if_pos hnull]
    rfl

/-- What the input of a request is made of. -/
theorem exists_of_inputFor {request : Request} {input : Input} (h : inputFor request = .ok input) :
    ∃ options made, request.options = .ok options ∧
      Input.ofOptions options.elements options.records options.time = .ok made ∧
      input = stamped made := by
  rw [inputFor_eq] at h
  rcases hoptions : request.options with cause | options
  · rw [hoptions] at h
    cases h
  rw [hoptions] at h
  rcases hinput : Input.ofOptions options.elements options.records options.time with cause | made
  · simp only [bind, Except.bind, hinput] at h
    cases h
  · simp only [bind, Except.bind, hinput] at h
    exact ⟨options, made, rfl, hinput, (Except.ok.inj h).symm⟩

/-- The input of a request is bounded just when a number of elements is given. -/
theorem isBounded_of_inputFor {request : Request} {input : Input}
    (h : inputFor request = .ok input) :
    (∃ bounded, input = .bounded bounded) ↔ request.elements ≠ .null := by
  obtain ⟨options, made, hoptions, hinput, rfl⟩ := exists_of_inputFor h
  have hgiven : options.elements.isSome = true ↔ request.elements ≠ .null := by
    rw [(isSome_of_options hoptions).1]
    exact not_isNull_iff
  rw [← hgiven, ← isBounded_of_ofOptions hinput]
  cases made with
  | bounded input => simp [stamped]
  | unbounded input => simp [stamped]

/-- An input of a request that is not bounded has the timestamps of the program, and its read time is
a duration if there is one. -/
theorem ofParts_of_inputFor {request : Request} {input : UnboundedInput}
    (h : inputFor request = .ok (.unbounded input)) :
    ∃ records time, input = .ofParts secondsStamper records time := by
  obtain ⟨options, made, -, hinput, hstamped⟩ := exists_of_inputFor h
  cases made with
  | bounded made => cases hstamped
  | unbounded made =>
    rw [← ofConfiguration_configuration] at hinput
    obtain ⟨records, time, rfl⟩ := Input.ofConfiguration_ofParts hinput
    exact ⟨records, time, Input.unbounded.inj hstamped⟩

/-- Limits without a number of elements make the input without bound that has them. -/
theorem ofOptions_limits (records? : Option Count) (time? : Option Duration) :
    (Input.ofOptions none (records?.map (·.value)) time?).map stamped =
      .ok (.unbounded (.ofParts secondsStamper records? time?)) := by
  -- The number of records is set last, whether or not there is a read time.
  have hlast : ∀ (records : Count) (timed : UnboundedInput),
      [UnboundedInput.Change.records (.int records.value)].foldlM
          (fun input call => call.apply input) timed =
        .ok { timed with maxRecords := some records } := by
    intro records timed
    rw [List.foldlM_cons, UnboundedInput.apply_records]
    rfl
  have hcalls : ∀ calls : Except Failure UnboundedInput, Input.ofCalls
        (Input.timeCalls time? ++ Input.recordsCalls (records?.map (·.value))) = calls →
      Input.ofOptions none (records?.map (·.value)) time? = calls.map .unbounded := by
    rintro calls rfl
    rfl
  rcases records? with _ | records <;> rcases time? with _ | time
  · rfl
  · rfl
  · rw [hcalls _ (hlast records .unlimited)]
    rfl
  · rw [hcalls _ (hlast records { UnboundedInput.unlimited with maxReadTime := .duration time })]
    rfl

/-- A positive number of elements alone makes the bounded input of this number. -/
theorem ofOptions_elements (count : Count) :
    (Input.ofOptions (some count.value) none none).map stamped = .ok (.bounded ⟨count⟩) := by
  have hmade : BoundedInput.make (.int count.value) = .ok ⟨count⟩ := by
    rw [BoundedInput.make, Count.ofValue_of_pos count.positive]
    rfl
  rw [Input.ofOptions, hmade]
  rfl

end NumberFeed.Counting
