import NumberFeed.Proofs.Input.Applied
import NumberFeed.Proofs.Workspace.Shelving

/-!
# Inputs of configurations

What input a configuration describes is settled by what it stores under three names
(`Entries.named?`), and by nothing else. The raw values are converted in a fixed order, and the
first one that cannot be converted is reported. The rest is a table with five rows,
`Input.Decision`: whether a number of elements, a number of records and a read time are there, and
whether a number is positive. A value that is there counts as there even if it is zero, negative or
empty.

`Input.decision_table` says that every configuration is decided by this table, and that making its
input leaves the configuration as it is, wherever it stands in a workspace.
-/

namespace NumberFeed

namespace Value

/-- Only a text is found under a text as key, and only the same one. -/
theorem matchesKey_text (value : Value) (name : String) :
    value.matchesKey (.text name) =
      (match value with | .text key => key == name | _ => false) := by
  cases value <;>
    simp [matchesKey, isSameObject, equalAs, sameAmount, sameTime, quantity?, timeFields?]

end Value

namespace Entries

/-- The value stored under a name: that of the first entry whose key is this text. -/
def named? (entries : Entries) (name : String) : Option Value :=
  (entries.find? fun entry => match entry.1 with | .text key => key == name | _ => false).map (·.2)

/-- What is found under a text as key is what is stored under this name. -/
theorem get?_text (entries : Entries) (name : String) :
    entries.get? (.text name) = entries.named? name := by
  unfold get? named?
  congr 2
  funext entry
  exact Value.matchesKey_text entry.1 name

end Entries

namespace Count

/-- A positive integer is a count. -/
theorem ofValue_of_pos {n : Int} (h : 0 < n) (refusal : String → Refusal) :
    ofValue refusal (.int n) = .ok ⟨n, h⟩ := by
  have hcount : ofValue? (.int n) = some ⟨n, h⟩ := ofValue?_eq_some_iff.mpr rfl
  rw [ofValue, hcount]

/-- Any other integer is refused, and told in the refusal if it can be written. -/
theorem ofValue_of_nonpos {n : Int} (h : n ≤ 0) (hwritable : Number.Writable n)
    (refusal : String → Refusal) :
    ofValue refusal (.int n) =
      .error (.refused (refusal (String.ofList (Number.decimal n)))) := by
  have hnone : ofValue? (.int n) = none := by
    rw [ofValue?, Value.int?]
    exact dif_neg (by omega)
  have hshown : (Value.int n).shown = .ok (String.ofList (Number.decimal n)) := by
    rw [Value.shown, Value.render, Number.write_of_writable hwritable]
  rw [ofValue, hnone, hshown]
  rfl

end Count

namespace Setting

/-- Converts the value of a setting if there is one. -/
def convertStored {α : Type} (convert : Value → Except Failure α) :
    Option Value → Except Failure (Option α)
  | none => .ok none
  | some raw => (convert raw).map some

end Setting

namespace Configuration

/-- A setting of integers with no value for an absent key reads what is stored under its name. -/
theorem get_integer (configuration : Configuration) (name : String) :
    configuration.get { key := .text name, type := .integer, fallback := .null } =
      (Setting.convertStored Setting.toInteger (configuration.entries.named? name)).map
        fun n? => (n?.map Value.int).getD .null := by
  unfold get
  rw [Entries.get?_text]
  cases configuration.entries.named? name with
  | none => rfl
  | some raw =>
    show (Setting.toInteger raw).map Value.int = _
    rw [Setting.convertStored]
    cases Setting.toInteger raw <;> rfl

/-- A setting of durations with no value for an absent key reads what is stored under its name. -/
theorem get_duration (configuration : Configuration) (name : String) :
    configuration.get { key := .text name, type := .duration, fallback := .null } =
      (Setting.convertStored Setting.toDuration (configuration.entries.named? name)).map
        fun d? => (d?.map Value.duration).getD .null := by
  unfold get
  rw [Entries.get?_text]
  cases configuration.entries.named? name with
  | none => rfl
  | some raw =>
    show (Setting.toDuration raw).map Value.duration = _
    rw [Setting.convertStored]
    cases Setting.toDuration raw <;> rfl

end Configuration

namespace Input

open UnboundedInput (Change)

/-- The name under which a configuration stores a number of elements. -/
def elementsName : String := "counting-input.num-elements"

/-- The name under which a configuration stores a greatest number of records. -/
def recordsName : String := "counting-input.max-num-records"

/-- The name under which a configuration stores a greatest amount of time. -/
def timeName : String := "counting-input.max-read-time"

/-- The call that sets a number of records, if there is one. -/
def recordsCalls (records? : Option Int) : List Change :=
  (records?.map fun n => Change.records (.int n)).toList

/-- The call that sets a read time, if there is one. -/
def timeCalls (time? : Option Duration) : List Change :=
  (time?.map fun d => Change.readTime (.duration d)).toList

/-- What calls come to that are made one after the other on the input without limits. -/
def ofCalls (calls : List Change) : Except Failure UnboundedInput :=
  calls.foldlM (fun input call => call.apply input) .unlimited

/-- What comes of a number of elements, a number of records and a read time, each of which may be
absent. -/
inductive Decision : Option Int → Option Int → Option Duration → Except Failure Input → Prop
  /-- A number of elements excludes both limits, whatever the numbers are. -/
  | conflict {n : Int} {records? : Option Int} {time? : Option Duration}
      (limited : records?.isSome ∨ time?.isSome) :
      Decision (some n) records? time?
        (.error (.refused (.conflictingOptions elementsName recordsName timeName)))
  /-- A number of elements has to be positive. -/
  | noElements {n : Int} (notPositive : n ≤ 0) :
      Decision (some n) none none (.error (.refused
        (.countNotPositive "num_elements" (String.ofList (Number.decimal n)))))
  /-- A positive number of elements makes the bounded input of this number. -/
  | bounded {n : Int} {input : BoundedInput} (positive : 0 < n)
      (made : BoundedInput.make (.int n) = .ok input) :
      Decision (some n) none none (.ok (.bounded input))
  /-- A number of records has to be positive. -/
  | noRecords {n : Int} {time? : Option Duration} (notPositive : n ≤ 0) :
      Decision none (some n) time?
        (.error (.refused (.recordsNotPositive (String.ofList (Number.decimal n)))))
  /-- Otherwise the limits that are there are set on the input without limits, in either order. -/
  | unbounded {records? : Option Int} {time? : Option Duration} {input : UnboundedInput}
      (positive : ∀ n, records? = some n → 0 < n)
      (timeFirst : ofCalls (timeCalls time? ++ recordsCalls records?) = .ok input)
      (recordsFirst : ofCalls (recordsCalls records? ++ timeCalls time?) = .ok input) :
      Decision none records? time? (.ok (.unbounded input))

/-- What a configuration comes to whose values can be converted. -/
def ofOptions (elements? records? : Option Int) (time? : Option Duration) : Except Failure Input :=
  match elements? with
  | none => (ofCalls (timeCalls time? ++ recordsCalls records?)).map unbounded
  | some n =>
    if records?.isSome ∨ time?.isSome then
      .error (.refused (.conflictingOptions elementsName recordsName timeName))
    else (BoundedInput.make (.int n)).map bounded

/-- A configuration converts what it stores in a fixed order, and then decides. -/
theorem ofConfiguration_eq (configuration : Configuration) :
    ofConfiguration configuration = (do
      let elements? ← Setting.convertStored Setting.toInteger
        (configuration.entries.named? elementsName)
      let records? ← Setting.convertStored Setting.toInteger
        (configuration.entries.named? recordsName)
      let time? ← Setting.convertStored Setting.toDuration (configuration.entries.named? timeName)
      ofOptions elements? records? time?) := by
  have helements : configuration.get numElements = _ := configuration.get_integer elementsName
  have hrecords : configuration.get maxNumRecords = _ := configuration.get_integer recordsName
  have htime : configuration.get maxReadTime = _ := configuration.get_duration timeName
  unfold ofConfiguration
  rw [helements, hrecords, htime]
  generalize Setting.convertStored _ (configuration.entries.named? elementsName) = elements
  generalize Setting.convertStored _ (configuration.entries.named? recordsName) = records
  generalize Setting.convertStored _ (configuration.entries.named? timeName) = time
  -- What cannot be converted is reported at once, so that only converted values are left.
  rcases elements with cause | elements?
  · rfl
  rcases records with cause | records?
  · rfl
  rcases time with cause | time?
  · rfl
  rcases elements? with _ | n
  · rcases records? with _ | m
    · rcases time? with _ | d <;> rfl
    · -- Only the number of records can still be refused.
      have hrefused : ∀ timed : UnboundedInput,
          (adjust UnboundedInput.withMaxRecords (.int m) timed >>= fun limited =>
            (.ok (unbounded limited) : Except Failure Input)) =
            ((Change.records (.int m)).apply timed >>= fun limited =>
              (.ok limited : Except Failure UnboundedInput)).map unbounded := by
        intro timed
        show (UnboundedInput.withMaxRecords (.int m) timed >>= _) =
          ((UnboundedInput.withMaxRecords (.int m) timed) >>= _).map unbounded
        cases UnboundedInput.withMaxRecords (.int m) timed <;> rfl
      rcases time? with _ | d
      · exact hrefused _
      · exact hrefused _
  · rcases records? with _ | m <;> rcases time? with _ | d
    · show (BoundedInput.make (.int n) >>= fun input => .ok (bounded input)) =
        (BoundedInput.make (.int n)).map bounded
      cases BoundedInput.make (.int n) <;> rfl
    · rfl
    · rfl
    · rfl

/-- An unbounded input of a configuration reads the wall clock for its timestamps, and its read time is
a duration if there is one. -/
theorem ofConfiguration_ofParts {configuration : Configuration} {input : UnboundedInput}
    (h : ofConfiguration configuration = .ok (.unbounded input)) :
    ∃ records time, input = .ofParts .now records time := by
  rw [ofConfiguration_eq] at h
  generalize Setting.convertStored _ (configuration.entries.named? elementsName) = elements at h
  generalize Setting.convertStored _ (configuration.entries.named? recordsName) = records at h
  generalize Setting.convertStored _ (configuration.entries.named? timeName) = time at h
  rcases elements with cause | elements?
  · cases h
  rcases records with cause | records?
  · cases h
  rcases time with cause | time?
  · cases h
  have hoptions : ofOptions elements? records? time? = .ok (.unbounded input) := h
  rcases elements? with _ | n
  · rw [ofOptions] at hoptions
    rcases hcalls : ofCalls (timeCalls time? ++ recordsCalls records?) with cause | made
    · rw [hcalls] at hoptions
      cases hoptions
    · rw [hcalls] at hoptions
      cases hoptions
      -- No call sets the stamper.
      have hlast : Change.last Change.stamper? (timeCalls time? ++ recordsCalls records?) = none := by
        rcases time? with _ | d <;> rcases records? with _ | n <;> rfl
      have hbuild := UnboundedInput.build_of_chain hcalls
      rw [UnboundedInput.build_eq, hlast] at hbuild
      exact ⟨_, _, hbuild.symm⟩
  · rw [ofOptions] at hoptions
    split at hoptions
    · cases hoptions
    · generalize BoundedInput.make (.int n) = made at hoptions
      rcases made with cause | made
      · cases hoptions
      · cases hoptions

section Options

variable {elements? records? : Option Int} {time? : Option Duration}

/-- Calls none of which is refused come to what each of them sets. -/
theorem ofCalls_of_accepted {calls : List Change}
    (h : ∀ call ∈ calls, ∀ input, call.apply input = .ok (call.set input)) :
    ofCalls calls = .ok (calls.foldl (fun input call => call.set input) .unlimited) := by
  unfold ofCalls
  generalize UnboundedInput.unlimited = start
  induction calls generalizing start with
  | nil => rfl
  | cons call calls ih =>
    rw [List.foldlM_cons, h call List.mem_cons_self, List.foldl_cons]
    exact ih (fun next hnext => h next (List.mem_cons_of_mem _ hnext)) (call.set start)

/-- Limits of which the number of records is positive are set in either order. -/
theorem ofCalls_of_pos (h : ∀ n, records? = some n → 0 < n) :
    ∃ input, ofCalls (timeCalls time? ++ recordsCalls records?) = .ok input ∧
      ofCalls (recordsCalls records? ++ timeCalls time?) = .ok input := by
  have htime : ∀ call ∈ timeCalls time?, ∀ input, call.apply input = .ok (call.set input) := by
    rcases time? with _ | d
    · exact fun call hcall => nomatch hcall
    · rintro call hcall input
      rw [List.mem_singleton.mp hcall]
      rfl
  have hrecords : ∀ call ∈ recordsCalls records?, ∀ input,
      call.apply input = .ok (call.set input) := by
    rcases records? with _ | n
    · exact fun call hcall => nomatch hcall
    · rintro call hcall input
      have hcount : Count.ofValue? (.int n) = some ⟨n, h n rfl⟩ :=
        Count.ofValue?_eq_some_iff.mpr rfl
      rw [List.mem_singleton.mp hcall, Change.set, Change.records?, hcount]
      exact UnboundedInput.apply_records ⟨n, h n rfl⟩ input
  have htimeFirst := ofCalls_of_accepted fun call hcall =>
    (List.mem_append.mp hcall).elim (htime call) (hrecords call)
  have hrecordsFirst := ofCalls_of_accepted fun call hcall =>
    (List.mem_append.mp hcall).elim (hrecords call) (htime call)
  refine ⟨_, htimeFirst, hrecordsFirst.trans ?_⟩
  -- The two limits are different fields.
  rcases records? with _ | n <;> rcases time? with _ | d <;> rfl

/-- A number of records that is not positive is refused, whether or not a read time has been set. -/
theorem ofCalls_of_nonpos {n : Int} (h : n ≤ 0) (hwritable : Number.Writable n) :
    ofCalls (timeCalls time? ++ recordsCalls (some n)) =
      .error (.refused (.recordsNotPositive (String.ofList (Number.decimal n)))) := by
  have hrecords : ∀ input, (Change.records (.int n)).apply input =
      .error (.refused (.recordsNotPositive (String.ofList (Number.decimal n)))) := by
    intro input
    rw [Change.apply, UnboundedInput.withMaxRecords, Count.ofRecords,
      Count.ofValue_of_nonpos h hwritable]
    rfl
  have hlast : ∀ start, [Change.records (.int n)].foldlM
      (fun input call => Change.apply call input) start =
        .error (.refused (.recordsNotPositive (String.ofList (Number.decimal n)))) := by
    intro start
    rw [List.foldlM_cons, hrecords]
    rfl
  rcases time? with _ | d
  · exact hlast .unlimited
  · exact hlast { UnboundedInput.unlimited with maxReadTime := .duration d }

/-- What a configuration comes to whose values can be converted is what the table says. -/
theorem decision_ofOptions (helements : ∀ n, elements? = some n → n ≤ 0 → Number.Writable n)
    (hrecords : ∀ n, records? = some n → n ≤ 0 → Number.Writable n) :
    Decision elements? records? time? (ofOptions elements? records? time?) := by
  rcases elements? with _ | n
  · show Decision none records? time?
      ((ofCalls (timeCalls time? ++ recordsCalls records?)).map unbounded)
    -- The table looks at whether there is a number of records that is not positive.
    have hcases : (∀ n, records? = some n → 0 < n) ∨ ∃ n, records? = some n ∧ n ≤ 0 := by
      rcases records? with _ | n
      · exact .inl fun n hn => nomatch hn
      · by_cases hn : 0 < n
        · exact .inl fun m hm => Option.some.inj hm ▸ hn
        · exact .inr ⟨n, rfl, by omega⟩
    rcases hcases with hpositive | ⟨n, rfl, hn⟩
    · obtain ⟨input, htimeFirst, hrecordsFirst⟩ := @ofCalls_of_pos records? time? hpositive
      rw [htimeFirst]
      exact .unbounded hpositive htimeFirst hrecordsFirst
    · rw [ofCalls_of_nonpos hn (hrecords n rfl hn)]
      exact .noRecords hn
  · by_cases hlimited : records?.isSome ∨ time?.isSome
    · rw [ofOptions, if_pos hlimited]
      exact .conflict hlimited
    · obtain ⟨rfl, rfl⟩ : records? = none ∧ time? = none := by simpa using hlimited
      rw [ofOptions, if_neg hlimited, BoundedInput.make]
      by_cases hn : 0 < n
      · rw [Count.ofValue_of_pos hn]
        refine .bounded hn ?_
        rw [BoundedInput.make, Count.ofValue_of_pos hn]
        rfl
      · have hn : n ≤ 0 := by omega
        rw [Count.ofValue_of_nonpos hn (helements n rfl hn)]
        exact .noElements hn

end Options

/-- How a configuration is decided. -/
structure DecisionTable (configuration : Configuration) : Prop where
  /-- A number of elements that cannot be converted is reported first. -/
  elements : ∀ cause,
    Setting.convertStored Setting.toInteger (configuration.entries.named? elementsName) =
      .error cause →
    ofConfiguration configuration = .error cause
  /-- Then a number of records that cannot be converted is. -/
  records : ∀ elements? cause,
    Setting.convertStored Setting.toInteger (configuration.entries.named? elementsName) =
      .ok elements? →
    Setting.convertStored Setting.toInteger (configuration.entries.named? recordsName) =
      .error cause →
    ofConfiguration configuration = .error cause
  /-- Then a read time that cannot be converted is. -/
  time : ∀ elements? records? cause,
    Setting.convertStored Setting.toInteger (configuration.entries.named? elementsName) =
      .ok elements? →
    Setting.convertStored Setting.toInteger (configuration.entries.named? recordsName) =
      .ok records? →
    Setting.convertStored Setting.toDuration (configuration.entries.named? timeName) =
      .error cause →
    ofConfiguration configuration = .error cause
  /-- If all that is there can be converted, the table decides. A number that is refused is told, so
  that it has to be one that can be written. -/
  decided : ∀ elements? records? time?,
    Setting.convertStored Setting.toInteger (configuration.entries.named? elementsName) =
      .ok elements? →
    Setting.convertStored Setting.toInteger (configuration.entries.named? recordsName) =
      .ok records? →
    Setting.convertStored Setting.toDuration (configuration.entries.named? timeName) =
      .ok time? →
    (∀ n, elements? = some n ∨ records? = some n → n ≤ 0 → Number.Writable n) →
    Decision elements? records? time? (ofConfiguration configuration)
  /-- What is stored under other keys has no influence. -/
  others : ∀ other : Configuration,
    (∀ name ∈ [elementsName, recordsName, timeName],
      other.entries.named? name = configuration.entries.named? name) →
    ofConfiguration other = ofConfiguration configuration
  /-- Wherever the configuration stands in a workspace, making an input leaves it as it is. -/
  unchanged : ∀ (workspace : Workspace) place target name,
    workspace.shelf.get? place = some configuration →
    (workspace.perform (.inputOf target) name).2.shelf.get? place = some configuration

/-- Every configuration is decided by the table, whatever it stores under whatever keys. -/
theorem decision_table (configuration : Configuration) : DecisionTable configuration := by
  have heq := ofConfiguration_eq configuration
  refine ⟨?_, ?_, ?_, ?_, ?_, ?_⟩
  · intro cause helements
    rw [heq, helements]
    rfl
  · intro elements? cause helements hrecords
    rw [heq, helements, hrecords]
    rfl
  · intro elements? records? cause helements hrecords htime
    rw [heq, helements, hrecords, htime]
    rfl
  · intro elements? records? time? helements hrecords htime hwritable
    rw [heq, helements, hrecords, htime]
    exact decision_ofOptions (fun n hn => hwritable n (.inl hn)) fun n hn => hwritable n (.inr hn)
  · intro other hsame
    rw [heq, ofConfiguration_eq other, hsame elementsName (by simp), hsame recordsName (by simp),
      hsame timeName (by simp)]
  · intro workspace place target name hfound
    exact Workspace.get?_perform hfound (.inputOf target) name

end Input

end NumberFeed
