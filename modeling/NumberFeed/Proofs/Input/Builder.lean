import NumberFeed.Input

/-!
# Building an input by calls

An unbounded input is put together by calls, each of which sets one of its three fields or is
refused. What a call does depends on the call alone (`Change.apply_eq_set_or_refused`), so that
after any calls each field has the value that was last set (`build_eq`), and a refused call leaves
no trace. What a call sets is read off the call by `Change.stamper?`, `Change.records?` and
`Change.readTime?`, without an input.
-/

namespace NumberFeed

namespace UnboundedInput

/-- A call that sets a field of an unbounded input. -/
inductive Change
  /-- Sets the stamper. -/
  | stamper (stamper : Stamper)
  /-- Sets the greatest number of records. -/
  | records (count : Value)
  /-- Sets the greatest amount of time. -/
  | readTime (time : Value)

namespace Change

/-- Makes a call on an input. -/
def apply : Change → UnboundedInput → Except Failure UnboundedInput
  | stamper s, input => input.withStamper s
  | records count, input => input.withMaxRecords count
  | readTime time, input => input.withMaxReadTime time

/-- The stamper that a call sets, if it is accepted: anything that can be called. -/
def stamper? : Change → Option Stamper
  | stamper s => if s.isCallable then some s else none
  | _ => none

/-- The number of records that a call sets, if it is accepted: a positive integer. -/
def records? : Change → Option Count
  | records count => Count.ofValue? count
  | _ => none

/-- The amount of time that a call sets, if it is accepted: a duration, or a calendar span, which
has a whole number of microseconds. -/
def readTime? : Change → Option Duration
  | readTime (.duration d) => some d
  | readTime (.span s) => some ⟨s.micros * 1000⟩
  | _ => none

/-- An input with the field that a call sets. -/
def set (call : Change) (input : UnboundedInput) : UnboundedInput where
  stamper := call.stamper?.getD input.stamper
  maxRecords := call.records?.or input.maxRecords
  maxReadTime := (call.readTime?.map Value.duration).getD input.maxReadTime

/-- A refusal that shows a text is a failure, whether or not there is a text. -/
theorem exists_refused {α : Type} (text : Except Failure String) (refusal : String → Refusal) :
    ∃ cause, (text >>= fun shown => (.error (.refused (refusal shown)) : Except Failure α)) =
      .error cause := by
  cases text with
  | ok shown => exact ⟨.refused (refusal shown), rfl⟩
  | error cause => exact ⟨cause, rfl⟩

/-- A value is a read time just when a call sets it as one. -/
theorem ofReadTime_cases (time : Value) :
    (∃ d, Duration.ofReadTime time = .ok d ∧ (readTime time).readTime? = some d) ∨
      ∃ cause, Duration.ofReadTime time = .error cause ∧ (readTime time).readTime? = none := by
  cases time with
  | duration d => exact .inl ⟨d, rfl, rfl⟩
  | span s => exact .inl ⟨_, rfl, rfl⟩
  | _ => exact .inr ⟨_, rfl, rfl⟩

/-- A call is accepted on every input and sets its field, or it is refused on every input for the
same cause and sets nothing. -/
theorem apply_eq_set_or_refused (call : Change) :
    (∀ input, call.apply input = .ok (call.set input)) ∨
      ∃ cause, ∀ input, call.apply input = .error cause ∧ call.set input = input := by
  cases call with
  | stamper s =>
    by_cases hcallable : s.isCallable = true
    · -- What can be called is not missing, so that neither check refuses it.
      have hmissing : s.isMissing = false := by
        cases s with
        | uncallable value => cases hcallable
        | _ => rfl
      left
      intro input
      simp [apply, withStamper, hmissing, hcallable, set, stamper?, records?, readTime?]
    · have hset : ∀ input, (stamper s).set input = input := by
        intro input
        simp [set, stamper?, records?, readTime?, hcallable]
      right
      by_cases hmissing : s.isMissing = true
      · refine ⟨.refused .stamperMissing, fun input => ⟨?_, hset input⟩⟩
        simp [apply, withStamper, hmissing]
      · obtain ⟨cause, hcause⟩ := exists_refused s.text .stamperNotCallable
        refine ⟨cause, fun input => ⟨?_, hset input⟩⟩
        simpa [apply, withStamper, hmissing, hcallable] using hcause
  | records count =>
    cases hcount : Count.ofValue? count with
    | some n =>
      left
      intro input
      simp [apply, withMaxRecords, Count.ofRecords, Count.ofValue, hcount, set, stamper?, records?,
        readTime?, Except.map]
    | none =>
      right
      obtain ⟨cause, hcause⟩ := exists_refused (α := Count) count.shown .recordsNotPositive
      refine ⟨cause, fun input => ⟨?_, ?_⟩⟩
      · simp only [apply, withMaxRecords, Count.ofRecords, Count.ofValue, hcount, hcause]
        rfl
      · simp [set, stamper?, records?, readTime?, hcount]
  | readTime time =>
    rcases ofReadTime_cases time with ⟨d, htime, hset⟩ | ⟨cause, htime, hset⟩
    · left
      intro input
      simp [apply, withMaxReadTime, htime, set, hset, stamper?, records?, Except.map]
    · right
      refine ⟨cause, fun input => ⟨?_, ?_⟩⟩
      · simp [apply, withMaxReadTime, htime, Except.map]
      · simp [set, hset, stamper?, records?]

/-- Tries a call on an input, which stays what it is if the call is refused. -/
def attempt (input : UnboundedInput) (call : Change) : UnboundedInput :=
  match call.apply input with
  | .ok changed => changed
  | .error _ => input

/-- A call that is tried sets what it sets. -/
theorem attempt_eq_set (input : UnboundedInput) (call : Change) :
    attempt input call = call.set input := by
  unfold attempt
  rcases call.apply_eq_set_or_refused with haccepted | ⟨cause, hrefused⟩
  · rw [haccepted input]
  · obtain ⟨hcall, hset⟩ := hrefused input
    rw [hcall, hset]

/-- The last value that calls set. -/
def last {α : Type} (value? : Change → Option α) (calls : List Change) : Option α :=
  (calls.filterMap value?).getLast?

/-- What the first of several calls sets counts only if the others do not set it. -/
theorem last_cons {α : Type} (value? : Change → Option α) (call : Change) (calls : List Change) :
    last value? (call :: calls) = (last value? calls).or (value? call) := by
  unfold last
  cases hvalue : value? call with
  | none => simp [hvalue]
  | some value =>
    rw [List.filterMap_cons_some hvalue, List.getLast?_cons]
    cases (calls.filterMap value?).getLast? with
    | none => rfl
    | some later => rfl

/-- A stamper that was set can be called. -/
theorem isCallable_last (calls : List Change) :
    ((last stamper? calls).getD .now).isCallable = true := by
  cases hlast : last stamper? calls with
  | none => rfl
  | some s =>
    obtain ⟨call, -, hcall⟩ := List.mem_filterMap.mp (List.mem_of_getLast? hlast)
    cases call with
    | stamper t =>
      by_cases hcallable : t.isCallable = true
      · rw [stamper?, if_pos hcallable] at hcall
        rw [← Option.some.inj hcall]
        exact hcallable
      · rw [stamper?, if_neg hcallable] at hcall
        cases hcall
    | records count => cases hcall
    | readTime time => cases hcall

end Change

/-- The input that calls make of the one without limits. -/
def build (calls : List Change) : UnboundedInput := calls.foldl Change.attempt unlimited

/-- An input with a stamper and limits. -/
def ofParts (stamper : Stamper) (records : Option Count) (time : Option Duration) :
    UnboundedInput :=
  ⟨stamper, records, (time.map Value.duration).getD .null⟩

/-- After any calls, on any input, each field has its last value. -/
theorem foldl_attempt (calls : List Change) (input : UnboundedInput) :
    calls.foldl Change.attempt input =
      ⟨(Change.last Change.stamper? calls).getD input.stamper,
        (Change.last Change.records? calls).or input.maxRecords,
        ((Change.last Change.readTime? calls).map Value.duration).getD input.maxReadTime⟩ := by
  induction calls generalizing input with
  | nil => rfl
  | cons call calls ih =>
    -- The other calls are made on the input that the first one leaves, whatever that is.
    rw [List.foldl_cons, ih, Change.attempt_eq_set, Change.last_cons, Change.last_cons,
      Change.last_cons]
    simp only [Change.set]
    congr 1
    · cases Change.last Change.stamper? calls with
      | none => rfl
      | some stamper => rfl
    · rw [Option.or_assoc]
    · cases Change.last Change.readTime? calls with
      | none => rfl
      | some time => rfl

/-- After any calls each field of the input has the value that was last set. -/
theorem build_eq (calls : List Change) :
    build calls =
      ofParts ((Change.last Change.stamper? calls).getD .now) (Change.last Change.records? calls)
        (Change.last Change.readTime? calls) := by
  rw [build, foldl_attempt]
  simp [unlimited, ofParts]

/-- A positive number of records is accepted, whether or not it can be written. -/
theorem apply_records (count : Count) (input : UnboundedInput) :
    (Change.records (.int count.value)).apply input =
      .ok { input with maxRecords := some count } := by
  have hcount : Count.ofValue? (.int count.value) = some count :=
    Count.ofValue?_eq_some_iff.mpr rfl
  rw [Change.apply, withMaxRecords, Count.ofRecords, Count.ofValue, hcount]
  rfl

/-- A refused call is refused on every input, and leaves no trace. -/
theorem build_refused {before after : List Change} {call : Change} {cause : Failure}
    (h : call.apply (build before) = .error cause) :
    (∀ other, call.apply other = .error cause) ∧
      build (before ++ call :: after) = build (before ++ after) := by
  rcases call.apply_eq_set_or_refused with haccepted | ⟨cause', hrefused⟩
  · rw [haccepted] at h
    cases h
  · have hcause : cause' = cause := by
      have hcall := (hrefused (build before)).1
      rw [h] at hcall
      exact (Except.error.inj hcall).symm
    refine ⟨fun other => hcause ▸ (hrefused other).1, ?_⟩
    simp only [build, List.foldl_append, List.foldl_cons]
    rw [Change.attempt_eq_set, (hrefused _).2]

/-- Calls none of which is refused are the chain of the calls. -/
theorem build_of_chain {calls : List Change} {input : UnboundedInput}
    (h : calls.foldlM (fun input call => call.apply input) unlimited = .ok input) :
    build calls = input := by
  unfold build
  generalize unlimited = start at h ⊢
  induction calls generalizing start with
  | nil => exact Except.ok.inj h
  | cons call calls ih =>
    rw [List.foldlM_cons] at h
    rcases hcall : call.apply start with cause | changed
    · rw [hcall] at h
      cases h
    · rw [hcall] at h
      rw [List.foldl_cons, Change.attempt, hcall]
      exact ih changed h

end UnboundedInput

end NumberFeed
