import NumberFeed.Proofs.Template.Places
import NumberFeed.Proofs.Value.ShownNumbers
import NumberFeed.Value.Count

/-!
# The decision about a count

Whatever has to be a count is decided in one way. The positive integers are let through as they are,
however large. Every other value is refused with a message that is a template with one place, in
which the text of the value stands; a tuple is one argument there, like everything else. If the text
tells a number that is too long to be written, this is the failure. `Count.Decision` says so of a
result that was made of a value, and `Count.decision_ofValue` that checking a value comes to it.
-/

namespace NumberFeed

/-! ## Results made of results -/

section Made

variable {α β : Type} {result : Except Failure α} {make : α → β}

/-- What has been made of a result has been made of one that was there. -/
theorem exists_of_map_eq_ok {made : β} (h : result.map make = .ok made) :
    ∃ a, result = .ok a ∧ made = make a := by
  cases result with
  | error cause => cases h
  | ok a => exact ⟨a, rfl, (Except.ok.inj h).symm⟩

/-- What follows a result has come of one that was there. -/
theorem exists_of_bind_eq_ok {next : α → Except Failure β} {made : β}
    (h : (result >>= next) = .ok made) : ∃ a, result = .ok a ∧ next a = .ok made := by
  cases result with
  | error cause => cases h
  | ok a => exact ⟨a, rfl, h⟩

/-- Where nothing can be made of a result, the result is the failure. -/
theorem eq_error_of_map_eq_error {cause : Failure} (h : result.map make = .error cause) :
    result = .error cause := by
  cases result with
  | error early => exact congrArg Except.error (Except.error.inj h)
  | ok a => cases h

end Made

/-! ## Preconditions with one place -/

namespace Check

/-- A failure is what a precondition comes to that does not hold: it is of the same kind and carries
the same message, which is made of a template and its arguments. -/
def States (template : String) (args : List Value) (cause : Failure) : Prop :=
  ∃ stated, argument (.bool false) (.text template) args = .error stated ∧
    stated.kind = cause.kind ∧ stated.message? = cause.message?

/-- A precondition that does not hold, and whose template has one place, fails with the text of its
argument in that place, or because there is no such text. -/
theorem argument_one {before after : String} (hbefore : '%' ∉ before.toList)
    (hafter : '%' ∉ after.toList) (value : Value) :
    argument (.bool false) (.text (before ++ "%s" ++ after)) [value] =
      value.shown >>= fun shown => .error (.refused (.stated (before ++ shown ++ after))) := by
  have htemplate : before ++ "%s" ++ after = Template.ofTexts [before, after] := by
    rw [Template.ofTexts_cons_cons, Template.ofTexts_singleton, Template.escape_of_not_mem hbefore,
      Template.escape_of_not_mem hafter, String.append_assoc]
  have hrefuse : argument (.bool false) (.text (before ++ "%s" ++ after)) [value] =
      refuse (.text (before ++ "%s" ++ after)) [value] := rfl
  rw [hrefuse, htemplate, refuse_ofTexts before [after] (List.cons_ne_nil value [])]
  show ([value].mapM Value.shown >>= _) = _
  rw [List.mapM_cons]
  cases value.shown with
  | error cause => rfl
  | ok shown =>
    show Except.error (Failure.refused (.stated (before ++ (shown ++ after)))) = _
    rw [← String.append_assoc]
    rfl

end Check

namespace Count

variable {α : Type} {refusal : String → Refusal} {before after : String} {make : Count → α}
  {value : Value}

/-- Whether a value is a count: a positive integer. -/
def Is (value : Value) : Prop := ∃ count : Count, value = .int count.value

/-- What has to come of a value that must be a count. -/
structure Decision (before after : String) (make : Count → α) (value : Value)
    (result : Except Failure α) : Prop where
  /-- A count is let through and kept as it is. -/
  accepted : ∀ count : Count, value = .int count.value → result = .ok (make count)
  /-- Nothing else is let through. -/
  counted : ∀ made, result = .ok made → Is value
  /-- A value that has a text is refused, and the message has the text in its place. -/
  refused : ¬ Is value → value.Tellable →
    ∃ shown reason, value.shown = .ok shown ∧ result = .error (.refused reason) ∧
      reason.message = before ++ shown ++ after
  /-- If the value has no text, because a number in it is too long, this is the failure. -/
  untold : ¬ Is value → (result = .error .tooManyDigits ↔ ¬ value.Tellable)
  /-- Either way the failure is that of a precondition with the value as its only argument. -/
  stated : ∀ cause, result = .error cause → Check.States (before ++ "%s" ++ after) [value] cause

/-- A count is let through. -/
theorem ofValue_of_count (refusal : String → Refusal) (count : Count) :
    ofValue refusal (.int count.value) = .ok count := by
  rw [ofValue, ofValue?_eq_some_iff.mpr rfl]

/-- Another value is refused with its text. -/
theorem ofValue_of_not (refusal : String → Refusal) (h : ¬ Is value) :
    ofValue refusal value = value.shown >>= fun shown => .error (.refused (refusal shown)) := by
  have hnone : ofValue? value = none := by
    cases hfound : ofValue? value with
    | none => rfl
    | some count => exact absurd ⟨count, ofValue?_eq_some_iff.mp hfound⟩ h
  rw [ofValue, hnone]

/-- What is let through is a count. -/
theorem is_of_ofValue {count : Count} (h : ofValue refusal value = .ok count) : Is value := by
  refine Classical.byContradiction fun hnot => ?_
  rw [ofValue_of_not refusal hnot] at h
  cases hshown : value.shown with
  | error cause =>
    rw [hshown] at h
    cases h
  | ok shown =>
    rw [hshown] at h
    cases h

/-- What is refused is refused as a precondition would be with the same wording. -/
theorem states_of_ofValue (hbefore : '%' ∉ before.toList) (hafter : '%' ∉ after.toList)
    (hrefusal : ∀ shown : String, (refusal shown).message = before ++ shown ++ after)
    {cause : Failure} (h : ofValue refusal value = .error cause) :
    Check.States (before ++ "%s" ++ after) [value] cause := by
  have hnot : ¬ Is value := by
    rintro ⟨count, rfl⟩
    rw [ofValue_of_count] at h
    cases h
  have hargument := Check.argument_one hbefore hafter value
  rw [ofValue_of_not refusal hnot] at h
  -- Both failures are made of the text of the value, and are its failure if there is none.
  cases hshown : value.shown with
  | error early =>
    rw [hshown] at h hargument
    obtain rfl : early = cause := Except.error.inj h
    exact ⟨early, hargument, rfl, rfl⟩
  | ok shown =>
    rw [hshown] at h hargument
    obtain rfl : .refused (refusal shown) = cause := Except.error.inj h
    exact ⟨_, hargument, rfl, congrArg some (hrefusal shown).symm⟩

/-- To check a value and to make something of the count is decided as said. -/
theorem decision_ofValue (hbefore : '%' ∉ before.toList) (hafter : '%' ∉ after.toList)
    (hrefusal : ∀ shown : String, (refusal shown).message = before ++ shown ++ after)
    (make : Count → α) (value : Value) :
    Decision before after make value ((ofValue refusal value).map make) where
  accepted count hcount := by
    rw [hcount, ofValue_of_count, Except.map]
  counted made hmade := by
    obtain ⟨count, hcount, -⟩ := exists_of_map_eq_ok hmade
    exact is_of_ofValue hcount
  refused hnot htellable := by
    obtain ⟨shown, hshown⟩ := Value.tellable_iff.mp htellable
    refine ⟨shown, refusal shown, hshown, ?_, hrefusal shown⟩
    rw [ofValue_of_not refusal hnot, hshown]
    rfl
  untold hnot := by
    rw [ofValue_of_not refusal hnot]
    constructor
    · intro huntold htellable
      obtain ⟨shown, hshown⟩ := Value.tellable_iff.mp htellable
      rw [hshown] at huntold
      cases huntold
    · intro hlong
      rw [Value.shown_of_not_tellable hlong]
      rfl
  stated cause hcause :=
    states_of_ofValue hbefore hafter hrefusal (eq_error_of_map_eq_error hcause)

end Count

end NumberFeed
