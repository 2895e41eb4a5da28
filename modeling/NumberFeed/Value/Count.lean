import NumberFeed.Value.Text

/-!
# Counts among values

Values are checked for being a count in a single place, and the refusal shows the text of what was
given instead.
-/

namespace NumberFeed.Count

/-- The count that a value is, if it is one. -/
def ofValue? (value : Value) : Option Count :=
  match value.int? with
  | some n => if h : 0 < n then some ⟨n, h⟩ else none
  | none => none

/-- The count that a value is; otherwise a refusal made of the text of the value. -/
def ofValue (refusal : String → Refusal) (value : Value) : Except Failure Count :=
  match ofValue? value with
  | some count => .ok count
  | none => value.shown >>= fun shown => .error (.refused (refusal shown))

/-- The greatest number of records, which has to be a count. -/
def ofRecords (value : Value) : Except Failure Count :=
  ofValue .recordsNotPositive value

/-- A value is a count just when it is a positive integer. -/
theorem ofValue?_eq_some_iff {value : Value} {count : Count} :
    ofValue? value = some count ↔ value = .int count.value := by
  rcases count with ⟨n, positive⟩
  cases value <;> simp [ofValue?, Value.int?]
  intro h
  omega

end NumberFeed.Count
