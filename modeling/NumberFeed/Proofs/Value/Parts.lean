import NumberFeed.Value.Entries

/-!
# The parts of a value

Lists, tuples, mappings and most objects are made of other values (`Value.parts`), down to values
without parts, so that what holds of a value whenever it holds of its parts holds of every value
(`Value.partsInduction`).
-/

namespace NumberFeed

/-- The keys and the values of entries. -/
def Entries.parts (entries : Entries) : List Value :=
  entries.flatMap fun entry => [entry.1, entry.2]

/-- The values that an object is made of. -/
def Form.parts : Form → List Value
  | element value timestamp => [value, timestamp]
  | configuration _ entries => Entries.parts entries
  | unboundedInput stamps _ time => [stamps, time]
  | counting kept => [kept]
  | read _ _ source | limitedRead _ _ source => [source]
  | collection _ producer => [producer]
  | stamper _ _ | boundedInput _ | range _ _ | reader _ _ => []

namespace Value

/-- The values that a value is made of. -/
def parts : Value → List Value
  | list items | tuple items => items
  | dict entries => Entries.parts entries
  | object _ form => form.parts
  | _ => []

/-- The entries of a mapping or of a configuration. -/
def ownEntries : Value → Entries
  | dict entries | object _ (.configuration _ entries) => entries
  | _ => []

/-- The key and the value of an entry are parts of the entries. -/
theorem mem_parts_of_mem {entries : Entries} {entry : Value × Value} (h : entry ∈ entries) :
    entry.1 ∈ Entries.parts entries ∧ entry.2 ∈ Entries.parts entries :=
  ⟨List.mem_flatMap.mpr ⟨entry, h, by simp⟩, List.mem_flatMap.mpr ⟨entry, h, by simp⟩⟩

/-- A key or a value is smaller than the entries. -/
theorem sizeOf_lt_of_mem_entries {entries : Entries} {part : Value}
    (h : part ∈ Entries.parts entries) : sizeOf part < sizeOf entries := by
  obtain ⟨⟨key, value⟩, hentry, hpart⟩ := List.mem_flatMap.mp h
  have hentries : sizeOf (key, value) < sizeOf entries := List.sizeOf_lt_of_mem hentry
  have hpair : sizeOf (key, value) = 1 + sizeOf key + sizeOf value := rfl
  have hcases : part = key ∨ part = value := by simpa using hpart
  rcases hcases with rfl | rfl
  · omega
  · omega

/-- A part of an object is smaller than its form. -/
theorem sizeOf_lt_of_mem_form {form : Form} {part : Value} (h : part ∈ form.parts) :
    sizeOf part < sizeOf form := by
  cases form with
  | configuration place entries =>
    have hentries : sizeOf part < sizeOf entries := sizeOf_lt_of_mem_entries h
    rw [Form.configuration.sizeOf_spec]
    omega
  | element value timestamp =>
    have hcases : part = value ∨ part = timestamp := by simpa [Form.parts] using h
    rcases hcases with rfl | rfl <;> simp +arith
  | unboundedInput stamper records time =>
    have hcases : part = stamper ∨ part = time := by simpa [Form.parts] using h
    rcases hcases with rfl | rfl <;> simp +arith
  | counting source | read bounded mark source | limitedRead limits mark source
  | collection bounded source =>
    have hsource : part = source := by simpa [Form.parts] using h
    rw [hsource]
    simp +arith
  | stamper | boundedInput | range | reader => cases h

/-- A part is smaller than the value. -/
theorem sizeOf_lt_of_mem_parts {value part : Value} (h : part ∈ value.parts) :
    sizeOf part < sizeOf value := by
  cases value with
  | list items | tuple items =>
    have hitems : sizeOf part < sizeOf items := List.sizeOf_lt_of_mem h
    simp only [list.sizeOf_spec, tuple.sizeOf_spec]
    omega
  | dict entries =>
    have hentries : sizeOf part < sizeOf entries := sizeOf_lt_of_mem_entries h
    rw [dict.sizeOf_spec]
    omega
  | object mark form =>
    have hform : sizeOf part < sizeOf form := sizeOf_lt_of_mem_form h
    rw [object.sizeOf_spec]
    omega
  | _ => cases h

/-- What holds of a value whenever it holds of its parts holds of every value. -/
theorem partsInduction {motive : Value → Prop}
    (made : ∀ value, (∀ part ∈ value.parts, motive part) → motive value) (value : Value) :
    motive value :=
  made value fun part _ => partsInduction made part
termination_by sizeOf value
decreasing_by exact sizeOf_lt_of_mem_parts ‹_›

end Value

end NumberFeed
