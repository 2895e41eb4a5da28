import NumberFeed.Proofs.Value.Numbers

/-!
# Numbers within the texts of objects

The text of an object tells the numbers of its parts as that of plain data does, and those of its
own: the parameters of a timestamp function, counts, the ends of a range, a read time. What is not
shown, such as the timestamp function of an unbounded source, does not matter. `Value.shownNumbers`
lists the numbers that the text of any value tells, and `Value.tells_asText` says that these alone
decide whether the text is there. The account has the shape of the text: one case for each kind of
value and for each kind of object, in which the parts follow one another. In plain data these are
the numbers that stand in it (`Value.tells_shown`).
-/

namespace NumberFeed

/-! ## The wording of objects -/

namespace Wording

/-- The numbers of the parameters of a timestamp function. -/
def stamperNumbers : Option StampFormula → List Int
  | none => []
  | some formula => [formula.a, formula.b]

/-- The number of a greatest number of records. -/
def recordsNumbers : Option Count → List Int
  | none => []
  | some count => [count.value]

/-- The number of a greatest amount of time. -/
def timeNumbers : Option Duration → List Int
  | none => []
  | some duration => [duration.nanos]

/-- The text of a timestamp function tells its parameters. -/
theorem tells_stamper (formula : Option StampFormula) :
    Tells (stamperNumbers formula) (stamper formula) := by
  cases formula with
  | none => exact Tells.pure _
  | some formula =>
    exact (Number.tells_write formula.a).bind fun _ => (Number.tells_write formula.b).bind
      fun _ => Tells.pure _

/-- A greatest number of records is told if there is one. -/
theorem tells_records (count : Option Count) : Tells (recordsNumbers count) (records count) := by
  cases count with
  | none => exact Tells.pure _
  | some count => exact Number.tells_write count.value

/-- A greatest amount of time is told if there is one. -/
theorem tells_time (duration : Option Duration) : Tells (timeNumbers duration) (time duration) := by
  cases duration with
  | none => exact Tells.pure _
  | some duration => exact duration.tells_text

/-- The text of a range tells its ends. -/
theorem tells_range (start stop : Int) : Tells [start, stop] (range start stop) :=
  (Number.tells_write start).bind fun _ => (Number.tells_write stop).bind fun _ => Tells.pure _

/-- The text of a read with limits tells its limits, besides what that of its source tells. -/
theorem tells_limitedRead (limits : Limits) (source : String) :
    Tells (recordsNumbers limits.records ++ timeNumbers limits.time)
      (limitedRead limits source) := by
  have hboth : Tells (recordsNumbers limits.records ++ (timeNumbers limits.time ++ []))
      (limitedRead limits source) :=
    (tells_records _).bind fun _ => (tells_time _).bind fun _ => Tells.pure _
  rwa [List.append_nil] at hboth

end Wording

/-! ## Values and objects -/

namespace Value

mutual

/-- The numbers that the text of any value tells and that may be too long to be written. -/
def shownNumbers : Value → List Int
  | int n => [n]
  | duration d => [d.nanos]
  | span s => [s.days]
  | instant i => [i.seconds, i.nanos]
  | list items | tuple items => allShown items
  | dict entries => entriesShown entries
  | object _ form => formShown form
  | _ => []

/-- The numbers that the text of an object tells. -/
def formShown : Form → List Int
  | .stamper _ formula => Wording.stamperNumbers formula
  | .element value timestamp => shownNumbers value ++ shownNumbers timestamp
  | .configuration _ entries => entriesShown entries
  | .boundedInput count => [count.value]
  | .unboundedInput stamper records time =>
    shownNumbers stamper ++ (shownNumbers time ++ Wording.recordsNumbers records)
  | .range start stop => [start, stop]
  | .read _ _ source => shownNumbers source
  | .limitedRead limits _ source =>
    shownNumbers source ++
      (Wording.recordsNumbers limits.records ++ Wording.timeNumbers limits.time)
  | .collection _ producer => shownNumbers producer
  | .counting _ | .reader _ _ => []

/-- The numbers that the texts of several values tell. -/
def allShown : List Value → List Int
  | [] => []
  | value :: rest => shownNumbers value ++ allShown rest

/-- The numbers that the texts of keys and values tell. -/
def entriesShown : List (Value × Value) → List Int
  | [] => []
  | (key, value) :: rest => shownNumbers key ++ (shownNumbers value ++ entriesShown rest)

end

mutual

/-- The text and the literal of a value tell its shown numbers. -/
theorem tells_asText (asLiteral : Bool) : ∀ value : Value,
    Tells value.shownNumbers (value.render asLiteral)
  | .null | .bool _ | .float _ | .nan _ | .text _ | .bytes _ | .moment _ _ => by
    rw [render, shownNumbers]
    · exact Tells.pure _
    all_goals
      intros
      contradiction
  | .int n => by
    rw [render, shownNumbers]
    exact Number.tells_write n
  | .list items => by
    rw [render, shownNumbers]
    exact (tells_allLiterals items).map _
  | .tuple items => by
    rw [render, shownNumbers]
    exact (tells_allLiterals items).map _
  | .dict entries => by
    rw [render, shownNumbers]
    exact (tells_allEntryLiterals entries).map _
  | .duration d => by
    rw [render, shownNumbers]
    exact d.tells_text
  | .span s => by
    rw [render, shownNumbers]
    split
    · exact s.tells_literal
    · exact s.tells_text
  | .instant i => by
    rw [render, shownNumbers]
    exact i.tells_text
  | .object _ form => by
    rw [render, shownNumbers]
    exact tells_formText form

/-- The text of an object tells its shown numbers. -/
theorem tells_formText : ∀ form : Form, Tells (formShown form) (formText form)
  | .stamper _ formula => by
    rw [formText, formShown]
    exact Wording.tells_stamper formula
  | .element value timestamp => by
    rw [formText, formShown, ← List.append_nil (shownNumbers timestamp)]
    exact (tells_asText false value).bind fun _ => (tells_asText false timestamp).bind
      fun _ => Tells.pure _
  | .configuration _ entries => by
    rw [formText, formShown]
    exact (tells_entryTexts entries).map _
  | .boundedInput count => by
    rw [formText, formShown]
    exact (Number.tells_write count.value).map _
  | .unboundedInput stamper records time => by
    rw [formText, formShown]
    exact (tells_asText true stamper).bind fun _ => (tells_asText true time).bind
      fun _ => (Wording.tells_records records).map _
  | .range start stop => by
    rw [formText, formShown]
    exact Wording.tells_range start stop
  | .counting _ => by
    rw [formText, formShown]
    exact Tells.pure _
  | .read _ _ source => by
    rw [formText, formShown]
    exact (tells_asText false source).map _
  | .limitedRead limits _ source => by
    rw [formText, formShown]
    exact (tells_asText false source).bind fun _ => Wording.tells_limitedRead limits _
  | .collection _ producer => by
    rw [formText, formShown]
    exact (tells_asText false producer).map _
  | .reader _ _ => by
    rw [formText, formShown]
    exact Tells.pure _

/-- The literals of values tell their shown numbers. -/
theorem tells_allLiterals : ∀ items : List Value, Tells (allShown items) (literals items)
  | [] => by
    rw [literals, allShown]
    exact Tells.pure _
  | value :: rest => by
    rw [literals, allShown, ← List.append_nil (allShown rest)]
    exact (tells_asText true value).bind fun _ => (tells_allLiterals rest).bind fun _ => Tells.pure _

/-- The literals of entries tell their shown numbers. -/
theorem tells_allEntryLiterals : ∀ entries : List (Value × Value),
    Tells (entriesShown entries) (entryLiterals entries)
  | [] => by
    rw [entryLiterals, entriesShown]
    exact Tells.pure _
  | (key, value) :: rest => by
    rw [entryLiterals, entriesShown, ← List.append_nil (entriesShown rest)]
    exact (tells_asText true key).bind fun _ => (tells_asText true value).bind
      fun _ => (tells_allEntryLiterals rest).bind fun _ => Tells.pure _

/-- So do the literals of keys with the quoted texts of values. -/
theorem tells_entryTexts : ∀ entries : List (Value × Value),
    Tells (entriesShown entries) (entryTexts entries)
  | [] => by
    rw [entryTexts, entriesShown]
    exact Tells.pure _
  | (key, value) :: rest => by
    rw [entryTexts, entriesShown, ← List.append_nil (entriesShown rest)]
    exact (tells_asText true key).bind fun _ => (tells_asText false value).bind
      fun _ => (tells_entryTexts rest).bind fun _ => Tells.pure _

end

mutual

/-- The text of plain data tells the numbers that stand in it. -/
theorem shownNumbers_of_isPlain : ∀ value : Value, value.isPlain = true →
    value.shownNumbers = value.numbers
  | .null, _ | .bool _, _ | .float _, _ | .nan _, _ | .text _, _ | .bytes _, _ | .moment _ _, _
  | .int _, _ | .duration _, _ | .span _, _ | .instant _, _ => by simp [shownNumbers, numbers]
  | .list items, h | .tuple items, h => by
    rw [isPlain] at h
    rw [shownNumbers, numbers, allShown_of_allPlain items h]
  | .dict entries, h => by
    rw [isPlain] at h
    rw [shownNumbers, numbers, entriesShown_of_entriesPlain entries h]
  | .object _ _, h => nomatch h

/-- So do the texts of several values. -/
theorem allShown_of_allPlain : ∀ items : List Value, allPlain items = true →
    allShown items = allNumbers items
  | [], _ => by
    rw [allShown, allNumbers]
  | value :: rest, h => by
    rw [allPlain, Bool.and_eq_true] at h
    rw [allShown, allNumbers, shownNumbers_of_isPlain value h.1, allShown_of_allPlain rest h.2]

/-- So do the texts of keys and values. -/
theorem entriesShown_of_entriesPlain : ∀ entries : List (Value × Value),
    entriesPlain entries = true → entriesShown entries = entryNumbers entries
  | [], _ => by
    rw [entriesShown, entryNumbers]
  | (key, value) :: rest, h => by
    rw [entriesPlain, Bool.and_eq_true, Bool.and_eq_true] at h
    rw [entriesShown, entryNumbers, shownNumbers_of_isPlain key h.1,
      shownNumbers_of_isPlain value h.2.1, entriesShown_of_entriesPlain rest h.2.2]

end

/-- The text of plain data tells its numbers. -/
theorem tells_shown {value : Value} (h : value.isPlain = true) :
    Tells value.numbers value.shown := by
  rw [← shownNumbers_of_isPlain value h]
  exact tells_asText false value

/-- Whether the text of a value is there: no number that it tells is too long. -/
def Tellable (value : Value) : Prop := ∀ n ∈ value.shownNumbers, Number.Writable n

instance (value : Value) : Decidable value.Tellable :=
  inferInstanceAs (Decidable (∀ n ∈ value.shownNumbers, Number.Writable n))

/-- A value is tellable just when it has a text. -/
theorem tellable_iff {value : Value} : value.Tellable ↔ ∃ shown, value.shown = .ok shown := by
  have htells := tells_asText false value
  constructor
  · intro htellable
    exact htells.ok htellable
  · rintro ⟨shown, hshown⟩ n hn
    refine Decidable.byContradiction fun hlong => ?_
    have herror : value.shown = .error .tooManyDigits := htells.long n hn hlong
    rw [hshown] at herror
    cases herror

/-- A value that is not tellable has a number that is too long to be written. -/
theorem exists_of_not_tellable {value : Value} (h : ¬ value.Tellable) :
    ∃ n ∈ value.shownNumbers, ¬ Number.Writable n := by
  simpa [Tellable] using h

/-- This number is the failure of its text. -/
theorem shown_of_not_tellable {value : Value} (h : ¬ value.Tellable) :
    value.shown = .error .tooManyDigits := by
  obtain ⟨n, hn, hlong⟩ := exists_of_not_tellable h
  exact (tells_asText false value).long n hn hlong

end Value

end NumberFeed
