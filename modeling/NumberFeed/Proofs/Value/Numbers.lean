import NumberFeed.Proofs.Number.Writable
import NumberFeed.Value.Text

/-!
# Numbers within texts

A text is there unless a number in it is too long to be written. `Tells` says so of a result and the
numbers that it tells: it is there if all of them can be written, and is a failure of one kind
otherwise. The account of a text follows the way in which it is put together: a part after another
tells the numbers of both (`Tells.bind`). `Value.numbers` lists the numbers that stand in plain data.
-/

namespace NumberFeed

/-- A result that tells some numbers: it is there if all of them can be written, and one that cannot
be written is the failure. -/
structure Tells {α : Type} (numbers : List Int) (result : Except Failure α) : Prop where
  /-- If all numbers can be written, there is a result. -/
  ok : (∀ n ∈ numbers, Number.Writable n) → ∃ made, result = .ok made
  /-- A number that cannot be written is the failure. -/
  long : ∀ n ∈ numbers, ¬ Number.Writable n → result = .error .tooManyDigits

namespace Tells

variable {α β : Type} {numbers more : List Int}

/-- What is there anyway tells no number. -/
theorem pure (made : α) : Tells [] (.ok made) :=
  ⟨fun _ => ⟨made, rfl⟩, fun _ hn => nomatch hn⟩

/-- What is made of a result tells the same numbers. -/
theorem map {result : Except Failure α} (h : Tells numbers result) (make : α → β) :
    Tells numbers (result.map make) := by
  refine ⟨fun hall => ?_, fun n hn hlong => ?_⟩
  · obtain ⟨made, hmade⟩ := h.ok hall
    exact ⟨make made, by rw [hmade, Except.map]⟩
  · rw [h.long n hn hlong, Except.map]

/-- Two results one after the other tell the numbers of both. -/
theorem bind {first : Except Failure α} {next : α → Except Failure β} (hfirst : Tells numbers first)
    (hnext : ∀ made, Tells more (next made)) : Tells (numbers ++ more) (first >>= next) := by
  refine ⟨fun hall => ?_, fun n hn hlong => ?_⟩
  · obtain ⟨made, hmade⟩ := hfirst.ok fun n hn => hall n (List.mem_append_left _ hn)
    obtain ⟨last, hlast⟩ := (hnext made).ok fun n hn => hall n (List.mem_append_right _ hn)
    exact ⟨last, by rw [hmade]; exact hlast⟩
  · -- The failure is that of the first result unless all numbers of that can be written.
    by_cases hall : ∀ m ∈ numbers, Number.Writable m
    · have hmore : n ∈ more := by
        rcases List.mem_append.mp hn with hin | hin
        · exact absurd (hall n hin) hlong
        · exact hin
      obtain ⟨made, hmade⟩ := hfirst.ok hall
      rw [hmade]
      exact (hnext made).long n hmore hlong
    · obtain ⟨m, hm, hunwritten⟩ : ∃ m ∈ numbers, ¬ Number.Writable m := by simpa using hall
      rw [hfirst.long m hm hunwritten]
      rfl

/-- A text is a failure just when it tells a number that cannot be written. -/
theorem eq_error_iff {result : Except Failure α} (h : Tells numbers result) {cause : Failure} :
    result = .error cause ↔ cause = .tooManyDigits ∧ ∃ n ∈ numbers, ¬ Number.Writable n := by
  constructor
  · intro hcause
    by_cases hall : ∀ n ∈ numbers, Number.Writable n
    · obtain ⟨made, hmade⟩ := h.ok hall
      rw [hmade] at hcause
      cases hcause
    · obtain ⟨n, hn, hlong⟩ : ∃ n ∈ numbers, ¬ Number.Writable n := by simpa using hall
      rw [h.long n hn hlong] at hcause
      exact ⟨(Except.error.inj hcause).symm, n, hn, hlong⟩
  · rintro ⟨rfl, n, hn, hlong⟩
    exact h.long n hn hlong

end Tells

/-! ## Numbers and times -/

/-- To write a number tells it. -/
theorem Number.tells_write (n : Int) : Tells [n] (write n) := by
  refine ⟨fun hall => ?_, fun m hm hlong => ?_⟩
  · exact ⟨_, write_of_writable (hall n (List.mem_singleton_self n))⟩
  · rw [List.mem_singleton.mp hm] at hlong
    exact write_of_not_writable hlong

/-- The text of a duration tells its nanoseconds. -/
theorem Duration.tells_text (duration : Duration) : Tells [duration.nanos] duration.text :=
  (Number.tells_write _).map _

/-- The text of an instant tells both of its fields. -/
theorem Instant.tells_text (instant : Instant) :
    Tells [instant.seconds, instant.nanos] instant.text :=
  (Number.tells_write _).bind fun _ => (Number.tells_write _).bind fun _ => Tells.pure _

namespace Span

/-- The text of a calendar span tells its days. -/
theorem tells_text (span : Span) : Tells [span.days] span.text :=
  (Number.tells_write _).bind fun _ => Tells.pure _

/-- What remains beside the days is small enough to be written. -/
theorem writable_parts (span : Span) :
    Number.Writable span.seconds ∧ Number.Writable span.microseconds := by
  have hseconds : span.seconds.natAbs < Nat.pow 2 20 := by
    have hpow : Nat.pow 2 20 = 1048576 := rfl
    simp only [seconds, microsPerDay, hpow]
    omega
  have hmicros : span.microseconds.natAbs < Nat.pow 2 20 := by
    have hpow : Nat.pow 2 20 = 1048576 := rfl
    simp only [microseconds, hpow]
    omega
  exact ⟨Number.writable_of_lt hseconds (by decide), Number.writable_of_lt hmicros (by decide)⟩

/-- The literal of a calendar span tells its days. -/
theorem tells_literal (span : Span) : Tells [span.days] span.literal := by
  have hpart : ∀ (name : String) (n : Int), Tells [n]
      (if n = 0 then (.ok [] : Except Failure (List String))
        else (Number.write n).map fun shown => [name ++ "=" ++ shown]) := by
    intro name n
    by_cases hzero : n = 0
    · -- Zero is left out, and could be written.
      rw [if_pos hzero]
      refine ⟨fun _ => ⟨[], rfl⟩, fun m hm hlong => ?_⟩
      rw [List.mem_singleton.mp hm, hzero] at hlong
      exact absurd (by decide) hlong
    · rw [if_neg hzero]
      exact (Number.tells_write n).map _
  have hparts : Tells ([span.days] ++ ([span.seconds] ++ ([span.microseconds] ++ []))) span.literal :=
    (hpart _ _).bind fun _ => (hpart _ _).bind fun _ => (hpart _ _).bind fun _ => Tells.pure _
  obtain ⟨hseconds, hmicros⟩ := span.writable_parts
  refine ⟨fun hall => hparts.ok ?_, fun n hn hlong => hparts.long n ?_ hlong⟩
  · simpa [hseconds, hmicros] using hall
  · exact List.mem_append_left _ hn

end Span

/-! ## Values -/

namespace Value

mutual

/-- Whether a value is plain data: no object stands in it. -/
def isPlain : Value → Bool
  | object _ _ => false
  | list items | tuple items => allPlain items
  | dict entries => entriesPlain entries
  | _ => true

/-- Whether all of several values are plain data. -/
def allPlain : List Value → Bool
  | [] => true
  | value :: rest => isPlain value && allPlain rest

/-- Whether all keys and values of entries are plain data. -/
def entriesPlain : List (Value × Value) → Bool
  | [] => true
  | (key, value) :: rest => isPlain key && (isPlain value && entriesPlain rest)

end

mutual

/-- The numbers that the text of a value tells and that may be too long to be written. -/
def numbers : Value → List Int
  | int n => [n]
  | duration d => [d.nanos]
  | span s => [s.days]
  | instant i => [i.seconds, i.nanos]
  | list items | tuple items => allNumbers items
  | dict entries => entryNumbers entries
  | _ => []

/-- The numbers that the texts of several values tell. -/
def allNumbers : List Value → List Int
  | [] => []
  | value :: rest => numbers value ++ allNumbers rest

/-- The numbers that the texts of keys and values tell. -/
def entryNumbers : List (Value × Value) → List Int
  | [] => []
  | (key, value) :: rest => numbers key ++ (numbers value ++ entryNumbers rest)

end

end Value

end NumberFeed
