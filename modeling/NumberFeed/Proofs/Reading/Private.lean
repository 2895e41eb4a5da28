import NumberFeed.Proofs.Reading.Run

/-!
# Readers that keep to themselves

A stamper that goes by its name shares what it remembers with all that use it. A reader of any other
stamper is private: in a step (`Reader.step_private`) and in a run (`Reader.take_private`) it does
the same whatever such functions remember, and leaves that alone. So its usage does not touch the
memory (`Reader.take_uses`), and what others make of the memory does not reach it.
-/

namespace NumberFeed

/-- A stamper is private if it does not go by its name. -/
def Stamper.Private : Stamper → Prop
  | shared _ => False
  | _ => True

/-- A call of a private stamper does the same whatever others remember, and the stamper is private
afterwards. -/
theorem Stamper.call_private {stamper : Stamper} (h : stamper.Private) (number : Int)
    (around : Surroundings) (memory : Value) :
    stamper.call number { around with memory } =
        ((stamper.call number around).1, (stamper.call number around).2.1,
          { (stamper.call number around).2.2 with memory }) ∧
      (stamper.call number around).2.1.Private := by
  cases stamper with
  | shared f => exact absurd h id
  | now => exact ⟨rfl, trivial⟩
  | ofFunction f => exact ⟨rfl, trivial⟩
  | ofFormula formula => exact ⟨rfl, trivial⟩
  | uncallable value => exact ⟨rfl, trivial⟩

/-- The same step with something else that is remembered. -/
def Step.withMemory (memory : Value) (step : Step) : Step :=
  { step with around := { step.around with memory } }

/-- The same run with something else that is remembered. -/
def Taken.withMemory (memory : Value) (taken : Taken) : Taken :=
  { taken with around := { taken.around with memory } }

namespace Reader

/-- A reader is private if its stamper is. -/
def Private : Reader → Prop
  | ended | broken _ | range _ _ => True
  | counting stamper _ => stamper.Private
  | limited _ _ _ inner => inner.Private

/-- Stopping with a record has nothing to do with what is remembered. -/
theorem stopWith_private (message : Except Failure String) (around : Surroundings)
    (memory : Value) :
    stopWith message { around with memory } = (stopWith message around).withMemory memory ∧
      (stopWith message around).reader.Private := by
  obtain ⟨clock, wall, largest, verbose, log, forgiving, before, zones⟩ := around
  cases message with
  | ok message => exact ⟨rfl, trivial⟩
  | error cause =>
    cases forgiving with
    | true => exact ⟨rfl, trivial⟩
    | false => exact ⟨rfl, trivial⟩

/-- Finding the deadline has nothing to do with what is remembered. -/
theorem deadline_private (limits : Limits) (phase : Phase) (around : Surroundings)
    (memory : Value) :
    deadline limits phase { around with memory } =
      ((deadline limits phase around).1, { (deadline limits phase around).2 with memory }) := by
  unfold deadline
  split
  · rfl
  · rfl
  · rfl

/-- Passing an element on has nothing to do with what is remembered. -/
theorem pass_private (limits : Limits) (source : Source) (due : Option Float) (count : Nat)
    (element : Timestamped) {inner : Reader} (h : inner.Private) (around : Surroundings)
    (memory : Value) :
    pass limits source due count element inner { around with memory } =
        (pass limits source due count element inner around).withMemory memory ∧
      (pass limits source due count element inner around).reader.Private := by
  unfold pass
  split
  · -- The reading of the clock is the same, and so is what it decides.
    rename_i due time _
    dsimp only
    have hclock : ({ around with memory } : Surroundings).readClock =
        (around.readClock.1, { around.readClock.2 with memory }) := rfl
    rw [hclock]
    split
    · exact stopWith_private _ _ _
    · exact ⟨rfl, h⟩
  · exact ⟨rfl, h⟩

/-- A step of a private reader does the same whatever is remembered, and the reader is private
afterwards. -/
theorem step_private {reader : Reader} (h : reader.Private) (around : Surroundings)
    (memory : Value) :
    reader.step { around with memory } = (reader.step around).withMemory memory ∧
      (reader.step around).reader.Private := by
  induction reader generalizing around with
  | ended => exact ⟨rfl, trivial⟩
  | broken cause => exact ⟨rfl, trivial⟩
  | range next stop =>
    rw [step, step]
    split
    · exact ⟨rfl, trivial⟩
    · exact ⟨rfl, trivial⟩
  | counting stamper next =>
    obtain ⟨hcall, hprivate⟩ := Stamper.call_private h next around memory
    rw [step, step]
    dsimp only
    split
    · rw [hcall]
      generalize stamper.call next around = called at hprivate ⊢
      rcases called with ⟨cause | stamp, stamper', around'⟩
      · exact ⟨rfl, trivial⟩
      · exact ⟨rfl, hprivate⟩
    · exact ⟨rfl, trivial⟩
  | limited limits source phase inner ih =>
    rw [step, step, deadline_private]
    rcases deadline limits phase around with ⟨cause | ⟨due, count⟩, found⟩
    · exact ⟨rfl, trivial⟩
    · dsimp only
      split
      · exact stopWith_private _ _ _
      · -- The read within takes the same step, and so the same is passed on.
        obtain ⟨hinner, hrest⟩ := ih h found
        rw [hinner]
        generalize inner.step found = s at hrest ⊢
        rcases s with ⟨element | _ | cause, rest, after⟩
        · exact pass_private limits source due count element hrest after memory
        · exact ⟨rfl, trivial⟩
        · exact ⟨rfl, trivial⟩

/-- A run of a private reader does the same whatever is remembered, and the reader is private
afterwards. -/
theorem take_private {reader : Reader} (h : reader.Private) (count : Nat) (around : Surroundings)
    (memory : Value) :
    reader.take count { around with memory } = (reader.take count around).withMemory memory ∧
      (reader.take count around).reader.Private := by
  induction count generalizing reader around with
  | zero => exact ⟨rfl, h⟩
  | succ count ih =>
    obtain ⟨hstep, hprivate⟩ := step_private h around memory
    rw [take_succ, take_succ, hstep]
    generalize reader.step around = s at hprivate ⊢
    rcases s with ⟨element | _ | cause, rest, after⟩
    · obtain ⟨htake, hrest⟩ := ih hprivate after
      refine ⟨?_, hrest⟩
      show (rest.take count { after with memory }).cons element = _
      rw [htake]
      rfl
    · exact ⟨rfl, hprivate⟩
    · exact ⟨rfl, hprivate⟩

/-- A run of a private reader leaves what is remembered alone. -/
theorem memory_take {reader : Reader} (h : reader.Private) (count : Nat) (around : Surroundings) :
    (reader.take count around).around.memory = around.memory := by
  have hsame := (take_private h count around around.memory).1
  exact congrArg (fun taken : Taken => taken.around.memory) hsame

/-- A run uses something, and in all surroundings that agree on that it is the same run. A private
reader does not use what is remembered. -/
theorem take_uses (count : Nat) (reader : Reader) (a : Surroundings) :
    ∃ usage : Usage, (reader.take count a).around = a.after usage ∧
      (reader.Private → usage.memory = none) ∧
      ∀ b, a.Agrees b usage →
        (reader.take count b).elements = (reader.take count a).elements ∧
          (reader.take count b).stop = (reader.take count a).stop ∧
          (reader.take count b).reader = (reader.take count a).reader ∧
          (reader.take count b).around = b.after usage := by
  obtain ⟨usage, hafter, hagree⟩ := take_agrees count reader a
  by_cases hprivate : reader.Private
  · -- What the account says about the memory is struck out.
    refine ⟨{ usage with memory := none }, ?_, fun _ => rfl, ?_⟩
    · have hmemory := memory_take hprivate count a
      rw [hafter] at hmemory ⊢
      simp only [Surroundings.after] at hmemory ⊢
      rw [hmemory]
      rfl
    · rintro b ⟨hlargest, hclock, hwall, hforgiving, -⟩
      obtain ⟨helements, hstop, hreader, haround⟩ := hagree { b with memory := a.memory }
        ⟨hlargest, hclock, hwall, hforgiving, fun _ => rfl⟩
      have hsame : reader.take count b =
          (reader.take count { b with memory := a.memory }).withMemory b.memory :=
        (take_private hprivate count { b with memory := a.memory } b.memory).1
      rw [hsame]
      refine ⟨helements, hstop, hreader, ?_⟩
      simp only [Taken.withMemory, haround]
      rfl
  · exact ⟨usage, hafter, fun h => absurd h hprivate, hagree⟩

end Reader

end NumberFeed
