import NumberFeed.Surroundings

/-!
# What an act takes from its surroundings

An act in surroundings takes readings of the two clocks, leaves records in the log, and may leave
something to remember for shared functions. `Usage` is the account of all this, and
`Surroundings.after` the surroundings after it. Two surroundings agree on a usage
(`Surroundings.Agrees`) if they have the same settings and the same next readings, as many as the
usage takes, and remember the same if the usage touches that. An act is `Frugal` if in surroundings
that agree on what it used it does the same: nothing else reaches it, neither the readings that
others have taken nor the log.

Frugal acts are put together from frugal parts (`Frugal.andThen`), so that the account of a read in
progress follows the shape of its definition.
-/

namespace NumberFeed

namespace Readings

variable {α : Type}

/-- The readings after so many more have been taken. -/
def skip (readings : Readings α) (count : Nat) : Readings α :=
  { readings with used := readings.used + count }

/-- The next so many readings, in the order in which they will be taken. -/
def ahead (readings : Readings α) (count : Nat) : List α :=
  (List.range count).map fun i => readings.supply (readings.used + i)

/-- Taking no reading changes nothing. -/
@[simp] theorem skip_zero (readings : Readings α) : readings.skip 0 = readings := rfl

/-- Taking readings twice is taking them all at once. -/
@[simp] theorem skip_skip (readings : Readings α) (m n : Nat) :
    (readings.skip m).skip n = readings.skip (m + n) := by
  simp only [skip, Nat.add_assoc]

/-- A single reading is one reading more. -/
theorem advance_eq_skip (readings : Readings α) : readings.advance = readings.skip 1 := rfl

/-- Skipping counts the readings. -/
@[simp] theorem used_skip (readings : Readings α) (count : Nat) :
    (readings.skip count).used = readings.used + count := rfl

/-- No readings are an empty list. -/
@[simp] theorem ahead_zero (readings : Readings α) : readings.ahead 0 = [] := rfl

/-- As many readings come as are asked for. -/
@[simp] theorem length_ahead (readings : Readings α) (count : Nat) :
    (readings.ahead count).length = count := by
  simp [ahead]

/-- The next reading comes first. -/
theorem ahead_one (readings : Readings α) : readings.ahead 1 = [readings.current] := by
  simp [ahead, current, List.range_succ]

/-- The next readings are the first of them and then those that follow these. -/
theorem ahead_add (readings : Readings α) (m n : Nat) :
    readings.ahead (m + n) = readings.ahead m ++ (readings.skip m).ahead n := by
  simp only [ahead, List.range_add, List.map_append, List.map_map, skip]
  congr 1
  apply List.map_congr_left
  intro i _
  simp only [Function.comp, Nat.add_assoc]

end Readings

/-- What an act takes from its surroundings and leaves in them. -/
structure Usage where
  /-- The number of readings of the monotonic clock. -/
  clock : Nat
  /-- The number of readings of the wall clock. -/
  wall : Nat
  /-- The log records, the first one first. -/
  records : List LogRecord
  /-- What is left to remember, if shared functions have been called. -/
  memory : Option Value

namespace Usage

/-- The usage of an act that leaves its surroundings alone. -/
def none : Usage := ⟨0, 0, [], .none⟩

/-- The usage of one act after another. -/
def andThen (first second : Usage) : Usage :=
  ⟨first.clock + second.clock, first.wall + second.wall, first.records ++ second.records,
    second.memory.or first.memory⟩

end Usage

namespace Surroundings

/-- The surroundings after a usage. -/
def after (around : Surroundings) (usage : Usage) : Surroundings :=
  { around with
    clock := around.clock.skip usage.clock
    wall := around.wall.skip usage.wall
    log := around.log ++ usage.records
    memory := usage.memory.getD around.memory }

/-- Two surroundings that agree on a usage give the same to whoever uses no more. -/
structure Agrees (a b : Surroundings) (usage : Usage) : Prop where
  /-- The largest number of an unbounded feed is the same. -/
  largest : a.largest = b.largest
  /-- The monotonic clock will show the same. -/
  clock : a.clock.ahead usage.clock = b.clock.ahead usage.clock
  /-- The wall clock will show the same. -/
  wall : a.wall.ahead usage.wall = b.wall.ahead usage.wall
  /-- Records that cannot be put together are treated in the same way. -/
  forgiving : a.forgiving = b.forgiving
  /-- The same is remembered, if it matters. -/
  memory : usage.memory.isSome → a.memory = b.memory

/-- Nothing used, nothing changed. -/
@[simp] theorem after_none (around : Surroundings) : around.after .none = around := by
  simp [after, Usage.none]

/-- To leave what is remembered as it is changes nothing. -/
theorem after_memory (around : Surroundings) :
    around.after ⟨0, 0, [], some around.memory⟩ = around := by
  simp [after]

/-- Using twice is using both. -/
theorem after_after (around : Surroundings) (first second : Usage) :
    (around.after first).after second = around.after (first.andThen second) := by
  rcases hmemory : second.memory with _ | memory
  · simp [after, Usage.andThen, List.append_assoc, hmemory]
  · simp [after, Usage.andThen, List.append_assoc, hmemory]

/-- Agreement on two usages is agreement on the first, and after it on the second. -/
theorem agrees_andThen {a b : Surroundings} {first second : Usage} :
    a.Agrees b (first.andThen second) ↔
      a.Agrees b first ∧ (a.after first).Agrees (b.after first) second := by
  constructor
  · rintro ⟨hlargest, hclock, hwall, hforgiving, hmemory⟩
    -- The readings ahead are those of the first usage and then those of the second.
    simp only [Usage.andThen, Readings.ahead_add] at hclock hwall
    obtain ⟨hclock₁, hclock₂⟩ := List.append_inj hclock (by simp)
    obtain ⟨hwall₁, hwall₂⟩ := List.append_inj hwall (by simp)
    refine ⟨⟨hlargest, hclock₁, hwall₁, hforgiving, fun hfirst => hmemory ?_⟩,
      ⟨hlargest, hclock₂, hwall₂, hforgiving, fun hsecond => ?_⟩⟩
    · simp [Usage.andThen, hfirst]
    · have hsame : a.memory = b.memory := hmemory (by simp [Usage.andThen, hsecond])
      simp only [after, hsame]
  · rintro ⟨⟨hlargest, hclock₁, hwall₁, hforgiving, hmemory₁⟩, ⟨-, hclock₂, hwall₂, -, hmemory₂⟩⟩
    refine ⟨hlargest, ?_, ?_, hforgiving, ?_⟩
    · simp only [Usage.andThen, Readings.ahead_add]
      rw [hclock₁]
      exact congrArg _ hclock₂
    · simp only [Usage.andThen, Readings.ahead_add]
      rw [hwall₁]
      exact congrArg _ hwall₂
    · -- If only the second one touches what is remembered, it finds what the first one found.
      intro htouched
      rcases hfirst : first.memory with _ | memory
      · have hsecond : second.memory.isSome := by simpa [Usage.andThen, hfirst] using htouched
        simpa [after, hfirst] using hmemory₂ hsecond
      · exact hmemory₁ (by simp [hfirst])

/-- Two surroundings are alike for whoever reads if they differ in nothing but their logs and what
is no matter for readers. -/
structure Alike (a b : Surroundings) : Prop where
  /-- The largest number of an unbounded feed is the same. -/
  largest : a.largest = b.largest
  /-- The monotonic clock is the same. -/
  clock : a.clock = b.clock
  /-- The wall clock is the same. -/
  wall : a.wall = b.wall
  /-- Records that cannot be put together are treated in the same way. -/
  forgiving : a.forgiving = b.forgiving
  /-- The same is remembered. -/
  memory : a.memory = b.memory

/-- Surroundings that are alike agree on whatever is used. -/
theorem Alike.agrees {a b : Surroundings} (h : a.Alike b) (usage : Usage) : a.Agrees b usage :=
  ⟨h.largest, by rw [h.clock], by rw [h.wall], h.forgiving, fun _ => h.memory⟩

/-- Surroundings that are alike are alike after the same usage. -/
theorem Alike.after {a b : Surroundings} (h : a.Alike b) (usage : Usage) :
    (a.after usage).Alike (b.after usage) := by
  refine ⟨h.largest, ?_, ?_, h.forgiving, ?_⟩
  · simp only [Surroundings.after, h.clock]
  · simp only [Surroundings.after, h.wall]
  · simp only [Surroundings.after, h.memory]

end Surroundings

/-- An act in surroundings: a result and the surroundings afterwards. -/
abbrev Act (α : Type) := Surroundings → α × Surroundings

namespace Act

variable {α β : Type}

/-- One act after another, which may depend on the result of the first. -/
def andThen (first : Act α) (next : α → Act β) : Act β := fun around =>
  next (first around).1 (first around).2

/-- An act that leaves its surroundings alone. -/
def idle (result : α) : Act α := fun around => (result, around)

end Act

/-- An act is frugal if it does the same in all surroundings that agree on what it uses, and uses
the same there. -/
def Frugal {α : Type} (act : Act α) : Prop :=
  ∀ a : Surroundings, ∃ usage : Usage, (act a).2 = a.after usage ∧
    ∀ b, a.Agrees b usage → act b = ((act a).1, b.after usage)

namespace Frugal

variable {α β : Type}

/-- To do nothing is frugal. -/
theorem idle (result : α) : Frugal (Act.idle result) := by
  intro a
  refine ⟨.none, by simp [Act.idle], ?_⟩
  intro b _
  simp [Act.idle]

/-- Reading the monotonic clock is frugal. -/
theorem readClock : Frugal Surroundings.readClock := by
  intro a
  refine ⟨⟨1, 0, [], none⟩, by simp [Surroundings.readClock, Surroundings.after,
    Readings.advance_eq_skip], ?_⟩
  rintro b ⟨-, hclock, -, -, -⟩
  simp only [Readings.ahead_one, List.cons.injEq, and_true] at hclock
  simp [Surroundings.readClock, Surroundings.after, Readings.advance_eq_skip, hclock]

/-- Reading the wall clock is frugal. -/
theorem readWall : Frugal Surroundings.readWall := by
  intro a
  refine ⟨⟨0, 1, [], none⟩, by simp [Surroundings.readWall, Surroundings.after,
    Readings.advance_eq_skip], ?_⟩
  rintro b ⟨-, -, hwall, -, -⟩
  simp only [Readings.ahead_one, List.cons.injEq, and_true] at hwall
  simp [Surroundings.readWall, Surroundings.after, Readings.advance_eq_skip, hwall]

/-- Writing a record is frugal. -/
theorem write (result : α) (level : Level) (origin : Origin) (message : String) :
    Frugal fun around => (result, around.write level origin message) := by
  intro a
  refine ⟨⟨0, 0, [⟨level, origin, message⟩], none⟩,
    by simp [Surroundings.write, Surroundings.after], ?_⟩
  intro b _
  simp [Surroundings.write, Surroundings.after]

/-- Remembering what a shared function makes of what it remembers is frugal. -/
theorem remember (f : Value → α × Value) :
    Frugal fun around => ((f around.memory).1, { around with memory := (f around.memory).2 }) := by
  intro a
  refine ⟨⟨0, 0, [], some (f a.memory).2⟩, by simp [Surroundings.after], ?_⟩
  rintro b ⟨-, -, -, -, hmemory⟩
  have hsame : a.memory = b.memory := hmemory rfl
  simp [Surroundings.after, hsame]

/-- Frugal acts one after the other are frugal. -/
theorem andThen {first : Act α} {next : α → Act β} (hfirst : Frugal first)
    (hnext : ∀ result, Frugal (next result)) : Frugal (first.andThen next) := by
  intro a
  obtain ⟨usage₁, hafter₁, hagree₁⟩ := hfirst a
  obtain ⟨usage₂, hafter₂, hagree₂⟩ := hnext (first a).1 (a.after usage₁)
  refine ⟨usage₁.andThen usage₂, ?_, ?_⟩
  · rw [Act.andThen, hafter₁, hafter₂, Surroundings.after_after]
  · intro b hb
    -- The first act leaves surroundings that agree on what the second one uses.
    obtain ⟨hb₁, hb₂⟩ := Surroundings.agrees_andThen.mp hb
    simp only [Act.andThen]
    rw [hagree₁ b hb₁, hafter₁]
    dsimp only
    rw [hagree₂ _ hb₂, Surroundings.after_after]

/-- A choice by the settings between frugal acts is frugal. -/
theorem bySettings {p : Int → Bool → Prop} [∀ largest, DecidablePred (p largest)] {yes no : Act α}
    (hyes : Frugal yes) (hno : Frugal no) :
    Frugal fun around =>
      if p around.largest around.forgiving then yes around else no around := by
  intro a
  by_cases h : p a.largest a.forgiving
  · obtain ⟨usage, hafter, hagree⟩ := hyes a
    refine ⟨usage, by simpa only [h, if_true] using hafter, ?_⟩
    intro b hb
    have hb' : p b.largest b.forgiving := hb.largest ▸ hb.forgiving ▸ h
    simpa only [h, hb', if_true] using hagree b hb
  · obtain ⟨usage, hafter, hagree⟩ := hno a
    refine ⟨usage, by simpa only [h, if_false] using hafter, ?_⟩
    intro b hb
    have hb' : ¬ p b.largest b.forgiving := hb.largest ▸ hb.forgiving ▸ h
    simpa only [h, hb', if_false] using hagree b hb

end Frugal

end NumberFeed
