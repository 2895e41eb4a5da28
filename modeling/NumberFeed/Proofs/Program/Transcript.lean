import Mathlib.Data.List.Forall2
import NumberFeed.Program.Counting
import NumberFeed.Proofs.Reading.Run

/-!
# The transcript of a run

The program logs a line for each element before it asks for the next one, so that its own records
stand between those of the reader. But a reader does not look at the log: `Counting.advanceAll_eq`
says that the program leaves its surroundings as a run of the reader does before which all the lines
have been told, and that this run is over as soon as a line cannot be told.

The lines are those of the elements that are read in silence (`Counting.transcript`). One whose text
cannot be put together is left out, if the surroundings drop such records. What makes the
telling and the reading change places is that readers are frugal (`Reader.step_frugal`) and that a
step that yields writes nothing (`Reader.moves_step`).
-/

namespace NumberFeed

namespace Surroundings

/-- The surroundings after the program has told some lines. -/
def tell (around : Surroundings) (lines : List String) : Surroundings :=
  { around with log := around.log ++ lines.map fun text => ⟨.info, .program, text⟩ }

/-- To tell nothing changes nothing. -/
@[simp] theorem tell_nil (around : Surroundings) : around.tell [] = around := by
  simp [tell]

/-- Lines can be told one after the other. -/
theorem tell_tell (around : Surroundings) (first second : List String) :
    (around.tell first).tell second = around.tell (first ++ second) := by
  simp [tell]

/-- Telling something is nothing that a reader would notice. -/
theorem alike_tell (around : Surroundings) (lines : List String) :
    around.Alike (around.tell lines) := ⟨rfl, rfl, rfl, rfl, rfl⟩

end Surroundings

namespace Reader

/-- A step that yields does the same after some lines have been told, and leaves them where they
are. -/
theorem step_tell {reader rest : Reader} {around after : Surroundings} {element : Timestamped}
    (h : reader.step around = ⟨.yielded element, rest, after⟩) (lines : List String) :
    reader.step (around.tell lines) = ⟨.yielded element, rest, after.tell lines⟩ := by
  obtain ⟨usage, hafter, hagree⟩ := reader.step_frugal around
  have hsame := hagree _ ((around.alike_tell lines).agrees usage)
  simp only [stepAct, Step.parts, h] at hafter hsame
  -- Nothing has been written, so that the lines stay at the end of the log.
  have hlog : after.log = around.log := by
    have hmoves := moves_step reader around
    rw [h] at hmoves
    cases hmoves with
    | yields _ _ hlog => exact hlog
  have hrecords : usage.records = [] := by
    rw [hafter, Surroundings.after] at hlog
    exact List.append_right_eq_self.mp hlog
  have hmoved : (around.tell lines).after usage = after.tell lines := by
    rw [hafter]
    simp only [Surroundings.after, Surroundings.tell, hrecords, List.append_nil]
  rw [hmoved] at hsame
  generalize reader.step (around.tell lines) = step at hsame
  obtain ⟨outcome, reader', around'⟩ := step
  simp only [Prod.mk.injEq] at hsame
  obtain ⟨⟨rfl, rfl⟩, rfl⟩ := hsame
  rfl

/-- A step keeps the zones, and what becomes of a record without a text. -/
theorem settings_step (reader : Reader) (around : Surroundings) :
    (reader.step around).around.zones = around.zones ∧
      (reader.step around).around.forgiving = around.forgiving := by
  obtain ⟨usage, hafter, -⟩ := reader.step_frugal around
  have hafter : (reader.step around).around = around.after usage := hafter
  rw [hafter]
  exact ⟨rfl, rfl⟩

/-- A run after a step that yields, with some lines told before both. -/
theorem around_take_tell {reader rest : Reader} {around after : Surroundings} {element : Timestamped}
    (h : reader.step around = ⟨.yielded element, rest, after⟩) (count : Nat) (lines : List String) :
    (reader.take (count + 1) (around.tell lines)).around =
      (rest.take count (after.tell lines)).around := by
  rw [take_succ, step_tell h]
  rfl

end Reader

/-- What the end of a run means for the program. -/
def Stop.result : Stop → Except Failure Unit
  | failed cause => .error cause
  | _ => .ok ()

namespace Counting

/-- The line that is told for an element, or none if its text cannot be put together and its record
is dropped. -/
def told (around : Surroundings) (zone : Value) (element : Timestamped) :
    Except Failure (Option String) :=
  match line around.zones zone element with
  | .error cause => .error cause
  | .ok (.ok text) => .ok (some text)
  | .ok (.error cause) => if around.forgiving then .ok none else .error cause

/-- A line is logged by telling it. -/
theorem record_line (around : Surroundings) (zone : Value) (element : Timestamped) :
    (line around.zones zone element >>= around.record .info .program) =
      (told around zone element).map fun line? => around.tell line?.toList := by
  unfold told
  rcases line around.zones zone element with cause | cause | text
  · rfl
  · show around.record .info .program (.error cause) = _
    unfold Surroundings.record
    dsimp only
    cases around.forgiving with
    | true => exact congrArg Except.ok around.tell_nil.symm
    | false => rfl
  · rfl

/-- The lines for elements up to the first one whose line is a failure, and that failure. -/
def transcript (around : Surroundings) (zone : Value) :
    List Timestamped → List (Option String) × Option Failure
  | [] => ([], none)
  | element :: rest =>
    match told around zone element with
    | .error cause => ([], some cause)
    | .ok line? =>
      (line? :: (transcript around zone rest).1, (transcript around zone rest).2)

/-- A transcript depends on no more than the zones, and what becomes of a record without a text. -/
theorem transcript_congr {a b : Surroundings} (hzones : a.zones = b.zones)
    (hforgiving : a.forgiving = b.forgiving) (zone : Value) :
    transcript a zone = transcript b zone := by
  have htold : told a zone = told b zone := by
    funext element
    rw [told, told, hzones, hforgiving]
  funext elements
  induction elements with
  | nil => rfl
  | cons element rest ih => rw [transcript, transcript, htold, ih]

/-- What the program makes of a run with this transcript: it fails where a line is a failure, and
ends as the run does otherwise. It leaves the surroundings of a run before which the lines were
told. -/
def outcome (count : Nat) (reader : Reader) (around : Surroundings) :
    List (Option String) × Option Failure → Pipeline.Result Unit
  | (lines, none) =>
    ((reader.take count around).stop.result,
      (reader.take count (around.tell (lines.filterMap id))).around)
  | (lines, some cause) =>
    (.error cause, (reader.take (lines.length + 1) (around.tell (lines.filterMap id))).around)

/-- The program reads and tells as if it told all lines first. -/
theorem advanceAll_eq (zone : Value) (count : Nat) (reader : Reader) (around : Surroundings) :
    advanceAll zone count reader around =
      outcome count reader around (transcript around zone (reader.take count around).elements) := by
  induction count generalizing reader around with
  | zero => simp [advanceAll, transcript, outcome, Stop.result]
  | succ count ih =>
    rw [advanceAll, advance, Reader.take_succ]
    rcases hstep : reader.step around with ⟨element | _ | cause, rest, after⟩
    · obtain ⟨hzones, hforgiving⟩ :
          after.zones = around.zones ∧ after.forgiving = around.forgiving := by
        simpa only [hstep] using reader.settings_step around
      have htold : told after zone element = told around zone element := by
        rw [told, told, hzones, hforgiving]
      simp only [record_line, Taken.cons, transcript, htold]
      rcases told around zone element with cause | line?
      · -- The step has been taken, and its element is not told.
        simp only [Except.map, outcome, List.length_nil, List.filterMap_nil, Surroundings.tell_nil]
        rw [Reader.take_succ, hstep]
        rfl
      · -- The rest of the run is the same whether or not the line has been told.
        obtain ⟨helements, hstop, -, -⟩ :=
          Reader.take_alike count rest (after.alike_tell line?.toList)
        have hfirst : ∀ lines : List (Option String),
            line?.toList ++ lines.filterMap id = (line? :: lines).filterMap id := by
          intro lines
          cases line? <;> rfl
        have htranscript : transcript (after.tell line?.toList) zone = transcript around zone :=
          transcript_congr (a := after.tell line?.toList) hzones hforgiving zone
        simp only [Except.map]
        rw [ih, ← helements, htranscript]
        rcases transcript around zone (rest.take count after).elements with ⟨lines, _ | cause⟩
        · simp only [outcome]
          rw [Reader.around_take_tell hstep, Reader.take_succ, hstep, ← hstop,
            Surroundings.tell_tell, hfirst]
          rfl
        · simp only [outcome, List.length_cons]
          rw [Reader.around_take_tell hstep, Surroundings.tell_tell, hfirst]
    · simp only [transcript, outcome, List.filterMap_nil, Surroundings.tell_nil]
      rw [Reader.take_succ, hstep]
      rfl
    · simp only [transcript, outcome, List.filterMap_nil, Surroundings.tell_nil]
      rw [Reader.take_succ, hstep]
      rfl

section Told

variable {around : Surroundings} {zone : Value} {lines : List (Option String)}

/-- Elements none of which has a line that is a failure are all told. -/
theorem transcript_of_ok {elements : List Timestamped}
    (h : List.Forall₂ (fun element line? => told around zone element = .ok line?) elements lines) :
    transcript around zone elements = (lines, none) := by
  induction h with
  | nil => rfl
  | cons hline _ ih => simp only [transcript, hline, ih]

/-- Elements are told up to the first one whose line is a failure. -/
theorem transcript_of_error {before after : List Timestamped} {element : Timestamped}
    {cause : Failure}
    (h : List.Forall₂ (fun element line? => told around zone element = .ok line?) before lines)
    (hcause : told around zone element = .error cause) :
    transcript around zone (before ++ element :: after) = (lines, some cause) := by
  induction h with
  | nil => simp only [List.nil_append, transcript, hcause]
  | cons hline _ ih => simp only [List.cons_append, transcript, hline, ih]

end Told

end Counting

end NumberFeed
