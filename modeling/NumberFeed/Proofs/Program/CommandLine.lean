import Mathlib.Data.List.Induction
import NumberFeed.Program.Arguments
import NumberFeed.Proofs.Pipeline.Logging
import NumberFeed.Proofs.Program.Transcript
import NumberFeed.Proofs.Time.DurationText

/-!
# The command line is the program

Options that come with their values in the same arguments say what the program is asked for: the
last value of each option counts (`Arguments.Asks`). The command exits with the status of a misuse
just when one of the counts is no integer, be it the last one or not, and otherwise does what the
program does with that request (`Arguments.command_law`). Two dashes after an equals sign are taken
for the text that they are.

The arguments are looked at one by one (`classifyAll_arguments`), and the request is put together
from left to right (`asks_foldlM`). On a quiet command line the program logs for information only
(`Counting.informs_run`), so that everything that it logs is printed.
-/

namespace NumberFeed

namespace Arguments

/-! ## Options with values -/

/-- An option that takes a value, with one. -/
structure Item where
  /-- The option. -/
  option : CliOption
  /-- Help takes no value. -/
  takes : option ≠ .help
  /-- The text of the value. -/
  value : String

namespace Item

/-- An item as one argument. -/
def argument (item : Item) : String := item.option.longName ++ "=" ++ item.value

/-- What it looks like to the program. -/
def form (item : Item) : Argument := .option item.option (some item.value)

/-- Whether it is for one of the two counts. -/
def IsCount (item : Item) : Prop := item.option = .numElements ∨ item.option = .maxNumRecords

/-- A count whose text cannot be read as an integer. -/
def Malformed (item : Item) : Prop :=
  item.IsCount ∧ ∃ cause, Number.read item.value = .error cause

end Item

/-- The last value of an option. -/
def last? (option : CliOption) (items : List Item) : Option String :=
  (items.filter fun item => item.option = option).getLast?.map (·.value)

/-- What the last value of a count makes. -/
inductive GivesCount : Option String → Value → Prop
  /-- Without a value there is no count. -/
  | absent : GivesCount none .null
  /-- A text makes the integer that it writes. -/
  | integer {text : String} {n : Int} (reads : Number.read text = .ok n) :
      GivesCount (some text) (.int n)

/-- What the last value of an option for a text makes. -/
def textOr (fallback : Value) : Option String → Value
  | none => fallback
  | some text => .text text

/-- A request for what the last values of the options make. -/
structure Asks (items : List Item) (request : Counting.Request) : Prop where
  /-- The number of elements. -/
  elements : GivesCount (last? .numElements items) request.elements
  /-- The greatest number of records. -/
  records : GivesCount (last? .maxNumRecords items) request.records
  /-- The greatest read time. -/
  time : request.time = textOr .null (last? .maxReadTime items)
  /-- The name of the time zone. -/
  zone : request.zone = textOr (.text "UTC") (last? .timezone items)

/-! ## Looking at the arguments -/

/-- A long name begins with two dashes, has no equals sign, and is the name of one option only. -/
theorem CliOption.toList_longName (option : CliOption) :
    ∃ rest, option.longName.toList = '-' :: '-' :: rest ∧
      option.longName.toList.all (· != '=') = true ∧
      optionsNamed option.longName.toList = [option] := by
  cases option <;> exact ⟨_, rfl, rfl, rfl⟩

/-- What stands before and after the first equals sign. -/
theorem splitValue_append {name : List Char} (h : name.all (· != '=') = true)
    (value : List Char) :
    splitValue (name ++ '=' :: value) = (name, some (String.ofList value)) := by
  obtain ⟨htake, hdrop⟩ : (name ++ '=' :: value).takeWhile (· != '=') = name ∧
      (name ++ '=' :: value).dropWhile (· != '=') = '=' :: value :=
    DurationText.span_append (List.all_eq_true.mp h) (by simp)
  rw [splitValue, htake, hdrop]

/-- An item has an equals sign after the long name. -/
theorem Item.toList_argument (item : Item) :
    item.argument.toList = item.option.longName.toList ++ '=' :: item.value.toList := by
  rw [argument, String.toList_append, String.toList_append, List.append_assoc]
  rfl

/-- An option with its value in the same argument is looked at as that. -/
theorem classify_argument (item : Item) : classify item.argument = .ok item.form := by
  obtain ⟨rest, hdashes, hplain, hnamed⟩ := item.option.toList_longName
  have hchars := item.toList_argument
  have hsplit := splitValue_append hplain item.value.toList
  rw [hdashes, List.cons_append, List.cons_append] at hchars hsplit
  simp only [classify, hchars, hsplit]
  rw [← hdashes, hnamed, String.ofList_toList]
  rfl

/-- So are all of them. -/
theorem classifyAll_arguments (items : List Item) :
    classifyAll (items.map Item.argument) = .ok (items.map Item.form) := by
  induction items with
  | nil => rfl
  | cons item rest ih =>
    rw [List.map_cons, classifyAll, classify_argument, ih]
    · rfl
    · -- Two dashes alone have no equals sign.
      intro hdashes
      have hchars := item.toList_argument
      rw [hdashes] at hchars
      have hequals : '=' ∈ "--".toList := by
        rw [hchars]
        exact List.mem_append_right _ List.mem_cons_self
      exact absurd hequals (by decide)

/-! ## Putting the request together -/

/-- Puts the value of an item into a request. -/
def put (request : Counting.Request) (item : Item) : Except EarlyExit Counting.Request :=
  store .text item.option item.value request

/-- The values are put in from left to right. -/
theorem gather_forms (items : List Item) (request : Counting.Request) :
    gather .text (items.map Item.form) request = items.foldlM put request := by
  induction items generalizing request with
  | nil => rfl
  | cons item rest ih =>
    rw [List.map_cons, List.foldlM_cons, Item.form, gather]
    exact bind_congr ih

/-- The last value of an option, when an item has been added. -/
theorem last?_append (option : CliOption) (items : List Item) (item : Item) :
    last? option (items ++ [item]) =
      if item.option = option then some item.value else last? option items := by
  unfold last?
  rw [List.filter_append]
  by_cases hsame : item.option = option
  · simp [hsame]
  · simp [hsame]

section Count

variable {text : String} {n : Int} {cause : Failure}

/-- A count is the integer that its text writes. -/
theorem integerValue_of_ok (h : Number.read text = .ok n) :
    integerValue .text text = .ok (.int n) := by
  simp only [integerValue, textValue, h]

/-- A text that writes no integer is no count. -/
theorem integerValue_of_error (h : Number.read text = .error cause) :
    integerValue .text text = .error .misused := by
  simp only [integerValue, textValue, h]

end Count

section Put

variable {items : List Item} {item : Item} {request : Counting.Request}

/-- A malformed count is misused, whatever has been put in before. -/
theorem put_of_malformed (h : item.Malformed) (request : Counting.Request) :
    put request item = .error .misused := by
  obtain ⟨option, htakes, text⟩ := item
  obtain ⟨hcount, cause, hread⟩ := h
  have hmade : ∀ make : Value → Counting.Request,
      (integerValue .text text).map make = .error .misused := by
    intro make
    rw [integerValue_of_error hread]
    rfl
  rcases hcount with rfl | rfl
  · exact hmade _
  · exact hmade _

/-- A count writes an integer, unless it is malformed. -/
theorem exists_read (hcount : item.IsCount) (h : ¬ item.Malformed) :
    ∃ n, Number.read item.value = .ok n := by
  rcases hread : Number.read item.value with cause | n
  · exact absurd ⟨hcount, cause, hread⟩ h
  · exact ⟨n, rfl⟩

/-- Anything else is put in, and takes the place of the value before. -/
theorem exists_put (hasks : Asks items request) (h : ¬ item.Malformed) :
    ∃ next, put request item = .ok next ∧ Asks (items ++ [item]) next := by
  obtain ⟨helements, hrecords, htime, hzone⟩ := hasks
  have hlast := fun option => last?_append option items item
  obtain ⟨option, htakes, text⟩ := item
  cases option with
  | help => exact absurd rfl htakes
  | numElements =>
    obtain ⟨n, hread⟩ := exists_read (.inl rfl) h
    have hgives := GivesCount.integer hread
    refine ⟨{ request with elements := .int n }, ?_, ?_⟩
    · show (integerValue .text text).map _ = _
      rw [integerValue_of_ok hread]
      rfl
    · constructor <;> rw [hlast] <;> assumption
  | maxNumRecords =>
    obtain ⟨n, hread⟩ := exists_read (.inr rfl) h
    have hgives := GivesCount.integer hread
    refine ⟨{ request with records := .int n }, ?_, ?_⟩
    · show (integerValue .text text).map _ = _
      rw [integerValue_of_ok hread]
      rfl
    · constructor <;> rw [hlast] <;> assumption
  | maxReadTime =>
    refine ⟨{ request with time := .text text }, rfl, ?_⟩
    constructor <;> rw [hlast] <;> first | assumption | rfl
  | timezone =>
    refine ⟨{ request with zone := .text text }, rfl, ?_⟩
    constructor <;> rw [hlast] <;> first | assumption | rfl

/-- Items of which none is malformed make a request for their last values. -/
theorem asks_foldlM (h : ∀ item ∈ items, ¬ item.Malformed) :
    ∃ request, items.foldlM put .plain = .ok request ∧ Asks items request := by
  induction items using List.reverseRecOn with
  | nil => exact ⟨.plain, rfl, .absent, .absent, rfl, rfl⟩
  | append_singleton items item ih =>
    obtain ⟨request, hrequest, hasks⟩ := ih fun other hother =>
      h other (List.mem_append_left _ hother)
    obtain ⟨next, hnext, hasks'⟩ :=
      exists_put hasks (h item (List.mem_append_right _ (List.mem_singleton_self item)))
    refine ⟨next, ?_, hasks'⟩
    rw [List.foldlM_append, hrequest]
    show [item].foldlM put request = _
    rw [List.foldlM_cons, hnext]
    rfl

/-- An item that cannot be put in is misused. -/
theorem eq_misused_of_put {early : EarlyExit} (h : put request item = .error early) :
    early = .misused := by
  have hcount : ∀ {make : Value → Counting.Request},
      (integerValue .text item.value).map make = .error early → early = .misused := by
    intro make hmade
    rcases hread : Number.read item.value with cause | n
    · rw [integerValue_of_error hread] at hmade
      exact (Except.error.inj hmade).symm
    · rw [integerValue_of_ok hread] at hmade
      cases hmade
  unfold put store at h
  split at h
  · exact (Except.error.inj h).symm
  · exact hcount h
  · exact hcount h
  · cases h
  · cases h

/-- One malformed item is enough to be misused, whatever comes before or after it. -/
theorem misused_foldlM (h : ∃ item ∈ items, item.Malformed) (request : Counting.Request) :
    items.foldlM put request = .error .misused := by
  induction items generalizing request with
  | nil =>
    obtain ⟨item, hitem, -⟩ := h
    exact absurd hitem List.not_mem_nil
  | cons first rest ih =>
    obtain ⟨item, hitem, hmalformed⟩ := h
    rw [List.foldlM_cons]
    rcases hput : put request first with early | next
    · rw [eq_misused_of_put hput]
      rfl
    · rcases List.mem_cons.mp hitem with rfl | hitem
      · rw [put_of_malformed hmalformed] at hput
        cases hput
      · exact ih ⟨item, hitem, hmalformed⟩ next

end Put

/-- Items that hold no malformed count are parsed as a request for their last values. -/
theorem exists_parse {items : List Item} (h : ∀ item ∈ items, ¬ item.Malformed) :
    ∃ request, parse (items.map Item.argument) .text = .ok request ∧ Asks items request := by
  obtain ⟨request, hrequest, hasks⟩ := asks_foldlM h
  refine ⟨request, ?_, hasks⟩
  rw [parse, classifyAll_arguments]
  exact (gather_forms items .plain).trans hrequest

/-- Items that hold one are misused. -/
theorem parse_of_malformed {items : List Item} (h : ∃ item ∈ items, item.Malformed) :
    parse (items.map Item.argument) .text = .error .misused := by
  rw [parse, classifyAll_arguments]
  exact (gather_forms items .plain).trans (misused_foldlM h .plain)

end Arguments

/-! ## What is printed -/

namespace Counting

/-- Surroundings that differ from others by records for information at the end of the log. -/
def Informs (before after : Surroundings) : Prop :=
  ∃ records, after.log = before.log ++ records ∧ ∀ record ∈ records, record.level = .info

namespace Informs

variable {before between after : Surroundings}

/-- Nothing needs to have been logged. -/
theorem refl (around : Surroundings) : Informs around around :=
  ⟨[], (List.append_nil _).symm, by simp⟩

/-- More records can come later. -/
theorem trans (hfirst : Informs before between) (hsecond : Informs between after) :
    Informs before after := by
  obtain ⟨first, hbetween, hfirst⟩ := hfirst
  obtain ⟨second, hafter, hsecond⟩ := hsecond
  refine ⟨first ++ second, by rw [hafter, hbetween, List.append_assoc], ?_⟩
  intro record hrecord
  rcases List.mem_append.mp hrecord with hrecord | hrecord
  · exact hfirst record hrecord
  · exact hsecond record hrecord

/-- Lines are records for information. -/
theorem tell (around : Surroundings) (lines : List String) :
    Informs around (around.tell lines) := by
  refine ⟨_, rfl, ?_⟩
  intro record hrecord
  obtain ⟨text, -, rfl⟩ := List.mem_map.mp hrecord
  rfl

/-- So is the record of a stop. -/
theorem take (count : Nat) (reader : Reader) (around : Surroundings) :
    Informs around (reader.take count around).around := by
  obtain ⟨records, hlog, -, hstops, -⟩ := Reader.log_take count reader around
  exact ⟨records, hlog, fun record hrecord => (hstops record hrecord).1⟩

end Informs

/-- What the program makes of a run is logged for information. -/
theorem informs_outcome (count : Nat) (reader : Reader) (around : Surroundings)
    (told : List (Option String) × Option Failure) :
    Informs around (outcome count reader around told).2 := by
  obtain ⟨lines, _ | cause⟩ := told
  · exact (Informs.tell around (lines.filterMap id)).trans (.take _ reader _)
  · exact (Informs.tell around (lines.filterMap id)).trans (.take _ reader _)

/-- On a quiet command line the program logs for information only. -/
theorem informs_run (request : Request) {around : Surroundings} (h : around.verbose = false) :
    Informs around (run request around).2 := by
  have hstart : Informs around (start request around).2 := by
    unfold start
    rcases inputFor request with cause | input
    · exact .refl around
    · have hquiet := Pipeline.around_apply_of_quiet h (.input input)
      rcases happly : Pipeline.apply (.input input) around with ⟨cause | collection, after⟩
      · dsimp only
        rw [happly] at hquiet ⊢
        obtain rfl : after = around := hquiet
        exact .refl after
      · dsimp only
        rw [happly] at hquiet ⊢
        obtain rfl : after = around := hquiet
        exact .tell after [_]
  unfold run
  rcases hready : start request around with ⟨cause | reader, after⟩
  · rw [hready] at hstart
    exact hstart
  · rw [hready] at hstart
    dsimp only
    rw [advanceAll_eq]
    exact hstart.trans (informs_outcome _ reader after _)

end Counting

namespace Arguments

/-! ## The law -/

/-- How the program ends with a result. -/
def Ending.ofResult : Except Failure Unit → Ending
  | .ok () => .exited 0
  | .error cause => .failed cause

/-- The lines that are printed between two moments: the messages that are logged for information. -/
def printed (before after : Surroundings) : List String :=
  ((after.log.drop before.log.length).filter fun record => record.level = .info).map (·.message)

section Run

variable {items : List Item}

/-- A malformed count ends the command before anything is done. -/
theorem run_of_malformed (h : ∃ item ∈ items, item.Malformed) (around : Surroundings) :
    run (items.map Item.argument) around .text = (.exited 2, around) := by
  rw [run, parse_of_malformed h]
  rfl

/-- Without one the command is the program with the request for the last values. -/
theorem exists_run (h : ∀ item ∈ items, ¬ item.Malformed) (around : Surroundings) :
    ∃ request, Asks items request ∧ run (items.map Item.argument) around .text =
      (.ofResult (Counting.run request around).1, (Counting.run request around).2) := by
  obtain ⟨request, hparse, hasks⟩ := exists_parse h
  refine ⟨request, hasks, ?_⟩
  rw [run, hparse]
  dsimp only
  rcases Counting.run request around with ⟨cause | _, after⟩ <;> rfl

/-- So the command exits with the status of a misuse for malformed counts only. -/
theorem exited_misused_iff (items : List Item) (around : Surroundings) :
    (run (items.map Item.argument) around .text).1 = .exited 2 ↔
      ∃ item ∈ items, item.Malformed := by
  constructor
  · intro hending
    by_contra hnone
    obtain ⟨request, -, hrun⟩ := exists_run (fun item hitem hmalformed =>
      hnone ⟨item, hitem, hmalformed⟩) around
    rw [hrun] at hending
    -- The program itself ends with another status, or fails.
    rcases hresult : (Counting.run request around).1 with cause | _
    · rw [hresult] at hending
      cases hending
    · rw [hresult] at hending
      cases hending
  · intro hmalformed
    rw [run_of_malformed hmalformed]

/-- On a quiet command line all that is logged is logged for information. -/
theorem informs_command (items : List Item) {around : Surroundings} (h : around.verbose = false) :
    Counting.Informs around (run (items.map Item.argument) around .text).2 := by
  by_cases hmalformed : ∃ item ∈ items, item.Malformed
  · rw [run_of_malformed hmalformed]
    exact .refl around
  · obtain ⟨request, -, hrun⟩ := exists_run (fun item hitem hwrong =>
      hmalformed ⟨item, hitem, hwrong⟩) around
    rw [hrun]
    exact Counting.informs_run request h

end Run

/-- What the command does with options that come with their values. -/
structure CommandLaw (items : List Item) (around : Surroundings) : Prop where
  /-- It exits with the status of a misuse and prints nothing just when a count is malformed, be it
  the last one or not. -/
  misused : (run (items.map Item.argument) around .text).1 = .exited 2 ∧
      printed around (run (items.map Item.argument) around .text).2 = [] ↔
    ∃ item ∈ items, item.Malformed
  /-- Then nothing at all is done. -/
  idle : (∃ item ∈ items, item.Malformed) →
    run (items.map Item.argument) around .text = (.exited 2, around)
  /-- Otherwise the command is the program with the request for the last values: it logs and reads
  the same, and ends as this does. -/
  counted : (∀ item ∈ items, ¬ item.Malformed) → ∃ request, Asks items request ∧
    run (items.map Item.argument) around .text =
      (.ofResult (Counting.run request around).1, (Counting.run request around).2)
  /-- The lines that are printed are all that is logged, unless records for debugging are wanted. -/
  lines : around.verbose = false → ∃ records,
    (run (items.map Item.argument) around .text).2.log = around.log ++ records ∧
      printed around (run (items.map Item.argument) around .text).2 = records.map (·.message)

/-- The command refines the program for all options that come with their values. -/
theorem command_law (items : List Item) (around : Surroundings) : CommandLaw items around where
  misused := by
    refine ⟨fun hexits => (exited_misused_iff items around).mp hexits.1, fun hmalformed => ?_⟩
    rw [run_of_malformed hmalformed]
    refine ⟨rfl, ?_⟩
    rw [printed, List.drop_length]
    rfl
  idle hmalformed := run_of_malformed hmalformed around
  counted hwell := exists_run hwell around
  lines hquiet := by
    obtain ⟨records, hlog, hinfo⟩ := informs_command items hquiet
    refine ⟨records, hlog, ?_⟩
    have hall : records.filter (fun record => record.level = .info) = records :=
      List.filter_eq_self.mpr fun record hrecord => decide_eq_true (hinfo record hrecord)
    rw [printed, hlog, List.drop_left, hall]

end Arguments

end NumberFeed
