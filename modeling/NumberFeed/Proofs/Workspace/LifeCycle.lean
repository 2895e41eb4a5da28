import NumberFeed.Proofs.Workspace.Isolation
import NumberFeed.Proofs.Workspace.Progress

/-!
# The life cycle of readers

A reader is opened without being started, waits until it is asked for its first element, yields
elements, and is over once it has ended or failed. `readers_live_once` says this of the reader in
any cell of any workspace. It takes what can happen to the reader from three sides: the commands
that set it up start nothing (`setUp_performAll`), every command on a workspace does nothing to a
reader but ask it for elements (`advances_performAll`), and a reader that is asked for elements at
any moments whatever lives as `Reader.steps_of_finished` and `Reader.written_of_life` say.

In a list of turns the reports of a reader have one stop record at most between them
(`records_ownReports`): a turn that is not paused leaves a reader that has ended, and the turns
after that are silent (`silent_of_ended`).
-/

namespace NumberFeed

namespace Workspace

section Turns

variable {workspace : Workspace} {cell : Nat}

/-- A reader waits while other readers have their turns. -/
theorem readerAt_turns_of_others {turns : List Turn}
    (h : ∀ turn ∈ turns, ¬ workspace.isTurnOf cell turn = true) :
    (workspace.turns turns).2.readerAt cell = workspace.readerAt cell := by
  induction turns generalizing workspace with
  | nil => rfl
  | cons turn rest ih =>
    have hrest : ∀ next ∈ rest, ¬ (workspace.turn turn).2.isTurnOf cell next = true := by
      intro next hnext
      rw [isTurnOf_turn]
      exact h next (List.mem_cons_of_mem _ hnext)
    calc (workspace.turns (turn :: rest)).2.readerAt cell
        = ((workspace.turn turn).2.turns rest).2.readerAt cell := rfl
      _ = (workspace.turn turn).2.readerAt cell := ih hrest
      _ = workspace.readerAt cell := readerAt_turn_of_other (h turn List.mem_cons_self)

/-- A turn of a reader that has ended tells of its end, takes no reading and logs nothing. -/
theorem turn_of_ended {turn : Turn} {valuesOnly : Bool}
    (hcell : workspace.cellOf? turn.name = some (cell, valuesOnly))
    (h : workspace.readerAt cell = .ended) :
    (workspace.turn turn).1 =
        ⟨.taken [] (if turn.count = 0 then .paused else .ended) valuesOnly, []⟩ ∧
      (workspace.turn turn).2.around = workspace.unlogged := by
  rw [turn_of_reader hcell, h, Reader.take_ended]
  exact ⟨rfl, rfl⟩

/-- A report that tells of no element, no failure and no record. -/
def Silent (report : Report) : Prop :=
  report.records = [] ∧
    ∃ stop valuesOnly, report.answer = .taken [] stop valuesOnly ∧ ∀ cause, stop ≠ .failed cause

/-- All turns of a reader that has ended are silent. -/
theorem silent_of_ended (turns : List Turn) (h : workspace.readerAt cell = .ended) :
    ∀ report ∈ workspace.ownReports cell turns, Silent report := by
  induction turns generalizing workspace with
  | nil => exact fun report hreport => nomatch hreport
  | cons turn rest ih =>
    by_cases hown : workspace.isTurnOf cell turn = true
    · obtain ⟨valuesOnly, hcell⟩ := isTurnOf_iff.mp hown
      have hended : (workspace.turn turn).2.readerAt cell = .ended := by
        rw [readerAt_turn hcell, h, Reader.take_ended]
      rw [ownReports_cons_of_own hown]
      intro report hreport
      rcases List.mem_cons.mp hreport with hfirst | hreport
      · rw [hfirst, (turn_of_ended hcell h).1]
        refine ⟨rfl, _, _, rfl, ?_⟩
        intro cause
        split
        · exact fun hstop => nomatch hstop
        · exact fun hstop => nomatch hstop
      · exact ih hended report hreport
    · rw [ownReports_cons_of_other hown]
      exact ih (by rw [readerAt_turn_of_other hown, h])

/-- What a turn of the reader in a cell tells of: one stop record at most, and none unless the
reader ends. If the turn is not paused, it leaves a reader that has ended. -/
theorem report_of_own {turn : Turn} (hown : workspace.isTurnOf cell turn = true) :
    ∃ elements stop valuesOnly records,
      (workspace.turn turn).1 = ⟨.taken elements stop valuesOnly, records⟩ ∧
        records.length ≤ 1 ∧ (∀ record ∈ records, record.IsStop) ∧
        (stop ≠ .ended → records = []) ∧
        (stop ≠ .paused → (workspace.turn turn).2.readerAt cell = .ended) := by
  obtain ⟨valuesOnly, hcell⟩ := isTurnOf_iff.mp hown
  -- The log of a turn starts empty, so that its records are those that the run adds.
  obtain ⟨records, hlog, hsingle, hstops, hquiet⟩ :=
    Reader.log_take turn.count (workspace.readerAt cell) workspace.unlogged
  refine ⟨((workspace.readerAt cell).take turn.count workspace.unlogged).elements, _, valuesOnly,
    records, ?_, hsingle, hstops, hquiet, fun hstop => ?_⟩
  · rw [turn_of_reader hcell]
    simp only [hlog]
    rfl
  · rw [readerAt_turn hcell, Reader.reader_take _ _ _ hstop]

/-- In all its turns a reader writes one stop record at most, and none if it fails in one of them.
-/
theorem records_ownReports (turns : List Turn) (workspace : Workspace) (cell : Nat) :
    ((workspace.ownReports cell turns).flatMap Report.records).length ≤ 1 ∧
      (∀ record ∈ (workspace.ownReports cell turns).flatMap Report.records, record.IsStop) ∧
      ∀ report ∈ workspace.ownReports cell turns, ∀ elements cause valuesOnly,
        report.answer = .taken elements (.failed cause) valuesOnly →
        (workspace.ownReports cell turns).flatMap Report.records = [] := by
  induction turns generalizing workspace with
  | nil => simp [ownReports]
  | cons turn rest ih =>
    by_cases hown : workspace.isTurnOf cell turn = true
    · obtain ⟨elements, stop, valuesOnly, records, hreport, hsingle, hstops, hquiet, hend⟩ :=
        report_of_own hown
      rw [ownReports_cons_of_own hown, List.flatMap_cons, hreport]
      by_cases hpaused : stop = .paused
      · -- A turn that is paused has written nothing, and the reader goes on.
        have hnone : records = [] := hquiet fun hended => by
          rw [hpaused] at hended
          cases hended
        obtain ⟨hsingle', hstops', hfails'⟩ := ih (workspace.turn turn).2
        rw [hnone, List.nil_append]
        refine ⟨hsingle', hstops', ?_⟩
        intro report hmem elements' cause valuesOnly' hanswer
        rcases List.mem_cons.mp hmem with rfl | hmem
        · rw [hpaused] at hanswer
          cases hanswer
        · exact hfails' report hmem elements' cause valuesOnly' hanswer
      · -- After any other turn the reader has ended, and its later turns are silent.
        have hsilent := silent_of_ended rest (hend hpaused)
        have hrest : ((workspace.turn turn).2.ownReports cell rest).flatMap Report.records = [] :=
          List.flatMap_eq_nil_iff.mpr fun report hmem => (hsilent report hmem).1
        rw [hrest, List.append_nil]
        refine ⟨hsingle, hstops, ?_⟩
        intro report hmem elements' cause valuesOnly' hanswer
        rcases List.mem_cons.mp hmem with rfl | hmem
        · have hstop := (Answer.taken.inj hanswer).2.1
          exact hquiet fun hended => by
            rw [hstop] at hended
            cases hended
        · obtain ⟨-, stop', valuesOnly'', hanswer', hstop⟩ := hsilent report hmem
          rw [hanswer] at hanswer'
          exact absurd (Answer.taken.inj hanswer').2.1.symm (hstop cause)
    · rw [ownReports_cons_of_other hown]
      exact ih _

end Turns

/-- The life cycle of the reader in a cell of a workspace. -/
structure LifeCycle (workspace : Workspace) (cell : Nat) : Prop where
  /-- To build inputs, sources and reads, to apply and to open them, and to collect without a limit,
  in any order, takes no reading of either clock, calls no function, moves no timestamp function and
  no reader, makes timestamp functions in the states of their originals only, starts no reader, and
  writes no stop record. -/
  setUp : ∀ commands : List (Command × Option String),
    (∀ command ∈ commands, command.1.SetsUp) →
    workspace.SetUp (workspace.Original commands) (workspace.performAll commands).2 ∧
      ∀ report ∈ (workspace.performAll commands).1, ∀ record ∈ report.records, ¬ record.IsStop
  /-- The reader waits while others have their turns. -/
  waits : ∀ turns : List Turn, (∀ turn ∈ turns, ¬ workspace.isTurnOf cell turn = true) →
    (workspace.turns turns).2.readerAt cell = workspace.readerAt cell
  /-- The first step of a timed read takes one reading of the clock, and is then the step of a read
  whose deadline is the read time after that reading; the deadline stays that at all later moments.
  -/
  deadline : ∀ limits source inner time,
    workspace.readerAt cell = .limited limits source .fresh inner → limits.time = some time →
    ∀ first later,
      (workspace.readerAt cell).step first =
          (match time.toSeconds with
          | .error cause => .failed cause first.readClock.2
          | .ok seconds =>
            (Reader.limited limits source (.running (some (first.clock.current + seconds)) 0)
              inner).step first.readClock.2) ∧
        ((∀ step ∈ (workspace.readerAt cell).steps (first :: later),
            ∃ element, step.outcome = .yielded element) →
          ∃ seconds rest, time.toSeconds = .ok seconds ∧
            (workspace.readerAt cell).left (first :: later) = .limited limits source
              (.running (some (first.clock.current + seconds)) (first :: later).length) rest)
  /-- Readings of the clock that are taken before the reader goes on only shift the readings that it
  sees. -/
  shift : ∀ count skipped (around : Surroundings),
    let skipping : Surroundings := { around with clock := around.clock.skip skipped }
    let shifted : Surroundings := { around with
      clock := ⟨fun i => around.clock.supply (i + skipped), around.clock.used⟩ }
    let reader := workspace.readerAt cell
    (reader.take count skipping).elements = (reader.take count shifted).elements ∧
      (reader.take count skipping).stop = (reader.take count shifted).stop ∧
      (reader.take count skipping).reader = (reader.take count shifted).reader ∧
      (reader.take count skipping).around.log = (reader.take count shifted).around.log
  /-- Once the reader has not yielded, because it has ended or failed, it only ends at every later
  moment, and leaves the clocks, the log and its stamper as they are. -/
  finished : ∀ earlier moment later,
    (∀ element, (((workspace.readerAt cell).left earlier).step moment).outcome ≠
      .yielded element) →
    (((workspace.readerAt cell).left earlier).step moment).reader.steps later =
      later.map Step.ended
  /-- In its whole life the reader writes one stop record at most, and none if it ever fails. -/
  once : ∀ moments, ((workspace.readerAt cell).written moments).length ≤ 1 ∧
    (∀ record ∈ (workspace.readerAt cell).written moments, record.IsStop) ∧
    ∀ step ∈ (workspace.readerAt cell).steps moments, ∀ cause, step.outcome = .failed cause →
      (workspace.readerAt cell).written moments = []
  /-- Whatever commands are carried out, nothing happens to the reader but that it is asked for
  elements. -/
  lives : ∀ commands : List (Command × Option String), cell < workspace.readers.length →
    ∃ moments, (workspace.performAll commands).2.readerAt cell =
      (workspace.readerAt cell).left moments
  /-- If the reader has ended, it has ended for good, whatever commands are carried out: each of its
  turns only tells of its end, takes no reading of the clocks and logs nothing. -/
  ended : ∀ commands : List (Command × Option String), cell < workspace.readers.length →
    workspace.readerAt cell = .ended →
    ∀ turn valuesOnly,
      (workspace.performAll commands).2.cellOf? turn.name = some (cell, valuesOnly) →
      ((workspace.performAll commands).2.turn turn).1 =
          ⟨.taken [] (if turn.count = 0 then .paused else .ended) valuesOnly, []⟩ ∧
        ((workspace.performAll commands).2.turn turn).2.around =
          (workspace.performAll commands).2.unlogged
  /-- In any turns the reports of the reader have one stop record at most between them, and none if
  one of them tells of a failure. -/
  reports : ∀ turns : List Turn,
    ((workspace.ownReports cell turns).flatMap Report.records).length ≤ 1 ∧
      (∀ record ∈ (workspace.ownReports cell turns).flatMap Report.records, record.IsStop) ∧
      ∀ report ∈ workspace.ownReports cell turns, ∀ elements cause valuesOnly,
        report.answer = .taken elements (.failed cause) valuesOnly →
        (workspace.ownReports cell turns).flatMap Report.records = []

/-- Every reader of every workspace has the same life cycle. -/
theorem readers_live_once (workspace : Workspace) (cell : Nat) : LifeCycle workspace cell := by
  have hlives : ∀ commands : List (Command × Option String), cell < workspace.readers.length →
      ∃ moments, (workspace.performAll commands).2.readerAt cell =
        (workspace.readerAt cell).left moments := by
    intro commands hcell
    have hreader : workspace.readers[cell]? = some (workspace.readerAt cell) := by
      rw [readerAt, List.getElem?_eq_getElem hcell]
      rfl
    obtain ⟨moments, hafter⟩ := advances_performAll commands workspace cell _ hreader
    exact ⟨moments, by rw [readerAt, hafter]; rfl⟩
  refine ⟨?_, ?_, ?_, ?_, ?_, ?_, hlives, ?_, ?_⟩
  · intro commands hcommands
    exact ⟨setUp_performAll commands hcommands workspace,
      not_isStop_performAll commands hcommands workspace⟩
  · intro turns hturns
    exact readerAt_turns_of_others hturns
  · intro limits source inner time hreader htime first later
    rw [hreader]
    exact ⟨Reader.step_of_fresh htime source inner first,
      fun hyields => Reader.left_of_yields htime hyields⟩
  · intro count skipped around
    exact Reader.take_skip count skipped (workspace.readerAt cell) around
  · intro earlier moment later hfinished
    exact Reader.steps_of_finished hfinished later
  · intro moments
    exact Reader.written_of_life (workspace.readerAt cell) moments
  · intro commands hcell hended turn valuesOnly hturn
    obtain ⟨moments, hafter⟩ := hlives commands hcell
    rw [hended, Reader.left_ended] at hafter
    exact turn_of_ended hturn hafter
  · intro turns
    exact records_ownReports turns workspace cell

end Workspace

end NumberFeed
