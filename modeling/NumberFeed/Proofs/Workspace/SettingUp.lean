import NumberFeed.Proofs.Workspace.Frame
import NumberFeed.Proofs.Workspace.Turn

/-!
# Setting up

A command that builds inputs, sources and reads, applies or opens them, or collects without a limit
only makes things, and keeps every frame (`Session.keeps_perform`). Two frames say what this means
for readers: after any such commands both clocks show what they showed before, no timestamp function
and no reader has moved, those that were made start in the state of their originals
(`Workspace.Original`), and the readers that were opened have not been started (`setUp_performAll`);
and what the commands log is for debugging, so that none of it is a stop record
(`not_isStop_performAll`).
-/

namespace NumberFeed

/-- Whether a command only makes things: it builds inputs, sources and reads, applies or opens them,
collects without a limit, or looks at what is there. -/
def Command.SetsUp : Command → Prop
  | .callStamper _ _ | .take _ _ | .setClock _ | .configuration _ _ => False
  | .collect _ limit => limit = .literal .null
  | _ => True

namespace Session

variable {P : Stamper → Prop} {R : Workspace → Workspace → Prop} (hR : Workspace.Frame P R)

include hR

/-- Collecting without a limit keeps a frame, the look-up of the limit included. -/
theorem keeps_perform_collect (target : Argument) :
    Keeps R (perform (.collect target (.literal .null))) := by
  have hlimit : ∀ workspace, (resolveValue (.literal .null)).on workspace =
      (.ok .null, { workspace with nextMark := workspace.nextMark + 1 }) := fun _ => rfl
  refine keeps_bind hR (keeps_resolve hR target) fun target => ?_
  -- Looking up a literal that is not a name takes a mark and nothing else.
  intro workspace
  rw [on_bind, hlimit]
  exact hR.trans (hR.mark workspace _) (keeps_map _ (keeps_collect_null hR target) _)

/-- A command that only makes things keeps every frame that permits the states that it brings with
it; one that sets a value has to be permitted to do so. -/
theorem keeps_perform {command : Command} (h : command.SetsUp)
    (hstampers : ∀ stamper ∈ command.stampers, P stamper)
    (hset : ∀ target setting value, command = .set target setting value → Workspace.Settable R) :
    Keeps R (perform command) := by
  cases command with
  | callStamper target value => exact absurd h id
  | take target count => exact absurd h id
  | setClock clock => exact absurd h id
  | configuration other data => exact absurd h id
  | collect target limit =>
    obtain rfl : limit = .literal .null := h
    exact keeps_perform_collect hR target
  | makeStamper stamper =>
    exact keeps_map _ (keeps_bind hR (keeps_makeStamper hR hstampers) (keeps_itemOf hR))
  | boundedInput count =>
    refine keeps_bind hR (keeps_resolveValue hR count) fun value => ?_
    refine keeps_bind hR (keeps_lift hR _) fun input => keeps_map _ (keeps_makeInputOf hR ?_)
    exact List.forall_mem_nil _
  | unlimitedInput =>
    exact keeps_map _ (keeps_makeInputOf hR (List.forall_mem_singleton.mpr hR.now))
  | unboundedInput stamper records time =>
    refine keeps_bind hR (keeps_resolve? hR stamper) fun stamper => ?_
    refine keeps_bind hR (keeps_resolveValue? hR records) fun records => ?_
    refine keeps_bind hR (keeps_resolveValue? hR time) fun time => ?_
    split
    · refine keeps_bind hR (keeps_pure hR _) fun stamper => ?_
      exact keeps_bind hR (keeps_lift hR _) fun input => keeps_map _ (keeps_makeItem hR _)
    · refine keeps_bind hR (keeps_makeStamper_now hR) fun stamper => ?_
      exact keeps_bind hR (keeps_lift hR _) fun input => keeps_map _ (keeps_makeItem hR _)
  | inputOf configuration =>
    exact keeps_map _ (keeps_bind hR (keeps_resolve hR configuration) (keeps_inputOf hR))
  | withStamper target stamper =>
    refine keeps_bind hR (keeps_resolve hR target) fun target => ?_
    refine keeps_bind hR (keeps_resolveValue hR stamper) fun stamper => ?_
    split
    · exact keeps_throw hR _
    · exact keeps_bind hR (keeps_lift hR _) fun input => keeps_map _ (keeps_makeItem hR _)
  | withMaxRecords target count =>
    refine keeps_bind hR (keeps_resolve hR target) fun target => ?_
    refine keeps_bind hR (keeps_resolveValue hR count) fun count => ?_
    exact keeps_map _ (keeps_changeLimit hR _ _ _ _)
  | withMaxReadTime target time =>
    refine keeps_bind hR (keeps_resolve hR target) fun target => ?_
    refine keeps_bind hR (keeps_resolveValue hR time) fun time => ?_
    exact keeps_map _ (keeps_changeLimit hR _ _ _ _)
  | assign target value =>
    refine keeps_bind hR (keeps_resolve hR target) fun target => ?_
    exact keeps_bind hR (keeps_resolve hR value) fun _ => keeps_throw hR _
  | sourceUpTo count =>
    refine keeps_bind hR (keeps_resolveValue hR count) fun count => ?_
    refine keeps_bind_lift hR fun source hsource => ?_
    refine keeps_map _ (keeps_bind hR (keeps_makeSource hR ?_) (keeps_itemOf hR))
    rw [Source.stampers_upTo hsource]
    exact List.forall_mem_nil _
  | sourceRange start stop =>
    refine keeps_bind hR (keeps_resolveValue hR start) fun start => ?_
    refine keeps_bind hR (keeps_resolveValue hR stop) fun stop => ?_
    refine keeps_bind_lift hR fun source hsource => ?_
    refine keeps_map _ (keeps_bind hR (keeps_makeSource hR ?_) (keeps_itemOf hR))
    rw [Source.stampers_ofRange hsource]
    exact List.forall_mem_nil _
  | sourceUnbounded =>
    refine keeps_map _ (keeps_bind hR (keeps_makeSource hR ?_) (keeps_itemOf hR))
    exact List.forall_mem_singleton.mpr hR.now
  | sourceOfStamper stamper =>
    refine keeps_bind_resolveValue hR hstampers fun stamper hshown => ?_
    refine keeps_bind hR (keeps_lift hR _) fun _ => ?_
    exact keeps_bind hR (keeps_copy hR true stamper hshown) fun _ =>
      keeps_map _ (keeps_makeItem hR _)
  | stamperOf target =>
    refine keeps_bind_resolve hR hstampers fun target hshown => ?_
    split
    next kept hvalue =>
      rw [hvalue] at hshown
      exact keeps_map _ (keeps_bind hR (keeps_copy hR true kept hshown) (keeps_itemOf hR))
    next => exact keeps_throw hR _
  | sourceOf target =>
    exact keeps_map _ (keeps_bind hR (keeps_resolve hR target) (keeps_sourceOf hR))
  | makeRead bounded source =>
    refine keeps_bind hR (keeps_resolve hR source) fun source => ?_
    exact keeps_bind hR (keeps_lift hR _) fun _ => keeps_map _ (keeps_makeItem hR _)
  | pipeline configuration =>
    refine keeps_bind hR (keeps_resolve? hR configuration) fun found => ?_
    have hmodify : ∀ item : Item, Keeps R (do
        modify fun workspace => { workspace with pipeline := item }
        return .item item : Session Result) := fun item workspace =>
      hR.pipeline workspace item
    have hmake := keeps_bind hR (keeps_makeConfiguration hR none []) (keeps_itemOf hR)
    dsimp only
    split
    · exact keeps_bind hR hmake hmodify
    · exact keeps_bind hR hmake hmodify
    · exact keeps_bind hR (keeps_pure hR _) hmodify
  | apply transform =>
    exact keeps_map _ (keeps_bind_resolve hR hstampers fun _ => keeps_apply hR)
  | openReader target valuesOnly =>
    refine keeps_bind hR (keeps_resolve hR target) fun target => ?_
    exact keeps_map _ (keeps_openReader hR target valuesOnly)
  | keep value => exact keeps_map _ (keeps_resolve hR value)
  | timestamped value timestamp =>
    refine keeps_bind hR (keeps_resolveValue hR value) fun value => ?_
    refine keeps_bind hR (keeps_resolveValue? hR timestamp) fun timestamp => ?_
    exact keeps_map _ (keeps_makeItem hR _)
  | literal target =>
    refine keeps_bind hR (keeps_resolveValue hR target) fun target => ?_
    exact keeps_bind hR (keeps_lift hR _) fun _ => keeps_map _ (keeps_itemOf hR _)
  | text target =>
    refine keeps_bind hR (keeps_resolveValue hR target) fun target => ?_
    exact keeps_bind hR (keeps_lift hR _) fun _ => keeps_map _ (keeps_itemOf hR _)
  | compare a b =>
    refine keeps_bind hR (keeps_resolveValue hR a) fun a => ?_
    exact keeps_bind hR (keeps_resolveValue hR b) fun b => keeps_pure hR _
  | same a b =>
    refine keeps_bind hR (keeps_resolve hR a) fun a => ?_
    exact keeps_bind hR (keeps_resolve hR b) fun b => keeps_map _ (keeps_itemOf hR _)
  | sameHash a b =>
    refine keeps_bind hR (keeps_resolveValue hR a) fun a => ?_
    refine keeps_bind hR (keeps_resolveValue hR b) fun b => ?_
    exact keeps_bind hR (keeps_lift hR _) fun _ => keeps_map _ (keeps_itemOf hR _)
  | set target setting value =>
    refine keeps_bind hR (keeps_resolve hR target) fun target => ?_
    refine keeps_bind hR (keeps_resolveValue hR value) fun value => ?_
    exact keeps_tryCatch hR (keeps_setValue hR (hset _ _ _ rfl) target setting value)
      fun cause => keeps_pure hR _
  | get target setting =>
    refine keeps_bind hR (keeps_resolve hR target) fun target => ?_
    exact keeps_map _ (keeps_getValue hR target setting)
  | hasKey target key =>
    refine keeps_bind hR (keeps_resolve hR target) fun target => ?_
    refine keeps_bind hR (keeps_resolveValue hR key) fun key => ?_
    refine keeps_bind hR (keeps_asConfiguration hR target) fun configuration => ?_
    exact keeps_bind hR (keeps_lift hR _) fun _ => keeps_map _ (keeps_itemOf hR _)
  | copy target =>
    exact keeps_map _ (keeps_bind_resolve hR hstampers fun _ => keeps_copyItem hR)

end Session

namespace Workspace

/-- The originals that timestamp functions may be made of: the usual one, those in the workspace, and
those that commands bring with them. -/
def Original (workspace : Workspace) (commands : List (Command × Option String))
    (stamper : Stamper) : Prop :=
  stamper = .now ∨ stamper ∈ workspace.stampers ∨ ∃ command ∈ commands, stamper ∈ command.1.stampers

/-- What is made in a workspace leaves the clocks, what functions remember, the timestamp functions
and the readers alone that were there before, and starts no reader. -/
structure SetUp (P : Stamper → Prop) (before after : Workspace) : Prop where
  /-- No reading of the monotonic clock has been taken. -/
  clock : after.around.clock = before.around.clock
  /-- No reading of the wall clock has been taken. -/
  wall : after.around.wall = before.around.wall
  /-- No function that goes by its name has been called. -/
  memory : after.around.memory = before.around.memory
  /-- The timestamp functions are as they were, and others may have been made, all of them in certain
  states. -/
  stampers : ∃ made, after.stampers = before.stampers ++ made ∧ ∀ stamper ∈ made, P stamper
  /-- The readers are as they were, and sources may have been opened. -/
  readers : ∃ opened : List Source, after.readers = before.readers ++ opened.map Source.reader

section SetUp

variable {P : Stamper → Prop} {before after : Workspace}

/-- Where clocks, timestamp functions and readers are the same nothing has happened to them. -/
theorem setUp_of_same (hclock : after.around.clock = before.around.clock)
    (hwall : after.around.wall = before.around.wall)
    (hmemory : after.around.memory = before.around.memory)
    (hstampers : after.stampers = before.stampers) (hreaders : after.readers = before.readers) :
    before.SetUp P after := by
  refine ⟨hclock, hwall, hmemory, ⟨[], ?_, List.forall_mem_nil _⟩, ⟨[], ?_⟩⟩
  · rw [hstampers, List.append_nil]
  · rw [hreaders, List.map_nil, List.append_nil]

/-- Timestamp functions in certain states stay the only ones. -/
theorem SetUp.forall_stampers (h : before.SetUp P after)
    (hbefore : ∀ stamper ∈ before.stampers, P stamper) :
    ∀ stamper ∈ after.stampers, P stamper := by
  obtain ⟨made, hstampers, hmade⟩ := h.stampers
  rw [hstampers]
  exact List.forall_mem_append.mpr ⟨hbefore, hmade⟩

/-- In a workspace whose timestamp functions are in certain states, what is made of them leaves
clocks, timestamp functions and readers alone. -/
theorem frame_setUp (hnow : P .now) :
    Frame P fun before after => (∀ stamper ∈ before.stampers, P stamper) → before.SetUp P after where
  refl _ _ := setUp_of_same rfl rfl rfl rfl rfl
  trans := by
    intro first second third hfirst hsecond hstampers
    have hbetween := hfirst hstampers
    have hafter := hsecond (hbetween.forall_stampers hstampers)
    obtain ⟨made, hmade, hstates⟩ := hbetween.stampers
    obtain ⟨made', hmade', hstates'⟩ := hafter.stampers
    obtain ⟨opened, hopened⟩ := hbetween.readers
    obtain ⟨opened', hopened'⟩ := hafter.readers
    refine ⟨hafter.clock.trans hbetween.clock, hafter.wall.trans hbetween.wall,
      hafter.memory.trans hbetween.memory,
      ⟨made ++ made', ?_, List.forall_mem_append.mpr ⟨hstates, hstates'⟩⟩, opened ++ opened', ?_⟩
    · rw [hmade', hmade, List.append_assoc]
    · rw [hopened', hopened, List.append_assoc, List.map_append]
  mark _ _ _ := setUp_of_same rfl rfl rfl rfl rfl
  now := hnow
  stamper _ stamper hstate _ :=
    ⟨rfl, rfl, rfl, ⟨[stamper], rfl, List.forall_mem_singleton.mpr hstate⟩, ⟨[], by simp⟩⟩
  assume _ _ h hstampers := h hstampers hstampers
  made _ _ _ _ := setUp_of_same rfl rfl rfl rfl rfl
  reader _ source _ := ⟨rfl, rfl, rfl, ⟨[], by simp, List.forall_mem_nil _⟩, ⟨[source], rfl⟩⟩
  pipeline _ _ _ := setUp_of_same rfl rfl rfl rfl rfl
  debug _ _ _ _ := setUp_of_same rfl rfl rfl rfl rfl

/-- Setting a value leaves them alone. -/
theorem settable_setUp : Settable fun before after =>
    (∀ stamper ∈ before.stampers, P stamper) → before.SetUp P after :=
  fun _ _ _ _ _ _ _ => setUp_of_same rfl rfl rfl rfl rfl

/-- Naming an item leaves them alone. -/
theorem nameable_setUp (name : String) : Nameable (fun before after =>
    (∀ stamper ∈ before.stampers, P stamper) → before.SetUp P after) name :=
  fun _ _ _ => setUp_of_same rfl rfl rfl rfl rfl

end SetUp

/-- What is logged is for debugging. -/
def Debugs (before after : Workspace) : Prop :=
  ∃ records, after.around.log = before.around.log ++ records ∧
    ∀ record ∈ records, record.level = .debug

/-- Where the log is the same nothing has been logged. -/
theorem debugs_of_log {before after : Workspace} (h : after.around.log = before.around.log) :
    before.Debugs after := ⟨[], by simp [h]⟩

/-- What is made is logged for debugging only. -/
theorem frame_debugs : Frame (fun _ => True) Debugs where
  refl _ := debugs_of_log rfl
  trans := by
    rintro first second third ⟨records, hlog, hdebug⟩ ⟨records', hlog', hdebug'⟩
    refine ⟨records ++ records', by rw [hlog', hlog, List.append_assoc], ?_⟩
    intro record hrecord
    rcases List.mem_append.mp hrecord with hrecord | hrecord
    · exact hdebug record hrecord
    · exact hdebug' record hrecord
  mark _ _ := debugs_of_log rfl
  now := trivial
  stamper _ _ _ := debugs_of_log rfl
  assume _ _ h := h fun _ _ => trivial
  made _ _ _ := debugs_of_log rfl
  reader _ _ := debugs_of_log rfl
  pipeline _ _ := debugs_of_log rfl
  debug _ records hdebug := ⟨records, rfl, hdebug⟩

/-- Setting a value logs nothing. -/
theorem settable_debugs : Settable Debugs := fun _ _ _ _ _ _ => debugs_of_log rfl

/-- Naming an item logs nothing. -/
theorem nameable_debugs (name : String) : Nameable Debugs name := fun _ _ => debugs_of_log rfl

section Perform

variable {P : Stamper → Prop} {R : Workspace → Workspace → Prop} {command : Command}

/-- A command does what its session does on the workspace with an empty log, and may name the
result. -/
theorem perform_keeps (hR : Frame P R) (h : Session.Keeps R (Session.perform command))
    (workspace : Workspace) {name : Option String} (hname : ∀ n, name = some n → Nameable R n) :
    R { workspace with around := workspace.unlogged } (workspace.perform command name).2 := by
  have hafter := h { workspace with around := workspace.unlogged }
  unfold perform
  unfold Session.on unlogged at hafter
  dsimp only
  generalize (Session.perform command).run.run
    { workspace with around := { workspace.around with log := [] } } = ran at hafter ⊢
  have hnamed : ∀ (item : Item), R ran.2 ((name.map (ran.2.name · item)).getD ran.2) := by
    intro item
    cases name with
    | none => exact hR.refl _
    | some name => exact hname name rfl ran.2 item
  -- Of the results only items get a name.
  rcases ran with ⟨cause | item | item | _ | _ | _, after⟩
  · exact hafter
  · exact hR.trans hafter (hnamed item)
  · exact hR.trans hafter (hnamed item)
  · exact hafter
  · exact hafter
  · exact hafter

/-- The report of a command has the log of the workspace afterwards. -/
theorem records_perform (workspace : Workspace) (command : Command) (name : Option String) :
    (workspace.perform command name).1.records =
      (workspace.perform command name).2.around.log := by
  rfl

end Perform

/-- Commands that only make things, of timestamp functions in certain states, leave clocks,
timestamp functions and readers alone. -/
theorem performAll_setUp {P : Stamper → Prop} (hnow : P .now)
    (commands : List (Command × Option String)) (h : ∀ command ∈ commands, command.1.SetsUp)
    (hgiven : ∀ command ∈ commands, ∀ stamper ∈ command.1.stampers, P stamper)
    (workspace : Workspace) (hstampers : ∀ stamper ∈ workspace.stampers, P stamper) :
    workspace.SetUp P (workspace.performAll commands).2 := by
  have hframe := frame_setUp hnow
  induction commands generalizing workspace with
  | nil => exact hframe.refl workspace hstampers
  | cons command rest ih =>
    obtain ⟨command, name⟩ := command
    have hsession := Session.keeps_perform hframe (h _ List.mem_cons_self)
      (hgiven _ List.mem_cons_self) fun _ _ _ _ => settable_setUp
    have hfirst := perform_keeps hframe hsession workspace fun n (_ : name = some n) =>
      nameable_setUp n
    -- The log is emptied before a command, which is not among what is looked at.
    have hstart : workspace.SetUp P { workspace with around := workspace.unlogged } :=
      setUp_of_same rfl rfl rfl rfl rfl
    refine hframe.trans (hframe.trans (fun _ => hstart) hfirst) (ih ?_ ?_ _) hstampers
    · exact fun next hnext => h next (List.mem_cons_of_mem _ hnext)
    · exact fun next hnext => hgiven next (List.mem_cons_of_mem _ hnext)

/-- Commands that only make things leave clocks, timestamp functions and readers alone, and make
timestamp functions in the states of their originals. -/
theorem setUp_performAll (commands : List (Command × Option String))
    (h : ∀ command ∈ commands, command.1.SetsUp) (workspace : Workspace) :
    workspace.SetUp (workspace.Original commands) (workspace.performAll commands).2 :=
  performAll_setUp (.inl rfl) commands h
    (fun command hcommand _ hstamper => .inr (.inr ⟨command, hcommand, hstamper⟩)) workspace
    fun _ hstamper => .inr (.inl hstamper)

/-- Commands that only make things write no stop record. -/
theorem not_isStop_performAll (commands : List (Command × Option String))
    (h : ∀ command ∈ commands, command.1.SetsUp) (workspace : Workspace) :
    ∀ report ∈ (workspace.performAll commands).1, ∀ record ∈ report.records, ¬ record.IsStop := by
  induction commands generalizing workspace with
  | nil => exact fun _ hreport => nomatch hreport
  | cons command rest ih =>
    obtain ⟨command, name⟩ := command
    obtain ⟨records, hlog, hdebug⟩ := perform_keeps frame_debugs
      (Session.keeps_perform frame_debugs (h _ List.mem_cons_self) (fun _ _ => trivial)
        fun _ _ _ _ => settable_debugs)
      workspace fun n (_ : name = some n) => nameable_debugs n
    have hreports : (workspace.performAll ((command, name) :: rest)).1 =
        (workspace.perform command name).1 ::
          ((workspace.perform command name).2.performAll rest).1 := rfl
    intro report hreport
    rw [hreports] at hreport
    rcases List.mem_cons.mp hreport with rfl | hreport
    · intro record hrecord hstop
      rw [records_perform, hlog] at hrecord
      have hlevel := hdebug record (by simpa [unlogged] using hrecord)
      rw [hstop.1] at hlevel
      cases hlevel
    · exact ih (fun next hnext => h next (List.mem_cons_of_mem _ hnext)) _ report hreport

end Workspace

end NumberFeed
