import NumberFeed.Proofs.Workspace.Originals

/-!
# What sessions leave alone

Most sessions only make new things: marks, timestamp functions, configurations, readers that have
not been started, and records for debugging. A relation between a workspace and a later one is a
`Workspace.Frame` if none of this breaks it, and a session keeps a relation (`Session.Keeps`) if it
relates every workspace to the one afterwards, whether the session fails or not. Here every
part of a session that only makes things is shown to keep every frame, by way of the parts that it
is put together from.

A frame may permit new timestamp functions in certain states only, if it does not care for what
comes of a workspace that holds others. Then what a session makes them of has to show such states
only.
-/

namespace NumberFeed

/-- A relation between a workspace and a later one that holds whatever is made, or logged for
debugging, in between, as long as new timestamp functions are in certain states. -/
structure Workspace.Frame (P : Stamper → Prop) (R : Workspace → Workspace → Prop) : Prop where
  /-- Nothing may happen. -/
  refl : ∀ workspace, R workspace workspace
  /-- Several things may happen. -/
  trans : ∀ {first second third}, R first second → R second third → R first third
  /-- Marks may be given out. -/
  mark : ∀ (workspace : Workspace) nextMark, R workspace { workspace with nextMark }
  /-- The usual timestamp function may be made. -/
  now : P .now
  /-- A timestamp function may be made that is in such a state. -/
  stamper : ∀ (workspace : Workspace) stamper, P stamper →
    R workspace { workspace with stampers := workspace.stampers ++ [stamper] }
  /-- The timestamp functions that there are may be taken to be in such states. -/
  assume : ∀ before after : Workspace,
    ((∀ stamper ∈ before.stampers, P stamper) → R before after) → R before after
  /-- A configuration may be made. -/
  made : ∀ (workspace : Workspace) other data,
    R workspace { workspace with shelf := (workspace.shelf.make other data).1 }
  /-- A source may be opened. -/
  reader : ∀ (workspace : Workspace) (source : Source),
    R workspace { workspace with readers := workspace.readers ++ [source.reader] }
  /-- The pipeline may get another configuration. -/
  pipeline : ∀ (workspace : Workspace) pipeline, R workspace { workspace with pipeline }
  /-- Records for debugging may be written. -/
  debug : ∀ (workspace : Workspace) (records : List LogRecord),
    (∀ record ∈ records, record.level = .debug) →
    R workspace { workspace with around := { workspace.around with
      log := workspace.around.log ++ records } }

/-- A relation between a workspace and a later one that holds also when a value is set in a
configuration in between. -/
def Workspace.Settable (R : Workspace → Workspace → Prop) : Prop :=
  ∀ (workspace : Workspace) place setting value shelf,
    workspace.shelf.set place setting value = .ok shelf → R workspace { workspace with shelf }

/-- A relation between a workspace and a later one that holds also when an item gets a name in
between. -/
def Workspace.Nameable (R : Workspace → Workspace → Prop) (name : String) : Prop :=
  ∀ (workspace : Workspace) item, R workspace (workspace.name name item)

namespace Session

variable {α β : Type} {P : Stamper → Prop} {R : Workspace → Workspace → Prop}

/-- A session keeps a relation if every workspace is related to the one after the session. -/
def Keeps (R : Workspace → Workspace → Prop) (session : Session α) : Prop :=
  ∀ workspace, R workspace (session.on workspace).2

/-- What a source opens as is its reader. -/
theorem reader_of_open? {source : Source} {reader : Reader} (h : source.open? = .ok reader) :
    reader = source.reader := by
  unfold Source.open? at h
  split at h
  · cases h
  · exact (Except.ok.inj h).symm

/-! ## Parts of sessions -/

/-- A session that changes what it has looked at keeps a relation if the change does. -/
theorem keeps_bind_get {next : Workspace → Session β}
    (hnext : ∀ workspace, R workspace ((next workspace).on workspace).2) :
    Keeps R ((get : Session Workspace) >>= next) := by
  intro workspace
  rw [on_bind, on_get]
  exact hnext workspace

/-- Making something of a result keeps a relation. -/
theorem keeps_map (make : α → β) {session : Session α} (h : Keeps R session) :
    Keeps R (make <$> session) := by
  intro workspace
  rw [on_map]
  exact h workspace

/-- What changes the surroundings keeps a relation if the change does. -/
theorem keeps_within_of {act : Surroundings → Pipeline.Result α}
    (h : ∀ workspace : Workspace,
      R workspace { workspace with around := (act workspace.around).2 }) :
    Keeps R (within act) := by
  intro workspace
  rw [on_within]
  exact h workspace

section Parts

variable (hR : Workspace.Frame P R)

include hR

/-- A result keeps a frame. -/
theorem keeps_pure (result : α) : Keeps R (pure result : Session α) := fun workspace =>
  hR.refl workspace

/-- A failure keeps a frame. -/
theorem keeps_throw (cause : Failure) : Keeps R (throw cause : Session α) := fun workspace =>
  hR.refl workspace

/-- A result that may be a failure keeps a frame. -/
theorem keeps_lift (result : Except Failure α) : Keeps R (lift result) := by
  intro workspace
  rw [on_lift]
  exact hR.refl workspace

/-- Looking at the workspace keeps a frame. -/
theorem keeps_get : Keeps R (get : Session Workspace) := fun workspace => hR.refl workspace

/-- A session that keeps a frame goes on with one that does for the results that there may be. -/
theorem keeps_bind_of {first : Session α} {next : α → Session β} (hfirst : Keeps R first)
    (hnext : ∀ workspace result, (∀ stamper ∈ workspace.stampers, P stamper) →
      (first.on workspace).1 = .ok result → Keeps R (next result)) :
    Keeps R (first >>= next) := by
  intro workspace
  refine hR.assume _ _ fun hstampers => ?_
  have hafter := hfirst workspace
  have hnext := fun result => hnext workspace result hstampers
  rw [on_bind]
  generalize first.on workspace = ran at hafter hnext ⊢
  rcases ran with ⟨cause | result, after⟩
  · exact hafter
  · exact hR.trans hafter (hnext result rfl after)

/-- A session that keeps a frame goes on with one that does. -/
theorem keeps_bind {first : Session α} {next : α → Session β} (hfirst : Keeps R first)
    (hnext : ∀ result, Keeps R (next result)) : Keeps R (first >>= next) :=
  keeps_bind_of hR hfirst fun _ result _ _ => hnext result

/-- A session that goes on with a result that may be a failure keeps a frame if it does for the
result. -/
theorem keeps_bind_lift {first : Except Failure α} {next : α → Session β}
    (hnext : ∀ result, first = .ok result → Keeps R (next result)) :
    Keeps R (lift first >>= next) :=
  keeps_bind_of hR (keeps_lift hR first) fun workspace result _ hresult =>
    hnext result (by rwa [on_lift] at hresult)

/-- A failure that is caught keeps a frame. -/
theorem keeps_tryCatch {session : Session α} {rescue : Failure → Session α}
    (hsession : Keeps R session) (hrescue : ∀ cause, Keeps R (rescue cause)) :
    Keeps R (tryCatch session rescue) := by
  intro workspace
  have hafter := hsession workspace
  rw [on_tryCatch]
  generalize session.on workspace = ran at hafter ⊢
  rcases ran with ⟨cause | result, after⟩
  · exact hR.trans hafter (hrescue cause after)
  · exact hafter

/-- A session that makes a permitted change keeps a frame if it does so afterwards. -/
theorem keeps_bind_set {change : Workspace → Workspace} {next : Workspace → Session β}
    (hchange : ∀ workspace, R workspace (change workspace))
    (hnext : ∀ workspace, Keeps R (next workspace)) :
    Keeps R ((get : Session Workspace) >>= fun workspace =>
      (set (change workspace) : Session PUnit) >>= fun _ => next workspace) := by
  refine keeps_bind_get fun workspace => ?_
  rw [on_bind, on_set]
  exact hR.trans (hchange workspace) (hnext workspace (change workspace))

/-! ## Making things -/

/-- A new mark keeps a frame. -/
theorem keeps_newMark : Keeps R newMark := fun workspace =>
  hR.mark workspace (workspace.nextMark + 1)

/-- A new object keeps a frame. -/
theorem keeps_make (form : Form) : Keeps R (make form) :=
  keeps_bind hR (keeps_newMark hR) fun _ => keeps_pure hR _

/-- The item of a value keeps a frame. -/
theorem keeps_itemOf (value : Value) : Keeps R (itemOf value) := by
  unfold itemOf
  split
  · exact keeps_pure hR _
  · exact keeps_bind hR (keeps_newMark hR) fun _ => keeps_pure hR _

/-- The item of a new object keeps a frame. -/
theorem keeps_makeItem (form : Form) : Keeps R (makeItem form) :=
  keeps_bind hR (keeps_make hR form) (keeps_itemOf hR)

/-- A new timestamp function keeps a frame that permits its state. -/
theorem keeps_makeStamper {stamper : Stamper} (h : ∀ own ∈ stamper.itself, P own) :
    Keeps R (makeStamper stamper) := by
  unfold makeStamper
  split
  · exact keeps_pure hR _
  next hcallable =>
    have hown : P stamper := by
      refine h stamper ?_
      unfold Stamper.itself
      split
      · exact absurd rfl (hcallable _)
      · exact List.mem_singleton_self stamper
    exact keeps_bind_set hR (fun workspace => hR.stamper workspace _ hown) fun _ => keeps_make hR _

/-- So does the usual one. -/
theorem keeps_makeStamper_now : Keeps R (makeStamper .now) :=
  keeps_makeStamper hR (List.forall_mem_singleton.mpr hR.now)

/-- A new configuration keeps a frame. -/
theorem keeps_makeConfiguration (other : Option Nat) (data : Entries) :
    Keeps R (makeConfiguration other data) :=
  keeps_bind_set hR (fun workspace => hR.made workspace other data) fun _ => keeps_make hR _

/-- A new reader that has not been started keeps a frame. -/
theorem keeps_makeReader (source : Source) (valuesOnly : Bool) :
    Keeps R (makeReader source.reader valuesOnly) :=
  keeps_bind_set hR (fun workspace => hR.reader workspace source) fun _ => keeps_make hR _

/-- A new source keeps a frame that permits the state of its timestamp function. -/
theorem keeps_makeSource {source : Source} (h : ∀ stamper ∈ source.stampers, P stamper) :
    Keeps R (makeSource source) := by
  induction source with
  | range start stop => exact keeps_make hR _
  | counting stamper =>
    exact keeps_bind hR (keeps_makeStamper hR h) fun _ => keeps_make hR _
  | read bounded source ih =>
    exact keeps_bind hR (keeps_bind hR (ih h) (keeps_itemOf hR)) fun _ => keeps_make hR _
  | limited limits source ih =>
    exact keeps_bind hR (keeps_bind hR (ih h) (keeps_itemOf hR)) fun _ => keeps_make hR _
  | foreign value => exact keeps_pure hR _

/-- A new input keeps a frame that permits the state of its timestamp function. -/
theorem keeps_makeInputOf {input : Input} (h : ∀ stamper ∈ input.stampers, P stamper) :
    Keeps R (makeInputOf input) := by
  cases input with
  | bounded input => exact keeps_makeItem hR _
  | unbounded input =>
    exact keeps_bind hR (keeps_makeStamper hR h) fun _ => keeps_makeItem hR _

/-! ## Looking things up -/

/-- Looking up an argument keeps a frame. -/
theorem keeps_resolve (argument : Argument) : Keeps R (resolve argument) := by
  refine keeps_bind hR (keeps_get hR) fun workspace => ?_
  split
  · split
    · exact keeps_pure hR _
    · exact keeps_throw hR _
  · refine keeps_bind hR (keeps_lift hR _) fun value => ?_
    exact keeps_bind hR (keeps_newMark hR) fun _ => keeps_pure hR _

/-- A session that goes on with what an argument makes keeps a frame if it does for items that show
such states only, and such ones only are written in the argument. -/
theorem keeps_bind_resolve {argument : Argument} {next : Item → Session β}
    (h : ∀ stamper ∈ argument.stampers, P stamper)
    (hnext : ∀ item, (∀ stamper ∈ item.value.stampers, P stamper) → Keeps R (next item)) :
    Keeps R (resolve argument >>= next) :=
  keeps_bind_of hR (keeps_resolve hR argument) fun _ item hstampers hitem =>
    hnext item (stampers_resolve hR.now hstampers h hitem)

/-- Looking up an argument that may be missing keeps a frame. -/
theorem keeps_resolve? (argument : Option Argument) : Keeps R (resolve? argument) := by
  cases argument with
  | none => exact keeps_pure hR _
  | some argument => exact keeps_map _ (keeps_resolve hR argument)

/-- Looking up the value of an argument keeps a frame. -/
theorem keeps_resolveValue (argument : Argument) : Keeps R (resolveValue argument) :=
  keeps_map _ (keeps_resolve hR argument)

/-- A session that goes on with the value of an argument keeps such a frame if it does for values
that show such states only. -/
theorem keeps_bind_resolveValue {argument : Argument} {next : Value → Session β}
    (h : ∀ stamper ∈ argument.stampers, P stamper)
    (hnext : ∀ value, (∀ stamper ∈ value.stampers, P stamper) → Keeps R (next value)) :
    Keeps R (resolveValue argument >>= next) := by
  rw [resolveValue, map_eq_pure_bind, bind_assoc]
  exact keeps_bind_resolve hR h fun item hitem => hnext item.value hitem

/-- Looking up the value of an argument that may be missing keeps a frame. -/
theorem keeps_resolveValue? (argument : Option Argument) : Keeps R (resolveValue? argument) := by
  cases argument with
  | none => exact keeps_pure hR _
  | some argument => exact keeps_resolveValue hR argument

/-- Looking up a setting keeps a frame. -/
theorem keeps_resolveSetting (setting : SettingArgument) : Keeps R (resolveSetting setting) := by
  cases setting with
  | known setting => exact keeps_bind hR (keeps_newMark hR) fun _ => keeps_pure hR _
  | made key type fallback =>
    refine keeps_bind hR (keeps_resolveValue hR key) fun key => ?_
    refine keeps_bind hR (keeps_lift hR _) fun _ => ?_
    exact keeps_bind hR (keeps_resolve hR fallback) fun _ => keeps_pure hR _

/-! ## Copies -/

mutual

/-- A copy of a value keeps a frame that permits the states that the value shows. -/
theorem keeps_copy (inFull : Bool) : ∀ value : Value, (∀ stamper ∈ value.stampers, P stamper) →
    Keeps R (copy inFull value)
  | .nan mark, _ => by
    rw [copy]
    split
    · exact keeps_map _ (keeps_newMark hR)
    · exact keeps_pure hR _
  | .moment m mark, _ => by
    rw [copy]
    exact keeps_map _ (keeps_newMark hR)
  | .list items, h => by
    rw [copy]
    exact keeps_map _ (keeps_copyAll inFull items h)
  | .tuple items, h => by
    rw [copy]
    exact keeps_map _ (keeps_copyAll inFull items h)
  | .dict entries, h => by
    rw [copy]
    exact keeps_map _ (keeps_copyEntries inFull entries h)
  | .object mark form, h => by
    rw [copy]
    exact keeps_copyForm inFull form h
  | .null, _ | .bool _, _ | .int _, _ | .float _, _ | .text _, _ | .bytes _, _ | .duration _, _
  | .span _, _ | .instant _, _ => by
    rw [copy]
    · exact keeps_pure hR _
    all_goals simp

/-- A new object whose parts are copies keeps such a frame. -/
theorem keeps_copyForm (inFull : Bool) : ∀ form : Form, (∀ stamper ∈ form.stampers, P stamper) →
    Keeps R (copyForm inFull form)
  | .stamper cell none, _ => by
    rw [copyForm]
    exact keeps_makeStamper_now hR
  | .stamper cell (some formula), h => by
    rw [copyForm]
    refine keeps_bind_lift hR fun kept hkept => keeps_makeStamper hR ?_
    rw [Stamper.eq_of_kept hkept]
    exact h
  | .element value timestamp, h => by
    obtain ⟨hvalue, htimestamp⟩ := List.forall_mem_append.mp h
    rw [copyForm]
    refine keeps_bind hR (keeps_copy inFull value hvalue) fun _ => ?_
    exact keeps_bind hR (keeps_copy inFull timestamp htimestamp) fun _ => keeps_make hR _
  | .configuration place entries, h => by
    rw [copyForm]
    split
    · exact keeps_bind hR (keeps_copyEntries inFull entries h) fun _ =>
        keeps_makeConfiguration hR _ _
    · exact keeps_makeConfiguration hR _ _
  | .unboundedInput stamper records time, h => by
    obtain ⟨hstamper, htime⟩ := List.forall_mem_append.mp h
    rw [copyForm]
    refine keeps_bind hR (keeps_copy inFull stamper hstamper) fun _ => ?_
    exact keeps_bind hR (keeps_copy inFull time htime) fun _ => keeps_make hR _
  | .read bounded mark source, h => by
    rw [copyForm]
    refine keeps_bind hR ?_ fun _ => keeps_make hR _
    exact keeps_bind hR (keeps_copy inFull source h) (keeps_itemOf hR)
  | .limitedRead limits mark source, h => by
    rw [copyForm]
    refine keeps_bind hR ?_ fun _ => keeps_make hR _
    exact keeps_bind hR (keeps_copy inFull source h) (keeps_itemOf hR)
  | .collection bounded producer, h => by
    rw [copyForm]
    exact keeps_bind hR (keeps_copy inFull producer h) fun _ => keeps_make hR _
  | .reader cell valuesOnly, _ => by
    rw [copyForm]
    exact keeps_throw hR _
  | .boundedInput _, _ | .range _ _, _ | .counting _, _ => by
    rw [copyForm]
    · exact keeps_make hR _
    all_goals simp

/-- Copies of values keep such a frame. -/
theorem keeps_copyAll (inFull : Bool) : ∀ items : List Value,
    (∀ stamper ∈ stampersOfAll items, P stamper) → Keeps R (copyAll inFull items)
  | [], _ => keeps_pure hR _
  | value :: rest, h => by
    obtain ⟨hvalue, hrest⟩ := List.forall_mem_append.mp h
    rw [copyAll]
    refine keeps_bind hR (keeps_copy inFull value hvalue) fun _ => ?_
    exact keeps_bind hR (keeps_copyAll inFull rest hrest) fun _ => keeps_pure hR _

/-- Copies of entries keep such a frame. -/
theorem keeps_copyEntries (inFull : Bool) : ∀ entries : List (Value × Value),
    (∀ stamper ∈ stampersOfEntries entries, P stamper) → Keeps R (copyEntries inFull entries)
  | [], _ => keeps_pure hR _
  | (key, value) :: rest, h => by
    obtain ⟨hkey, hrest⟩ := List.forall_mem_append.mp h
    obtain ⟨hvalue, hrest⟩ := List.forall_mem_append.mp hrest
    rw [copyEntries]
    refine keeps_bind hR (keeps_copy inFull key hkey) fun _ => ?_
    refine keeps_bind hR (keeps_copy inFull value hvalue) fun _ => ?_
    exact keeps_bind hR (keeps_copyEntries inFull rest hrest) fun _ => keeps_pure hR _

end

/-- A copy of an item keeps a frame that permits the states that the item shows. -/
theorem keeps_copyItem {item : Item} (h : ∀ stamper ∈ item.value.stampers, P stamper) :
    Keeps R (copyItem item) := by
  unfold copyItem
  split
  · exact keeps_pure hR _
  · exact keeps_bind hR (keeps_copy hR false item.value h) (keeps_itemOf hR)

/-! ## Commands that make things -/

/-- What only logs for debugging keeps a frame. -/
theorem keeps_within {act : Surroundings → Pipeline.Result α} (h : Pipeline.LogsDebug act) :
    Keeps R (within act) := by
  refine keeps_within_of fun workspace => ?_
  obtain ⟨texts, hafter⟩ := h workspace.around
  rw [hafter]
  exact hR.debug workspace _ fun _ => Surroundings.level_of_mem_debugging

/-- Changing a limit keeps a frame. -/
theorem keeps_changeLimit (target : Item) (limit : Value)
    (ofInput : Value → UnboundedInput → Except Failure UnboundedInput)
    (ofRead : Value → Source → Except Failure Source) :
    Keeps R (changeLimit target limit ofInput ofRead) := by
  unfold changeLimit
  dsimp only
  split
  · exact keeps_bind hR (keeps_lift hR _) fun _ => keeps_makeItem hR _
  · refine keeps_bind hR (keeps_lift hR _) fun source => ?_
    split
    · exact keeps_makeItem hR _
    · exact keeps_throw hR _
  · refine keeps_bind hR (keeps_lift hR _) fun source => ?_
    split
    · exact keeps_makeItem hR _
    · exact keeps_throw hR _
  · exact keeps_throw hR _

/-- Finding a configuration keeps a frame. -/
theorem keeps_asPlace (item : Item) : Keeps R (asPlace item) := by
  unfold asPlace
  split
  · exact keeps_pure hR _
  · exact keeps_throw hR _

/-- Taking a configuration as it is keeps a frame. -/
theorem keeps_asConfiguration (item : Item) : Keeps R (asConfiguration item) :=
  keeps_bind hR (keeps_get hR) fun _ =>
    keeps_bind hR (keeps_asPlace hR item) fun _ => keeps_pure hR _

/-- Making the input of a configuration keeps a frame. -/
theorem keeps_inputOf (item : Item) : Keeps R (inputOf item) := by
  unfold inputOf
  split
  · exact keeps_throw hR _
  · exact keeps_makeInputOf hR (List.forall_mem_singleton.mpr hR.now)
  · refine keeps_bind hR (keeps_asConfiguration hR item) fun configuration => ?_
    refine keeps_bind_lift hR fun input hinput => keeps_makeInputOf hR ?_
    intro stamper hstamper
    rw [Input.eq_now_of_ofConfiguration hinput hstamper]
    exact hR.now

/-- Taking the source out of a read keeps a frame. -/
theorem keeps_sourceOf (item : Item) : Keeps R (sourceOf item) := by
  unfold sourceOf
  split
  · exact keeps_pure hR _
  · exact keeps_pure hR _
  · exact keeps_throw hR _

/-- Applying an item keeps a frame that permits the states that the item shows. -/
theorem keeps_apply {item : Item} (h : ∀ stamper ∈ item.value.stampers, P stamper) :
    Keeps R (Session.apply item) := by
  refine keeps_bind_of hR (keeps_within hR (Pipeline.logsDebug_apply _))
    fun workspace collection _ hcollection => ?_
  have hproducer : collection.producer.stampers = (Transform.ofValue item.value).stampers := by
    rw [on_within] at hcollection
    exact Pipeline.stampers_apply (Prod.ext hcollection rfl)
  dsimp only
  split
  · exact keeps_bind hR (keeps_pure hR _) fun _ => keeps_makeItem hR _
  · refine keeps_bind hR (keeps_makeSource hR ?_) fun _ => keeps_makeItem hR _
    rw [hproducer]
    exact Transform.stampers_ofValue h

/-- Opening an item keeps a frame. -/
theorem keeps_openReader (item : Item) (valuesOnly : Bool) :
    Keeps R (openReader item valuesOnly) := by
  have hmake : ∀ (source : Source) valuesOnly,
      Keeps R (do makeReader (← lift source.open?) valuesOnly >>= itemOf : Session Item) := by
    intro source valuesOnly
    -- A frame permits no other new reader than one that has not been started.
    refine keeps_bind_lift hR fun reader hreader => ?_
    rw [reader_of_open? hreader]
    exact keeps_bind hR (keeps_makeReader hR source valuesOnly) (keeps_itemOf hR)
  unfold openReader
  split
  · exact hmake _ _
  · split
    · exact keeps_throw hR _
    · exact hmake _ _

/-- Collecting without a limit keeps a frame. -/
theorem keeps_collect_null (item : Item) : Keeps R (collect item .null) := by
  unfold collect
  split
  · exact keeps_throw hR _
  · refine keeps_bind hR (keeps_within hR (Pipeline.logsDebug_collect_null _)) fun collected => ?_
    split
    · exact keeps_itemOf hR _
    · exact keeps_itemOf hR _

/-- Setting a value in a configuration keeps a frame that permits it. -/
theorem keeps_setValue (hset : Workspace.Settable R) (item : Item) (setting : SettingArgument)
    (value : Value) : Keeps R (setValue item setting value) := by
  refine keeps_bind hR (keeps_asPlace hR item) fun place => ?_
  refine keeps_bind hR (keeps_resolveSetting hR setting) fun found => ?_
  refine keeps_bind_get fun workspace => ?_
  rw [on_bind, on_lift]
  rcases hshelf : workspace.shelf.set place found.1 value with cause | shelf
  · exact hR.refl workspace
  · exact hset workspace place found.1 value shelf hshelf

/-- Reading a value of a configuration keeps a frame. -/
theorem keeps_getValue (item : Item) (setting : SettingArgument) :
    Keeps R (getValue item setting) := by
  unfold getValue
  split
  · refine keeps_bind hR (keeps_resolveSetting hR setting) fun found => ?_
    exact keeps_bind hR (keeps_lift hR _) fun _ => keeps_itemOf hR _
  · refine keeps_bind hR (keeps_asConfiguration hR item) fun configuration => ?_
    refine keeps_bind hR (keeps_resolveSetting hR setting) fun found => ?_
    refine keeps_bind hR (keeps_lift hR _) fun value => ?_
    split
    · exact keeps_itemOf hR _
    · exact keeps_pure hR _

end Parts

end Session

end NumberFeed
