import NumberFeed.Proofs.Pipeline.Logging
import NumberFeed.Proofs.Value.CountDecision
import NumberFeed.Proofs.Workspace.Session

/-!
# Where timestamp functions come from

A session makes timestamp functions out of what it is given: out of the values that its arguments
stand for, and of the sources that it applies. Here a predicate on the states of timestamp functions
is followed through what is looked up. An item that a name stands for shows the present states only
(`Workspace.stampers_refresh`), an argument shows besides what is written in it
(`Argument.stampers_eval`), and to apply a transform makes a source of what the transform shows
(`Pipeline.stampers_apply`).
-/

namespace NumberFeed

/-! ## What is shown -/

mutual

/-- The timestamp functions within a value, in the states that it shows. -/
def Value.stampers : Value → List Stamper
  | .list items => stampersOfAll items
  | .tuple items => stampersOfAll items
  | .dict entries => stampersOfEntries entries
  | .object _ form => form.stampers
  | _ => []

/-- The timestamp functions within an object. -/
def Form.stampers : Form → List Stamper
  | .stamper _ none => [.now]
  | .stamper _ (some formula) => [.ofFormula formula]
  | .element value timestamp => value.stampers ++ timestamp.stampers
  | .configuration _ entries => stampersOfEntries entries
  | .unboundedInput stamper _ time => stamper.stampers ++ time.stampers
  | .counting kept => kept.stampers
  | .read _ _ source => source.stampers
  | .limitedRead _ _ source => source.stampers
  | .collection _ producer => producer.stampers
  | _ => []

/-- The timestamp functions within values. -/
def stampersOfAll : List Value → List Stamper
  | [] => []
  | value :: rest => value.stampers ++ stampersOfAll rest

/-- The timestamp functions within entries. -/
def stampersOfEntries : List (Value × Value) → List Stamper
  | [] => []
  | (key, value) :: rest => key.stampers ++ (value.stampers ++ stampersOfEntries rest)

end

mutual

/-- The timestamp functions that are written in an argument. -/
def Argument.stampers : Argument → List Stamper
  | .literal value => value.stampers
  | .list items => stampersOfArguments items
  | .tuple items => stampersOfArguments items
  | .dict entries => stampersOfPairs entries
  | .span _ _ _ | .named _ => []

/-- The timestamp functions that are written in arguments. -/
def stampersOfArguments : List Argument → List Stamper
  | [] => []
  | item :: rest => item.stampers ++ stampersOfArguments rest

/-- The timestamp functions that are written in entries. -/
def stampersOfPairs : List (Argument × Argument) → List Stamper
  | [] => []
  | (key, item) :: rest => key.stampers ++ (item.stampers ++ stampersOfPairs rest)

end

/-- A timestamp function itself, unless it cannot be called. -/
def Stamper.itself : Stamper → List Stamper
  | .uncallable _ => []
  | stamper => [stamper]

/-- The timestamp function within a source. -/
def Source.stampers : Source → List Stamper
  | .counting stamper => stamper.itself
  | .read _ source => source.stampers
  | .limited _ source => source.stampers
  | .range _ _ | .foreign _ => []

/-- The timestamp function within an input. -/
def Input.stampers : Input → List Stamper
  | .bounded _ => []
  | .unbounded input => input.stamper.itself

/-- The timestamp function within a transform. -/
def Transform.stampers : Transform → List Stamper
  | .input i => i.stampers
  | .source s => s.stampers
  | .other _ => []

/-- The timestamp functions that a command brings with it and may make, or copies of which it may
make. -/
def Command.stampers : Command → List Stamper
  | .makeStamper stamper => stamper.itself
  | .sourceOfStamper stamper => stamper.stampers
  | .stamperOf target | .copy target => target.stampers
  | .apply transform => transform.stampers
  | _ => []

/-! ## Present states -/

section Shown

variable {P : Stamper → Prop}

/-- What is present shows only certain states. -/
structure Present.Shows (P : Stamper → Prop) (present : Present) : Prop where
  /-- The usual timestamp function may be shown. -/
  now : P .now
  /-- The timestamp functions are in such states. -/
  formulas : ∀ formula, some formula ∈ present.formulas → P (.ofFormula formula)
  /-- The configurations hold such ones only. -/
  contents : ∀ entries ∈ present.contents, ∀ stamper ∈ stampersOfEntries entries, P stamper

namespace Present

variable {present : Present}

/-- What is in a cell is shown. -/
theorem Shows.formulaAt (h : present.Shows P) {cell : Nat} {formula : StampFormula}
    (hformula : present.formulaAt cell = some formula) : P (.ofFormula formula) := by
  rw [Present.formulaAt, Option.join_eq_some_iff] at hformula
  exact h.formulas formula (List.mem_of_getElem? hformula)

/-- What is at a place is shown. -/
theorem Shows.entriesAt (h : present.Shows P) (place : Nat) :
    ∀ stamper ∈ stampersOfEntries (present.entriesAt place), P stamper := by
  unfold Present.entriesAt
  rcases hentries : present.contents[place]? with _ | entries
  · exact List.forall_mem_nil _
  · exact h.contents entries (List.mem_of_getElem? hentries)

mutual

/-- A value that is brought up to date shows what is present. -/
theorem stampers_refresh (h : present.Shows P) : ∀ value : Value,
    ∀ stamper ∈ (present.refresh value).stampers, P stamper
  | .list items => by
    rw [refresh]
    exact stampers_refreshAll h items
  | .tuple items => by
    rw [refresh]
    exact stampers_refreshAll h items
  | .dict entries => by
    rw [refresh]
    exact stampers_refreshEntries h entries
  | .object mark form => by
    rw [refresh]
    exact stampers_refreshForm h form
  | .null | .bool _ | .int _ | .float _ | .nan _ | .text _ | .bytes _ | .duration _ | .span _
  | .instant _ | .moment _ _ => by
    simp [refresh, Value.stampers]

/-- So does an object. -/
theorem stampers_refreshForm (h : present.Shows P) : ∀ form : Form,
    ∀ stamper ∈ (present.refreshForm form).stampers, P stamper
  | .stamper cell _ => by
    rw [refreshForm]
    rcases hformula : present.formulaAt cell with _ | formula
    · exact List.forall_mem_singleton.mpr h.now
    · exact List.forall_mem_singleton.mpr (h.formulaAt hformula)
  | .element value timestamp => by
    rw [refreshForm]
    exact List.forall_mem_append.mpr ⟨stampers_refresh h value, stampers_refresh h timestamp⟩
  | .configuration place _ => by
    rw [refreshForm]
    exact h.entriesAt place
  | .unboundedInput stamper records time => by
    rw [refreshForm]
    exact List.forall_mem_append.mpr ⟨stampers_refresh h stamper, stampers_refresh h time⟩
  | .counting kept => by
    rw [refreshForm]
    exact stampers_refresh h kept
  | .read bounded mark source => by
    rw [refreshForm]
    exact stampers_refresh h source
  | .limitedRead limits mark source => by
    rw [refreshForm]
    exact stampers_refresh h source
  | .collection bounded producer => by
    rw [refreshForm]
    exact stampers_refresh h producer
  | .boundedInput _ | .range _ _ | .reader _ _ => by
    simp [refreshForm, Form.stampers]

/-- So do values. -/
theorem stampers_refreshAll (h : present.Shows P) : ∀ items : List Value,
    ∀ stamper ∈ stampersOfAll (present.refreshAll items), P stamper
  | [] => List.forall_mem_nil _
  | value :: rest => by
    rw [refreshAll]
    exact List.forall_mem_append.mpr ⟨stampers_refresh h value, stampers_refreshAll h rest⟩

/-- So do entries. -/
theorem stampers_refreshEntries (h : present.Shows P) : ∀ entries : List (Value × Value),
    ∀ stamper ∈ stampersOfEntries (present.refreshEntries entries), P stamper
  | [] => List.forall_mem_nil _
  | (key, value) :: rest => by
    rw [refreshEntries]
    exact List.forall_mem_append.mpr ⟨stampers_refresh h key, List.forall_mem_append.mpr
      ⟨stampers_refresh h value, stampers_refreshEntries h rest⟩⟩

end

/-- What is made of certain timestamp functions shows these only. -/
theorem shows_make (hnow : P .now) {stampers : List Stamper}
    (h : ∀ stamper ∈ stampers, P stamper) (shelf : Shelf) : (make stampers shelf).Shows P := by
  -- The configurations are brought up to date one after the other.
  have hall : ∀ (contents : List Configuration) (present : Present), present.Shows P →
      (contents.foldl (fun present configuration => { present with contents :=
        present.contents ++ [present.refreshEntries configuration.entries] }) present).Shows P := by
    intro contents
    induction contents with
    | nil => exact fun _ hpresent => hpresent
    | cons configuration rest ih =>
      intro present hpresent
      refine ih _ ⟨hnow, hpresent.formulas, List.forall_mem_append.mpr ⟨hpresent.contents, ?_⟩⟩
      exact List.forall_mem_singleton.mpr (stampers_refreshEntries hpresent _)
  refine hall shelf.contents _ ⟨hnow, ?_, List.forall_mem_nil _⟩
  intro formula hformula
  obtain ⟨stamper, hstamper, hsame⟩ := List.mem_map.mp hformula
  -- Only a rule has a formula.
  cases stamper with
  | ofFormula own =>
    obtain rfl : own = formula := Option.some.inj hsame
    exact h _ hstamper
  | now | ofFunction _ | shared _ | uncallable _ => cases hsame

end Present

/-! ## Arguments -/

/-- A value put into entries adds what it and its key show. -/
theorem Entries.stampers_insert {entries : Entries} {key value : Value}
    (hentries : ∀ stamper ∈ stampersOfEntries entries, P stamper)
    (hkey : ∀ stamper ∈ key.stampers, P stamper)
    (hvalue : ∀ stamper ∈ value.stampers, P stamper) :
    ∀ stamper ∈ stampersOfEntries (entries.insert key value), P stamper := by
  induction entries with
  | nil =>
    exact List.forall_mem_append.mpr ⟨hkey, List.forall_mem_append.mpr ⟨hvalue, hentries⟩⟩
  | cons entry rest ih =>
    obtain ⟨hown, hrest⟩ := List.forall_mem_append.mp hentries
    obtain ⟨hheld, hrest⟩ := List.forall_mem_append.mp hrest
    rw [Entries.insert]
    split
    · exact List.forall_mem_append.mpr ⟨hown, List.forall_mem_append.mpr ⟨hvalue, hrest⟩⟩
    · exact List.forall_mem_append.mpr
        ⟨hown, List.forall_mem_append.mpr ⟨hheld, ih hrest⟩⟩

namespace Argument

variable {find : String → Except Failure Value}

mutual

/-- The value of an argument shows what is written there, and what names stand for. -/
theorem stampers_eval
    (hfind : ∀ name value, find name = .ok value → ∀ stamper ∈ value.stampers, P stamper) :
    ∀ (argument : Argument) (value : Value), (∀ stamper ∈ argument.stampers, P stamper) →
      argument.eval find = .ok value → ∀ stamper ∈ value.stampers, P stamper
  | .literal written, value, h, heval => by
    rw [eval] at heval
    cases heval
    exact h
  | .span days seconds micros, value, _, heval => by
    rw [eval] at heval
    split at heval
    · cases heval
      exact List.forall_mem_nil _
    · cases heval
  | .named name, value, _, heval => hfind name value (by rw [← heval, eval])
  | .list items, value, h, heval => by
    rw [eval] at heval
    obtain ⟨values, hvalues, rfl⟩ := exists_of_map_eq_ok heval
    exact stampers_evalAll hfind items values h hvalues
  | .tuple items, value, h, heval => by
    rw [eval] at heval
    obtain ⟨values, hvalues, rfl⟩ := exists_of_map_eq_ok heval
    exact stampers_evalAll hfind items values h hvalues
  | .dict entries, value, h, heval => by
    rw [eval] at heval
    obtain ⟨values, hvalues, rfl⟩ := exists_of_map_eq_ok heval
    exact stampers_evalEntries hfind entries [] values (List.forall_mem_nil _) h hvalues

/-- So do the values of arguments. -/
theorem stampers_evalAll
    (hfind : ∀ name value, find name = .ok value → ∀ stamper ∈ value.stampers, P stamper) :
    ∀ (items : List Argument) (values : List Value),
      (∀ stamper ∈ stampersOfArguments items, P stamper) → evalAll find items = .ok values →
      ∀ stamper ∈ stampersOfAll values, P stamper
  | [], values, _, heval => by
    rw [evalAll] at heval
    cases heval
    exact List.forall_mem_nil _
  | item :: rest, values, h, heval => by
    obtain ⟨hitem, hrest⟩ := List.forall_mem_append.mp h
    rw [evalAll] at heval
    obtain ⟨first, hfirst, heval⟩ := exists_of_bind_eq_ok heval
    obtain ⟨others, hothers, heval⟩ := exists_of_bind_eq_ok heval
    cases heval
    exact List.forall_mem_append.mpr
      ⟨stampers_eval hfind item first hitem hfirst, stampers_evalAll hfind rest others hrest hothers⟩

/-- So do the entries of a mapping. -/
theorem stampers_evalEntries
    (hfind : ∀ name value, find name = .ok value → ∀ stamper ∈ value.stampers, P stamper) :
    ∀ (entries : List (Argument × Argument)) (before after : Entries),
      (∀ stamper ∈ stampersOfEntries before, P stamper) →
      (∀ stamper ∈ stampersOfPairs entries, P stamper) →
      evalEntries find before entries = .ok after →
      ∀ stamper ∈ stampersOfEntries after, P stamper
  | [], before, after, hbefore, _, heval => by
    rw [evalEntries] at heval
    cases heval
    exact hbefore
  | (key, item) :: rest, before, after, hbefore, h, heval => by
    obtain ⟨hkey, hrest⟩ := List.forall_mem_append.mp h
    obtain ⟨hitem, hrest⟩ := List.forall_mem_append.mp hrest
    rw [evalEntries] at heval
    obtain ⟨found, hfound, heval⟩ := exists_of_bind_eq_ok heval
    obtain ⟨value, hvalue, heval⟩ := exists_of_bind_eq_ok heval
    obtain ⟨_, -, heval⟩ := exists_of_bind_eq_ok heval
    refine stampers_evalEntries hfind rest _ after ?_ hrest heval
    exact Entries.stampers_insert hbefore (stampers_eval hfind key found hkey hfound)
      (stampers_eval hfind item value hitem hvalue)

end

end Argument

/-! ## Workspaces -/

section Workspace

variable {workspace : Workspace} (hnow : P .now)
  (h : ∀ stamper ∈ workspace.stampers, P stamper)

include hnow h

/-- A name stands for an item that shows the states of the timestamp functions in the workspace. -/
theorem Workspace.stampers_find? {name : String} {item : Item}
    (hitem : workspace.find? name = some item) : ∀ stamper ∈ item.value.stampers, P stamper := by
  obtain ⟨entry, -, rfl⟩ := Option.map_eq_some_iff.mp hitem
  exact Present.stampers_refresh (Present.shows_make hnow h workspace.shelf) entry.2.value

/-- So does an item that an argument makes, besides what is written in the argument. -/
theorem Session.stampers_resolve {argument : Argument} {item : Item}
    (hargument : ∀ stamper ∈ argument.stampers, P stamper)
    (hitem : ((resolve argument).on workspace).1 = .ok item) :
    ∀ stamper ∈ item.value.stampers, P stamper := by
  unfold resolve at hitem
  rw [on_bind, on_get] at hitem
  dsimp only at hitem
  split at hitem
  · split at hitem
    next found hfound =>
      cases hitem
      exact Workspace.stampers_find? hnow h hfound
    next => cases hitem
  · rw [on_bind, on_lift] at hitem
    rcases heval : argument.eval _ with cause | value
    · rw [heval] at hitem
      cases hitem
    · rw [heval] at hitem
      cases hitem
      refine Argument.stampers_eval ?_ argument value hargument heval
      intro name value hvalue
      split at hvalue
      next found hfound =>
        cases hvalue
        exact Workspace.stampers_find? hnow h hfound
      next => cases hvalue

end Workspace

/-! ## Objects -/

/-- A timestamp function is kept in its present state. -/
theorem Stamper.eq_of_kept {stamper kept : Stamper} (h : stamper.kept = .ok kept) :
    kept = stamper := by
  unfold Stamper.kept at h
  split at h
  · cases h
  · exact (Except.ok.inj h).symm

/-- A value that can be called as a timestamp function is one that it shows. -/
theorem Stamper.itself_ofValue {value : Value} (h : ∀ stamper ∈ value.stampers, P stamper) :
    ∀ stamper ∈ (ofValue value).itself, P stamper := by
  unfold ofValue
  split
  · exact h
  · exact h
  · exact List.forall_mem_nil _

/-- A value that is a source has a timestamp function that it shows. -/
theorem Source.stampers_ofValue {value : Value} (h : ∀ stamper ∈ value.stampers, P stamper) :
    ∀ stamper ∈ (ofValue value).stampers, P stamper := by
  induction value using ofValue.induct with
  | case1 => exact List.forall_mem_nil _
  | case2 mark kept =>
    rw [ofValue]
    exact Stamper.itself_ofValue h
  | case3 mark bounded own source ih =>
    rw [ofValue]
    exact ih h
  | case4 mark limits own source ih =>
    rw [ofValue]
    exact ih h
  | case5 value =>
    rw [ofValue]
    · exact List.forall_mem_nil _
    all_goals assumption

/-- So does a value that is a transform. -/
theorem Transform.stampers_ofValue {value : Value} (h : ∀ stamper ∈ value.stampers, P stamper) :
    ∀ stamper ∈ (ofValue value).stampers, P stamper := by
  unfold ofValue
  split
  next found hfound =>
    unfold Input.ofValue? at hfound
    split at hfound
    · cases hfound
      exact List.forall_mem_nil _
    · obtain ⟨parts, hparts, rfl⟩ := Option.map_eq_some_iff.mp hfound
      unfold UnboundedInput.ofValue? at hparts
      split at hparts
      next =>
        cases hparts
        exact Stamper.itself_ofValue (List.forall_mem_append.mp h).1
      next => cases hparts
  next =>
    split
    · exact List.forall_mem_nil _
    · exact Source.stampers_ofValue h

end Shown

/-- The source of a range has no timestamp function. -/
theorem Source.stampers_ofRange {start stop : Value} {source : Source}
    (h : ofRange start stop = .ok source) : source.stampers = [] := by
  unfold ofRange at h
  split at h
  · obtain ⟨_, -, h⟩ := exists_of_bind_eq_ok h
    cases h
  · split at h
    · cases h
      rfl
    · obtain ⟨_, -, h⟩ := exists_of_bind_eq_ok h
      obtain ⟨_, -, h⟩ := exists_of_bind_eq_ok h
      cases h

/-- Neither has that of the numbers below a count. -/
theorem Source.stampers_upTo {count : Value} {source : Source} (h : upTo count = .ok source) :
    source.stampers = [] := by
  obtain ⟨_, -, rfl⟩ := exists_of_map_eq_ok h
  rfl

/-- Changing an input by a value keeps its timestamp function if the change does. -/
theorem Input.stamper_adjust {change : Value → UnboundedInput → Except Failure UnboundedInput}
    (hchange : ∀ {value input after}, change value input = .ok after →
      after.stamper = input.stamper) {value : Value} {input after : UnboundedInput}
    (h : adjust change value input = .ok after) : after.stamper = input.stamper := by
  unfold adjust at h
  split at h
  · cases h
    rfl
  · exact hchange h

/-- The input that a configuration describes has the usual timestamp function, if it has one. -/
theorem Input.eq_now_of_ofConfiguration {configuration : Configuration} {input : Input}
    {stamper : Stamper} (h : ofConfiguration configuration = .ok input)
    (hstamper : stamper ∈ input.stampers) : stamper = .now := by
  obtain ⟨elements, -, h⟩ := exists_of_bind_eq_ok h
  obtain ⟨records, -, h⟩ := exists_of_bind_eq_ok h
  obtain ⟨time, -, h⟩ := exists_of_bind_eq_ok h
  split at h
  · obtain ⟨timed, htimed, h⟩ := exists_of_bind_eq_ok h
    obtain ⟨limited, hlimited, h⟩ := exists_of_bind_eq_ok h
    cases h
    have htime : timed.stamper = .now := by
      refine stamper_adjust (fun hafter => ?_) htimed
      obtain ⟨_, -, rfl⟩ := exists_of_map_eq_ok hafter
      rfl
    have hlast : limited.stamper = timed.stamper := by
      refine stamper_adjust (fun hafter => ?_) hlimited
      obtain ⟨_, -, rfl⟩ := exists_of_map_eq_ok hafter
      rfl
    rw [stampers, hlast, htime] at hstamper
    exact List.mem_singleton.mp hstamper
  · split at h
    · obtain ⟨input, -, h⟩ := exists_of_bind_eq_ok h
      cases h
      exact absurd hstamper List.not_mem_nil
    · cases h

/-! ## Applying -/

/-- Other limits leave the timestamp function of a read as it is. -/
theorem Source.stampers_limitWith {change : Limits → Except Failure Limits} {source read : Source}
    (hread : limitWith change source = .ok read) : read.stampers = source.stampers := by
  unfold limitWith at hread
  split at hread
  · obtain ⟨limits, -, rfl⟩ := exists_of_map_eq_ok hread
    rfl
  · obtain ⟨limits, -, rfl⟩ := exists_of_map_eq_ok hread
    rfl
  · cases hread

namespace Pipeline

/-- The read that an input stands for has the timestamp function of its source. -/
theorem stampers_limitedRead {input : UnboundedInput} {source read : Source}
    (hread : limitedRead input source = .ok read) : read.stampers = source.stampers := by
  obtain ⟨first, hfirst, hread⟩ := exists_of_bind_eq_ok hread
  have hofRead : first.stampers = source.stampers := by
    unfold Source.ofRead at hfirst
    split at hfirst
    · cases hfirst
    · cases hfirst
      rfl
  obtain ⟨stamper, records, time⟩ := input
  cases records with
  | none =>
    dsimp only at hread
    split at hread
    · cases hread
      exact hofRead
    · obtain ⟨timed, htimed, hread⟩ := exists_of_bind_eq_ok hread
      cases hread
      rw [Source.stampers_limitWith htimed, hofRead]
  | some count =>
    dsimp only at hread
    split at hread
    · rw [Source.stampers_limitWith hread, hofRead]
    · obtain ⟨timed, htimed, hread⟩ := exists_of_bind_eq_ok hread
      rw [Source.stampers_limitWith hread, Source.stampers_limitWith htimed, hofRead]

section Apply

variable {around after : Surroundings} {collection : Collection}

/-- A read makes the elements of its collection itself. -/
theorem producer_of_ofRead {source : Source} (h : ofRead source = .ok collection) :
    collection.producer = source := by
  unfold ofRead at h
  split at h
  · cases h
    rfl
  · cases h
    rfl
  · cases h

/-- So it does when it is applied. -/
theorem producer_of_applyRead {source : Source}
    (h : applyRead source around = (.ok collection, after)) : collection.producer = source := by
  obtain ⟨_, hread⟩ := exists_of_logging h
  exact producer_of_ofRead (Prod.mk.inj hread).1

/-- To apply an input makes a source that keeps its timestamp function in the present state. -/
theorem stampers_materialize {input : Input}
    (h : materialize input around = (.ok collection, after)) :
    collection.producer.stampers = input.stampers := by
  cases input with
  | bounded input =>
    rw [materialize_bounded] at h
    rw [producer_of_applyRead h]
    rfl
  | unbounded input =>
    rw [materialize] at h
    rcases hsource : Source.ofStamper input.stamper with cause | source
    · rw [hsource] at h
      cases h
    · rw [hsource] at h
      have hkept : source.stampers = input.stamper.itself := by
        unfold Source.ofStamper at hsource
        split at hsource
        · cases hsource
        · obtain ⟨kept, hkept, rfl⟩ := exists_of_map_eq_ok hsource
          exact congrArg Stamper.itself (Stamper.eq_of_kept hkept)
      obtain ⟨_, hlimited⟩ := exists_of_logging h
      split at hlimited
      next => cases hlimited
      next read hread =>
        rw [producer_of_applyRead hlimited, stampers_limitedRead hread, hkept]
        rfl

/-- The collection of a transform is read from a source with the timestamp function of the
transform, in its present state. -/
theorem stampers_apply {transform : Transform}
    (h : apply transform around = (.ok collection, after)) :
    collection.producer.stampers = transform.stampers := by
  cases transform with
  | input input =>
    obtain ⟨_, hlater⟩ := exists_of_logging h
    exact stampers_materialize hlater
  | source source =>
    obtain ⟨_, hlater⟩ := exists_of_logging h
    rw [producer_of_ofRead (Prod.mk.inj hlater).1]
    rfl
  | other value =>
    obtain ⟨_, hlater⟩ := exists_of_logging h
    cases hlater

end Apply

end Pipeline

end NumberFeed
