import NumberFeed.Proofs.Input.Builder
import NumberFeed.Proofs.Workspace.Views

/-!
# Calls that limit a read

A read gets its limits by calls, each of which sets one of the two or is refused. What a call does
to the limits depends on the call alone (`LimitCall.limits_cases`), so that after any calls each
limit is the one that was set last, in whatever order they came (`LimitCall.foldlM_limits`). A call
makes a new read of the very same source, takes one mark for it, and leaves the read that it was made
on alone (`LimitCall.on_make`); a refused call does not even take the mark. So two sequences of calls
that set the same limits last come to reads that cannot be told apart by reading them. Whatever has a
name in a session shows the same before and after such calls (`Workspace.KeepsReads`), which is to
say that neither a later call nor a refused one changes a read that is there.
-/

namespace NumberFeed

open UnboundedInput (Change)

/-- A call that limits a read. -/
inductive LimitCall
  /-- Sets the greatest number of records. -/
  | records (count : Value)
  /-- Sets the greatest amount of time. -/
  | readTime (time : Value)

namespace LimitCall

/-- The change that a call makes, which is the one it would make to an input. -/
def change : LimitCall → Change
  | records count => .records count
  | readTime time => .readTime time

/-- The limits that a call leaves, if it is accepted. -/
def limits : LimitCall → Limits → Except Failure Limits
  | records count, limits => (Count.ofRecords count).map fun count =>
      { limits with records := some count }
  | readTime time, limits => (Duration.ofReadTime time).map fun time =>
      { limits with time := some time }

/-- Makes a call on an item. -/
def make : LimitCall → Item → Session Item
  | records count, item =>
    Session.changeLimit item count UnboundedInput.withMaxRecords Source.withMaxRecords
  | readTime time, item =>
    Session.changeLimit item time UnboundedInput.withMaxReadTime Source.withMaxReadTime

/-- Makes calls one after the other, each on the item that the one before it gave. -/
def chain (calls : List LimitCall) (item : Item) : Session Item :=
  calls.foldlM (fun item call => call.make item) item

/-- The greatest number of records that calls set last. -/
def lastRecords (calls : List LimitCall) : Option Count :=
  Change.last Change.records? (calls.map change)

/-- The greatest amount of time that calls set last. -/
def lastTime (calls : List LimitCall) : Option Duration :=
  Change.last Change.readTime? (calls.map change)

/-- Limits with those put over them that were set last. -/
def set (limits : Limits) (records : Option Count) (time : Option Duration) : Limits :=
  ⟨records.or limits.records, time.or limits.time⟩

/-! ## What calls do to the limits -/

/-- Whether a call is accepted: it sets one of the limits. -/
def Accepted (call : LimitCall) : Prop :=
  call.change.records?.isSome = true ∨ call.change.readTime?.isSome = true

/-- A call is accepted whatever the limits are, and sets one of them, or it is refused whatever they
are. -/
theorem limits_cases (call : LimitCall) :
    (call.Accepted ∧
      ∀ before, call.limits before = .ok (set before call.change.records? call.change.readTime?)) ∨
      (¬ call.Accepted ∧ ∃ cause, ∀ before, call.limits before = .error cause) := by
  cases call with
  | records count =>
    cases hcount : Count.ofValue? count with
    | some found =>
      left
      have hset : (Change.records count).records? = some found := hcount
      refine ⟨.inl (by rw [change, hset]; rfl), fun before => ?_⟩
      rw [limits, Count.ofRecords, Count.ofValue, hcount, change, hset]
      rfl
    | none =>
      right
      have hset : (Change.records count).records? = none := hcount
      obtain ⟨cause, hcause⟩ := @Change.exists_refused Count count.shown .recordsNotPositive
      refine ⟨?_, cause, fun before => ?_⟩
      · rw [Accepted, change, hset]
        rintro (⟨⟨⟩⟩ | ⟨⟨⟩⟩)
      · rw [limits, Count.ofRecords, Count.ofValue, hcount]
        dsimp only
        rw [hcause]
        rfl
  | readTime time =>
    obtain ⟨d, htime, hset⟩ | ⟨cause, htime, hset⟩ := Change.ofReadTime_cases time
    · left
      refine ⟨.inr (by rw [change, hset]; rfl), fun before => ?_⟩
      rw [limits, htime, change, hset]
      rfl
    · right
      refine ⟨?_, cause, fun before => ?_⟩
      · rw [Accepted, change, hset]
        rintro (⟨⟨⟩⟩ | ⟨⟨⟩⟩)
      · rw [limits, htime]
        rfl

/-- A number of records is accepted just when it is a count. -/
theorem accepted_records_iff {count : Value} :
    (records count).Accepted ↔ ∃ found : Count, count = .int found.value := by
  have hchange : (records count).change.records? = Count.ofValue? count := rfl
  have hnone : (records count).change.readTime? = none := rfl
  rw [Accepted, hchange, hnone]
  cases hfound : Count.ofValue? count with
  | some found => exact ⟨fun _ => ⟨found, Count.ofValue?_eq_some_iff.mp hfound⟩, fun _ => .inl rfl⟩
  | none =>
    constructor
    · rintro (⟨⟨⟩⟩ | ⟨⟨⟩⟩)
    · rintro ⟨found, hcount⟩
      rw [Count.ofValue?_eq_some_iff.mpr hcount] at hfound
      cases hfound

/-- A read time is accepted just when it is a duration or a calendar span. -/
theorem accepted_readTime_iff {time : Value} :
    (readTime time).Accepted ↔ (∃ d, time = .duration d) ∨ ∃ s, time = .span s := by
  cases time <;> simp [Accepted, change, Change.records?, Change.readTime?]

/-- What an accepted call leaves. -/
theorem limits_of_accepted {call : LimitCall} (h : call.Accepted) (before : Limits) :
    call.limits before = .ok (set before call.change.records? call.change.readTime?) := by
  obtain ⟨-, hlimits⟩ | ⟨hnot, -⟩ := call.limits_cases
  · exact hlimits before
  · exact absurd h hnot

/-- To set limits after others is to set both, of which the later ones count. -/
theorem set_set (before : Limits) (records records' : Option Count)
    (time time' : Option Duration) :
    set (set before records time) records' time' =
      set before (records'.or records) (time'.or time) := by
  unfold set
  rw [Option.or_assoc, Option.or_assoc]

/-- After calls that were all accepted, each limit is the one that was set last. -/
theorem foldlM_limits {calls : List LimitCall} {before after : Limits}
    (h : calls.foldlM (fun limits call => call.limits limits) before = .ok after) :
    after = set before (lastRecords calls) (lastTime calls) := by
  induction calls generalizing before with
  | nil => exact (Except.ok.inj h).symm
  | cons call calls ih =>
    rw [List.foldlM_cons] at h
    obtain ⟨-, haccepted⟩ | ⟨-, cause, hrefused⟩ := call.limits_cases
    · rw [haccepted] at h
      have hrest := ih h
      rw [set_set] at hrest
      rw [hrest, lastRecords, lastTime, lastRecords, lastTime, List.map_cons, Change.last_cons,
        Change.last_cons]
    · rw [hrefused] at h
      cases h

/-- Calls leave limits just when each of them is accepted. -/
theorem exists_foldlM_limits {calls : List LimitCall} {before : Limits} :
    (∃ after, calls.foldlM (fun limits call => call.limits limits) before = .ok after) ↔
      ∀ call ∈ calls, call.Accepted := by
  induction calls generalizing before with
  | nil => exact ⟨fun _ call hcall => absurd hcall List.not_mem_nil, fun _ => ⟨before, rfl⟩⟩
  | cons call calls ih =>
    rw [List.foldlM_cons, List.forall_mem_cons]
    obtain ⟨haccepted, hlimits⟩ | ⟨hnot, cause, hlimits⟩ := call.limits_cases
    · rw [hlimits]
      exact ih.trans ⟨fun hrest => ⟨haccepted, hrest⟩, And.right⟩
    · rw [hlimits]
      constructor
      · rintro ⟨after, ⟨⟩⟩
      · exact fun hall => absurd hall.1 hnot

/-- Where all calls are accepted, neither limit has been set only if there are no calls. -/
theorem eq_nil_iff {calls : List LimitCall} (h : ∀ call ∈ calls, call.Accepted) :
    calls = [] ↔ lastRecords calls = none ∧ lastTime calls = none := by
  cases calls with
  | nil => exact ⟨fun _ => ⟨rfl, rfl⟩, fun _ => rfl⟩
  | cons call calls =>
    rw [lastRecords, lastTime, List.map_cons, Change.last_cons, Change.last_cons]
    refine ⟨fun hnil => absurd hnil (List.cons_ne_nil call calls), fun hnone => ?_⟩
    obtain ⟨-, hrecords⟩ := Option.or_eq_none_iff.mp hnone.1
    obtain ⟨-, htime⟩ := Option.or_eq_none_iff.mp hnone.2
    obtain hset | hset := h call List.mem_cons_self
    · rw [hrecords] at hset
      cases hset
    · rw [htime] at hset
      cases hset

end LimitCall

/-! ## What calls do to a read -/

/-- The limits of a read to which limits can be given, with the mark and the value of its source. A
read without limits has none yet. -/
def Item.read? (item : Item) : Option (Limits × Nat × Value) :=
  match item.value with
  | .object _ (.read false mark source) => some (.none, mark, source)
  | .object _ (.limitedRead limits mark source) => some (limits, mark, source)
  | _ => none

/-- A read with limits as an item. -/
def Item.limitedRead (own : Nat) (limits : Limits) (mark : Nat) (source : Value) : Item :=
  ⟨own, .object own (.limitedRead limits mark source)⟩

/-- What a read is to which limits can be given. -/
theorem Item.read?_cases {item : Item} {limits : Limits} {mark : Nat} {source : Value}
    (h : item.read? = some (limits, mark, source)) :
    ∃ own, (item.value = .object own (.read false mark source) ∧ limits = .none) ∨
      item.value = .object own (.limitedRead limits mark source) := by
  unfold read? at h
  split at h
  · rename_i own _ _ hvalue
    obtain ⟨rfl, rfl, rfl⟩ : Limits.none = limits ∧ _ = mark ∧ _ = source := by simpa using h
    exact ⟨own, .inl ⟨hvalue, rfl⟩⟩
  · rename_i own _ _ _ hvalue
    obtain ⟨rfl, rfl, rfl⟩ : _ = limits ∧ _ = mark ∧ _ = source := by simpa using h
    exact ⟨own, .inr hvalue⟩
  · cases h

namespace LimitCall

variable {item : Item} {limits : Limits} {mark : Nat} {source : Value}

/-- What is changed about the limits of a read is changed about the limits on its source. -/
theorem limitWith_of_read? (h : item.read? = some (limits, mark, source))
    (change : Limits → Except Failure Limits) :
    (Source.ofValue item.value).limitWith change =
      (change limits).map (Source.limited · (Source.ofValue source)) := by
  obtain ⟨own, ⟨hvalue, rfl⟩ | hvalue⟩ := Item.read?_cases h
  · rw [hvalue, Source.ofValue, Source.limitWith]
  · rw [hvalue, Source.ofValue, Source.limitWith]

/-- To change a limit of a read is to make a new read of the very same source. -/
theorem on_changeLimit (h : item.read? = some (limits, mark, source)) {limit : Value}
    {ofInput : Value → UnboundedInput → Except Failure UnboundedInput}
    {ofRead : Value → Source → Except Failure Source} {change : Limits → Except Failure Limits}
    (hread : ofRead limit = Source.limitWith change) (workspace : Workspace) :
    (Session.changeLimit item limit ofInput ofRead).on workspace =
      match change limits with
      | .ok after => (.ok (.limitedRead workspace.nextMark after mark source),
          { workspace with nextMark := workspace.nextMark + 1 })
      | .error cause => (.error cause, workspace) := by
  have hsource : ofRead limit (Source.ofValue item.value) =
      (change limits).map (Source.limited · (Source.ofValue source)) := by
    rw [hread, limitWith_of_read? h]
  -- A read without limits and one with limits are treated alike, as `hsource` is about either.
  obtain ⟨own, ⟨hvalue, -⟩ | hvalue⟩ := Item.read?_cases h
  all_goals
    unfold Session.changeLimit
    rw [hvalue] at hsource ⊢
    dsimp only
    rw [Session.on_bind, Session.on_lift, hsource]
    cases change limits with
    | error cause => rfl
    | ok after => rfl

/-- A call on a read makes a new read of the very same source with the limits that the call leaves,
and takes a mark for it; if it is refused it changes nothing at all. -/
theorem on_make (call : LimitCall) (h : item.read? = some (limits, mark, source))
    (workspace : Workspace) :
    (call.make item).on workspace =
      match call.limits limits with
      | .ok after => (.ok (.limitedRead workspace.nextMark after mark source),
          { workspace with nextMark := workspace.nextMark + 1 })
      | .error cause => (.error cause, workspace) := by
  cases call with
  | records count => exact on_changeLimit h rfl workspace
  | readTime time => exact on_changeLimit h rfl workspace

/-- The read that a call makes. -/
theorem read?_limitedRead (own : Nat) (limits : Limits) (mark : Nat) (source : Value) :
    (Item.limitedRead own limits mark source).read? = some (limits, mark, source) := rfl

/-- A chain of calls that are all accepted leaves the workspace as it was but for the marks that it
took, one for each call. Its result is what the calls were made on, if there are none, and else a new
read of the very same source with the limits that the calls leave. -/
theorem chain_spec {calls : List LimitCall} (h : item.read? = some (limits, mark, source))
    {workspace after : Workspace} {result : Item}
    (hchain : (chain calls item).on workspace = (.ok result, after)) :
    after = { workspace with nextMark := workspace.nextMark + calls.length } ∧
      ∃ final, calls.foldlM (fun limits call => call.limits limits) limits = .ok final ∧
        ((calls = [] ∧ result = item) ∨ (calls ≠ [] ∧
          ∃ own, own + 1 = after.nextMark ∧ result = .limitedRead own final mark source)) := by
  induction calls generalizing item limits workspace with
  | nil =>
    obtain ⟨hresult, rfl⟩ := Prod.mk.inj hchain
    exact ⟨rfl, limits, rfl, .inl ⟨rfl, (Except.ok.inj hresult).symm⟩⟩
  | cons call calls ih =>
    have hsteps : chain (call :: calls) item = call.make item >>= chain calls := rfl
    rw [hsteps, Session.on_bind, on_make call h workspace] at hchain
    cases hlimits : call.limits limits with
    | error cause =>
      rw [hlimits] at hchain
      cases hchain
    | ok first =>
      rw [hlimits] at hchain
      -- The other calls are made on the read that the first one has made.
      obtain ⟨hafter, final, hfinal, hresult⟩ :=
        ih (read?_limitedRead workspace.nextMark first mark source) hchain
      have hmark : workspace.nextMark + 1 + calls.length = workspace.nextMark + (calls.length + 1) := by
        omega
      refine ⟨?_, final, ?_, .inr ⟨List.cons_ne_nil call calls, ?_⟩⟩
      · rw [hafter, List.length_cons, ← hmark]
      · rw [List.foldlM_cons, hlimits]
        exact hfinal
      · obtain ⟨rfl, rfl⟩ | ⟨-, hmade⟩ := hresult
        · obtain rfl : first = final := Except.ok.inj hfinal
          exact ⟨workspace.nextMark, by rw [hafter]; rfl, rfl⟩
        · exact hmade

/-- Calls that are accepted one by one are accepted one after the other. -/
theorem exists_chain {calls : List LimitCall} (h : item.read? = some (limits, mark, source))
    (haccepted : ∀ call ∈ calls, call.Accepted) (workspace : Workspace) :
    ∃ result after, (chain calls item).on workspace = (.ok result, after) := by
  induction calls generalizing item limits workspace with
  | nil => exact ⟨item, workspace, rfl⟩
  | cons call calls ih =>
    rw [List.forall_mem_cons] at haccepted
    have hsteps : chain (call :: calls) item = call.make item >>= chain calls := rfl
    rw [hsteps, Session.on_bind, on_make call h workspace, limits_of_accepted haccepted.1]
    exact ih (read?_limitedRead workspace.nextMark _ mark source) haccepted.2 _

/-- The result of a chain is a read of the very same source with the limits that were set last. -/
theorem read?_of_chain {calls : List LimitCall} (h : item.read? = some (limits, mark, source))
    {workspace after : Workspace} {result : Item}
    (hchain : (chain calls item).on workspace = (.ok result, after)) :
    (∀ call ∈ calls, call.Accepted) ∧
      result.read? = some (set limits (lastRecords calls) (lastTime calls), mark, source) := by
  obtain ⟨-, final, hfinal, hresult⟩ := chain_spec h hchain
  refine ⟨exists_foldlM_limits.mp ⟨final, hfinal⟩, ?_⟩
  rw [← foldlM_limits hfinal]
  obtain ⟨rfl, rfl⟩ | ⟨-, own, -, rfl⟩ := hresult
  · rw [h, Except.ok.inj hfinal]
  · rfl

/-- Two reads that cannot be told apart by what is done with them. -/
structure SameRead (first second : Item) : Prop where
  /-- They have the same limits and the very same source. -/
  read? : first.read? = second.read?
  /-- They have the same text. -/
  shown : first.value.shown = second.value.shown
  /-- They are the same to whatever reads them, -/
  source : Source.ofValue first.value = Source.ofValue second.value
  /-- also in a session. -/
  opened : ∀ valuesOnly, Session.openReader first valuesOnly = Session.openReader second valuesOnly
  /-- In all surroundings they yield the same elements, take the same readings of the clocks and leave
  the same records, however many elements are taken, -/
  taken : ∀ count around, (Source.ofValue first.value).reader.take count around =
    (Source.ofValue second.value).reader.take count around
  /-- and if they are read to the end. -/
  drained : ∀ around, (Source.ofValue first.value).reader.drain around =
    (Source.ofValue second.value).reader.drain around

/-- Reads with limits that have the same limits and the same source cannot be told apart. -/
theorem sameRead_limitedRead (first second : Nat) (limits : Limits) (mark : Nat) (source : Value) :
    SameRead (.limitedRead first limits mark source) (.limitedRead second limits mark source) := by
  have hsource : Source.ofValue (Item.limitedRead first limits mark source).value =
      Source.ofValue (Item.limitedRead second limits mark source).value := by
    show Source.ofValue (.object first _) = Source.ofValue (.object second _)
    rw [Source.ofValue, Source.ofValue]
  refine ⟨rfl, ?_, hsource, fun valuesOnly => ?_, fun count around => ?_, fun around => ?_⟩
  · show (Value.object first _).render false = (Value.object second _).render false
    rw [Value.render, Value.render]
  · -- Neither is a collection, so that both are opened as the source that they are.
    have hother (own : Nat) :
        Collection.ofValue? (Item.limitedRead own limits mark source).value = none := rfl
    unfold Session.openReader
    rw [hother, hother, hsource]
  · rw [hsource]
  · rw [hsource]

/-- Every read is the same as itself. -/
theorem SameRead.refl (item : Item) : SameRead item item :=
  ⟨rfl, rfl, rfl, fun _ => rfl, fun _ _ => rfl, fun _ => rfl⟩

/-- Two chains of calls that set the same limits last come to reads that cannot be told apart. -/
theorem sameRead_of_chains {first second : List LimitCall}
    (h : item.read? = some (limits, mark, source))
    (hrecords : lastRecords first = lastRecords second) (htime : lastTime first = lastTime second)
    {workspace after : Workspace} {result : Item}
    (hfirst : (chain first item).on workspace = (.ok result, after))
    {workspace' after' : Workspace} {result' : Item}
    (hsecond : (chain second item).on workspace' = (.ok result', after')) :
    SameRead result result' := by
  obtain ⟨-, final, hlimits, hresult⟩ := chain_spec h hfirst
  obtain ⟨-, final', hlimits', hresult'⟩ := chain_spec h hsecond
  have haccepted := exists_foldlM_limits.mp ⟨final, hlimits⟩
  have haccepted' := exists_foldlM_limits.mp ⟨final', hlimits'⟩
  obtain rfl : final = final' := by
    rw [foldlM_limits hlimits, foldlM_limits hlimits', hrecords, htime]
  -- Calls that set nothing are no calls, so that either both chains are empty or none is.
  have hempty : first = [] ↔ second = [] := by
    rw [eq_nil_iff haccepted, eq_nil_iff haccepted', hrecords, htime]
  obtain ⟨hnil, rfl⟩ | ⟨hne, own, -, rfl⟩ := hresult
  · obtain ⟨-, rfl⟩ | ⟨hne', -⟩ := hresult'
    · exact .refl _
    · exact absurd (hempty.mp hnil) hne'
  · obtain ⟨hnil', -⟩ | ⟨-, own', -, rfl⟩ := hresult'
    · exact absurd (hempty.mpr hnil') hne
    · exact sameRead_limitedRead own own' final mark source

/-- Two calls come to a new read with the limits of both, of which the later ones count. -/
theorem chain_two (h : item.read? = some (limits, mark, source)) {first second : LimitCall}
    (hfirst : first.Accepted) (hsecond : second.Accepted) (workspace : Workspace) :
    (chain [first, second] item).on workspace =
      (.ok (.limitedRead (workspace.nextMark + 1)
          (set limits (second.change.records?.or first.change.records?)
            (second.change.readTime?.or first.change.readTime?)) mark source),
        { workspace with nextMark := workspace.nextMark + 1 + 1 }) := by
  have hsteps : chain [first, second] item =
      first.make item >>= fun made => second.make made >>= pure := rfl
  have hmade := read?_limitedRead workspace.nextMark
    (set limits first.change.records? first.change.readTime?) mark source
  rw [hsteps, Session.on_bind, on_make first h workspace, limits_of_accepted hfirst]
  dsimp only
  rw [Session.on_bind, on_make second hmade, limits_of_accepted hsecond, set_set]
  rfl

/-- Whether the number of records is set first or the read time, the very same read comes of it, and
the same workspace. -/
theorem chain_swap (h : item.read? = some (limits, mark, source)) {count time : Value}
    (hcount : (records count).Accepted) (htime : (readTime time).Accepted) (workspace : Workspace) :
    (chain [records count, readTime time] item).on workspace =
      (chain [readTime time, records count] item).on workspace := by
  have hnoTime : (records count).change.readTime? = none := rfl
  have hnoRecords : (readTime time).change.records? = none := rfl
  rw [chain_two h hcount htime, chain_two h htime hcount, hnoTime, hnoRecords, Option.none_or,
    Option.or_none, Option.none_or, Option.or_none]

/-- A refused call changes nothing, and is refused on every read for the same cause. -/
theorem on_make_refused {call : LimitCall} (h : item.read? = some (limits, mark, source))
    {workspace after : Workspace} {cause : Failure}
    (hrefused : (call.make item).on workspace = (.error cause, after)) :
    after = workspace ∧ ¬ call.Accepted ∧ ∀ other limits mark source,
      Item.read? other = some (limits, mark, source) → ∀ elsewhere,
        (call.make other).on elsewhere = (.error cause, elsewhere) := by
  rw [on_make call h workspace] at hrefused
  -- A call is refused for its value alone, and so for the same cause wherever it is made.
  obtain ⟨-, hlimits⟩ | ⟨hnot, early, hlimits⟩ := call.limits_cases
  · rw [hlimits] at hrefused
    cases hrefused
  · rw [hlimits] at hrefused
    obtain ⟨hcause, rfl⟩ := Prod.mk.inj hrefused
    obtain rfl : early = cause := Except.error.inj hcause
    refine ⟨rfl, hnot, fun other limits mark source hother elsewhere => ?_⟩
    rw [on_make call hother elsewhere, hlimits]

end LimitCall

/-! ## What calls do to a session -/

namespace Session

/-- A new item takes marks. -/
theorem looksUp_makeItem (form : Form) : LooksUp (makeItem form) :=
  looksUp_bind (looksUp_bind looksUp_newMark fun _ => looksUp_pure _) fun value => by
    unfold itemOf
    split
    · exact looksUp_pure _
    · exact looksUp_bind looksUp_newMark fun _ => looksUp_pure _

/-- Changing a limit takes marks, whatever the target is. -/
theorem looksUp_changeLimit (target : Item) (limit : Value)
    (ofInput : Value → UnboundedInput → Except Failure UnboundedInput)
    (ofRead : Value → Source → Except Failure Source) :
    LooksUp (changeLimit target limit ofInput ofRead) := by
  unfold changeLimit
  dsimp only
  split
  · exact looksUp_bind (looksUp_lift _) fun input => looksUp_makeItem _
  · refine looksUp_bind (looksUp_lift _) fun changed => ?_
    split
    · exact looksUp_makeItem _
    · exact looksUp_throw _
  · refine looksUp_bind (looksUp_lift _) fun changed => ?_
    split
    · exact looksUp_makeItem _
    · exact looksUp_throw _
  · exact looksUp_throw _

end Session

namespace Command

/-- Whether a command is a call that limits something, a read or an input. -/
def limits : Command → Bool
  | withMaxRecords _ _ | withMaxReadTime _ _ => true
  | _ => false

/-- A call in a session looks up its arguments, takes marks and comes to an item, or fails. -/
theorem exists_session_of_limits {command : Command} (h : command.limits = true) :
    ∃ session : Session Item, Session.perform command = Result.item <$> session ∧
      session.LooksUp := by
  cases command with
  | withMaxRecords target count =>
    refine ⟨(do
      let target ← Session.resolve target
      let count ← Session.resolveValue count
      Session.changeLimit target count UnboundedInput.withMaxRecords Source.withMaxRecords), ?_, ?_⟩
    · simp only [map_bind]
      rfl
    · exact Session.looksUp_bind (Session.looksUp_resolve target) fun target =>
        Session.looksUp_bind (Session.looksUp_resolveValue count) fun count =>
          Session.looksUp_changeLimit target count _ _
  | withMaxReadTime target time =>
    refine ⟨(do
      let target ← Session.resolve target
      let time ← Session.resolveValue time
      Session.changeLimit target time UnboundedInput.withMaxReadTime Source.withMaxReadTime), ?_, ?_⟩
    · simp only [map_bind]
      rfl
    · exact Session.looksUp_bind (Session.looksUp_resolve target) fun target =>
        Session.looksUp_bind (Session.looksUp_resolveValue time) fun time =>
          Session.looksUp_changeLimit target time _ _
  | _ => cases h

end Command

namespace Workspace

variable {workspace : Workspace} {command : Command}

/-- A call in a session tells of a new item, which may get a name, or of a failure, and then no name
is given. Besides it takes marks. -/
theorem perform_limits (h : command.limits = true) (name : Option String) :
    ∃ nextMark, (∃ item, workspace.perform command name =
        (⟨.shown ({ workspace.started with nextMark }.refresh item.value), []⟩,
          (name.map ({ workspace.started with nextMark }.name · item)).getD
            { workspace.started with nextMark })) ∨
      ∃ cause, workspace.perform command name =
        (⟨.failed cause none, []⟩, { workspace.started with nextMark }) := by
  obtain ⟨session, hsession, hlooks⟩ := Command.exists_session_of_limits h
  obtain ⟨result, nextMark, hon⟩ := hlooks workspace.started
  have hperform : (Session.perform command).on workspace.started =
      (result.map Result.item, { workspace.started with nextMark }) := by
    rw [hsession, Session.on_map, hon]
  refine ⟨nextMark, ?_⟩
  cases result with
  | error cause => exact .inr ⟨cause, perform_of_error hperform name⟩
  | ok item => exact .inl ⟨item, perform_of_item hperform name⟩

/-- What a call in a session does not change. -/
structure KeepsReads (workspace : Workspace) (command : Command) (name : Option String) : Prop where
  /-- It changes nothing but the names and the marks: the timestamp functions, the configurations, the
  readers and the clocks stay as they are, and nothing is logged. -/
  frame : ∃ items nextMark,
    (workspace.perform command name).2 = { workspace.started with items, nextMark }
  /-- Every name but the one that it gives shows what it showed. -/
  others : ∀ other, name ≠ some other →
    (workspace.perform command name).2.find? other = workspace.find? other
  /-- If it fails, every name does. -/
  refused : ∀ cause target, (workspace.perform command name).1.answer = .failed cause target →
    ∀ other, (workspace.perform command name).2.find? other = workspace.find? other

/-- Giving a name to an item leaves alone what the other names show. -/
theorem find?_name_of_ne {name other : String} (h : name ≠ other) (workspace : Workspace)
    (item : Item) : (workspace.name name item).find? other = workspace.find? other := by
  rw [find?_eq, find?_eq, itemAt?_name h]
  rfl

/-- A call in a session leaves alone what is there. -/
theorem keepsReads (h : command.limits = true) (workspace : Workspace) (name : Option String) :
    workspace.KeepsReads command name := by
  obtain ⟨nextMark, ⟨item, hmade⟩ | ⟨cause, hfailed⟩⟩ := @perform_limits workspace command h name
  · refine ⟨?_, fun other hother => ?_, fun cause target hanswer => ?_⟩
    · rw [hmade]
      cases name with
      | none => exact ⟨workspace.items, nextMark, rfl⟩
      | some given => exact ⟨({ workspace.started with nextMark }.name given item).items, nextMark, rfl⟩
    · rw [hmade]
      cases name with
      | none => rfl
      | some given => exact find?_name_of_ne (fun heq => hother (congrArg some heq)) _ item
    · rw [hmade] at hanswer
      cases hanswer
  · refine ⟨⟨workspace.items, nextMark, ?_⟩, fun other _ => ?_, fun _ _ _ other => ?_⟩
    · rw [hfailed]
      rfl
    · rw [hfailed]
      rfl
    · rw [hfailed]
      rfl

/-- A name that is given to none of their results shows after several calls what it showed before. -/
theorem find?_performAll_limits {commands : List (Command × Option String)} {name : String}
    (hlimits : ∀ command ∈ commands, command.1.limits = true)
    (hname : ∀ command ∈ commands, command.2 ≠ some name) (workspace : Workspace) :
    (workspace.performAll commands).2.find? name = workspace.find? name := by
  induction commands generalizing workspace with
  | nil => rfl
  | cons command commands ih =>
    obtain ⟨command, given⟩ := command
    rw [List.forall_mem_cons] at hlimits hname
    have hrest := ih hlimits.2 hname.2 (workspace.perform command given).2
    have hfirst := (keepsReads hlimits.1 workspace given).others name hname.1
    exact hrest.trans hfirst

end Workspace

namespace LimitCall

/-- What calls for limits come to on a read. -/
structure Law (item : Item) (limits : Limits) (mark : Nat) (source : Value) : Prop where
  /-- A number of records is accepted if it is a count. -/
  records : ∀ count, (LimitCall.records count).Accepted ↔ ∃ found : Count, count = .int found.value
  /-- A read time is accepted if it is a duration or a calendar span. -/
  readTime : ∀ time, (LimitCall.readTime time).Accepted ↔
    (∃ d, time = .duration d) ∨ ∃ s, time = .span s
  /-- Calls can be made one after the other if each of them is accepted. -/
  chained : ∀ calls, (∀ call ∈ calls, call.Accepted) → ∀ workspace,
    ∃ result after, (chain calls item).on workspace = (.ok result, after)
  /-- Only such calls can. The result is a read of the very same source with the limits that were set
  last, and nothing else changes but that marks are taken. -/
  outcome : ∀ calls workspace result after,
    (chain calls item).on workspace = (.ok result, after) →
    (∀ call ∈ calls, call.Accepted) ∧
      result.read? = some (set limits (lastRecords calls) (lastTime calls), mark, source) ∧
      after = { workspace with nextMark := workspace.nextMark + calls.length }
  /-- Calls that set the same limits last come to reads that cannot be told apart, wherever they are
  made. -/
  alike : ∀ first second, lastRecords first = lastRecords second →
    lastTime first = lastTime second →
    ∀ workspace result after, (chain first item).on workspace = (.ok result, after) →
    ∀ workspace' result' after', (chain second item).on workspace' = (.ok result', after') →
      SameRead result result'
  /-- In particular, the order of the two limits does not matter at all. -/
  swapped : ∀ count time, (LimitCall.records count).Accepted → (LimitCall.readTime time).Accepted →
    ∀ workspace, (chain [.records count, .readTime time] item).on workspace =
      (chain [.readTime time, .records count] item).on workspace
  /-- A refused call changes nothing, and is refused on every read for the same cause. -/
  refused : ∀ (call : LimitCall) workspace cause after,
    (call.make item).on workspace = (.error cause, after) →
    after = workspace ∧ ¬ call.Accepted ∧ ∀ other limits mark source,
      Item.read? other = some (limits, mark, source) → ∀ elsewhere,
        (call.make other).on elsewhere = (.error cause, elsewhere)
  /-- No call in a session, whether it is accepted or refused, changes what is there. -/
  kept : ∀ workspace command name, Command.limits command = true →
    Workspace.KeepsReads workspace command name
  /-- So every read that has a name, however it was made, shows the same after any calls that give
  the name to nothing else. -/
  named : ∀ commands name, (∀ command ∈ commands, Command.limits command.1 = true) →
    (∀ command ∈ commands, command.2 ≠ some name) → ∀ workspace : Workspace,
    (workspace.performAll commands).2.find? name = workspace.find? name

/-- Calls for limits on a read come to what the law says. -/
theorem limits_law {item : Item} {limits : Limits} {mark : Nat} {source : Value}
    (h : item.read? = some (limits, mark, source)) : Law item limits mark source where
  records _ := accepted_records_iff
  readTime _ := accepted_readTime_iff
  chained _ haccepted workspace := exists_chain h haccepted workspace
  outcome _ _ _ _ hchain :=
    have hresult := read?_of_chain h hchain
    ⟨hresult.1, hresult.2, (chain_spec h hchain).1⟩
  alike _ _ hrecords htime _ _ _ hfirst _ _ _ hsecond :=
    sameRead_of_chains h hrecords htime hfirst hsecond
  swapped _ _ hcount htime workspace := chain_swap h hcount htime workspace
  refused _ _ _ _ hrefused := on_make_refused h hrefused
  kept workspace _ name hlimits := Workspace.keepsReads hlimits workspace name
  named _ _ hlimits hname workspace := Workspace.find?_performAll_limits hlimits hname workspace

/-- An unbounded source whose timestamps are the time. -/
def nowSource : Value := .object 1 (.counting (.object 0 (.stamper 0 none)))

/-- Calls for limits come to what the law says on a read of that source which has no limits yet. -/
theorem limits_law_read :
    (⟨2, .object 2 (.read false 1 nowSource)⟩ : Item).read? = some (.none, 1, nowSource) ∧
      Law ⟨2, .object 2 (.read false 1 nowSource)⟩ .none 1 nowSource :=
  ⟨rfl, limits_law rfl⟩

end LimitCall

end NumberFeed
