import NumberFeed.Proofs.Input.Applied
import NumberFeed.Proofs.Reading.Prefix
import NumberFeed.Proofs.Time.InstantOrder
import NumberFeed.Proofs.Value.CountDecision

/-!
# Timestamps of the processing time

An unbounded count without a timestamp function of its own gives each number the time at which it is
made. A read of it, under whatever limits, goes on at moments between which others may read the same
clock. `processing_time_law` says that the read takes one reading for each element, and one more for
an element that is dropped because its time is over; that its elements carry these readings in
order; that there is an element as long as a number is left and no limit has been reached; and that
the timestamps are in the order of the readings.

One step is of one of three kinds (`Reader.clocked_step`): it yields the number that is next with
the reading of its moment, or drops it, or takes no reading, and it does one of the first two as long
as nothing stops the read (`Reader.goes_iff`). By induction over the moments follows
what a whole read has taken and yielded (`Reader.account`). A read that goes on alone is one whose
moments follow one another (`Reader.readings_moments`).
-/

namespace NumberFeed

/-- A clock that never goes back. -/
def Readings.Forward (readings : Readings Int) : Prop :=
  ∀ i j, i ≤ j → readings.supply i ≤ readings.supply j

/-- A number with the time at which it is made. -/
def Timestamped.made (number nanos : Int) : Timestamped :=
  ⟨.int number, .instant (.ofEpochNanos nanos)⟩

/-- A point in time that is before another one or equal to it. -/
def Value.NotAfter (a b : Value) : Prop := (Comparison.ofValues a b).relates .le = .ok true

/-- The times at which numbers are made compare like the readings of the clock. -/
theorem Value.notAfter_ofEpochNanos {m n : Int} :
    (instant (.ofEpochNanos m)).NotAfter (instant (.ofEpochNanos n)) ↔ m ≤ n := by
  have htwins := Instant.not_twins_of_isNormal (Instant.isNormal_ofEpochNanos m)
    (Instant.isNormal_ofEpochNanos n)
  have hle := Instant.le_iff_of_not_twins htwins
  rwa [Instant.epochNanos_ofEpochNanos, Instant.epochNanos_ofEpochNanos] at hle

/-- The element that a step yields, if it does. -/
def Outcome.element? : Outcome → Option Timestamped
  | yielded element => some element
  | ended | failed _ => none

/-- The readings of the wall clock that a step takes at a moment. -/
def Step.readings (step : Step) (moment : Surroundings) : List Int :=
  moment.wall.ahead (step.around.wall.used - moment.wall.used)

namespace Reader

/-- The elements that a reader yields at several moments. -/
def elements (reader : Reader) (moments : List Surroundings) : List Timestamped :=
  (reader.steps moments).filterMap (·.outcome.element?)

/-- The readings of the wall clock that a reader takes at several moments. -/
def readings : Reader → List Surroundings → List Int
  | _, [] => []
  | reader, moment :: later =>
    (reader.step moment).readings moment ++ (reader.step moment).reader.readings later

/-- A step in which a read drops the element that has been made for it, because its time is over. -/
inductive Drops : Reader → Surroundings → Prop
  /-- The read within yields the element, and the clock is not before the deadline then. -/
  | late {limits : Limits} {source : Source} {phase : Phase} {inner rest : Reader}
      {moment found after : Surroundings} {due : Float} {count : Nat} {element : Timestamped}
      {time : Duration} (deadline : deadline limits phase moment = (.ok (some due, count), found))
      (short : reached? limits count = none) (timed : limits.time = some time)
      (yields : inner.step found = ⟨.yielded element, rest, after⟩)
      (overdue : due ≤ after.clock.current) : Drops (limited limits source phase inner) moment
  /-- The read within drops it. -/
  | within {limits : Limits} {source : Source} {phase : Phase} {inner : Reader}
      {moment found : Surroundings} {due : Option Float} {count : Nat}
      (deadline : deadline limits phase moment = (.ok (due, count), found))
      (short : reached? limits count = none) (drops : Drops inner found) :
      Drops (limited limits source phase inner) moment

/-- A number is left for a read at a moment, and none of its limits has been reached. -/
inductive Goes : Reader → Surroundings → Prop
  /-- The number is not past the largest one. -/
  | counting {stamper : Stamper} {next : Int} {moment : Surroundings}
      (left : next ≤ moment.largest) : Goes (counting stamper next) moment
  /-- The deadline is known, more records are admitted, and the read within goes on. -/
  | limited {limits : Limits} {source : Source} {phase : Phase} {inner : Reader}
      {moment found : Surroundings} {due : Option Float} {count : Nat}
      (deadline : deadline limits phase moment = (.ok (due, count), found))
      (short : reached? limits count = none) (goes : Goes inner found) :
      Goes (limited limits source phase inner) moment

/-- A reader that drops an element at one of several moments. -/
def DropsAt (reader : Reader) (moments : List Surroundings) : Prop :=
  ∃ earlier moment later, moments = earlier ++ moment :: later ∧
    (reader.left earlier).Drops moment

/-! ## One step -/

/-- What a step of a read does with the wall clock that stands at a number of the count. -/
inductive Clocked (reader : Reader) (number : Int) (moment : Surroundings) : Step → Prop
  /-- It yields the number with the reading of the moment. -/
  | yields {rest : Reader} {after : Surroundings} (kept : ¬ reader.Drops moment)
      (root : rest.root = counting .now (number + 1)) (wall : after.wall = moment.wall.advance) :
      Clocked reader number moment ⟨.yielded (.made number moment.wall.current), rest, after⟩
  /-- It drops the number, and tells that the time is over. -/
  | drops {source : Source} {time : Duration} {count : Nat} {after : Surroundings}
      (drops : reader.Drops moment) (wall : after.wall = moment.wall.advance) :
      Clocked reader number moment (stopWith (timeMessage source time count) after)
  /-- It makes no element, and takes no reading. -/
  | idles {outcome : Outcome} {after : Surroundings} (kept : ¬ reader.Drops moment)
      (silent : outcome.element? = none) (wall : after.wall = moment.wall) :
      Clocked reader number moment ⟨outcome, ended, after⟩

section Step

variable {limits : Limits} {source : Source} {phase : Phase} {inner rest : Reader} {number : Int}
  {moment found after : Surroundings} {due : Option Float} {count : Nat} {element : Timestamped}

/-- To find the deadline takes no reading of the wall clock. -/
theorem wall_deadline (limits : Limits) (phase : Phase) (moment : Surroundings) :
    (deadline limits phase moment).2.wall = moment.wall := by
  unfold deadline
  split <;> rfl

/-- A limited read drops what is too late, and what the read within it drops. -/
theorem drops_limited_iff (hdeadline : deadline limits phase moment = (.ok (due, count), found))
    (hshort : reached? limits count = none) :
    (limited limits source phase inner).Drops moment ↔ inner.Drops found ∨
      ∃ element rest after limit time, inner.step found = ⟨.yielded element, rest, after⟩ ∧
        due = some limit ∧ limits.time = some time ∧ limit ≤ after.clock.current := by
  constructor
  · intro hdrops
    cases hdrops with
    | late hfound _ htimed hyields hoverdue =>
      rw [hdeadline] at hfound
      cases hfound
      exact .inr ⟨_, _, _, _, _, hyields, rfl, htimed, hoverdue⟩
    | within hfound _ hinner =>
      rw [hdeadline] at hfound
      cases hfound
      exact .inl hinner
  · rintro (hinner | ⟨element, rest, after, limit, time, hyields, rfl, htimed, hoverdue⟩)
    · exact .within hdeadline hshort hinner
    · exact .late hdeadline hshort htimed hyields hoverdue

/-- A read that cannot find its deadline, or has reached its number of records, drops nothing. -/
theorem not_drops_of_deadline
    (h : ∀ due count found, deadline limits phase moment = (.ok (due, count), found) →
      reached? limits count ≠ none) : ¬ (limited limits source phase inner).Drops moment := by
  rintro (⟨hdeadline, hshort, -, -, -⟩ | ⟨hdeadline, hshort, -⟩)
  · exact h _ _ _ hdeadline hshort
  · exact h _ _ _ hdeadline hshort

/-- A step that stops with a record yields nothing and leaves the wall clock alone. -/
theorem stopWith_eq (message : Except Failure String) (after : Surroundings) :
    ∃ outcome around, stopWith message after = ⟨outcome, ended, around⟩ ∧
      outcome.element? = none ∧ around.wall = after.wall := by
  have hstopped := stopped_stopWith message after
  generalize stopWith message after = s at hstopped
  cases hstopped with
  | told message => exact ⟨_, _, rfl, rfl, rfl⟩
  | dropped cause forgiving => exact ⟨_, _, rfl, rfl, rfl⟩
  | failed cause strict => exact ⟨_, _, rfl, rfl, rfl⟩

/-- What stops the read within a limited read stops this one too. -/
theorem step_limited_of_stopWith {message : Except Failure String}
    (hdeadline : deadline limits phase moment = (.ok (due, count), found))
    (hshort : reached? limits count = none) (hinner : inner.step found = stopWith message after) :
    (limited limits source phase inner).step moment = stopWith message after := by
  rw [step, hdeadline]
  dsimp only
  rw [hshort]
  dsimp only
  rw [hinner]
  have hstopped := stopped_stopWith message after
  generalize stopWith message after = s at hstopped
  cases hstopped with
  | told message => rfl
  | dropped cause forgiving => rfl
  | failed cause strict => rfl

/-- A limited read passes on an element that has been made for it, or drops it. -/
theorem clocked_pass (hdeadline : deadline limits phase moment = (.ok (due, count), found))
    (hshort : reached? limits count = none) (hwall : found.wall = moment.wall)
    (hinner : inner.step found = ⟨.yielded (.made number found.wall.current), rest, after⟩)
    (hkept : ¬ inner.Drops found) (hroot : rest.root = counting .now (number + 1))
    (hafter : after.wall = found.wall.advance) :
    (limited limits source phase inner).Clocked number moment
      (pass limits source due count (.made number found.wall.current) rest after) := by
  have hdrops : (limited limits source phase inner).Drops moment ↔ _ :=
    drops_limited_iff hdeadline hshort
  rw [hwall] at hafter ⊢
  unfold pass
  split
  · rename_i limit time htimed
    dsimp only
    split
    · rename_i hoverdue
      exact .drops (hdrops.mpr (.inr ⟨_, _, _, _, _, hinner, rfl, htimed, hoverdue⟩)) hafter
    · rename_i hintime
      refine .yields ?_ hroot hafter
      rintro hdrop
      rcases hdrops.mp hdrop with hwithin | ⟨_, _, _, _, _, hyields, hdue, -, hoverdue⟩
      · exact hkept hwithin
      · rw [hinner] at hyields
        cases hyields
        cases hdue
        exact hintime hoverdue
  · rename_i hnone
    refine .yields ?_ hroot hafter
    intro hdrop
    rcases hdrops.mp hdrop with hwithin | ⟨_, _, _, limit, time, -, hdue, htimed, -⟩
    · exact hkept hwithin
    · exact hnone limit time hdue htimed

/-- A step of a read of a count that takes the time from the wall clock is of one of the kinds. -/
theorem clocked_step {reader : Reader} (h : reader.root = counting .now number)
    (moment : Surroundings) : reader.Clocked number moment (reader.step moment) := by
  induction reader generalizing moment with
  | ended | broken | range => cases h
  | counting stamper next =>
    cases h
    have hkept : ¬ (counting .now number).Drops moment := by rintro ⟨⟩
    rw [step]
    split
    · exact .yields hkept rfl rfl
    · exact .idles hkept rfl rfl
  | limited limits source phase inner ih =>
    have hwall := wall_deadline limits phase moment
    rcases hdeadline : deadline limits phase moment with ⟨cause | ⟨due, count⟩, found⟩
    · rw [hdeadline] at hwall
      rw [step, hdeadline]
      refine .idles (not_drops_of_deadline ?_) rfl hwall
      rw [hdeadline]
      rintro _ _ _ ⟨⟩
    rw [hdeadline] at hwall
    rcases hreached : reached? limits count with _ | records
    · have hdrops : (limited limits source phase inner).Drops moment ↔ _ :=
        drops_limited_iff hdeadline hreached
      have hinner := ih h found
      generalize hstep : inner.step found = s at hinner
      cases hinner with
      | yields hkept hroot hafter =>
        rw [step_limited_of_yielded hdeadline hreached hstep]
        exact clocked_pass hdeadline hreached hwall hstep hkept hroot hafter
      | drops hdrop hafter =>
        rw [step_limited_of_stopWith hdeadline hreached hstep]
        exact .drops (hdrops.mpr (.inl hdrop)) (hafter.trans (congrArg _ hwall))
      | @idles outcome after hkept hsilent hafter =>
        have hnone : ¬ (limited limits source phase inner).Drops moment := by
          intro hdrop
          rcases hdrops.mp hdrop with hwithin | ⟨_, _, _, _, _, hyields, -⟩
          · exact hkept hwithin
          · rw [hstep] at hyields
            cases hyields
            cases hsilent
        cases outcome with
        | yielded element => cases hsilent
        | ended =>
          rw [step_limited_of_ended hdeadline hreached hstep]
          exact .idles hnone rfl (hafter.trans hwall)
        | failed cause =>
          rw [step_limited_of_failed hdeadline hreached hstep]
          exact .idles hnone rfl (hafter.trans hwall)
    · rw [step_limited_of_reached hdeadline hreached]
      obtain ⟨outcome, after, hstop, hsilent, hafter⟩ :=
        stopWith_eq (recordsMessage source records) found
      rw [hstop]
      refine .idles (not_drops_of_deadline ?_) hsilent (hafter.trans hwall)
      rw [hdeadline]
      rintro _ _ _ ⟨⟩ hshort
      rw [hreached] at hshort
      cases hshort

/-- An element that has been made for a limited read is yielded or dropped. -/
theorem yields_or_drops_pass (hdeadline : deadline limits phase moment = (.ok (due, count), found))
    (hshort : reached? limits count = none)
    (hinner : inner.step found = ⟨.yielded element, rest, after⟩) :
    (∃ made, (pass limits source due count element rest after).outcome = .yielded made) ∨
      (limited limits source phase inner).Drops moment := by
  unfold pass
  split
  · rename_i limit time htimed
    dsimp only
    split
    · rename_i hoverdue
      exact .inr (.late hdeadline hshort htimed hinner hoverdue)
    · exact .inl ⟨element, rfl⟩
  · exact .inl ⟨element, rfl⟩

/-- As long as a number is left and no limit has been reached, a read of the count yields the number
or drops it, and otherwise it does neither. -/
theorem goes_iff {reader : Reader} (h : reader.root = counting .now number)
    (moment : Surroundings) : reader.Goes moment ↔
      (∃ element, (reader.step moment).outcome = .yielded element) ∨ reader.Drops moment := by
  induction reader generalizing moment with
  | ended | broken | range => cases h
  | counting stamper next =>
    cases h
    constructor
    · rintro ⟨hleft⟩
      exact .inl ⟨_, by rw [step, if_pos hleft]; rfl⟩
    · rintro (⟨element, hyields⟩ | hdrops)
      · by_cases hleft : number ≤ moment.largest
        · exact .counting hleft
        · rw [step, if_neg hleft] at hyields
          cases hyields
      · cases hdrops
  | limited limits source phase inner ih =>
    constructor
    · rintro (_ | ⟨hdeadline, hshort, hgoes⟩)
      rcases (ih h _).mp hgoes with ⟨element, hyields⟩ | hdrops
      · -- The read within has made an element.
        rcases hinner : inner.step _ with ⟨outcome, rest, after⟩
        rw [hinner] at hyields
        obtain rfl : outcome = .yielded element := hyields
        rw [step_limited_of_yielded hdeadline hshort hinner]
        exact yields_or_drops_pass hdeadline hshort hinner
      · exact .inr (.within hdeadline hshort hdrops)
    · rintro (⟨element, hyields⟩ | hdrops)
      · rcases hstep : (limited limits source phase inner).step moment with ⟨outcome, rest, after⟩
        rw [hstep] at hyields
        obtain rfl : outcome = .yielded element := hyields
        obtain ⟨due, count, found, inner', made, hdeadline, hinner, -, -⟩ := of_limited_yields hstep
        have hshort : reached? limits count = none := by
          rcases hreached : reached? limits count with _ | records
          · rfl
          · rw [step_limited_of_reached hdeadline hreached] at hstep
            exact absurd hstep (stopWith_ne_yielded _)
        exact .limited hdeadline hshort ((ih h _).mpr (.inl ⟨element, by rw [hinner]⟩))
      · cases hdrops with
        | late hdeadline hshort _ hinner _ =>
          exact .limited hdeadline hshort ((ih h _).mpr (.inl ⟨_, by rw [hinner]⟩))
        | within hdeadline hshort hwithin =>
          exact .limited hdeadline hshort ((ih h _).mpr (.inr hwithin))

end Step

/-! ## Several moments -/

section Moments

variable {reader : Reader} {number : Int} {moment : Surroundings} {later : List Surroundings}
  {step : Step}

/-- A step that moves the wall clock on by one has taken its reading of the moment. -/
theorem readings_of_advance (h : step.around.wall = moment.wall.advance) :
    step.readings moment = [moment.wall.current] := by
  have hone : moment.wall.advance.used - moment.wall.used = 1 := by
    show moment.wall.used + 1 - moment.wall.used = 1
    omega
  rw [Step.readings, h, hone, Readings.ahead_one]

/-- A step that leaves it where it is has taken none. -/
theorem readings_of_idle (h : step.around.wall = moment.wall) : step.readings moment = [] := by
  rw [Step.readings, h, Nat.sub_self, Readings.ahead_zero]

/-- What a reader yields at several moments is what its first step yields, and then the rest. -/
theorem elements_cons (reader : Reader) (moment : Surroundings) (later : List Surroundings) :
    reader.elements (moment :: later) =
      (reader.step moment).outcome.element?.toList ++
        (reader.step moment).reader.elements later := by
  rw [elements, steps, List.filterMap_cons]
  cases (reader.step moment).outcome.element? <;> rfl

/-- The readings are those of the first step, and then the rest. -/
theorem readings_cons (reader : Reader) (moment : Surroundings) (later : List Surroundings) :
    reader.readings (moment :: later) =
      (reader.step moment).readings moment ++ (reader.step moment).reader.readings later := rfl

/-- An element is dropped at the first moment or at a later one. -/
theorem dropsAt_cons_iff : reader.DropsAt (moment :: later) ↔
    reader.Drops moment ∨ (reader.step moment).reader.DropsAt later := by
  constructor
  · rintro ⟨earlier, last, rest, hmoments, hdrops⟩
    cases earlier with
    | nil =>
      obtain ⟨rfl, -⟩ := List.cons.inj hmoments
      exact .inl hdrops
    | cons first earlier =>
      obtain ⟨rfl, rfl⟩ := List.cons.inj hmoments
      exact .inr ⟨earlier, last, rest, rfl, hdrops⟩
  · rintro (hdrops | ⟨earlier, last, rest, rfl, hdrops⟩)
    · exact ⟨[], moment, later, rfl, hdrops⟩
    · exact ⟨moment :: earlier, last, rest, rfl, hdrops⟩

/-- A reader that has ended yields nothing, takes no reading and drops nothing. -/
theorem idle_ended (moments : List Surroundings) :
    ended.elements moments = [] ∧ ended.readings moments = [] ∧ ¬ ended.DropsAt moments := by
  induction moments with
  | nil =>
    refine ⟨rfl, rfl, ?_⟩
    rintro ⟨earlier, last, rest, hmoments, -⟩
    exact absurd hmoments.symm (List.append_ne_nil_of_right_ne_nil _ (List.cons_ne_nil _ _))
  | cons moment later ih =>
    obtain ⟨helements, hreadings, hkept⟩ := ih
    refine ⟨?_, ?_, ?_⟩
    · rw [elements_cons]
      exact helements
    · have hnone : (ended.step moment).readings moment = [] := readings_of_idle rfl
      rw [readings, hnone]
      exact hreadings
    · rw [dropsAt_cons_iff]
      rintro (hdrops | hdrops)
      · cases hdrops
      · exact hkept hdrops

/-- What a read of a count has taken and yielded: its elements are the numbers with its readings, of
which there is one more if it has dropped an element. -/
structure Account (reader : Reader) (number : Int) (moments : List Surroundings) : Prop where
  /-- The elements carry the readings in order. -/
  elements : reader.elements moments =
    ((reader.readings moments).take (reader.elements moments).length).mapIdx
      fun i nanos => .made (number + (i : Nat)) nanos
  /-- An element that is dropped takes a reading as well. -/
  dropped : reader.DropsAt moments →
    (reader.readings moments).length = (reader.elements moments).length + 1
  /-- No other reading is taken. -/
  kept : ¬ reader.DropsAt moments →
    (reader.readings moments).length = (reader.elements moments).length

/-- A step that yields the next number adds one element and one reading to the account of the
rest. -/
theorem account_of_yielded {rest : Reader} {after : Surroundings}
    (hstep : reader.step moment = ⟨.yielded (.made number moment.wall.current), rest, after⟩)
    (hkept : ¬ reader.Drops moment) (hwall : after.wall = moment.wall.advance)
    (hrest : rest.Account (number + 1) later) : reader.Account number (moment :: later) := by
  obtain ⟨helements, hdropped, hnone⟩ := hrest
  have hyielded : reader.elements (moment :: later) =
      .made number moment.wall.current :: rest.elements later := by
    rw [elements_cons, hstep]
    rfl
  have htaken : reader.readings (moment :: later) =
      moment.wall.current :: rest.readings later := by
    rw [readings_cons, hstep, readings_of_advance hwall]
    rfl
  have hdropsAt : reader.DropsAt (moment :: later) ↔ rest.DropsAt later := by
    rw [dropsAt_cons_iff, hstep]
    exact or_iff_right hkept
  refine ⟨?_, fun hdrops => ?_, fun hdrops => ?_⟩
  · -- The rest of the read starts one number further on.
    have hnumbers :
        (fun (i : Nat) nanos => Timestamped.made (number + ((i + 1 : Nat) : Int)) nanos) =
          fun (i : Nat) nanos => .made (number + 1 + (i : Nat)) nanos := by
      funext i nanos
      congr 1
      omega
    have hfirst : number + ((0 : Nat) : Int) = number := Int.add_zero number
    rw [htaken, hyielded, List.length_cons, List.take_succ_cons, List.mapIdx_cons, hnumbers,
      ← helements, hfirst]
  · rw [htaken, hyielded, List.length_cons, List.length_cons, hdropped (hdropsAt.mp hdrops)]
  · rw [htaken, hyielded, List.length_cons, List.length_cons,
      hnone fun hrest => hdrops (hdropsAt.mpr hrest)]

/-- A step that yields nothing is the last one, with a reading if it drops an element. -/
theorem account_of_silent (hsilent : (reader.step moment).outcome.element? = none)
    (hended : (reader.step moment).reader = ended)
    (hdrops : reader.Drops moment → (reader.step moment).around.wall = moment.wall.advance)
    (hkept : ¬ reader.Drops moment → (reader.step moment).around.wall = moment.wall)
    (number : Int) : reader.Account number (moment :: later) := by
  obtain ⟨helements, hreadings, hnone⟩ := idle_ended later
  have hyielded : reader.elements (moment :: later) = [] := by
    rw [elements_cons, hsilent, hended, helements]
    rfl
  have htaken : reader.readings (moment :: later) = (reader.step moment).readings moment := by
    rw [readings_cons, hended, hreadings, List.append_nil]
  have hdropsAt : reader.DropsAt (moment :: later) ↔ reader.Drops moment := by
    rw [dropsAt_cons_iff, hended]
    exact or_iff_left hnone
  refine ⟨?_, fun hdropped => ?_, fun hnone => ?_⟩
  · rw [hyielded]
    rfl
  · rw [htaken, hyielded, readings_of_advance (hdrops (hdropsAt.mp hdropped))]
    rfl
  · rw [htaken, hyielded, readings_of_idle (hkept fun hdrop => hnone (hdropsAt.mpr hdrop))]
    rfl

/-- A read of a count that takes the time from the wall clock keeps the account at any moments. -/
theorem account (h : reader.root = counting .now number) (moments : List Surroundings) :
    reader.Account number moments := by
  induction moments generalizing reader number with
  | nil =>
    refine ⟨rfl, ?_, fun _ => rfl⟩
    rintro ⟨earlier, last, rest, hmoments, -⟩
    exact absurd hmoments.symm (List.append_ne_nil_of_right_ne_nil _ (List.cons_ne_nil _ _))
  | cons moment later ih =>
    have hclocked := clocked_step h moment
    generalize hstep : reader.step moment = s at hclocked
    cases hclocked with
    | yields hkept hroot hwall => exact account_of_yielded hstep hkept hwall (ih hroot)
    | @drops source time count after hdrop hwall =>
      obtain ⟨outcome, around, hstop, hsilent, hafter⟩ :=
        stopWith_eq (timeMessage source time count) after
      rw [hstop] at hstep
      refine account_of_silent ?_ ?_ (fun _ => ?_) (fun hkept => absurd hdrop hkept) number
      · rw [hstep]
        exact hsilent
      · rw [hstep]
      · rw [hstep]
        exact hafter.trans hwall
    | idles hkept hsilent hwall =>
      refine account_of_silent ?_ ?_ (fun hdrop => absurd hdrop hkept) (fun _ => ?_) number
      · rw [hstep]
        exact hsilent
      · rw [hstep]
      · rw [hstep]
        exact hwall

/-- The timestamps are in the order of the readings that they carry. -/
theorem Account.pairwise_iff {moments : List Surroundings} (h : reader.Account number moments) :
    ((reader.elements moments).map (·.timestamp)).Pairwise Value.NotAfter ↔
      ((reader.readings moments).take (reader.elements moments).length).Pairwise (· ≤ ·) := by
  obtain ⟨helements, -, -⟩ := h
  generalize (reader.readings moments).take (reader.elements moments).length = taken at helements
  rw [helements, List.pairwise_iff_getElem, List.pairwise_iff_getElem]
  simp only [List.length_map, List.length_mapIdx, List.getElem_map, List.getElem_mapIdx,
    Timestamped.made, Value.notAfter_ofEpochNanos]

/-- What is left of a read of a count is a read of the count, or has ended. -/
theorem root_left (h : reader.root = counting .now number) (earlier : List Surroundings) :
    reader.left earlier = ended ∨ ∃ next, (reader.left earlier).root = counting .now next := by
  induction earlier generalizing reader number with
  | nil => exact .inr ⟨number, h⟩
  | cons moment later ih =>
    have hclocked := clocked_step h moment
    show (reader.step moment).reader.left later = ended ∨
      ∃ next, ((reader.step moment).reader.left later).root = counting .now next
    generalize reader.step moment = s at hclocked
    cases hclocked with
    | yields _ hroot => exact ih hroot
    | @drops source time count after =>
      obtain ⟨outcome, around, hstop, -⟩ := stopWith_eq (timeMessage source time count) after
      rw [hstop]
      exact .inl (left_ended later)
    | idles => exact .inl (left_ended later)

/-- What a read yields at a moment carries the reading of that moment. -/
theorem timestamp_of_yielded (h : reader.root = counting .now number)
    {earlier : List Surroundings} {moment : Surroundings} {element : Timestamped}
    (hyields : ((reader.left earlier).step moment).outcome = .yielded element) :
    element.timestamp = .instant (.ofEpochNanos moment.wall.current) := by
  rcases root_left h earlier with hended | ⟨next, hroot⟩
  · rw [hended] at hyields
    cases hyields
  · have hclocked := clocked_step hroot moment
    generalize (reader.left earlier).step moment = s at hclocked hyields
    cases hclocked with
    | yields =>
      cases hyields
      rfl
    | @drops source time count after =>
      exact absurd hyields (outcome_stopWith _ after element)
    | idles _ hsilent =>
      obtain rfl := hyields
      cases hsilent

/-- A step that drops an element stops the read, and tells that the time is over. -/
theorem step_of_drops (h : reader.root = counting .now number) {earlier : List Surroundings}
    {moment : Surroundings} (hdrops : (reader.left earlier).Drops moment) :
    ∃ source time count after, (reader.left earlier).step moment =
      stopWith (timeMessage source time count) after := by
  rcases root_left h earlier with hended | ⟨next, hroot⟩
  · rw [hended] at hdrops
    cases hdrops
  · have hclocked := clocked_step hroot moment
    generalize (reader.left earlier).step moment = s at hclocked
    cases hclocked with
    | yields hkept => exact absurd hdrops hkept
    | @drops source time count after => exact ⟨source, time, count, after, rfl⟩
    | idles hkept => exact absurd hdrops hkept

/-- What is left of a read of a count yields an element just when it goes on and does not drop
it. -/
theorem yields_left_iff (h : reader.root = counting .now number) (earlier : List Surroundings)
    (moment : Surroundings) :
    (∃ element, ((reader.left earlier).step moment).outcome = .yielded element) ↔
      (reader.left earlier).Goes moment ∧ ¬ (reader.left earlier).Drops moment := by
  rcases root_left h earlier with hended | ⟨next, hroot⟩
  · rw [hended]
    constructor
    · rintro ⟨element, ⟨⟩⟩
    · rintro ⟨⟨⟩, -⟩
  · rw [goes_iff hroot]
    constructor
    · rintro ⟨element, hyields⟩
      refine ⟨.inl ⟨element, hyields⟩, fun hdrops => ?_⟩
      obtain ⟨source, time, count, after, hstops⟩ := step_of_drops h hdrops
      rw [hstops] at hyields
      exact outcome_stopWith _ after element hyields
    · rintro ⟨hyields | hdrops, hkept⟩
      · exact hyields
      · exact absurd hdrops hkept

end Moments

/-! ## A read alone -/

/-- The moments at which a reader is asked for so many elements if nobody else does anything. -/
def moments : Nat → Reader → Surroundings → List Surroundings
  | 0, _, _ => []
  | count + 1, reader, around =>
    around :: (reader.step around).reader.moments count (reader.step around).around

/-- A run is its first step and the run of what that leaves, which yields nothing if the step does
not. -/
theorem take_succ_eq (count : Nat) (reader : Reader) (around : Surroundings) :
    (reader.take (count + 1) around).elements =
        (reader.step around).outcome.element?.toList ++
          ((reader.step around).reader.take count (reader.step around).around).elements ∧
      (reader.take (count + 1) around).around =
        ((reader.step around).reader.take count (reader.step around).around).around := by
  rw [take_succ]
  have hended : (∀ element, (reader.step around).outcome ≠ .yielded element) →
      (reader.step around).reader = ended := reader_of_not_yielded
  generalize reader.step around = s at hended
  rcases s with ⟨element | _ | cause, rest, after⟩
  · exact ⟨rfl, rfl⟩
  · obtain rfl : rest = ended := hended fun _ => Outcome.noConfusion
    rw [take_ended]
    exact ⟨rfl, rfl⟩
  · obtain rfl : rest = ended := hended fun _ => Outcome.noConfusion
    rw [take_ended]
    exact ⟨rfl, rfl⟩

/-- A run yields what the reader yields at these moments. -/
theorem elements_moments (count : Nat) (reader : Reader) (around : Surroundings) :
    reader.elements (reader.moments count around) = (reader.take count around).elements := by
  induction count generalizing reader around with
  | zero => rfl
  | succ count ih => rw [moments, elements_cons, ih, (take_succ_eq count reader around).1]

/-- A step takes readings that are ahead, and leaves the wall clock after them. -/
theorem exists_readings_step (reader : Reader) (around : Surroundings) :
    ∃ taken, (reader.step around).readings around = around.wall.ahead taken ∧
      (reader.step around).around.wall = around.wall.skip taken := by
  obtain ⟨usage, hafter, -⟩ := reader.step_frugal around
  have hwall : (reader.step around).around.wall = around.wall.skip usage.wall :=
    congrArg Surroundings.wall hafter
  refine ⟨usage.wall, ?_, hwall⟩
  rw [Step.readings, hwall, Readings.used_skip, Nat.add_sub_cancel_left]

/-- A run takes the readings that are ahead, and leaves the wall clock after them. -/
theorem readings_moments (count : Nat) (reader : Reader) (around : Surroundings) :
    reader.readings (reader.moments count around) =
        around.wall.ahead (reader.readings (reader.moments count around)).length ∧
      (reader.take count around).around.wall =
        around.wall.skip (reader.readings (reader.moments count around)).length := by
  induction count generalizing reader around with
  | zero => exact ⟨rfl, rfl⟩
  | succ count ih =>
    obtain ⟨taken, htaken, hwall⟩ := exists_readings_step reader around
    obtain ⟨hahead, hskip⟩ := ih (reader.step around).reader (reader.step around).around
    rw [hwall] at hahead hskip
    rw [moments, readings_cons, htaken, List.length_append, Readings.length_ahead]
    refine ⟨?_, ?_⟩
    · rw [Readings.ahead_add, ← hahead]
    · rw [(take_succ_eq count reader around).2, hskip, Readings.skip_skip]

end Reader

/-! ## The law -/

namespace Source

/-- The unbounded count with the processing time, and reads of it under any limits. -/
inductive ReadsNow : Source → Prop
  /-- The count itself. -/
  | unbounded : ReadsNow unbounded
  /-- A read without limits. -/
  | read (bounded : Bool) {source : Source} (reads : ReadsNow source) :
      ReadsNow (read bounded source)
  /-- A read with limits. -/
  | limited (limits : Limits) {source : Source} (reads : ReadsNow source) :
      ReadsNow (limited limits source)

/-- Within its limits such a read starts to count from zero. -/
theorem ReadsNow.root_reader {source : Source} (h : source.ReadsNow) :
    source.reader.root = .counting .now 0 := by
  induction h with
  | unbounded => rfl
  | read _ _ ih => exact ih
  | limited _ _ ih => exact ih

/-- The read for which an input without a timestamp function stands is such a read, and can be
opened. -/
theorem readsNow_ofParts (records : Option Count) (time : Option Duration) :
    (ofParts .now records time).ReadsNow ∧
      (ofParts .now records time).open? = .ok (ofParts .now records time).reader := by
  unfold ofParts
  split
  · exact ⟨.read false .unbounded, rfl⟩
  · exact ⟨.limited _ .unbounded, rfl⟩

/-- To change the limits of such a read makes such a read. -/
theorem ReadsNow.limitWith {source limited : Source} {change : Limits → Except Failure Limits}
    (h : source.ReadsNow) (hlimited : source.limitWith change = .ok limited) :
    limited.ReadsNow := by
  cases h with
  | unbounded => cases hlimited
  | read bounded hreads =>
    cases bounded with
    | false =>
      obtain ⟨limits, -, rfl⟩ := exists_of_map_eq_ok hlimited
      exact .limited limits hreads
    | true => cases hlimited
  | limited limits hreads =>
    obtain ⟨limits, -, rfl⟩ := exists_of_map_eq_ok hlimited
    exact .limited limits hreads

/-- What a read of the unbounded count with the processing time does with the wall clock. -/
structure ClockLaw (source : Source) : Prop where
  /-- At whatever moments it is asked for elements, these are the numbers from zero on with the
  readings that it takes, in order. -/
  elements : ∀ moments, source.reader.elements moments =
    ((source.reader.readings moments).take (source.reader.elements moments).length).mapIdx
      fun i nanos => .made (i : Nat) nanos
  /-- The next one comes just when a number is left, no limit has been reached, and the number is not
  dropped because it is made when the time is over. -/
  goes : ∀ earlier moment,
    (∃ element, ((source.reader.left earlier).step moment).outcome = .yielded element) ↔
      (source.reader.left earlier).Goes moment ∧ ¬ (source.reader.left earlier).Drops moment
  /-- One reading is taken for each of them, and no other -/
  kept : ∀ moments, ¬ source.reader.DropsAt moments →
    (source.reader.readings moments).length = (source.reader.elements moments).length
  /-- but one for the element that is dropped when the time is over. -/
  dropped : ∀ moments, source.reader.DropsAt moments →
    (source.reader.readings moments).length = (source.reader.elements moments).length + 1
  /-- With this element the read stops, and tells that the time is over. -/
  stopped : ∀ earlier moment, (source.reader.left earlier).Drops moment →
    ∃ shown time count after, (source.reader.left earlier).step moment =
      Reader.stopWith (Reader.timeMessage shown time count) after
  /-- The timestamps do not decrease just when the readings that they carry do not. -/
  ordered : ∀ moments,
    ((source.reader.elements moments).map (·.timestamp)).Pairwise Value.NotAfter ↔
      ((source.reader.readings moments).take
        (source.reader.elements moments).length).Pairwise (· ≤ ·)
  /-- Over a clock that never goes back, a timestamp lies between the times that others take before
  and after it. -/
  between : ∀ earlier moment element,
    ((source.reader.left earlier).step moment).outcome = .yielded element →
    moment.wall.Forward → ∀ first last, first ≤ moment.wall.used → moment.wall.used ≤ last →
    (Value.instant (.ofEpochNanos (moment.wall.supply first))).NotAfter element.timestamp ∧
      element.timestamp.NotAfter (.instant (.ofEpochNanos (moment.wall.supply last)))
  /-- If nobody else does anything between its steps, the read takes the readings that are ahead,
  and leaves the clock after them. -/
  alone : ∀ count around,
    source.reader.elements (source.reader.moments count around) =
        (source.reader.take count around).elements ∧
      source.reader.readings (source.reader.moments count around) =
        around.wall.ahead (source.reader.readings (source.reader.moments count around)).length ∧
      (source.reader.take count around).around.wall = around.wall.skip
        (source.reader.readings (source.reader.moments count around)).length

/-- Every such read obeys the law. -/
theorem ReadsNow.clockLaw {source : Source} (h : source.ReadsNow) : ClockLaw source := by
  have hroot := h.root_reader
  refine ⟨fun moments => ?_, Reader.yields_left_iff hroot,
    fun moments => (Reader.account hroot moments).kept,
    fun moments => (Reader.account hroot moments).dropped, ?_,
    fun moments => (Reader.account hroot moments).pairwise_iff, ?_, ?_⟩
  · have hnumbers : (fun (i : Nat) nanos => Timestamped.made (0 + (i : Nat)) nanos) =
        fun (i : Nat) nanos => .made (i : Nat) nanos := by
      funext i nanos
      rw [Int.zero_add]
    have helements := (Reader.account hroot moments).elements
    rwa [hnumbers] at helements
  · exact fun earlier moment hdrops => Reader.step_of_drops hroot hdrops
  · intro earlier moment element hyields hforward first last hfirst hlast
    rw [Reader.timestamp_of_yielded hroot hyields]
    exact ⟨Value.notAfter_ofEpochNanos.mpr (hforward _ _ hfirst),
      Value.notAfter_ofEpochNanos.mpr (hforward _ _ hlast)⟩
  · exact fun count around => ⟨Reader.elements_moments count _ around,
      Reader.readings_moments count _ around⟩

end Source

/-- What the processing time is, and where it is taken. -/
structure ProcessingTimeLaw : Prop where
  /-- An element that has been made at a reading of the clock has a normalised point in time as its
  timestamp, which is so many nanoseconds after the epoch. -/
  made : ∀ number nanos, ∃ instant : Instant,
    Timestamped.made number nanos = ⟨.int number, .instant instant⟩ ∧ instant.IsNormal ∧
      instant.epochNanos = nanos
  /-- All reads of the unbounded count obey the law, -/
  reads : ∀ source : Source, source.ReadsNow → source.ClockLaw
  /-- also those whose limits have been changed, -/
  limits : ∀ (source limited : Source) (value : Value), source.ReadsNow →
    source.withMaxRecords value = .ok limited ∨ source.withMaxReadTime value = .ok limited →
      limited.ReadsNow
  /-- and those for which an input stands: it is applied without a look at the wall clock, and makes
  a collection of such a read. -/
  inputs : ∀ (records : Option Count) (time : Option Duration) (around after : Surroundings)
    (collection : Collection),
    Pipeline.apply (.input (.unbounded (.ofParts .now records time))) around =
        (.ok collection, after) →
      collection.producer.ReadsNow ∧ collection.open? = .ok collection.producer.reader ∧
        after.wall = around.wall

/-- The timestamps of an unbounded count without a timestamp function are the processing time. -/
theorem processing_time_law : ProcessingTimeLaw where
  made number nanos := ⟨.ofEpochNanos nanos, rfl, Instant.isNormal_ofEpochNanos nanos,
    Instant.epochNanos_ofEpochNanos nanos⟩
  reads _ hreads := hreads.clockLaw
  limits source limited value hreads hchange := by
    rcases hchange with hchange | hchange
    · exact hreads.limitWith hchange
    · exact hreads.limitWith hchange
  inputs records time around after collection happly := by
    obtain ⟨rfl, -, rfl⟩ := UnboundedInput.collection_of_apply_ofParts rfl happly
    obtain ⟨hreads, hopen⟩ := Source.readsNow_ofParts records time
    exact ⟨hreads, hopen, rfl⟩

end NumberFeed
