import Mathlib.Data.List.Chain
import NumberFeed.Time.Zone.Table

/-!
# Offsets of zones

Which offset holds at a second is told by the changes alone (`Zone.Holds`): the one that came with the
last change up to then, or the first one before all changes. A zone whose changes are in order finds
it (`Zone.holds_offsetAt`).

Which zones there are is a matter of the surroundings. What is asked of them is that the changes of
each are in order and that universal time is among them (`Zone.IsTable`); the known zones are such a
table (`Zone.isTable_known`).
-/

namespace NumberFeed.Zone

/-- An offset holds at a second if it came with the last of the changes up to then, or if there were
none and it is the first one. -/
inductive Holds (zone : Zone) (second : Int) : Int → Prop
  /-- All changes come later. -/
  | first (before : ∀ change ∈ zone.changes, second < change.1) : Holds zone second zone.first
  /-- It came with this change, and no later one has come since. -/
  | since (change : Int × Int) (mem : change ∈ zone.changes) (past : change.1 ≤ second)
      (last : ∀ other ∈ zone.changes, other.1 ≤ second → other.1 ≤ change.1) :
      Holds zone second change.2

/-- One change comes before another. -/
def Earlier (a b : Int × Int) : Prop := a.1 < b.1

instance : DecidableRel Earlier := fun a b => inferInstanceAs (Decidable (a.1 < b.1))

instance : Trans Earlier Earlier Earlier := ⟨fun hab hbc => Int.lt_trans hab hbc⟩

/-- The changes of a zone are in order if each comes after all those before it. -/
def Ordered (zone : Zone) : Prop := zone.changes.Pairwise Earlier

/-- Among changes in order, the last one of the first ones that are not after a second is the last
one that is not after it. -/
theorem getLast?_takeWhile {changes : List (Int × Int)} (h : changes.Pairwise Earlier)
    (second : Int) :
    match (changes.takeWhile fun change => decide (change.1 ≤ second)).getLast? with
    | some change => change ∈ changes ∧ change.1 ≤ second ∧
        ∀ other ∈ changes, other.1 ≤ second → other.1 ≤ change.1
    | none => ∀ change ∈ changes, second < change.1 := by
  induction changes with
  | nil => simp
  | cons head rest ih =>
    obtain ⟨hhead, hrest⟩ := List.pairwise_cons.mp h
    specialize ih hrest
    by_cases hpast : head.1 ≤ second
    · rw [List.takeWhile_cons_of_pos (by simpa using hpast), List.getLast?_cons]
      -- If no change of the rest has come yet, the head is the last one.
      generalize (rest.takeWhile fun change => decide (change.1 ≤ second)).getLast? = last at ih ⊢
      rcases last with _ | change
      · refine ⟨List.mem_cons_self, hpast, ?_⟩
        intro other hother hbefore
        rcases List.mem_cons.mp hother with rfl | hother
        · exact Int.le_refl _
        · have hlater := ih other hother
          omega
      · obtain ⟨hmem, hchange, hall⟩ := ih
        refine ⟨List.mem_cons_of_mem _ hmem, hchange, ?_⟩
        intro other hother hbefore
        rcases List.mem_cons.mp hother with rfl | hother
        · have hlater : other.1 < change.1 := hhead change hmem
          exact Int.le_of_lt hlater
        · exact hall other hother hbefore
    · rw [List.takeWhile_cons_of_neg (by simpa using hpast)]
      intro change hchange
      rcases List.mem_cons.mp hchange with rfl | hchange
      · omega
      · have hlater : head.1 < change.1 := hhead change hchange
        omega

/-- The offset that a zone with changes in order gives at a second holds there. -/
theorem holds_offsetAt {zone : Zone} (h : zone.Ordered) (second : Int) :
    zone.Holds second (zone.offsetAt second) := by
  have hlast := getLast?_takeWhile h second
  unfold offsetAt
  split
  · rename_i change hchange
    rw [hchange] at hlast
    exact .since change hlast.1 hlast.2.1 hlast.2.2
  · rename_i hnone
    rw [hnone] at hlast
    exact .first hlast

/-! ## Tables of zones -/

/-- What is asked of zones that can be looked up. -/
structure IsTable (zones : List Zone) : Prop where
  /-- The changes of each zone are in order. -/
  ordered : ∀ zone ∈ zones, zone.Ordered
  /-- Universal time is found by its name, and its offset is always zero. -/
  universal : ∃ zone, ofName zones "UTC" = .ok zone ∧ ∀ second, zone.offsetAt second = 0

/-- The known zones are such a table. -/
theorem isTable_known : IsTable known where
  ordered zone h := by
    -- It is enough that each change comes after the one before it.
    have hchain : ∀ zone ∈ known, zone.changes.IsChain Earlier := by decide +kernel
    exact List.isChain_iff_pairwise.mp (hchain zone h)
  universal := ⟨utc, rfl, offsetAt_of_changes_eq_nil rfl⟩

section Table

variable {zones : List Zone} {name : String}

/-- A zone that a name finds is one of the table, and has the name. -/
theorem mem_of_ofName {zone : Zone} (h : ofName zones name = .ok zone) :
    zone ∈ zones ∧ zone.hasName name = true := by
  unfold ofName at h
  split at h
  · rename_i found hfound
    obtain rfl : found = zone := Except.ok.inj h
    have hname := List.find?_some hfound
    exact ⟨List.mem_of_find?_eq_some hfound, hname⟩
  · cases h

/-- A name that no zone of the table has finds none. -/
theorem ofName_of_unknown (h : ∀ zone ∈ zones, zone.hasName name = false) :
    ofName zones name = .error .unknownZone := by
  have hnone : zones.find? (·.hasName name) = none :=
    List.find?_eq_none.mpr fun zone hzone => by simp [h zone hzone]
  rw [ofName, hnone]

/-- Nothing else can go wrong with a name. -/
theorem eq_unknownZone_of_ofName {cause : Failure} (h : ofName zones name = .error cause) :
    cause = .unknownZone := by
  unfold ofName at h
  split at h
  · cases h
  · exact (Except.error.inj h).symm

end Table

end NumberFeed.Zone
