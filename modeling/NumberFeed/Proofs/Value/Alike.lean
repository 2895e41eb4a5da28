import Mathlib.Data.List.Forall2
import NumberFeed.Proofs.Number.Amounts
import NumberFeed.Value.Entries

/-!
# What makes values equal

Two values are equal if they are numbers of one amount, points in time with the same fields, or alike
(`Value.equalAs_iff`): of one kind and the same in what this kind is about. Items of containers
agree one by one (`Value.allAgree_iff`), and every entry of a mapping is found in the other one,
wherever it stands there (`Value.allFound_iff`). `Value.Alike` and `Form.Alike` list the kinds, so
that a proof about equal values has a case for each.
-/

namespace NumberFeed

namespace Value

open Number (Quantity)

/-! ## Numbers and points in time -/

/-- Numbers of one amount. -/
theorem sameAmount_iff {a b : Value} : a.sameAmount b = true ↔
    ∃ x y, a.quantity? = some x ∧ b.quantity? = some y ∧ Quantity.Same x y := by
  unfold sameAmount
  constructor
  · intro h
    split at h
    · rename_i x y hx hy
      exact ⟨x, y, hx, hy, Quantity.compare?_eq_iff.mp (eq_of_beq h)⟩
    · cases h
  · rintro ⟨x, y, hx, hy, hsame⟩
    rw [hx, hy]
    exact beq_iff_eq.mpr (Quantity.compare?_eq_iff.mpr hsame)

/-- Points in time with the same fields. -/
theorem sameTime_iff {a b : Value} : a.sameTime b = true ↔
    ∃ s n t m, a.timeFields? = some (s, n) ∧ b.timeFields? = some (t, m) ∧
      Quantity.Same s t ∧ Quantity.Same n m := by
  unfold sameTime
  constructor
  · intro h
    split at h
    · rename_i s n t m ha hb
      obtain ⟨hs, hn⟩ := Bool.and_eq_true_iff.mp h
      exact ⟨s, n, t, m, ha, hb, Quantity.compare?_eq_iff.mp (eq_of_beq hs),
        Quantity.compare?_eq_iff.mp (eq_of_beq hn)⟩
    · cases h
  · rintro ⟨s, n, t, m, ha, hb, hs, hn⟩
    rw [ha, hb]
    exact Bool.and_eq_true_iff.mpr ⟨beq_iff_eq.mpr (Quantity.compare?_eq_iff.mpr hs),
      beq_iff_eq.mpr (Quantity.compare?_eq_iff.mpr hn)⟩

/-- Instants have the same fields only if they are the same. -/
theorem sameTime_instant {i j : Instant} : sameTime (instant i) (instant j) = true ↔ i = j := by
  rw [sameTime_iff]
  constructor
  · rintro ⟨_, _, _, _, ⟨⟩, ⟨⟩, hs, hn⟩
    obtain ⟨s, n⟩ := i
    obtain ⟨t, m⟩ := j
    obtain rfl : s = t := Quantity.same_ofInt.mp hs
    obtain rfl : n = m := Quantity.same_ofInt.mp hn
    rfl
  · rintro rfl
    exact ⟨_, _, _, _, rfl, rfl, Quantity.same_ofInt.mpr rfl, Quantity.same_ofInt.mpr rfl⟩

/-- Nothing is both a number and a point in time. -/
theorem quantity?_eq_none_of_timeFields? {value : Value} {fields : Quantity × Quantity}
    (h : value.timeFields? = some fields) : value.quantity? = none := by
  unfold timeFields? at h
  split at h
  · rfl
  · rfl
  · cases h

/-! ## Containers -/

/-- Whether two values are one object or equal, or else whether they are equal with one hash. -/
def agreesAs (hashed : Bool) (a b : Value) : Bool := isSameObject a b || equalAs hashed a b

/-- An entry that is found in another one: the keys match and the values agree, with the same text
if that is asked for. -/
structure Found (byText : Bool) (entry other : Value × Value) : Prop where
  /-- The keys match. -/
  key : agreesAs true entry.1 other.1 = true
  /-- The values agree. -/
  value : agreesAs false entry.2 other.2 = true
  /-- The values have the same text. -/
  text : byText = true → entry.2.sameText other.2 = true

/-- Lists agree when their items do, one by one. -/
theorem allAgree_iff {hashed : Bool} {as bs : List Value} :
    allAgree hashed as bs = true ↔ List.Forall₂ (fun a b => agreesAs hashed a b = true) as bs := by
  induction as generalizing bs with
  | nil => cases bs <;> simp [allAgree]
  | cons a as ih =>
    cases bs with
    | nil => simp [allAgree]
    | cons b bs =>
      rw [allAgree, Bool.and_eq_true, ih, List.forall₂_cons]
      rfl

/-- Entries are found when each of them is. -/
theorem allFound_iff {byText : Bool} {entries others : List (Value × Value)} :
    allFound byText entries others = true ↔
      ∀ entry ∈ entries, ∃ other ∈ others, Found byText entry other := by
  have hfound : ∀ entry other : Value × Value,
      ((isSameObject entry.1 other.1 || equalAs true entry.1 other.1) &&
        (isSameObject entry.2 other.2 || equalAs false entry.2 other.2) &&
        (!byText || sameText entry.2 other.2)) = true ↔ Found byText entry other := by
    intro entry other
    rw [Bool.and_eq_true, Bool.and_eq_true]
    constructor
    · rintro ⟨⟨hkey, hvalue⟩, htext⟩
      refine ⟨hkey, hvalue, fun hbyText => ?_⟩
      rwa [hbyText, Bool.not_true, Bool.false_or] at htext
    · rintro ⟨hkey, hvalue, htext⟩
      refine ⟨⟨hkey, hvalue⟩, ?_⟩
      cases byText with
      | false => rfl
      | true => exact htext rfl
  induction entries with
  | nil => simp [allFound]
  | cons entry rest ih =>
    obtain ⟨key, value⟩ := entry
    rw [allFound, Bool.and_eq_true, List.any_eq_true, List.forall_mem_cons]
    refine and_congr (exists_congr fun other => and_congr_right fun _ => ?_) ih
    exact hfound (key, value) other

end Value

/-! ## Kinds of objects -/

/-- What makes two objects equal that are not unique, by their kinds. -/
inductive Form.Alike (hashed : Bool) : Form → Form → Prop
  | stamper (cell cell' : Nat) (formula : Option StampFormula) :
      Alike hashed (.stamper cell formula) (.stamper cell' formula)
  /-- An element asks whether its parts are equal, not whether they agree. -/
  | element {a b s t : Value} (value : a.equalAs hashed b = true)
      (timestamp : s.equalAs hashed t = true) : Alike hashed (.element a s) (.element b t)
  | configuration (place place' : Nat) {as bs : Entries} (size : as.length = bs.length)
      (found : Value.allFound hashed as bs = true) :
      Alike hashed (.configuration place as) (.configuration place' bs)
  | boundedInput (count : Count) : Alike hashed (.boundedInput count) (.boundedInput count)
  | unboundedInput {s s' t t' : Value} (records : Option Count)
      (stamper : s.agreesAs hashed s' = true) (time : t.agreesAs hashed t' = true) :
      Alike hashed (.unboundedInput s records t) (.unboundedInput s' records t')
  | range (start stop : Int) : Alike hashed (.range start stop) (.range start stop)

/-- Objects that are not unique are equal when their forms are alike. -/
theorem Value.formsEqual_iff {hashed : Bool} {form other : Form} :
    Value.formsEqual hashed form other = true ↔ Form.Alike hashed form other := by
  constructor
  · intro h
    unfold formsEqual at h
    split at h
    · obtain rfl := eq_of_beq h
      exact .stamper _ _ _
    · obtain ⟨hvalue, htimestamp⟩ := Bool.and_eq_true_iff.mp h
      exact .element hvalue htimestamp
    · obtain ⟨hsize, hfound⟩ := Bool.and_eq_true_iff.mp h
      exact .configuration _ _ (eq_of_beq hsize) hfound
    · obtain rfl := eq_of_beq h
      exact .boundedInput _
    · obtain ⟨hfirst, htime⟩ := Bool.and_eq_true_iff.mp h
      obtain ⟨hstamper, hrecords⟩ := Bool.and_eq_true_iff.mp hfirst
      obtain rfl := eq_of_beq hrecords
      exact .unboundedInput _ hstamper htime
    · obtain ⟨hstart, hstop⟩ := Bool.and_eq_true_iff.mp h
      obtain rfl := eq_of_beq hstart
      obtain rfl := eq_of_beq hstop
      exact .range _ _
    · cases h
  · intro h
    cases h with
    | stamper cell cell' formula => exact beq_self_eq_true formula
    | element value timestamp => exact Bool.and_eq_true_iff.mpr ⟨value, timestamp⟩
    | configuration place place' size found =>
      exact Bool.and_eq_true_iff.mpr ⟨beq_iff_eq.mpr size, found⟩
    | boundedInput count => exact beq_self_eq_true count
    | unboundedInput records stamper time =>
      exact Bool.and_eq_true_iff.mpr
        ⟨Bool.and_eq_true_iff.mpr ⟨stamper, beq_self_eq_true records⟩, time⟩
    | range start stop =>
      exact Bool.and_eq_true_iff.mpr ⟨beq_self_eq_true start, beq_self_eq_true stop⟩

namespace Value

/-! ## Kinds of values -/

/-- What makes two values equal that are neither numbers nor points in time, by their kinds. -/
inductive Alike (hashed : Bool) : Value → Value → Prop
  | null : Alike hashed null null
  | text (s : String) : Alike hashed (text s) (text s)
  | bytes (bs : List UInt8) : Alike hashed (bytes bs) (bytes bs)
  | duration (d : Duration) : Alike hashed (duration d) (duration d)
  | span (s : Span) : Alike hashed (span s) (span s)
  | list {as bs : List Value} (items : allAgree hashed as bs = true) :
      Alike hashed (list as) (list bs)
  | tuple {as bs : List Value} (items : allAgree hashed as bs = true) :
      Alike hashed (tuple as) (tuple bs)
  | dict {as bs : Entries} (size : as.length = bs.length) (found : allFound false as bs = true) :
      Alike hashed (dict as) (dict bs)
  /-- Some objects are equal only to themselves. -/
  | unique (mark : Nat) {form other : Form} (unique : form.isUnique = true) :
      Alike hashed (object mark form) (object mark other)
  | object {mark mark' : Nat} {form other : Form} (forms : form.Alike hashed other) :
      Alike hashed (object mark form) (object mark' other)

/-- Values are equal as numbers, as points in time, or because they are alike. -/
theorem equalAs_iff {hashed : Bool} {a b : Value} :
    equalAs hashed a b = true ↔
      a.sameAmount b = true ∨ a.sameTime b = true ∨ Alike hashed a b := by
  constructor
  · intro h
    unfold equalAs at h
    split at h
    · exact .inr (.inr .null)
    · obtain rfl := eq_of_beq h
      exact .inr (.inr (.text _))
    · obtain rfl := eq_of_beq h
      exact .inr (.inr (.bytes _))
    · exact .inr (.inr (.list h))
    · exact .inr (.inr (.tuple h))
    · obtain ⟨hsize, hfound⟩ := Bool.and_eq_true_iff.mp h
      exact .inr (.inr (.dict (eq_of_beq hsize) hfound))
    · obtain rfl := eq_of_beq h
      exact .inr (.inr (.duration _))
    · obtain rfl := eq_of_beq h
      exact .inr (.inr (.span _))
    · exact .inr (.inl (sameTime_instant.mpr (eq_of_beq h)))
    · rcases Bool.or_eq_true_iff.mp h with hunique | hforms
      · obtain ⟨hunique, hmark⟩ := Bool.and_eq_true_iff.mp hunique
        rw [eq_of_beq hmark]
        exact .inr (.inr (.unique _ hunique))
      · exact .inr (.inr (.object (formsEqual_iff.mp hforms)))
    · rcases Bool.or_eq_true_iff.mp h with hamount | htime
      · exact .inl hamount
      · exact .inr (.inl htime)
  · rintro (hamount | htime | halike)
    · -- Numbers come to the last case: in all others one of the two has no amount.
      unfold equalAs
      split
      case h_11 => rw [hamount, Bool.true_or]
      all_goals cases hamount
    · -- Instants have a case of their own, and moments come to the last one.
      unfold equalAs
      split
      case h_9 => exact beq_iff_eq.mpr (sameTime_instant.mp htime)
      case h_11 => rw [htime, Bool.or_true]
      all_goals cases htime
    · cases halike with
      | null => rfl
      | text s => exact beq_self_eq_true s
      | bytes bs => exact beq_self_eq_true bs
      | duration d => exact beq_self_eq_true d
      | span s => exact beq_self_eq_true s
      | list items => exact items
      | tuple items => exact items
      | dict size found => exact Bool.and_eq_true_iff.mpr ⟨beq_iff_eq.mpr size, found⟩
      | unique mark unique =>
        have hmark : (true && mark == mark) = true := beq_self_eq_true mark
        rw [equalAs, unique, hmark, Bool.true_or]
      | object forms => exact Bool.or_eq_true_iff.mpr (.inr (formsEqual_iff.mpr forms))

/-- Values that are alike are no numbers and no points in time. -/
theorem Alike.others {hashed : Bool} {a b : Value} (h : Alike hashed a b) :
    (a.quantity? = none ∧ a.timeFields? = none) ∧ b.quantity? = none ∧ b.timeFields? = none := by
  cases h <;> exact ⟨⟨rfl, rfl⟩, rfl, rfl⟩

end Value

end NumberFeed
