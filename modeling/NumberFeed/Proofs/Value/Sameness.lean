import NumberFeed.Proofs.Config.Ordered
import NumberFeed.Proofs.Value.Alike
import NumberFeed.Proofs.Value.Parts

/-!
# Sameness is an equivalence

Equality goes by amounts, by the fields of points in time and by what containers hold, whatever the
order of the keys of a mapping, and a container recognises an object by its mark. Among the values of
one moment (`World`) this is an equivalence all the same: a value agrees with itself
(`World.agreesAs_refl`), and values that are equal are so in either order (`World.equalAs_symm`) and
from one to the next (`World.equalAs_trans`). So a key belongs to one entry of a mapping at most,
and keys that match stand for one another. All plain data makes up one world (`World.data`).

The proofs are by induction on the parts of a value. Only mappings need more than their parts: that
every entry of one is found in another one of the same size says that every entry of the other is
found in the first (`exists_of_found`), because no two entries are found in the same one.
-/

namespace NumberFeed

/-- Values that can be there at one moment. -/
structure World where
  /-- Whether a value is there. -/
  has : Value → Prop
  /-- A value is there with its parts. -/
  parts : ∀ {value part : Value}, has value → part ∈ value.parts → has part
  /-- A mark belongs to one object. -/
  one : ∀ {a b : Value}, has a → has b → a.isSameObject b = true → a = b
  /-- A float that is not a number has a mark. -/
  defined : ∀ {x : Float}, has (.float x) → Number.Quantity.ofFloat x ≠ .undefined
  /-- The keys of a mapping or of a configuration are distinct. -/
  distinct : ∀ {value : Value}, has value → value.ownEntries.Distinct

/-! ## Lists -/

section Lists

variable {α β : Type} {as : List α} {bs : List β}

/-- If every member of a list is found in a second list that is no longer, and no two members are
found in the same one, then each member of the second list has been found. -/
theorem exists_of_found {found : α → β → Prop} (size : bs.length ≤ as.length)
    (each : ∀ a ∈ as, ∃ b ∈ bs, found a b)
    (apart : as.Pairwise fun a a' => ∀ b, found a b → ¬ found a' b) :
    ∀ b ∈ bs, ∃ a ∈ as, found a b := by
  induction as generalizing bs with
  | nil =>
    have hnil : bs = [] := List.eq_nil_of_length_eq_zero (Nat.le_zero.mp size)
    rw [hnil]
    simp
  | cons a as ih =>
    obtain ⟨hfirst, hrest⟩ := List.pairwise_cons.mp apart
    obtain ⟨b, hb, hab⟩ := each a List.mem_cons_self
    -- The one in which the first member is found is taken out of the second list.
    obtain ⟨before, after, rfl⟩ := List.append_of_mem hb
    have hmem : ∀ b', b' ∈ before ++ b :: after ↔ b' = b ∨ b' ∈ before ++ after := by
      intro b'
      simp only [List.mem_append, List.mem_cons]
      tauto
    have hsize : (before ++ after).length ≤ as.length := by
      simp only [List.length_append, List.length_cons] at size ⊢
      omega
    have hothers : ∀ a' ∈ as, ∃ b' ∈ before ++ after, found a' b' := by
      intro a' ha'
      obtain ⟨b', hb', hfound⟩ := each a' (List.mem_cons_of_mem a ha')
      rcases (hmem b').mp hb' with rfl | hb'
      · exact absurd hfound (hfirst a' ha' b' hab)
      · exact ⟨b', hb', hfound⟩
    intro b' hb'
    rcases (hmem b').mp hb' with rfl | hb'
    · exact ⟨a, List.mem_cons_self, hab⟩
    · obtain ⟨a', ha', hfound⟩ := ih hsize hothers hrest b' hb'
      exact ⟨a', List.mem_cons_of_mem a ha', hfound⟩

/-- A member of the first list is related to one of the second list. -/
theorem exists_of_forall₂ {R : α → β → Prop} (h : List.Forall₂ R as bs) {a : α} (ha : a ∈ as) :
    ∃ b ∈ bs, R a b := by
  induction h with
  | nil => cases ha
  | @cons first other _ _ hfirst _ ih =>
    rcases List.mem_cons.mp ha with rfl | hrest
    · exact ⟨other, List.mem_cons_self, hfirst⟩
    · obtain ⟨b, hb, hrel⟩ := ih hrest
      exact ⟨b, List.mem_cons_of_mem other hb, hrel⟩

/-- A relation that can be turned round between the members can be turned round between lists. -/
theorem forall₂_symm_of_mem {R : α → β → Prop} {S : β → α → Prop} (h : List.Forall₂ R as bs)
    (turn : ∀ a ∈ as, ∀ b ∈ bs, R a b → S b a) : List.Forall₂ S bs as := by
  induction h with
  | nil => exact .nil
  | cons hab _ ih =>
    refine .cons (turn _ List.mem_cons_self _ List.mem_cons_self hab) (ih ?_)
    exact fun a ha b hb => turn a (List.mem_cons_of_mem _ ha) b (List.mem_cons_of_mem _ hb)

/-- Relations that go from one member to the next do so between lists. -/
theorem forall₂_trans_of_mem {γ : Type} {cs : List γ} {R : α → β → Prop} {S : β → γ → Prop}
    {T : α → γ → Prop} (hab : List.Forall₂ R as bs) (hbc : List.Forall₂ S bs cs)
    (next : ∀ a ∈ as, ∀ b ∈ bs, ∀ c ∈ cs, R a b → S b c → T a c) : List.Forall₂ T as cs := by
  induction hab generalizing cs with
  | nil =>
    rw [List.forall₂_nil_left_iff.mp hbc]
    exact .nil
  | cons hfirst _ ih =>
    obtain ⟨c, cs, hsecond, hrest, rfl⟩ := List.forall₂_cons_left_iff.mp hbc
    refine .cons (next _ List.mem_cons_self _ List.mem_cons_self _ List.mem_cons_self hfirst
      hsecond) (ih hrest ?_)
    exact fun a ha b hb c hc => next a (List.mem_cons_of_mem _ ha) b (List.mem_cons_of_mem _ hb) c
      (List.mem_cons_of_mem _ hc)

end Lists

/-! ## Values without parts -/

namespace Value

/-- Numbers have the same amount in either order. -/
theorem sameAmount_symm {a b : Value} (h : a.sameAmount b = true) : b.sameAmount a = true := by
  obtain ⟨x, y, hx, hy, hsame⟩ := sameAmount_iff.mp h
  exact sameAmount_iff.mpr ⟨y, x, hy, hx, hsame.symm⟩

/-- Two numbers of the amount of a third one have the same. -/
theorem sameAmount_trans {a b c : Value} (hab : a.sameAmount b = true)
    (hbc : b.sameAmount c = true) : a.sameAmount c = true := by
  obtain ⟨x, y, hx, hy, hxy⟩ := sameAmount_iff.mp hab
  obtain ⟨y', z, hy', hz, hyz⟩ := sameAmount_iff.mp hbc
  obtain rfl : y = y' := Option.some.inj (hy.symm.trans hy')
  exact sameAmount_iff.mpr ⟨x, z, hx, hz, hxy.trans hyz⟩

/-- Points in time have the same fields in either order. -/
theorem sameTime_symm {a b : Value} (h : a.sameTime b = true) : b.sameTime a = true := by
  obtain ⟨s, n, t, m, ha, hb, hs, hn⟩ := sameTime_iff.mp h
  exact sameTime_iff.mpr ⟨t, m, s, n, hb, ha, hs.symm, hn.symm⟩

/-- Two points in time with the fields of a third one have the same. -/
theorem sameTime_trans {a b c : Value} (hab : a.sameTime b = true) (hbc : b.sameTime c = true) :
    a.sameTime c = true := by
  obtain ⟨s, n, t, m, ha, hb, hs, hn⟩ := sameTime_iff.mp hab
  obtain ⟨t', m', u, o, hb', hc, ht, hm⟩ := sameTime_iff.mp hbc
  obtain ⟨rfl, rfl⟩ : t = t' ∧ m = m' := Prod.mk.inj (Option.some.inj (hb.symm.trans hb'))
  exact sameTime_iff.mpr ⟨s, n, u, o, ha, hc, hs.trans ht, hn.trans hm⟩

/-- Values with the same text. -/
theorem sameText_iff {a b : Value} :
    a.sameText b = true ↔ ∃ s, a.shown = .ok s ∧ b.shown = .ok s := by
  unfold sameText
  constructor
  · intro h
    split at h
    · rename_i s t ha hb
      exact ⟨s, ha, by rw [eq_of_beq h, hb]⟩
    · cases h
  · rintro ⟨s, ha, hb⟩
    rw [ha, hb]
    exact beq_self_eq_true s

/-- Values have the same text in either order. -/
theorem sameText_symm {a b : Value} (h : a.sameText b = true) : b.sameText a = true := by
  obtain ⟨s, ha, hb⟩ := sameText_iff.mp h
  exact sameText_iff.mpr ⟨s, hb, ha⟩

/-- Two values with the text of a third one have the same. -/
theorem sameText_trans {a b c : Value} (hab : a.sameText b = true) (hbc : b.sameText c = true) :
    a.sameText c = true := by
  obtain ⟨s, ha, hb⟩ := sameText_iff.mp hab
  obtain ⟨t, hb', hc⟩ := sameText_iff.mp hbc
  obtain rfl : s = t := Except.ok.inj (hb.symm.trans hb')
  exact sameText_iff.mpr ⟨s, ha, hc⟩

/-- Values that agree are one object or equal. -/
theorem agreesAs_iff {hashed : Bool} {a b : Value} :
    a.agreesAs hashed b = true ↔ a.isSameObject b = true ∨ a.equalAs hashed b = true :=
  Bool.or_eq_true_iff

/-- An object is the same in either order. -/
theorem isSameObject_symm {a b : Value} (h : a.isSameObject b = true) : b.isSameObject a = true := by
  unfold isSameObject at h
  split at h
  · exact beq_iff_eq.mpr (eq_of_beq h).symm
  · exact beq_iff_eq.mpr (eq_of_beq h).symm
  · exact beq_iff_eq.mpr (eq_of_beq h).symm
  · cases h

/-- Numbers and points in time have no parts on which it depends whether they are equal. -/
theorem equalAs_trans_or {hashed : Bool} {a b c : Value} (hab : a.equalAs hashed b = true)
    (hbc : b.equalAs hashed c = true) :
    a.equalAs hashed c = true ∨ Alike hashed a b ∧ Alike hashed b c := by
  rcases equalAs_iff.mp hab with hab | hab | hab
  · obtain ⟨x, y, -, hy, -⟩ := sameAmount_iff.mp hab
    rcases equalAs_iff.mp hbc with hbc | hbc | hbc
    · exact .inl (equalAs_iff.mpr (.inl (sameAmount_trans hab hbc)))
    · obtain ⟨s, n, t, m, hb, -⟩ := sameTime_iff.mp hbc
      rw [quantity?_eq_none_of_timeFields? hb] at hy
      cases hy
    · rw [hbc.others.1.1] at hy
      cases hy
  · obtain ⟨s, n, t, m, -, hb, -⟩ := sameTime_iff.mp hab
    rcases equalAs_iff.mp hbc with hbc | hbc | hbc
    · obtain ⟨x, y, hx, -⟩ := sameAmount_iff.mp hbc
      rw [quantity?_eq_none_of_timeFields? hb] at hx
      cases hx
    · exact .inl (equalAs_iff.mpr (.inr (.inl (sameTime_trans hab hbc))))
    · rw [hbc.others.1.2] at hb
      cases hb
  · rcases equalAs_iff.mp hbc with hbc | hbc | hbc
    · obtain ⟨x, y, hx, -⟩ := sameAmount_iff.mp hbc
      rw [hab.others.2.1] at hx
      cases hx
    · obtain ⟨s, n, t, m, hb, -⟩ := sameTime_iff.mp hbc
      rw [hab.others.2.2] at hb
      cases hb
    · exact .inr ⟨hab, hbc⟩

end Value

/-! ## From the parts to the whole -/

namespace Value

/-- Equality and agreement go from the first values by way of the second ones to the third ones. -/
structure Passes (xs ys zs : List Value) : Prop where
  /-- Equality does. -/
  equal : ∀ {hashed : Bool} {x y z : Value}, x ∈ xs → y ∈ ys → z ∈ zs →
    x.equalAs hashed y = true → y.equalAs hashed z = true → x.equalAs hashed z = true
  /-- Agreement does. -/
  agrees : ∀ {hashed : Bool} {x y z : Value}, x ∈ xs → y ∈ ys → z ∈ zs →
    x.agreesAs hashed y = true → y.agreesAs hashed z = true → x.agreesAs hashed z = true

/-- Equality and agreement of the first values with the second ones can be turned round. -/
structure Turns (xs ys : List Value) : Prop where
  /-- Equality can. -/
  equal : ∀ {hashed : Bool} {x y : Value}, x ∈ xs → y ∈ ys → x.equalAs hashed y = true →
    y.equalAs hashed x = true
  /-- Agreement can. -/
  agrees : ∀ {hashed : Bool} {x y : Value}, x ∈ xs → y ∈ ys → x.agreesAs hashed y = true →
    y.agreesAs hashed x = true

/-- Where it goes from item to item, lists agree. -/
theorem Passes.allAgree {as bs cs : List Value} (h : Passes as bs cs) {hashed : Bool}
    (hab : allAgree hashed as bs = true) (hbc : allAgree hashed bs cs = true) :
    Value.allAgree hashed as cs = true := by
  refine allAgree_iff.mpr (forall₂_trans_of_mem (allAgree_iff.mp hab) (allAgree_iff.mp hbc) ?_)
  exact fun x hx y hy z hz => h.agrees hx hy hz

/-- Where it goes from key to key and from value to value, entries are found. -/
theorem Passes.allFound {as bs cs : Entries} (h : Passes as.parts bs.parts cs.parts) {byText : Bool}
    (hab : allFound byText as bs = true) (hbc : allFound byText bs cs = true) :
    Value.allFound byText as cs = true := by
  refine allFound_iff.mpr fun x hx => ?_
  obtain ⟨y, hy, hxy⟩ := allFound_iff.mp hab x hx
  obtain ⟨z, hz, hyz⟩ := allFound_iff.mp hbc y hy
  obtain ⟨hxkey, hxvalue⟩ := mem_parts_of_mem hx
  obtain ⟨hykey, hyvalue⟩ := mem_parts_of_mem hy
  obtain ⟨hzkey, hzvalue⟩ := mem_parts_of_mem hz
  exact ⟨z, hz, h.agrees hxkey hykey hzkey hxy.key hyz.key,
    h.agrees hxvalue hyvalue hzvalue hxy.value hyz.value,
    fun htext => sameText_trans (hxy.text htext) (hyz.text htext)⟩

/-- Where it goes from part to part, forms are alike. -/
theorem Passes.form {f g k : Form} (h : Passes f.parts g.parts k.parts) {hashed : Bool}
    (hfg : f.Alike hashed g) (hgk : g.Alike hashed k) : f.Alike hashed k := by
  cases hfg with
  | stamper _ _ formula =>
    cases hgk with
    | stamper => exact .stamper _ _ formula
  | element value timestamp =>
    cases hgk with
    | element value' timestamp' =>
      have hvalue := h.equal (.head _) (.head _) (.head _) value value'
      have htimestamp := h.equal (.tail _ (.head _)) (.tail _ (.head _)) (.tail _ (.head _))
        timestamp timestamp'
      exact .element hvalue htimestamp
  | configuration _ _ size found =>
    cases hgk with
    | configuration _ _ size' found' =>
      exact .configuration _ _ (size.trans size') (Passes.allFound h found found')
  | boundedInput => exact hgk
  | unboundedInput _ stamper time =>
    cases hgk with
    | unboundedInput _ stamper' time' =>
      have hstamper := h.agrees (.head _) (.head _) (.head _) stamper stamper'
      have htime := h.agrees (.tail _ (.head _)) (.tail _ (.head _)) (.tail _ (.head _)) time time'
      exact .unboundedInput _ hstamper htime
  | range => exact hgk

/-- Where items can be turned round, lists agree either way. -/
theorem Turns.allAgree {as bs : List Value} (h : Turns as bs) {hashed : Bool}
    (hab : allAgree hashed as bs = true) : Value.allAgree hashed bs as = true := by
  refine allAgree_iff.mpr (forall₂_symm_of_mem (allAgree_iff.mp hab) ?_)
  exact fun x hx y hy => h.agrees hx hy

/-- Where keys and values can be turned round, entries of the same number are found either way, as
the keys of the first ones are distinct. -/
theorem Turns.allFound {as bs : Entries} (h : Turns as.parts bs.parts)
    (hpasses : Passes as.parts bs.parts as.parts) (hdistinct : as.Distinct) {byText : Bool}
    (size : as.length = bs.length) (hab : allFound byText as bs = true) :
    Value.allFound byText bs as = true := by
  -- Entries that are found in the same one have keys that match.
  have hapart : as.Pairwise fun entry entry' =>
      ∀ other, (other ∈ bs ∧ Found byText entry other) → ¬ (other ∈ bs ∧ Found byText entry' other) := by
    have hkeys : as.Pairwise fun entry entry' => entry.1.matchesKey entry'.1 = false :=
      List.pairwise_map.mp hdistinct
    refine hkeys.imp_of_mem ?_
    rintro entry entry' hentry hentry' hmiss other ⟨hother, hfound⟩ ⟨-, hfound'⟩
    obtain ⟨hkey, -⟩ := mem_parts_of_mem hentry
    obtain ⟨hkey', -⟩ := mem_parts_of_mem hentry'
    obtain ⟨hokey, -⟩ := mem_parts_of_mem hother
    have hhit : entry.1.agreesAs true entry'.1 = true :=
      hpasses.agrees hkey hokey hkey' hfound.key (h.agrees hkey' hokey hfound'.key)
    exact Bool.false_ne_true (hmiss.symm.trans hhit)
  have heach : ∀ entry ∈ as, ∃ other ∈ bs, other ∈ bs ∧ Found byText entry other := by
    intro entry hentry
    obtain ⟨other, hother, hfound⟩ := allFound_iff.mp hab entry hentry
    exact ⟨other, hother, hother, hfound⟩
  refine allFound_iff.mpr fun other hother => ?_
  obtain ⟨entry, hentry, -, hfound⟩ := exists_of_found (Nat.le_of_eq size.symm) heach hapart other hother
  obtain ⟨hkey, hvalue⟩ := mem_parts_of_mem hentry
  obtain ⟨hokey, hovalue⟩ := mem_parts_of_mem hother
  exact ⟨entry, hentry, h.agrees hkey hokey hfound.key, h.agrees hvalue hovalue hfound.value,
    fun htext => sameText_symm (hfound.text htext)⟩

/-- Where parts can be turned round, forms are alike either way, if the keys of a configuration are
distinct. -/
theorem Turns.form {f g : Form} (h : Turns f.parts g.parts)
    (hpasses : Passes f.parts g.parts f.parts)
    (hdistinct : ∀ place (entries : Entries), f = .configuration place entries → entries.Distinct)
    {hashed : Bool} (hfg : f.Alike hashed g) : g.Alike hashed f := by
  cases hfg with
  | stamper _ _ formula => exact .stamper _ _ formula
  | element value timestamp =>
    have hvalue := h.equal (.head _) (.head _) value
    have htimestamp := h.equal (.tail _ (.head _)) (.tail _ (.head _)) timestamp
    exact .element hvalue htimestamp
  | configuration _ _ size found =>
    exact .configuration _ _ size.symm
      (Turns.allFound h hpasses (hdistinct _ _ rfl) size found)
  | boundedInput count => exact .boundedInput count
  | unboundedInput _ stamper time =>
    have hstamper := h.agrees (.head _) (.head _) stamper
    have htime := h.agrees (.tail _ (.head _)) (.tail _ (.head _)) time
    exact .unboundedInput _ hstamper htime
  | range start stop => exact .range start stop

end Value

/-! ## The equivalence -/

namespace World

open Value

variable (world : World) {hashed : Bool}

/-- Each entry of a value that is there has its key and its value there. -/
theorem has_entry {value : Value} (h : world.has value) {entries : Entries}
    (hparts : value.parts = Entries.parts entries) {entry : Value × Value}
    (hentry : entry ∈ entries) : world.has entry.1 ∧ world.has entry.2 := by
  obtain ⟨hkey, hvalue⟩ := mem_parts_of_mem hentry
  rw [← hparts] at hkey hvalue
  exact ⟨world.parts h hkey, world.parts h hvalue⟩

/-- A value agrees with itself. -/
theorem agreesAs_refl {value : Value} (h : world.has value) : value.agreesAs hashed value = true := by
  induction value using partsInduction generalizing hashed with
  | made value ih =>
    have hitems : ∀ items, value.parts = items → allAgree hashed items items = true := by
      rintro items rfl
      exact allAgree_iff.mpr (List.forall₂_same.mpr fun item hitem =>
        ih item hitem (world.parts h hitem))
    have hentries : ∀ entries, value.parts = Entries.parts entries →
        allFound false entries entries = true := by
      intro entries hparts
      refine allFound_iff.mpr fun entry hentry => ⟨entry, hentry, ?_⟩
      obtain ⟨hkey, hvalue⟩ := mem_parts_of_mem hentry
      rw [← hparts] at hkey hvalue
      exact ⟨ih _ hkey (world.parts h hkey), ih _ hvalue (world.parts h hvalue), by simp⟩
    have halike : Alike hashed value value → value.agreesAs hashed value = true := fun halike =>
      agreesAs_iff.mpr (.inr (equalAs_iff.mpr (.inr (.inr halike))))
    have hamount : ∀ x, value.quantity? = some x → x ≠ .undefined →
        value.agreesAs hashed value = true := by
      intro x hx hdefined
      refine agreesAs_iff.mpr (.inr (equalAs_iff.mpr (.inl ?_)))
      exact sameAmount_iff.mpr ⟨x, x, hx, hx, .refl hdefined⟩
    cases value with
    | null => exact halike .null
    | bool b => exact hamount _ rfl (by simp [Number.Quantity.ofInt])
    | int n => exact hamount _ rfl (by simp [Number.Quantity.ofInt])
    | float x => exact hamount _ rfl (world.defined h)
    | text s => exact halike (.text s)
    | bytes bs => exact halike (.bytes bs)
    | list items => exact halike (.list (hitems items rfl))
    | tuple items => exact halike (.tuple (hitems items rfl))
    | dict entries => exact halike (.dict rfl (hentries entries rfl))
    | duration d => exact halike (.duration d)
    | span s => exact halike (.span s)
    | instant i => exact agreesAs_iff.mpr (.inr (equalAs_iff.mpr (.inr (.inl
        (sameTime_instant.mpr rfl)))))
    | nan mark | moment _ mark | object mark _ =>
      -- A container recognises these by their marks.
      exact agreesAs_iff.mpr (.inl (beq_self_eq_true mark))

/-- Where equality goes from one value to the next, agreement does. -/
theorem agreesAs_trans_of {a b c : Value} (ha : world.has a) (hb : world.has b) (hc : world.has c)
    (hequal : a.equalAs hashed b = true → b.equalAs hashed c = true → a.equalAs hashed c = true)
    (hab : a.agreesAs hashed b = true) (hbc : b.agreesAs hashed c = true) :
    a.agreesAs hashed c = true := by
  rcases agreesAs_iff.mp hab with hsame | heq
  · rw [world.one ha hb hsame]
    exact hbc
  · rcases agreesAs_iff.mp hbc with hsame | heq'
    · rw [← world.one hb hc hsame]
      exact hab
    · exact agreesAs_iff.mpr (.inr (hequal heq heq'))

/-- Where equality can be turned round, agreement can. -/
theorem agreesAs_symm_of {a b : Value}
    (hequal : a.equalAs hashed b = true → b.equalAs hashed a = true)
    (h : a.agreesAs hashed b = true) : b.agreesAs hashed a = true := by
  rcases agreesAs_iff.mp h with hsame | heq
  · exact agreesAs_iff.mpr (.inl (isSameObject_symm hsame))
  · exact agreesAs_iff.mpr (.inr (hequal heq))

/-- Where equality goes from the parts of a value on, agreement does too. -/
theorem passes_of {xs ys zs : List Value} (hxs : ∀ x ∈ xs, world.has x)
    (hys : ∀ y ∈ ys, world.has y) (hzs : ∀ z ∈ zs, world.has z)
    (hequal : ∀ {hashed : Bool} {x y z : Value}, x ∈ xs → y ∈ ys → z ∈ zs →
      x.equalAs hashed y = true → y.equalAs hashed z = true → x.equalAs hashed z = true) :
    Passes xs ys zs where
  equal := hequal
  agrees hx hy hz := world.agreesAs_trans_of (hxs _ hx) (hys _ hy) (hzs _ hz) (hequal hx hy hz)

/-- Equality goes from one value to the next. -/
theorem equalAs_trans {a b c : Value} (ha : world.has a) (hb : world.has b) (hc : world.has c)
    (hab : a.equalAs hashed b = true) (hbc : b.equalAs hashed c = true) :
    a.equalAs hashed c = true := by
  induction a using partsInduction generalizing hashed b c with
  | made a ih =>
    have hpasses : Passes a.parts b.parts c.parts :=
      world.passes_of (fun _ => world.parts ha) (fun _ => world.parts hb) (fun _ => world.parts hc)
        fun hx hy hz => ih _ hx (world.parts ha hx) (world.parts hb hy) (world.parts hc hz)
    have halike {x z : Value} (h : Alike hashed x z) : x.equalAs hashed z = true :=
      equalAs_iff.mpr (.inr (.inr h))
    rcases equalAs_trans_or hab hbc with hac | ⟨hab', hbc'⟩
    · exact hac
    · cases hab' with
      | null | text | bytes | duration | span => exact hbc
      | list items =>
        cases hbc' with
        | list items' => exact halike (.list (hpasses.allAgree items items'))
      | tuple items =>
        cases hbc' with
        | tuple items' => exact halike (.tuple (hpasses.allAgree items items'))
      | dict size found =>
        cases hbc' with
        | dict size' found' =>
          exact halike (.dict (size.trans size') (Passes.allFound hpasses found found'))
      | unique mark _ =>
        -- The mark belongs to one object, so that the first two values are the same.
        rw [world.one ha hb (beq_self_eq_true mark)]
        exact hbc
      | object forms =>
        cases hbc' with
        | unique =>
          rw [← world.one hb hc (beq_self_eq_true _)]
          exact hab
        | object forms' => exact halike (.object (hpasses.form forms forms'))

/-- Values are equal in either order. -/
theorem equalAs_symm {a b : Value} (ha : world.has a) (hb : world.has b)
    (h : a.equalAs hashed b = true) : b.equalAs hashed a = true := by
  induction a using partsInduction generalizing hashed b with
  | made a ih =>
    have hequal : ∀ {hashed : Bool} {x y : Value}, x ∈ a.parts → y ∈ b.parts →
        x.equalAs hashed y = true → y.equalAs hashed x = true := fun hx hy =>
      ih _ hx (world.parts ha hx) (world.parts hb hy)
    have hturns : Turns a.parts b.parts := ⟨hequal, fun hx hy => agreesAs_symm_of (hequal hx hy)⟩
    have hpasses : Passes a.parts b.parts a.parts :=
      world.passes_of (fun _ => world.parts ha) (fun _ => world.parts hb) (fun _ => world.parts ha)
        fun hx hy hz => world.equalAs_trans (world.parts ha hx) (world.parts hb hy)
          (world.parts ha hz)
    have halike {x y : Value} (h : Alike hashed y x) : y.equalAs hashed x = true :=
      equalAs_iff.mpr (.inr (.inr h))
    rcases equalAs_iff.mp h with hamount | htime | halike'
    · exact equalAs_iff.mpr (.inl (sameAmount_symm hamount))
    · exact equalAs_iff.mpr (.inr (.inl (sameTime_symm htime)))
    · cases halike' with
      | null | text | bytes | duration | span => exact h
      | list items => exact halike (.list (hturns.allAgree items))
      | tuple items => exact halike (.tuple (hturns.allAgree items))
      | dict size found =>
        exact halike (.dict size.symm
          (Turns.allFound hturns hpasses (world.distinct ha) size found))
      | unique mark _ =>
        obtain ⟨-, rfl⟩ := object.inj (world.one ha hb (beq_self_eq_true mark))
        exact h
      | object forms =>
        refine halike (.object (hturns.form hpasses ?_ forms))
        rintro place entries rfl
        exact world.distinct ha

/-- A value agrees with those that agree with it. -/
theorem agreesAs_symm {a b : Value} (ha : world.has a) (hb : world.has b)
    (h : a.agreesAs hashed b = true) : b.agreesAs hashed a = true :=
  agreesAs_symm_of (world.equalAs_symm ha hb) h

/-- Agreement goes from one value to the next. -/
theorem agreesAs_trans {a b c : Value} (ha : world.has a) (hb : world.has b) (hc : world.has c)
    (hab : a.agreesAs hashed b = true) (hbc : b.agreesAs hashed c = true) :
    a.agreesAs hashed c = true :=
  world.agreesAs_trans_of ha hb hc (world.equalAs_trans ha hb hc) hab hbc

end World

/-! ## Plain data -/

/-- Plain data: nothing in it has a mark, its floats are numbers, and the keys of its mappings are
distinct. -/
inductive Value.Data : Value → Prop
  | made {value : Value} (parts : ∀ part ∈ value.parts, Data part)
      (unmarked : value.isSameObject value = false)
      (defined : ∀ x, value = .float x → Number.Quantity.ofFloat x ≠ .undefined)
      (distinct : value.ownEntries.Distinct) : Data value

namespace Value

/-- A value without parts and without a mark is plain data, unless it is a float. -/
theorem data_of_parts_eq_nil {value : Value} (hparts : value.parts = [])
    (hentries : value.ownEntries = []) (unmarked : value.isSameObject value = false)
    (hfloat : ∀ x, value ≠ .float x) : value.Data := by
  refine .made ?_ unmarked (fun x hx => absurd hx (hfloat x)) ?_
  · rw [hparts]
    exact fun part hpart => absurd hpart List.not_mem_nil
  · rw [hentries]
    exact List.Pairwise.nil

/-- A text is plain data. -/
theorem data_text (s : String) : (text s).Data :=
  data_of_parts_eq_nil rfl rfl rfl (by rintro x ⟨⟩)

/-- An integer is plain data. -/
theorem data_int (n : Int) : (int n).Data :=
  data_of_parts_eq_nil rfl rfl rfl (by rintro x ⟨⟩)

/-- A truth value is plain data. -/
theorem data_bool (b : Bool) : (bool b).Data :=
  data_of_parts_eq_nil rfl rfl rfl (by rintro x ⟨⟩)

/-- A mapping with distinct keys is plain data if its keys and values are. -/
theorem data_dict {entries : Entries} (h : ∀ entry ∈ entries, entry.1.Data ∧ entry.2.Data)
    (hdistinct : entries.Distinct) : (dict entries).Data := by
  refine .made (fun part hpart => ?_) rfl (by rintro x ⟨⟩) hdistinct
  obtain ⟨entry, hentry, hpart⟩ := List.mem_flatMap.mp hpart
  obtain ⟨hkey, hvalue⟩ := h entry hentry
  rcases List.mem_pair.mp hpart with rfl | rfl
  · exact hkey
  · exact hvalue

end Value

/-- All plain data is there in one world. -/
def World.data : World where
  has := Value.Data
  parts hvalue hpart := by
    cases hvalue with
    | made parts _ _ _ => exact parts _ hpart
  one {a b} ha _ hsame := by
    -- Nothing that has no mark is one object with anything.
    have hmark : a.isSameObject a = true := by
      unfold Value.isSameObject at hsame
      split at hsame
      · exact beq_self_eq_true _
      · exact beq_self_eq_true _
      · exact beq_self_eq_true _
      · cases hsame
    cases ha with
    | made _ unmarked _ _ =>
      rw [unmarked] at hmark
      cases hmark
  defined {x} hx := by
    cases hx with
    | made _ _ defined _ => exact defined x rfl
  distinct hvalue := by
    cases hvalue with
    | made _ _ _ distinct => exact distinct

end NumberFeed
