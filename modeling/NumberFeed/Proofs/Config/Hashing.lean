import NumberFeed.Proofs.Config.Rebuilt

/-!
# Equality and hashes of configurations

Configurations are equal if they store equal values under the same keys, in whatever order, but the
hash of a configuration is made of the texts of its values. So equal configurations have one hash
just when equal values in them have the same text (`Configuration.sameHash_iff`), and not all equal
values do: `1` and `True` are equal. `Configuration.hash_law` says when they do: whenever the values
are of kinds in which a value is equal only to itself (`Value.Exact`), as all values are that are set
through settings, and whenever one configuration has the entries of the other one.
-/

namespace NumberFeed

namespace Value

/-! ## Values that are equal only to themselves -/

/-- Whether a value is of a kind that shares no equal values with other kinds, and in which equal
values are the same if their parts are. Numbers of different types may be equal, and so may points in
time; mappings are equal in any order. -/
def isExactKind : Value → Bool
  | null | int _ | text _ | bytes _ | list _ | tuple _ | duration _ | span _ | instant _ => true
  | bool _ | float _ | nan _ | dict _ | moment _ _ | object _ _ => false

/-- Values of such kinds, down to their parts. -/
inductive Exact : Value → Prop
  | made {value : Value} (parts : ∀ part ∈ value.parts, Exact part)
      (kind : value.isExactKind = true) : Exact value

/-- A value of such a kind has no mark. -/
theorem isSameObject_of_isExactKind {a b : Value} (h : a.isExactKind = true) :
    a.isSameObject b = false := by
  cases a with
  | bool | float | nan | dict | moment | object => cases h
  | null | int | text | bytes | list | tuple | duration | span | instant => rfl

/-- A number of such a kind is an integer. -/
theorem eq_int_of_isExactKind {value : Value} (h : value.isExactKind = true)
    {x : Number.Quantity} (hx : value.quantity? = some x) :
    ∃ n, value = .int n ∧ x = .ofInt n := by
  cases value with
  | int n => exact ⟨n, rfl, (Option.some.inj hx).symm⟩
  | bool | float | nan | dict | moment | object => cases h
  | null | text | bytes | list | tuple | duration | span | instant => cases hx

/-- A point in time of such a kind is an instant. -/
theorem eq_instant_of_isExactKind {value : Value} (h : value.isExactKind = true)
    {fields : Number.Quantity × Number.Quantity} (hfields : value.timeFields? = some fields) :
    ∃ i, value = .instant i := by
  cases value with
  | instant i => exact ⟨i, rfl⟩
  | bool | float | nan | dict | moment | object => cases h
  | null | int | text | bytes | list | tuple | duration | span => cases hfields

/-- Such values are equal only if they are the same. -/
theorem Exact.eq_of_equalAs {hashed : Bool} {a b : Value} (ha : a.Exact) (hb : b.Exact)
    (h : a.equalAs hashed b = true) : a = b := by
  induction a using partsInduction generalizing b with
  | made a ih =>
    obtain ⟨haparts, hakind⟩ := ha
    obtain ⟨hbparts, hbkind⟩ := hb
    have hitems : ∀ {as bs : List Value}, a.parts = as → b.parts = bs →
        allAgree hashed as bs = true → as = bs := by
      rintro as bs rfl rfl hagree
      have hturned : List.Forall₂ (fun y x => y = x) b.parts a.parts := by
        refine forall₂_symm_of_mem (allAgree_iff.mp hagree) fun x hx y hy hxy => ?_
        rcases agreesAs_iff.mp hxy with hsame | hequal
        · cases haparts x hx with
          | made _ kind =>
            rw [isSameObject_of_isExactKind kind] at hsame
            cases hsame
        · exact (ih x hx (haparts x hx) (hbparts y hy) hequal).symm
      exact (List.forall₂_eq_eq_eq ▸ hturned : b.parts = a.parts).symm
    rcases equalAs_iff.mp h with hamount | htime | halike
    · obtain ⟨x, y, hx, hy, hsame⟩ := sameAmount_iff.mp hamount
      obtain ⟨n, rfl, rfl⟩ := eq_int_of_isExactKind hakind hx
      obtain ⟨m, rfl, rfl⟩ := eq_int_of_isExactKind hbkind hy
      rw [Number.Quantity.same_ofInt.mp hsame]
    · obtain ⟨s, n, t, m, hx, hy, -⟩ := sameTime_iff.mp htime
      obtain ⟨i, rfl⟩ := eq_instant_of_isExactKind hakind hx
      obtain ⟨j, rfl⟩ := eq_instant_of_isExactKind hbkind hy
      rw [sameTime_instant.mp htime]
    · cases halike with
      | null | text | bytes | duration | span => rfl
      | @list as bs items =>
        have hsame : as = bs := hitems rfl rfl items
        rw [hsame]
      | @tuple as bs items =>
        have hsame : as = bs := hitems rfl rfl items
        rw [hsame]
      | dict | unique | object => cases hakind

/-- They agree only if they are the same, too. -/
theorem Exact.eq_of_agreesAs {hashed : Bool} {a b : Value} (ha : a.Exact) (hb : b.Exact)
    (h : a.agreesAs hashed b = true) : a = b := by
  rcases agreesAs_iff.mp h with hsame | hequal
  · obtain ⟨-, hkind⟩ := ha
    rw [isSameObject_of_isExactKind hkind] at hsame
    cases hsame
  · exact ha.eq_of_equalAs hb hequal

/-- Texts agree only if they are the same. -/
theorem agreesAs_text {hashed : Bool} {s t : String} :
    (text s).agreesAs hashed (text t) = true ↔ s = t := by
  simp [agreesAs, isSameObject, equalAs]

end Value

/-- A value that has the type of a setting is equal only to itself among such values. -/
theorem SettingType.Has.exact {type : SettingType} {value : Value} (h : type.Has value) :
    value.Exact := by
  cases type with
  | integer =>
    obtain ⟨n, rfl⟩ := h
    exact .made (fun part hpart => absurd hpart List.not_mem_nil) rfl
  | duration =>
    obtain ⟨d, rfl⟩ := h
    exact .made (fun part hpart => absurd hpart List.not_mem_nil) rfl

/-- A mapping that is there has its keys and its values there, and its keys are distinct. -/
theorem World.has_dict (world : World) {entries : Entries} (h : world.has (.dict entries)) :
    world.HasKeys entries ∧ (∀ entry ∈ entries, world.has entry.1 ∧ world.has entry.2) ∧
      entries.Distinct := by
  have hentries : ∀ entry ∈ entries, world.has entry.1 ∧ world.has entry.2 := fun entry hentry =>
    world.has_entry h rfl hentry
  refine ⟨fun key hkey => ?_, hentries, world.distinct h⟩
  obtain ⟨entry, hentry, rfl⟩ := List.mem_map.mp hkey
  exact (hentries entry hentry).1

namespace Configuration

section Hash

variable {world : World} {a b : Configuration} {textsA textsB : Entries}

/-- Configurations are equal if they have as many entries, each of which is found in the other one. -/
theorem equal_iff : a.equal b = true ↔ a.entries.length = b.entries.length ∧
    ∀ entry ∈ a.entries, ∃ other ∈ b.entries, Value.Found false entry other := by
  have hequal : a.equal b =
      (a.entries.length == b.entries.length && Value.allFound false a.entries b.entries) := rfl
  rw [hequal, Bool.and_eq_true, beq_iff_eq, Value.allFound_iff]

/-- Where there are texts, hashes are compared by comparing these. -/
theorem sameHash_eq (ha : a.toTexts = .ok textsA) (hb : b.toTexts = .ok textsB) :
    a.sameHash b = .ok ((Value.dict textsA).equal (.dict textsB)) := by
  rw [sameHash, ha, hb]
  rfl

/-- Values under keys that match have the same text. -/
def SameTexts (a b : Configuration) : Prop :=
  ∀ entry ∈ a.entries, ∀ other ∈ b.entries, entry.1.matchesKey other.1 = true →
    entry.2.sameText other.2 = true

/-- A key is found in one entry at most, so that the value that is found is settled. -/
theorem snd_eq_of_matchesKey (hb : world.has (.dict b.entries)) {key : Value}
    (hkey : world.has key) {entry other : Value × Value} (hentry : entry ∈ b.entries)
    (hother : other ∈ b.entries) (hmatch : key.matchesKey entry.1 = true)
    (hmatch' : key.matchesKey other.1 = true) : entry.2 = other.2 := by
  obtain ⟨hkeys, hhas, hdistinct⟩ := world.has_dict hb
  have hfound : b.entries.get? key = some entry.2 := by
    rw [world.matchesKey_comm hkey (hhas entry hentry).1] at hmatch
    exact Entries.get?_of_mem hdistinct hkeys hkey hentry hmatch
  have hfound' : b.entries.get? key = some other.2 := by
    rw [world.matchesKey_comm hkey (hhas other hother).1] at hmatch'
    exact Entries.get?_of_mem hdistinct hkeys hkey hother hmatch'
  exact Option.some.inj (hfound.symm.trans hfound')

/-- In equal configurations values under matching keys agree. -/
theorem agreesAs_of_matchesKey (ha : world.has (.dict a.entries)) (hb : world.has (.dict b.entries))
    (hequal : a.equal b = true) {entry other : Value × Value} (hentry : entry ∈ a.entries)
    (hother : other ∈ b.entries) (hmatch : entry.1.matchesKey other.1 = true) :
    entry.2.agreesAs false other.2 = true := by
  obtain ⟨-, hfound⟩ := equal_iff.mp hequal
  obtain ⟨other', hother', hfoundOther⟩ := hfound entry hentry
  have hvalue : other.2 = other'.2 :=
    snd_eq_of_matchesKey hb ((world.has_dict ha).2.1 entry hentry).1 hother hother' hmatch
      hfoundOther.key
  rw [hvalue]
  exact hfoundOther.value

/-- Equal configurations have one hash just when values under matching keys have the same text. -/
theorem sameHash_iff (ha : world.has (.dict a.entries)) (hb : world.has (.dict b.entries))
    (hequal : a.equal b = true) (htextsA : a.toTexts = .ok textsA)
    (htextsB : b.toTexts = .ok textsB) : a.sameHash b = .ok true ↔ SameTexts a b := by
  obtain ⟨hlength, hfound⟩ := equal_iff.mp hequal
  have htoldA : a.entries.Told textsA := toTexts_eq_ok_iff.mp htextsA
  have htoldB : b.entries.Told textsB := toTexts_eq_ok_iff.mp htextsB
  have hsize : textsA.length = textsB.length := by
    rw [← htoldA.length_eq, ← htoldB.length_eq, hlength]
  have hhash : a.sameHash b = .ok true ↔
      ∀ text ∈ textsA, ∃ other ∈ textsB, Value.Found false text other := by
    have hdict : (Value.dict textsA).equal (.dict textsB) =
        (textsA.length == textsB.length && Value.allFound false textsA textsB) := rfl
    rw [sameHash_eq htextsA htextsB, Except.ok.injEq, hdict, Bool.and_eq_true, beq_iff_eq,
      Value.allFound_iff]
    exact and_iff_right hsize
  rw [hhash]
  constructor
  · intro hall entry hentry other hother hmatch
    obtain ⟨shown, hshown, htext⟩ := htoldA.exists_text hentry
    obtain ⟨text, htext', hfoundText⟩ := hall _ htext
    -- The text that is found is the text of the value under the same key.
    obtain ⟨other', hother', hkey, shown', hshown', htextEq⟩ := htoldB.exists_value htext'
    have hmatch' : entry.1.matchesKey other'.1 = true := by
      rw [← hkey]
      exact hfoundText.key
    have hsame : shown = shown' := by
      have hvalue := hfoundText.value
      rw [htextEq] at hvalue
      exact Value.agreesAs_text.mp hvalue
    have hvalue : other.2 = other'.2 :=
      snd_eq_of_matchesKey hb ((world.has_dict ha).2.1 entry hentry).1 hother hother' hmatch hmatch'
    rw [hvalue]
    exact Value.sameText_iff.mpr ⟨shown, hshown, by rw [hshown', hsame]⟩
  · -- The entry that a text comes from is found in the other configuration, with its text.
    intro hsame text htext
    obtain ⟨entry, hentry, hkey, shown, hshown, htextEq⟩ := htoldA.exists_value htext
    obtain ⟨other, hother, hfoundOther⟩ := hfound entry hentry
    obtain ⟨shown', hshown', htext'⟩ := htoldB.exists_text hother
    obtain ⟨t, ht, ht'⟩ := Value.sameText_iff.mp (hsame entry hentry other hother hfoundOther.key)
    have hshownEq : shown = shown' := by
      rw [← Except.ok.inj (ht.symm.trans hshown), ← Except.ok.inj (ht'.symm.trans hshown')]
    refine ⟨_, htext', ?_, ?_, ?_⟩
    · rw [hkey]
      exact hfoundOther.key
    · rw [htextEq]
      exact Value.agreesAs_text.mpr hshownEq
    · rintro ⟨⟩

/-- Equal configurations are one member of a set just when they have one hash. -/
theorem formsEqual_iff_sameHash (ha : world.has (.dict a.entries))
    (hb : world.has (.dict b.entries)) (htextsA : a.toTexts = .ok textsA)
    (htextsB : b.toTexts = .ok textsB) (place place' : Nat) :
    Value.formsEqual true (.configuration place a.entries) (.configuration place' b.entries) = true ↔
      a.equal b = true ∧ a.sameHash b = .ok true := by
  have hforms : Value.formsEqual true (.configuration place a.entries)
      (.configuration place' b.entries) =
        (a.entries.length == b.entries.length && Value.allFound true a.entries b.entries) := rfl
  rw [hforms, Bool.and_eq_true, beq_iff_eq, Value.allFound_iff]
  constructor
  · -- What is found has the same text, and nothing else stands under its key.
    rintro ⟨hlength, hfound⟩
    have hequal : a.equal b = true := by
      refine equal_iff.mpr ⟨hlength, fun entry hentry => ?_⟩
      obtain ⟨other, hother, hkey, hvalue, -⟩ := hfound entry hentry
      exact ⟨other, hother, hkey, hvalue, by rintro ⟨⟩⟩
    refine ⟨hequal, (sameHash_iff ha hb hequal htextsA htextsB).mpr ?_⟩
    intro entry hentry other hother hmatch
    obtain ⟨other', hother', hfoundOther⟩ := hfound entry hentry
    have hvalue : other.2 = other'.2 :=
      snd_eq_of_matchesKey hb ((world.has_dict ha).2.1 entry hentry).1 hother hother' hmatch
        hfoundOther.key
    rw [hvalue]
    exact hfoundOther.text rfl
  · rintro ⟨hequal, hhash⟩
    have hsame := (sameHash_iff ha hb hequal htextsA htextsB).mp hhash
    obtain ⟨hlength, hfound⟩ := equal_iff.mp hequal
    refine ⟨hlength, fun entry hentry => ?_⟩
    obtain ⟨other, hother, hkey, hvalue, -⟩ := hfound entry hentry
    exact ⟨other, hother, hkey, hvalue, fun _ => hsame entry hentry other hother hkey⟩

/-- Equal configurations have one hash if their values are equal only to themselves. -/
theorem sameHash_of_exact (ha : world.has (.dict a.entries)) (hb : world.has (.dict b.entries))
    (hexactA : ∀ entry ∈ a.entries, entry.2.Exact) (hexactB : ∀ entry ∈ b.entries, entry.2.Exact)
    (hequal : a.equal b = true) (htextsA : a.toTexts = .ok textsA)
    (htextsB : b.toTexts = .ok textsB) : a.sameHash b = .ok true := by
  refine (sameHash_iff ha hb hequal htextsA htextsB).mpr fun entry hentry other hother hmatch => ?_
  have hsame : entry.2 = other.2 :=
    (hexactA entry hentry).eq_of_agreesAs (hexactB other hother)
      (agreesAs_of_matchesKey ha hb hequal hentry hother hmatch)
  have htoldA : a.entries.Told textsA := toTexts_eq_ok_iff.mp htextsA
  obtain ⟨shown, hshown, -⟩ := htoldA.exists_text hentry
  rw [← hsame]
  exact Value.sameText_iff.mpr ⟨shown, hshown, hshown⟩

/-- A configuration is equal to one with the same entries in another order. -/
theorem equal_of_perm (ha : world.has (.dict a.entries)) (hperm : a.entries.Perm b.entries) :
    a.equal b = true := by
  obtain ⟨-, hhas, -⟩ := world.has_dict ha
  refine equal_iff.mpr ⟨hperm.length_eq, fun entry hentry => ?_⟩
  obtain ⟨hkey, hvalue⟩ := hhas entry hentry
  exact ⟨entry, hperm.mem_iff.mp hentry, world.agreesAs_refl hkey, world.agreesAs_refl hvalue,
    by rintro ⟨⟩⟩

/-- It has the same hash, too. -/
theorem sameHash_of_perm (ha : world.has (.dict a.entries)) (hb : world.has (.dict b.entries))
    (hperm : a.entries.Perm b.entries) (htextsA : a.toTexts = .ok textsA) :
    a.sameHash b = .ok true := by
  have htoldA : a.entries.Told textsA := toTexts_eq_ok_iff.mp htextsA
  obtain ⟨textsB, htoldB⟩ : ∃ textsB, b.entries.Told textsB :=
    Entries.exists_told_iff.mpr fun entry hentry =>
      Entries.exists_told_iff.mp ⟨textsA, htoldA⟩ entry (hperm.mem_iff.mpr hentry)
  have htextsB : b.toTexts = .ok textsB := toTexts_eq_ok_iff.mpr htoldB
  refine (sameHash_iff ha hb (equal_of_perm ha hperm) htextsA htextsB).mpr ?_
  intro entry hentry other hother hmatch
  obtain ⟨hkey, -⟩ := (world.has_dict ha).2.1 entry hentry
  have hvalue : other.2 = entry.2 :=
    snd_eq_of_matchesKey hb hkey hother (hperm.mem_iff.mp hentry) hmatch (world.matchesKey_refl hkey)
  obtain ⟨shown, hshown, -⟩ := htoldA.exists_text hentry
  rw [hvalue]
  exact Value.sameText_iff.mpr ⟨shown, hshown, hshown⟩

end Hash

/-! ## The law -/

/-- How the equality of two configurations goes with their hashes. -/
structure HashLaw (world : World) (a b : Configuration) : Prop where
  /-- As objects they are equal and have one hash just when they are and have as configurations. -/
  objects : ∀ mark mark' place place',
    let first := Value.object mark (.configuration place a.entries)
    let second := Value.object mark' (.configuration place' b.entries)
    first.equal second = a.equal b ∧ first.sameHash second = a.sameHash b
  /-- If all values have texts, there are hashes to compare. For equal configurations they are the same
  just when values under matching keys have the same text. -/
  settled : ∀ textsA textsB, a.toTexts = .ok textsA → b.toTexts = .ok textsB →
    (∃ same, a.sameHash b = .ok same) ∧
      (a.equal b = true → (a.sameHash b = .ok true ↔ SameTexts a b))
  /-- A set takes them for one member just when they are equal and have one hash. -/
  member : ∀ textsA textsB, a.toTexts = .ok textsA → b.toTexts = .ok textsB →
    ∀ mark mark' place place', mark ≠ mark' →
      ((Value.object mark (.configuration place a.entries)).matchesKey
          (.object mark' (.configuration place' b.entries)) = true ↔
        a.equal b = true ∧ a.sameHash b = .ok true)
  /-- If they are equal and their values are equal only to themselves, they have one hash. -/
  exact : (∀ entry ∈ a.entries, entry.2.Exact) → (∀ entry ∈ b.entries, entry.2.Exact) →
    ∀ textsA textsB, a.toTexts = .ok textsA → b.toTexts = .ok textsB → a.equal b = true →
      a.sameHash b = .ok true
  /-- So they have if they are equal and were filled through settings. -/
  filled : ∀ callsA callsB, Options world callsA → empty.fill callsA = .ok a →
    Options world callsB → empty.fill callsB = .ok b →
    ∀ textsA textsB, a.toTexts = .ok textsA → b.toTexts = .ok textsB → a.equal b = true →
      a.sameHash b = .ok true
  /-- If one has the entries of the other one, in whatever order, as a copy has, then they are equal
  and have one hash. -/
  reordered : a.entries.Perm b.entries → a.equal b = true ∧
    ∀ textsA, a.toTexts = .ok textsA → a.sameHash b = .ok true

/-- The values of a configuration that is filled through settings are equal only to themselves. -/
theorem Filled.exact {world : World} {calls : List (Setting × Value)} {filled : Configuration}
    (h : Filled world calls filled) : ∀ entry ∈ filled.entries, entry.2.Exact := by
  intro entry hentry
  obtain ⟨type, htyped⟩ := h.typed entry hentry
  exact htyped.exact

/-- As objects configurations have one hash just when they have as such. -/
theorem sameHash_object (a b : Configuration) (mark mark' place place' : Nat) :
    (Value.object mark (.configuration place a.entries)).sameHash
        (.object mark' (.configuration place' b.entries)) = a.sameHash b := by
  have hfirst : (Value.object mark (.configuration place a.entries)).checkHash =
      a.toTexts.map fun _ => () := rfl
  have hsecond : (Value.object mark' (.configuration place' b.entries)).checkHash =
      b.toTexts.map fun _ => () := rfl
  have htextsA : Value.textEntries a.entries = a.toTexts := rfl
  have htextsB : Value.textEntries b.entries = b.toTexts := rfl
  unfold Value.sameHash sameHash
  rw [hfirst, hsecond]
  dsimp only
  rw [htextsA, htextsB]
  rcases a.toTexts with cause | textsA
  · rfl
  · rcases b.toTexts with cause | textsB
    · rfl
    · rfl

/-- Configurations of one world obey the law. -/
theorem hash_law {world : World} {a b : Configuration} (ha : world.has (.dict a.entries))
    (hb : world.has (.dict b.entries)) : HashLaw world a b := by
  refine ⟨?_, ?_, ?_, ?_, ?_, ?_⟩
  · intro mark mark' place place' first second
    exact ⟨rfl, sameHash_object a b mark mark' place place'⟩
  · intro textsA textsB htextsA htextsB
    refine ⟨⟨_, sameHash_eq htextsA htextsB⟩, fun hequal => ?_⟩
    exact sameHash_iff ha hb hequal htextsA htextsB
  · intro textsA textsB htextsA htextsB mark mark' place place' hmark
    rw [← formsEqual_iff_sameHash ha hb htextsA htextsB place place']
    have hobject : Value.isSameObject (.object mark (.configuration place a.entries))
        (.object mark' (.configuration place' b.entries)) = false := beq_false_of_ne hmark
    have hequal : Value.equalAs true (.object mark (.configuration place a.entries))
        (.object mark' (.configuration place' b.entries)) =
          Value.formsEqual true (.configuration place a.entries)
            (.configuration place' b.entries) := rfl
    rw [Value.matchesKey, hobject, Bool.false_or, hequal]
  · intro hexactA hexactB textsA textsB htextsA htextsB hequal
    exact sameHash_of_exact ha hb hexactA hexactB hequal htextsA htextsB
  · intro callsA callsB hcallsA hfillA hcallsB hfillB textsA textsB htextsA htextsB hequal
    exact sameHash_of_exact ha hb (filled_of_fill hcallsA hfillA).exact
      (filled_of_fill hcallsB hfillB).exact hequal htextsA htextsB
  · intro hperm
    exact ⟨equal_of_perm ha hperm, fun textsA htextsA => sameHash_of_perm ha hb hperm htextsA⟩

/-- The law holds of two configurations with the same entries in another order. -/
theorem hash_law_two :
    let a : Configuration := ⟨[(.text "k", .int 1), (.text "l", .int 2)]⟩
    let b : Configuration := ⟨[(.text "l", .int 2), (.text "k", .int 1)]⟩
    (World.data.has (.dict a.entries) ∧ World.data.has (.dict b.entries)) ∧
      HashLaw World.data a b := by
  intro a b
  have hdata : ∀ entry, entry = (Value.text "k", Value.int 1) ∨ entry = (.text "l", .int 2) →
      entry.1.Data ∧ entry.2.Data := by
    rintro entry (rfl | rfl)
    · exact ⟨Value.data_text "k", Value.data_int 1⟩
    · exact ⟨Value.data_text "l", Value.data_int 2⟩
  have ha : World.data.has (.dict a.entries) :=
    Value.data_dict (fun entry hentry => hdata entry (List.mem_pair.mp hentry))
      (List.pairwise_pair.mpr (by decide))
  have hb : World.data.has (.dict b.entries) :=
    Value.data_dict (fun entry hentry => hdata entry (List.mem_pair.mp hentry).symm)
      (List.pairwise_pair.mpr (by decide))
  exact ⟨⟨ha, hb⟩, hash_law ha hb⟩

/-- Not all equal configurations have one hash: one and a truth value are equal, but their texts are
not the same. -/
theorem one_and_true_differ :
    ¬ ∀ (a b : Configuration) (textsA textsB : Entries),
      World.data.has (.dict a.entries) → World.data.has (.dict b.entries) →
      a.toTexts = .ok textsA → b.toTexts = .ok textsB → a.equal b = true →
      a.sameHash b = .ok true := by
  intro hall
  have hdata : ∀ value : Value, value.Data → World.data.has (.dict [(.text "k", value)]) := by
    intro value hvalue
    refine Value.data_dict (fun entry hentry => ?_) (List.pairwise_singleton _ _)
    rw [List.mem_singleton.mp hentry]
    exact ⟨Value.data_text "k", hvalue⟩
  have hsame := hall ⟨[(.text "k", .int 1)]⟩ ⟨[(.text "k", .bool true)]⟩
    [(.text "k", .text "1")] [(.text "k", .text "True")] (hdata _ (Value.data_int 1))
    (hdata _ (Value.data_bool true)) rfl rfl (by decide)
  have hdiffer : sameHash ⟨[(.text "k", .int 1)]⟩ ⟨[(.text "k", .bool true)]⟩ = .ok false := rfl
  rw [hdiffer] at hsame
  cases hsame

end Configuration

end NumberFeed
