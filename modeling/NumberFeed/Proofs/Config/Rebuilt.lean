import NumberFeed.Proofs.Config.Texts
import NumberFeed.Proofs.Config.Typed
import NumberFeed.Proofs.Number.Printed

/-!
# Configurations rebuilt from their texts

A configuration that is filled by setting values stores integers and durations only. Its texts are
there if all these numbers can be written, and make up the data of a new configuration. An integer is
read back from its text, but a duration has a text that writes no duration: it tells the nanoseconds
within other words. `Configuration.rebuilding` says what the new configuration reads under each of
the settings.
-/

namespace NumberFeed

/-! ## What is read from a text -/

/-- The text of a duration is not read as one: it begins with a letter. -/
theorem Duration.ofText_written (duration : Duration) :
    Duration.ofText duration.written = .error (.refused (.notADuration duration.written)) := by
  refine ofText_of_not_spells fun parts hspells => ?_
  obtain ⟨rest, hwritten⟩ : ∃ rest, duration.written.toList = 'D' :: rest := by
    rw [written, String.append_assoc, String.toList_append]
    exact ⟨_, rfl⟩
  have hsplit : DurationText.split? ('D' :: rest) = some parts := by
    rw [← hwritten]
    exact hspells.split?_eq
  have hblank : Text.isBlank 'D' = false := by decide
  have hdigit : Text.isDigit 'D' = false := by decide
  rw [DurationText.split?, List.dropWhile_cons, hblank] at hsplit
  simp [hdigit] at hsplit

namespace Setting

variable {setting : Setting}

/-- An integer is converted back from its text. -/
theorem convert_shown_int (htype : setting.type = .integer) {n : Int} {shown : String}
    (h : (Value.int n).shown = .ok shown) : setting.convert (.text shown) = .ok (.int n) := by
  have hwrite : Number.write n = .ok shown := by
    rwa [Value.shown, Value.render] at h
  have hwritable : Number.Writable n := by
    by_contra hlong
    rw [Number.write_of_not_writable hlong] at hwrite
    cases hwrite
  rw [Number.write_of_writable hwritable] at hwrite
  have hread : Value.toInt (.text shown) = .ok n := by
    rw [← Except.ok.inj hwrite]
    exact Number.read_decimal hwritable
  have hinteger : toInteger (.text shown) = .ok n := by
    unfold toInteger
    dsimp only
    rw [hread]
    rfl
  rw [convert, htype]
  show (toInteger (.text shown)).map Value.int = _
  rw [hinteger]
  rfl

/-- A duration is refused when it is converted back from its text. -/
theorem convert_shown_duration (htype : setting.type = .duration) {d : Duration} {shown : String}
    (h : (Value.duration d).shown = .ok shown) :
    setting.convert (.text shown) = .error (.refused (.notADuration d.written)) := by
  have htext : d.text = .ok shown := by
    rwa [Value.shown, Value.render] at h
  have hwritten : d.written = shown := by
    unfold Duration.text at htext
    by_cases hwritable : Number.Writable d.nanos
    · rw [Number.write_of_writable hwritable] at htext
      exact Except.ok.inj htext
    · rw [Number.write_of_not_writable hwritable] at htext
      cases htext
  rw [convert, htype, ← hwritten]
  show (Duration.ofText d.written).map Value.duration = _
  rw [Duration.ofText_written]
  rfl

end Setting

namespace Entries

variable {entries : Entries}

/-- What is there after a key is put in has its value from before, or is the value put in. -/
theorem snd_of_mem_insert {key value : Value} {entry : Value × Value}
    (h : entry ∈ entries.insert key value) : entry.2 = value ∨ ∃ old ∈ entries, old.2 = entry.2 := by
  have hput := put_insert entries key value
  generalize entries.insert key value = result at h hput
  cases hput with
  | appended fresh =>
    rcases List.mem_append.mp h with hold | hnew
    · exact .inr ⟨entry, hold, rfl⟩
    · exact .inl (by rw [List.mem_singleton.mp hnew])
  | @overwritten before after found old split first hit =>
    rcases List.mem_append.mp h with hbefore | hrest
    · exact .inr ⟨entry, by simp [split, hbefore], rfl⟩
    · rcases List.mem_cons.mp hrest with rfl | hafter
      · exact .inl rfl
      · exact .inr ⟨entry, by simp [split, hafter], rfl⟩

end Entries

namespace Configuration

/-! ## Filling a configuration -/

/-- Sets values through settings one after the other, all of which has to be successful. -/
def fill (configuration : Configuration) (calls : List (Setting × Value)) :
    Except Failure Configuration :=
  calls.foldlM (fun configuration call => configuration.set call.1 call.2) configuration

/-- Settings of distinct keys, all of one world. -/
structure Options (world : World) (calls : List (Setting × Value)) : Prop where
  /-- The keys are in the world. -/
  keys : ∀ call ∈ calls, world.has call.1.key
  /-- Keys match only if the settings are the same. -/
  apart : ∀ call ∈ calls, ∀ other ∈ calls, call.1.key.matchesKey other.1.key = true →
    call.1 = other.1

/-- What holds of a configuration in which values have been set. -/
structure Filled (world : World) (calls : List (Setting × Value)) (configuration : Configuration) :
    Prop where
  /-- Its keys are distinct. -/
  distinct : configuration.entries.Distinct
  /-- They are in the world. -/
  keys : world.HasKeys configuration.entries
  /-- All values are integers or durations. -/
  typed : ∀ entry ∈ configuration.entries, ∃ type : SettingType, type.Has entry.2
  /-- Under the key of each setting there is a value of its type. -/
  found : ∀ call ∈ calls, call.1.key.checkHash = .ok () ∧
    ∃ typed, configuration.entries.get? call.1.key = some typed ∧ call.1.type.Has typed

section Fill

variable {world : World} {configuration changed : Configuration} {setting : Setting} {value : Value}

/-- One more value is set. -/
theorem Filled.set {calls : List (Setting × Value)} (h : Filled world calls configuration)
    (hcalls : Options world (calls ++ [(setting, value)]))
    (hset : configuration.set setting value = .ok changed) :
    Filled world (calls ++ [(setting, value)]) changed := by
  obtain ⟨hhash, typed, hconvert, rfl⟩ := set_eq_ok_iff.mp hset
  have htyped := Setting.has_of_convert hconvert
  have hmem : (setting, value) ∈ calls ++ [(setting, value)] := by simp
  have hkey : world.has setting.key := hcalls.keys _ hmem
  have hself : (configuration.entries.insert setting.key typed).get? setting.key = some typed :=
    Entries.get?_insert_self _ (world.matchesKey_refl hkey) typed
  refine ⟨h.distinct.insert _ _, h.keys.insert hkey _, ?_, ?_⟩
  · intro entry hentry
    rcases Entries.snd_of_mem_insert hentry with hnew | ⟨old, hold, hsnd⟩
    · exact ⟨setting.type, by rw [hnew]; exact htyped⟩
    · rw [← hsnd]
      exact h.typed old hold
  · intro call hcall
    by_cases hmatch : setting.key.matchesKey call.1.key = true
    · -- Settings with this key are the one that is set.
      have hsame : setting = call.1 := hcalls.apart _ hmem call hcall hmatch
      rw [← hsame]
      exact ⟨hhash, typed, hself, htyped⟩
    · have hbefore : call ∈ calls := by
        rcases List.mem_append.mp hcall with hbefore | hlast
        · exact hbefore
        · rw [List.mem_singleton.mp hlast] at hmatch
          exact absurd (world.matchesKey_refl hkey) hmatch
      obtain ⟨hhash', typed', hfound, htyped'⟩ := h.found call hbefore
      have hput := (Entries.put_insert configuration.entries setting.key typed).elsewhere h.keys
        hkey (hcalls.keys call hcall) (by simpa using hmatch)
      exact ⟨hhash', typed', by rw [hput.1]; exact hfound, htyped'⟩

/-- Any number of values are set. -/
theorem Filled.fill {before calls : List (Setting × Value)}
    (h : Filled world before configuration) (hcalls : Options world (before ++ calls))
    (hfill : configuration.fill calls = .ok changed) :
    Filled world (before ++ calls) changed := by
  unfold Configuration.fill at hfill
  induction calls generalizing before configuration with
  | nil =>
    rw [List.append_nil, ← Except.ok.inj hfill]
    exact h
  | cons call rest ih =>
    rw [List.foldlM_cons] at hfill
    rcases hset : configuration.set call.1 call.2 with cause | next
    · rw [hset] at hfill
      cases hfill
    · -- The first value is set, and the others are set from there on.
      rw [hset] at hfill
      have hsplit : before ++ call :: rest = before ++ [call] ++ rest := by simp
      rw [hsplit] at hcalls ⊢
      have hfirst : Options world (before ++ [call]) :=
        ⟨fun other hother => hcalls.keys other (List.mem_append_left _ hother),
          fun one hone other hother => hcalls.apart one (List.mem_append_left _ hone) other
            (List.mem_append_left _ hother)⟩
      exact ih (h.set hfirst hset) hcalls hfill

/-- A configuration that is filled from nothing. -/
theorem filled_of_fill {calls : List (Setting × Value)} (hcalls : Options world calls)
    (hfill : empty.fill calls = .ok changed) : Filled world calls changed := by
  have hempty : Filled world [] empty := by
    refine ⟨List.Pairwise.nil, ?_, ?_, ?_⟩
    · intro key hkey
      cases hkey
    · intro entry hentry
      cases hentry
    · intro call hcall
      cases hcall
  exact hempty.fill hcalls hfill

end Fill

/-! ## The law -/

/-- What a filled configuration reads, and one that is rebuilt from its texts. -/
structure Rebuilding (calls : List (Setting × Value)) (filled : Configuration) : Prop where
  /-- Under each setting a value of its type is read. -/
  reads : ∀ call ∈ calls, ∃ typed, filled.get call.1 = .ok typed ∧ call.1.type.Has typed
  /-- There are texts if all numbers can be written. -/
  texts : (∃ texts, filled.toTexts = .ok texts) ↔
    ∀ entry ∈ filled.entries, ∀ n ∈ entry.2.numbers, Number.Writable n
  /-- The texts are the entries of the rebuilt configuration, under the keys of the filled one. -/
  keys : ∀ texts, filled.toTexts = .ok texts →
    (make none texts).entries = texts ∧ texts.keys = filled.entries.keys
  /-- An integer is read back. -/
  integer : ∀ texts, filled.toTexts = .ok texts → ∀ call ∈ calls, call.1.type = .integer →
    (make none texts).get call.1 = filled.get call.1
  /-- No duration is: its text is refused. -/
  duration : ∀ texts, filled.toTexts = .ok texts → ∀ call ∈ calls, call.1.type = .duration →
    ∃ d, filled.get call.1 = .ok (.duration d) ∧
      (make none texts).get call.1 = .error (.refused (.notADuration d.written))

section Law

variable {world : World} {calls : List (Setting × Value)} {filled : Configuration}

/-- The value of a setting is stored, and read. -/
theorem Filled.get (h : Filled world calls filled) {call : Setting × Value} (hcall : call ∈ calls) :
    call.1.key.checkHash = .ok () ∧ ∃ typed, filled.entries.get? call.1.key = some typed ∧
      filled.get call.1 = .ok typed ∧ call.1.type.Has typed := by
  obtain ⟨hhash, typed, hfound, htyped⟩ := h.found call hcall
  exact ⟨hhash, typed, hfound, get_of_has hfound htyped hhash, htyped⟩

/-- The texts of a filled configuration make up a configuration. -/
theorem Filled.make_eq (h : Filled world calls filled) {texts : Entries}
    (htold : filled.entries.Told texts) : (make none texts).entries = texts := by
  have hdistinct : texts.Distinct := by
    rw [Entries.Distinct, htold.keys_eq]
    exact h.distinct
  exact Entries.overlay_nil_of_distinct hdistinct

/-- A configuration that is rebuilt converts the text of what the filled one reads. -/
theorem Filled.get_make (h : Filled world calls filled) {texts : Entries}
    (htold : filled.entries.Told texts) {call : Setting × Value} (hcall : call ∈ calls) :
    ∃ typed shown, filled.get call.1 = .ok typed ∧ call.1.type.Has typed ∧
      typed.shown = .ok shown ∧ (make none texts).get call.1 = call.1.convert (.text shown) := by
  obtain ⟨hhash, typed, hfound, hget, htyped⟩ := h.get hcall
  obtain ⟨shown, hshown, htext⟩ := htold.get?_eq hfound
  refine ⟨typed, shown, hget, htyped, hshown, ?_⟩
  rw [Configuration.get, hhash, h.make_eq htold, htext]
  rfl

/-- What is read of a configuration that is filled through settings of distinct keys, and of one that
is rebuilt from it. -/
theorem rebuilding (hcalls : Options world calls) (hfill : empty.fill calls = .ok filled) :
    Rebuilding calls filled := by
  have hfilled := filled_of_fill hcalls hfill
  refine ⟨?_, ?_, ?_, ?_, ?_⟩
  · intro call hcall
    obtain ⟨-, typed, -, hget, htyped⟩ := hfilled.get hcall
    exact ⟨typed, hget, htyped⟩
  · have htells : ∀ entry ∈ filled.entries,
        (∃ shown, entry.2.shown = .ok shown) ↔ ∀ n ∈ entry.2.numbers, Number.Writable n := by
      intro entry hentry
      obtain ⟨type, htyped⟩ := hfilled.typed entry hentry
      have hshown := Value.tells_shown htyped.isPlain
      refine ⟨?_, hshown.ok⟩
      rintro ⟨shown, hok⟩ n hn
      by_contra hlong
      rw [hshown.long n hn hlong] at hok
      cases hok
    calc (∃ texts, filled.toTexts = .ok texts)
        ↔ ∃ texts, filled.entries.Told texts := exists_congr fun _ => toTexts_eq_ok_iff
      _ ↔ ∀ entry ∈ filled.entries, ∃ shown, entry.2.shown = .ok shown := Entries.exists_told_iff
      _ ↔ _ := forall₂_congr htells
  · intro texts htexts
    have htold : filled.entries.Told texts := toTexts_eq_ok_iff.mp htexts
    exact ⟨hfilled.make_eq htold, htold.keys_eq⟩
  · intro texts htexts call hcall htype
    obtain ⟨typed, shown, hget, htyped, hshown, hmake⟩ :=
      hfilled.get_make (toTexts_eq_ok_iff.mp htexts) hcall
    rw [htype] at htyped
    obtain ⟨n, rfl⟩ := htyped
    rw [hmake, hget, Setting.convert_shown_int htype hshown]
  · intro texts htexts call hcall htype
    obtain ⟨typed, shown, hget, htyped, hshown, hmake⟩ :=
      hfilled.get_make (toTexts_eq_ok_iff.mp htexts) hcall
    rw [htype] at htyped
    obtain ⟨d, rfl⟩ := htyped
    exact ⟨d, hget, by rw [hmake, Setting.convert_shown_duration htype hshown]⟩

end Law

/-- The law holds of a configuration with a number of elements and a read time. -/
theorem rebuilding_two :
    let calls := [(Input.numElements, .int 3), (Input.maxReadTime, .text "10 s")]
    let filled : Configuration := ⟨[(Input.numElements.key, .int 3),
      (Input.maxReadTime.key, .duration ⟨10000000000⟩)]⟩
    (Options World.data calls ∧ empty.fill calls = .ok filled) ∧ Rebuilding calls filled := by
  intro calls filled
  have hcalls : Options World.data calls := by
    refine ⟨fun call hcall => ?_, fun call hcall other hother hmatch => ?_⟩
    · rcases List.mem_pair.mp hcall with rfl | rfl
      · exact Value.data_text _
      · exact Value.data_text _
    · rcases List.mem_pair.mp hcall with rfl | rfl <;> rcases List.mem_pair.mp hother with rfl | rfl
      · rfl
      · exact absurd hmatch (by decide)
      · exact absurd hmatch (by decide)
      · rfl
  have hfill : empty.fill calls = .ok filled := rfl
  exact ⟨⟨hcalls, hfill⟩, rebuilding hcalls hfill⟩

/-- Not every configuration that is filled through settings is read in the same way when it has been
rebuilt: a read time is not. -/
theorem read_time_not_rebuilt :
    ¬ ∀ (calls : List (Setting × Value)) (filled : Configuration) (texts : Entries),
      Options World.data calls → empty.fill calls = .ok filled → filled.toTexts = .ok texts →
      ∀ call ∈ calls, (make none texts).get call.1 = filled.get call.1 := by
  intro hall
  have hcalls : Options World.data [(Input.maxReadTime, .duration ⟨10000000000⟩)] := by
    refine ⟨fun call hcall => ?_, fun call hcall other hother _ => ?_⟩
    · rw [List.mem_singleton.mp hcall]
      exact Value.data_text _
    · rw [List.mem_singleton.mp hcall, List.mem_singleton.mp hother]
  have hsame := hall _ ⟨[(Input.maxReadTime.key, .duration ⟨10000000000⟩)]⟩
    [(Input.maxReadTime.key, .text "Duration<10000000000 ns>")] hcalls rfl rfl _ List.mem_cons_self
  have hread : (make none [(Input.maxReadTime.key, .text "Duration<10000000000 ns>")]).get
      Input.maxReadTime =
        .error (.refused (.notADuration "Duration<10000000000 ns>")) := rfl
  rw [hread] at hsame
  cases hsame

end Configuration

end NumberFeed
