import NumberFeed.Input
import NumberFeed.Proofs.Time.DurationText
import NumberFeed.Proofs.Value.ShownNumbers

/-!
# Conversions of raw values

A setting converts a raw value to its type or refuses it. There are failures beside the refusals, and
`Setting.Escape` lists them all: the text of the value is asked for, to be put into the message of
the refusal or to be read as a duration, and it may tell a number too long to be written; the message
has one place for one argument, and a tuple in it stands for its members; and a duration may be
written with too many digits. `Setting.conversion_law` says that plain data is converted, refused or
escapes in one of these ways, and what a configuration makes of that.
-/

namespace NumberFeed

/-- Only a refusal counts as an illegal argument. -/
theorem Failure.kind_eq_illegalArgument_iff {cause : Failure} :
    cause.kind = .illegalArgument ↔ ∃ reason, cause = .refused reason := by
  cases cause <;> simp [kind]

/-- A text that is read as a duration fails without being refused when it has too many digits, and
only then. -/
theorem Duration.ofText_escapes_iff {text : String} {cause : Failure} :
    ofText text = .error cause ∧ cause.kind ≠ .illegalArgument ↔
      cause = .tooManyDigits ∧
        ∃ parts, DurationText.Spells text.toList parts ∧
          Number.digitLimit < parts.digits.length := by
  constructor
  · rintro ⟨hfail, hkind⟩
    by_cases hspells : ∃ parts, DurationText.Spells text.toList parts
    · obtain ⟨parts, hspells⟩ := hspells
      by_cases hlong : Number.digitLimit < parts.digits.length
      · rw [ofText_of_long hspells hlong] at hfail
        exact ⟨(Except.error.inj hfail).symm, parts, hspells, hlong⟩
      · -- Digits that can be read make a duration, or the letters after them are refused.
        have hshort : parts.digits.length ≤ Number.digitLimit := by omega
        by_cases hletters : parts.letters = []
        · rw [ofText_of_bare hspells hshort hletters] at hfail
          cases hfail
        · by_cases hunit : ∃ unit : TimeUnit, parts.label ∈ unit.labels
          · obtain ⟨unit, hlabel⟩ := hunit
            rw [ofText_of_label hspells hshort hlabel] at hfail
            cases hfail
          · rw [ofText_of_unknown hspells hshort hletters (not_exists.mp hunit)] at hfail
            exact absurd (by rw [← Except.error.inj hfail]; rfl) hkind
    · rw [ofText_of_not_spells (not_exists.mp hspells)] at hfail
      exact absurd (by rw [← Except.error.inj hfail]; rfl) hkind
  · rintro ⟨rfl, parts, hspells, hlong⟩
    exact ⟨ofText_of_long hspells hlong, by decide⟩

/-- The values of a type. -/
def SettingType.Has : SettingType → Value → Prop
  | .integer, value => ∃ n, value = .int n
  | .duration, value => ∃ d, value = .duration d

namespace Setting

/-! ## To an integer -/

/-- A tuple of one member, or anything else, has the text that its numbers allow. -/
theorem tells_soleText {value : Value} (hplain : value.isPlain = true)
    (hsole : ∀ items, value = .tuple items → items.length = 1) :
    Tells value.numbers (soleText value) := by
  by_cases htuple : ∃ items, value = .tuple items
  · obtain ⟨items, rfl⟩ := htuple
    obtain ⟨item, rfl⟩ := List.length_eq_one_iff.mp (hsole items rfl)
    have hitem : item.isPlain = true := by
      rw [Value.isPlain, Value.allPlain, Bool.and_eq_true] at hplain
      exact hplain.1
    have hnumbers : (Value.tuple [item]).numbers = item.numbers := by
      rw [Value.numbers, Value.allNumbers, Value.allNumbers, List.append_nil]
    rw [hnumbers]
    exact Value.tells_shown hitem
  · have hshown : soleText value = value.shown := by
      cases value with
      | tuple items => exact absurd ⟨items, rfl⟩ htuple
      | _ => rfl
    rw [hshown]
    exact Value.tells_shown hplain

/-- A tuple of several members, or of none, is not one argument. -/
theorem soleText_tuple {items : List Value} (h : items.length ≠ 1) :
    soleText (.tuple items) = .error .wrongType := by
  rcases items with _ | ⟨first, _ | ⟨second, rest⟩⟩
  · rfl
  · exact absurd rfl h
  · rfl

/-- A value makes an integer, or it is refused with its text as the argument of the message. -/
theorem toInteger_cases (value : Value) :
    (∃ n, toInteger value = .ok n) ∨
      toInteger value = soleText value >>= fun shown => .error (.refused (.notAnInteger shown)) := by
  unfold toInteger
  dsimp only
  split
  · exact .inl ⟨_, rfl⟩
  · exact .inr rfl

/-- What holds several values, or a time, makes no integer. -/
theorem toInteger_of_numbers {value : Value} (hint : ∀ n, value ≠ .int n) {n : Int}
    (hn : n ∈ value.numbers) :
    toInteger value = soleText value >>= fun shown => .error (.refused (.notAnInteger shown)) := by
  cases value with
  | int m => exact absurd rfl (hint m)
  | null | bool | float | nan | text | bytes | moment | object =>
    -- These tell no number at all.
    rw [Value.numbers] at hn
    · exact absurd hn List.not_mem_nil
    all_goals rintro _ ⟨⟩
  | list | tuple | dict | duration | span | instant => rfl

/-! ## What escapes -/

/-- The failures of a conversion that are no refusals. -/
inductive Escape : SettingType → Value → Failure → Prop
  /-- A tuple cannot stand in the message unless it has just one member. -/
  | members {items : List Value} (count : items.length ≠ 1) :
      Escape .integer (.tuple items) .wrongType
  /-- The message for a value that is no integer would tell a number too long to be written. -/
  | message {value : Value} {n : Int} (other : ∀ m, value ≠ .int m)
      (sole : ∀ items, value = .tuple items → items.length = 1) (told : n ∈ value.numbers)
      (long : ¬ Number.Writable n) : Escape .integer value .tooManyDigits
  /-- The text of a value that is no duration would tell such a number. -/
  | text {value : Value} {n : Int} (other : ∀ d, value ≠ .duration d) (told : n ∈ value.numbers)
      (long : ¬ Number.Writable n) : Escape .duration value .tooManyDigits
  /-- The text is there, and writes a duration with too many digits. -/
  | digits {value : Value} {shown : String} {parts : DurationText}
      (other : ∀ d, value ≠ .duration d) (shows : value.shown = .ok shown)
      (spells : DurationText.Spells shown.toList parts)
      (long : Number.digitLimit < parts.digits.length) : Escape .duration value .tooManyDigits

/-- Nothing that escapes is a refusal. -/
theorem Escape.kind_ne {type : SettingType} {value : Value} {cause : Failure}
    (h : Escape type value cause) : cause.kind ≠ .illegalArgument := by
  cases h <;> decide

/-- What the conversion to an integer lets escape. -/
theorem toInteger_escapes_iff {value : Value} (hplain : value.isPlain = true) {cause : Failure} :
    toInteger value = .error cause ∧ cause.kind ≠ .illegalArgument ↔
      Escape .integer value cause := by
  constructor
  · rintro ⟨hfail, hkind⟩
    rcases toInteger_cases value with ⟨n, hok⟩ | hrefuses
    · rw [hok] at hfail
      cases hfail
    -- It is the text for the message that cannot be put together.
    have htext : soleText value = .error cause := by
      rw [hrefuses] at hfail
      rcases hsole : soleText value with early | shown
      · rw [hsole] at hfail
        rw [Except.error.inj hfail]
      · rw [hsole] at hfail
        exact absurd (by rw [← Except.error.inj hfail]; rfl) hkind
    by_cases hsole : ∀ items, value = .tuple items → items.length = 1
    · obtain ⟨rfl, n, hn, hlong⟩ := (tells_soleText hplain hsole).eq_error_iff.mp htext
      refine .message ?_ hsole hn hlong
      rintro m rfl
      rw [toInteger_int] at hfail
      cases hfail
    · simp only [not_forall] at hsole
      obtain ⟨items, rfl, hcount⟩ := hsole
      rw [soleText_tuple hcount] at htext
      rw [← Except.error.inj htext]
      exact .members hcount
  · intro hescape
    refine ⟨?_, hescape.kind_ne⟩
    cases hescape with
    | members hcount =>
      show soleText _ >>= _ = _
      rw [soleText_tuple hcount]
      rfl
    | message hother hsole hn hlong =>
      rw [toInteger_of_numbers hother hn, (tells_soleText hplain hsole).long _ hn hlong]
      rfl

/-- A value that is no duration is converted by way of its text. -/
theorem toDuration_of_ne {value : Value} (h : ∀ d, value ≠ .duration d) :
    toDuration value = value.shown >>= Duration.ofText := by
  cases value with
  | duration d => exact absurd rfl (h d)
  | _ => rfl

/-- What the conversion to a duration lets escape. -/
theorem toDuration_escapes_iff {value : Value} (hplain : value.isPlain = true) {cause : Failure} :
    toDuration value = .error cause ∧ cause.kind ≠ .illegalArgument ↔
      Escape .duration value cause := by
  constructor
  · rintro ⟨hfail, hkind⟩
    have hother : ∀ d, value ≠ .duration d := by
      rintro d rfl
      rw [toDuration_duration] at hfail
      cases hfail
    rw [toDuration_of_ne hother] at hfail
    rcases hshown : value.shown with early | shown
    · rw [hshown] at hfail
      obtain rfl : early = cause := Except.error.inj hfail
      obtain ⟨rfl, n, hn, hlong⟩ := (Value.tells_shown hplain).eq_error_iff.mp hshown
      exact .text hother hn hlong
    · rw [hshown] at hfail
      obtain ⟨rfl, parts, hspells, hlong⟩ := Duration.ofText_escapes_iff.mp ⟨hfail, hkind⟩
      exact .digits hother hshown hspells hlong
  · intro hescape
    refine ⟨?_, hescape.kind_ne⟩
    cases hescape with
    | text hother hn hlong =>
      rw [toDuration_of_ne hother, (Value.tells_shown hplain).long _ hn hlong]
      rfl
    | digits hother hshown hspells hlong =>
      rw [toDuration_of_ne hother, hshown]
      exact Duration.ofText_of_long hspells hlong

/-! ## The law -/

section Law

variable {setting : Setting} {value : Value}

/-- What a conversion gives has the type of the setting. -/
theorem has_of_convert {typed : Value} (h : setting.convert value = .ok typed) :
    setting.type.Has typed := by
  unfold convert at h
  rcases htype : setting.type with _ | _
  · rw [htype] at h
    rcases hn : toInteger value with cause | n
    · simp [hn, Except.map] at h
    · simp only [hn, Except.map, Except.ok.injEq] at h
      exact ⟨n, h.symm⟩
  · rw [htype] at h
    rcases hd : toDuration value with cause | d
    · simp [hd, Except.map] at h
    · simp only [hd, Except.map, Except.ok.injEq] at h
      exact ⟨d, h.symm⟩

/-- A value that has the type already stays what it is. -/
theorem convert_of_has (h : setting.type.Has value) : setting.convert value = .ok value := by
  unfold convert
  rcases htype : setting.type with _ | _
  · rw [htype] at h
    obtain ⟨n, rfl⟩ := h
    rfl
  · rw [htype] at h
    obtain ⟨d, rfl⟩ := h
    rfl

/-- A conversion fails without a refusal when the value escapes, and only then. -/
theorem convert_escapes_iff (hplain : value.isPlain = true) {cause : Failure} :
    setting.convert value = .error cause ∧ cause.kind ≠ .illegalArgument ↔
      Escape setting.type value cause := by
  have hmap {α : Type} {result : Except Failure α} {make : α → Value} :
      result.map make = .error cause ↔ result = .error cause := by
    cases result <;> simp [Except.map]
  unfold convert
  rcases setting.type with _ | _
  · rw [hmap]
    exact toInteger_escapes_iff hplain
  · rw [hmap]
    exact toDuration_escapes_iff hplain

end Law

/-- What becomes of a raw value that is given to a setting or stored under its key. -/
structure ConversionLaw (setting : Setting) (value : Value) : Prop where
  /-- Unless it escapes, it gives a value of the setting's type or is refused. -/
  sound : (∀ cause, ¬ Escape setting.type value cause) →
    (∃ typed, setting.convert value = .ok typed ∧ setting.type.Has typed) ∨
      ∃ reason, setting.convert value = .error (.refused reason)
  /-- It escapes in the ways that are listed, and with these failures. -/
  escapes : ∀ cause, setting.convert value = .error cause ∧ cause.kind ≠ .illegalArgument ↔
    Escape setting.type value cause
  /-- Whatever a conversion gives is converted to itself, so that what was set is what is read. -/
  stable : ∀ typed, setting.convert value = .ok typed →
    setting.type.Has typed ∧ setting.convert typed = .ok typed
  /-- A configuration in which it is set fails as the conversion does, or for want of a hash of the
  key. -/
  set : ∀ (configuration : Configuration) (cause : Failure),
    configuration.set setting value = .error cause ↔
      setting.convert value = .error cause ∨
        (∃ typed, setting.convert value = .ok typed) ∧ setting.key.checkHash = .error cause
  /-- A configuration in which it is stored fails so when it is read. -/
  get : ∀ (configuration : Configuration) (cause : Failure),
    configuration.entries.get? setting.key = some value →
      (configuration.get setting = .error cause ↔
        setting.key.checkHash = .error cause ∨
          setting.key.checkHash = .ok () ∧ setting.convert value = .error cause)

/-- Plain data is converted, refused or escapes as the law says. -/
theorem conversion_law (setting : Setting) {value : Value} (h : value.isPlain = true) :
    ConversionLaw setting value := by
  constructor
  · intro hnone
    rcases hconvert : setting.convert value with cause | typed
    · -- A failure that does not escape is a refusal.
      by_cases hkind : cause.kind = .illegalArgument
      · obtain ⟨reason, rfl⟩ := Failure.kind_eq_illegalArgument_iff.mp hkind
        exact .inr ⟨reason, rfl⟩
      · exact absurd ((convert_escapes_iff h).mp ⟨hconvert, hkind⟩) (hnone cause)
    · exact .inl ⟨typed, rfl, has_of_convert hconvert⟩
  · exact fun cause => convert_escapes_iff h
  · exact fun typed htyped => ⟨has_of_convert htyped, convert_of_has (has_of_convert htyped)⟩
  · intro configuration cause
    unfold Configuration.set
    rcases setting.convert value with early | typed
    · simp [bind, Except.bind]
    · rcases setting.key.checkHash with unhashed | _ <;>
        simp [bind, Except.bind, pure, Except.pure]
  · intro configuration cause hstored
    unfold Configuration.get
    rw [hstored]
    rcases setting.key.checkHash with unhashed | _ <;> simp [bind, Except.bind]

/-- The law holds of a tuple that is given to an option for an integer. -/
theorem conversion_law_pair :
    (Value.tuple [.int 1, .int 2]).isPlain = true ∧
      ConversionLaw Input.numElements (.tuple [.int 1, .int 2]) :=
  ⟨rfl, conversion_law Input.numElements rfl⟩

/-- Not all plain data is converted or refused: a pair is neither. -/
theorem pair_escapes :
    ¬ ∀ (setting : Setting) (value : Value), value.isPlain = true →
      (∃ typed, setting.convert value = .ok typed ∧ setting.type.Has typed) ∨
        ∃ reason, setting.convert value = .error (.refused reason) := by
  intro hall
  have hpair : Input.numElements.convert (.tuple [.int 1, .int 2]) = .error .wrongType := rfl
  rcases hall Input.numElements (.tuple [.int 1, .int 2]) rfl with
    ⟨typed, htyped, -⟩ | ⟨reason, hrefused⟩
  · rw [hpair] at htyped
    cases htyped
  · rw [hpair] at hrefused
    cases hrefused

end Setting

end NumberFeed
