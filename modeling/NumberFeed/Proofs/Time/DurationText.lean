import Mathlib.Data.List.TakeWhile
import NumberFeed.Proofs.Number.Writable
import NumberFeed.Proofs.Text.Digits
import NumberFeed.Value.Numeric

/-!
# The grammar of durations

The text of a duration consists of blanks, digits, blanks, letters and blanks again, in this order
(`DurationText.Spells`); only the digits have to be there. A text is taken apart in this way just
when it can be (`DurationText.split?_eq_some_iff`), and since the classes of characters are apart,
its digits and its letters can be found in one way only.

`Duration.parse_grammar` says what duration a text writes, and why if it writes none. In particular
a number and a label that are printed with blanks around them, in letters of either case, are read
back as what was printed (`parse_of_printed`).
-/

namespace NumberFeed

namespace DurationText

open NumberFeed.Text

/-- Blanks and nothing else. -/
def Blanks (cs : List Char) : Prop := ∀ c ∈ cs, isBlank c = true

/-- Digits and letters that make up a text, together with the blanks around them. -/
structure Spells (cs : List Char) (parts : DurationText) : Prop where
  /-- There are digits. -/
  ne_nil : parts.digits ≠ []
  /-- They are digits of any script. -/
  digits : ∀ c ∈ parts.digits, isDigit c = true
  /-- The letters are letters of ASCII. -/
  letters : ∀ c ∈ parts.letters, c.isAlpha = true
  /-- Nothing else stands in the text but blanks before, between and after them. -/
  layout : ∃ before between after, Blanks before ∧ Blanks between ∧ Blanks after ∧
    cs = before ++ (parts.digits ++ (between ++ (parts.letters ++ after)))

/-- A run of characters of a class, before one that is not of the class, is found as a whole. -/
theorem span_append {p : Char → Bool} {run rest : List Char} (hrun : ∀ c ∈ run, p c = true)
    (hrest : ∀ c ∈ rest.head?, p c = false) :
    (run ++ rest).takeWhile p = run ∧ (run ++ rest).dropWhile p = rest := by
  rw [List.takeWhile_append_of_pos hrun, List.dropWhile_append_of_pos hrun]
  cases rest with
  | nil => simp
  | cons c rest => simp [hrest c rfl]

/-- After the blanks before them, the letters are found, and only blanks after them. -/
theorem letters_found {between letters after : List Char} (hbetween : Blanks between)
    (hletters : ∀ c ∈ letters, c.isAlpha = true) (hafter : Blanks after) :
    ((between ++ (letters ++ after)).dropWhile isBlank).takeWhile Char.isAlpha = letters ∧
      Blanks (((between ++ (letters ++ after)).dropWhile isBlank).dropWhile Char.isAlpha) := by
  rw [List.dropWhile_append_of_pos hbetween]
  rcases letters with _ | ⟨letter, others⟩
  · -- Without letters the blanks on both sides are a single run.
    have hnothing : after.dropWhile isBlank = [] := List.dropWhile_eq_nil_iff.mpr hafter
    rw [List.nil_append, hnothing]
    exact ⟨rfl, fun c hc => nomatch hc⟩
  · have hstart : isBlank letter = false := isBlank_of_isAlpha (hletters letter List.mem_cons_self)
    have hkept : (letter :: others ++ after).dropWhile isBlank = letter :: others ++ after := by
      rw [List.cons_append, List.dropWhile_cons, hstart]
      rfl
    have hend : ∀ c ∈ after.head?, c.isAlpha = false := by
      intro c hc
      by_contra hletter
      have hblank : isBlank c = true := hafter c (List.mem_of_mem_head? hc)
      have hnot : isBlank c = false := isBlank_of_isAlpha (by simpa using hletter)
      exact absurd hblank (by rw [hnot]; decide)
    obtain ⟨htake, hdrop⟩ := span_append hletters hend
    rw [hkept, htake, hdrop]
    exact ⟨rfl, hafter⟩

/-- What comes after the digits does not begin with a digit. -/
theorem not_isDigit_of_head {between letters after : List Char} (hbetween : Blanks between)
    (hletters : ∀ c ∈ letters, c.isAlpha = true) (hafter : Blanks after) :
    ∀ c ∈ (between ++ (letters ++ after)).head?, isDigit c = false := by
  intro c hc
  by_contra hnot
  have hdigit : isDigit c = true := by simpa using hnot
  have hmem : c ∈ between ++ (letters ++ after) := List.mem_of_mem_head? hc
  have hblank := isBlank_of_isDigit hdigit
  have hletter := isAlpha_of_isDigit hdigit
  rcases List.mem_append.mp hmem with hin | hin
  · exact absurd (hbetween c hin) (by rw [hblank]; decide)
  · rcases List.mem_append.mp hin with hin | hin
    · exact absurd (hletters c hin) (by rw [hletter]; decide)
    · exact absurd (hafter c hin) (by rw [hblank]; decide)

/-- A text that is made up of digits and letters is split into these. -/
theorem Spells.split?_eq {cs : List Char} {parts : DurationText} (h : Spells cs parts) :
    split? cs = some parts := by
  obtain ⟨before, between, after, hbefore, hbetween, hafter, hlayout⟩ := h.layout
  generalize htail : between ++ (parts.letters ++ after) = tail at hlayout
  -- The digits begin where the first blanks end.
  have hstart : ∀ c ∈ (parts.digits ++ tail).head?, isBlank c = false := by
    intro c hc
    rw [List.head?_append_of_ne_nil _ h.ne_nil] at hc
    exact isBlank_of_isDigit (h.digits c (List.mem_of_mem_head? hc))
  have hfromDigits : cs.dropWhile isBlank = parts.digits ++ tail := by
    rw [hlayout]
    exact (span_append hbefore hstart).2
  have hend : ∀ c ∈ tail.head?, isDigit c = false := by
    rw [← htail]
    exact not_isDigit_of_head hbetween h.letters hafter
  obtain ⟨hdigits, hrest⟩ := span_append h.digits hend
  obtain ⟨hletters, hblanks⟩ := letters_found hbetween h.letters hafter
  rw [htail] at hletters hblanks
  have hsome : parts.digits.isEmpty = false := by simpa using h.ne_nil
  have hall : ((tail.dropWhile isBlank).dropWhile Char.isAlpha).all isBlank = true :=
    List.all_eq_true.mpr hblanks
  simp only [split?, hfromDigits, hdigits, hrest, hletters, hsome, hall]
  rfl

/-- A text that is split is made up of what it is split into. -/
theorem spells_of_split? {cs : List Char} {parts : DurationText} (h : split? cs = some parts) :
    Spells cs parts := by
  unfold split? at h
  dsimp only at h
  generalize hfromDigits : cs.dropWhile isBlank = fromDigits at h
  generalize hfromBlanks : fromDigits.dropWhile isDigit = fromBlanks at h
  generalize hfromLetters : fromBlanks.dropWhile isBlank = fromLetters at h
  split at h
  · cases h
  rename_i hcheck
  simp only [Bool.or_eq_true, not_or, Bool.not_eq_true, List.isEmpty_eq_false_iff,
    Bool.not_eq_false', List.all_eq_true] at hcheck
  obtain ⟨hdigits, hafter⟩ := hcheck
  obtain rfl := Option.some.inj h
  refine ⟨hdigits, fun c hc => List.mem_takeWhile_imp hc, fun c hc => List.mem_takeWhile_imp hc,
    cs.takeWhile isBlank, fromBlanks.takeWhile isBlank, fromLetters.dropWhile Char.isAlpha,
    fun c hc => List.mem_takeWhile_imp hc, fun c hc => List.mem_takeWhile_imp hc, hafter, ?_⟩
  -- The pieces are what was taken and what was left, one run after the other.
  calc cs = cs.takeWhile isBlank ++ fromDigits := by
        rw [← hfromDigits, List.takeWhile_append_dropWhile]
    _ = cs.takeWhile isBlank ++ (fromDigits.takeWhile isDigit ++ fromBlanks) := by
        rw [← hfromBlanks, List.takeWhile_append_dropWhile]
    _ = cs.takeWhile isBlank ++ (fromDigits.takeWhile isDigit ++
          (fromBlanks.takeWhile isBlank ++ fromLetters)) := by
        rw [← hfromLetters, List.takeWhile_append_dropWhile]
    _ = _ := by rw [List.takeWhile_append_dropWhile]

/-- A text is split into digits and letters just when these make it up. -/
theorem split?_eq_some_iff {cs : List Char} {parts : DurationText} :
    split? cs = some parts ↔ Spells cs parts :=
  ⟨spells_of_split?, Spells.split?_eq⟩

/-- The number of a text is the one that its digits write. -/
theorem number_eq (parts : DurationText) : parts.number = decimalValue parts.digits :=
  ofDigits_eq_decimalValue parts.digits

end DurationText

namespace TimeUnit

/-- A label belongs to one unit only, which is found by it. -/
theorem ofLabel?_eq_some_iff {label : String} {unit : TimeUnit} :
    ofLabel? label = some unit ↔ label ∈ unit.labels := by
  have hapart : ∀ unit ∈ all, ∀ other ∈ all, ∀ label ∈ unit.labels, label ∈ other.labels →
      unit = other := by decide +kernel
  constructor
  · intro h
    simpa using List.find?_some h
  · intro h
    -- Some unit is found, and it has to be this one.
    have hfound : (ofLabel? label).isSome = true := by
      rw [ofLabel?, List.find?_isSome]
      exact ⟨unit, mem_all unit, by simpa using h⟩
    obtain ⟨other, hother⟩ := Option.isSome_iff_exists.mp hfound
    have hlabel : label ∈ other.labels := by simpa using List.find?_some hother
    rw [hother, hapart other (mem_all other) unit (mem_all unit) label hlabel h]

/-- A label of no unit is not found. -/
theorem ofLabel?_eq_none_iff {label : String} :
    ofLabel? label = none ↔ ∀ unit : TimeUnit, label ∉ unit.labels := by
  rw [Option.eq_none_iff_forall_ne_some]
  exact forall_congr' fun unit => not_congr ofLabel?_eq_some_iff

/-- A unit is some nanoseconds long. -/
theorem nanos_pos (unit : TimeUnit) : 0 < unit.nanos := by
  cases unit <;> decide

/-- A label is not empty and consists of letters. -/
theorem isAlpha_of_mem_labels {unit : TimeUnit} {label : String} (h : label ∈ unit.labels) :
    label.toList ≠ [] ∧ ∀ c ∈ label.toList, c.isAlpha = true := by
  have hall : ∀ unit ∈ all, ∀ label ∈ unit.labels,
      label.toList ≠ [] ∧ label.toList.all Char.isAlpha = true := by decide +kernel
  obtain ⟨hsome, hletters⟩ := hall unit (mem_all unit) label h
  exact ⟨hsome, List.all_eq_true.mp hletters⟩

end TimeUnit

namespace Duration

open DurationText Text

section Parse

variable {text : String} {parts : DurationText}

/-- A text that is not made up of digits and letters is refused as a whole. -/
theorem ofText_of_not_spells (h : ∀ parts, ¬ Spells text.toList parts) :
    ofText text = .error (.refused (.notADuration text)) := by
  have hsplit : split? text.toList = none :=
    Option.eq_none_iff_forall_ne_some.mpr fun parts hparts => h parts (split?_eq_some_iff.mp hparts)
  rw [ofText, hsplit]

/-- A number of too many digits is not read, whatever its unit is. -/
theorem ofText_of_long (h : Spells text.toList parts)
    (hlong : Number.digitLimit < parts.digits.length) : ofText text = .error .tooManyDigits := by
  rw [ofText, h.split?_eq]
  exact if_pos hlong

/-- A number without letters counts milliseconds. -/
theorem ofText_of_bare (h : Spells text.toList parts)
    (hlength : parts.digits.length ≤ Number.digitLimit) (hletters : parts.letters = []) :
    ofText text = .ok ⟨decimalValue parts.digits * nanosPerMilli⟩ := by
  have hshort : ¬ Number.digitLimit < parts.digits.length := by omega
  rw [ofText, h.split?_eq]
  simp only [if_neg hshort, hletters, List.isEmpty_nil, if_true, ofMillis, number_eq]

/-- A number with the label of a unit counts this unit. -/
theorem ofText_of_label (h : Spells text.toList parts)
    (hlength : parts.digits.length ≤ Number.digitLimit) {unit : TimeUnit}
    (hlabel : parts.label ∈ unit.labels) :
    ofText text = .ok ⟨decimalValue parts.digits * unit.nanos⟩ := by
  have hshort : ¬ Number.digitLimit < parts.digits.length := by omega
  -- No label is empty, so that there are letters.
  have hletters : parts.letters.isEmpty = false := by
    have hne := (TimeUnit.isAlpha_of_mem_labels hlabel).1
    rw [label, String.toList_ofList] at hne
    simpa using hne
  have hunit : TimeUnit.ofLabel? parts.label = some unit := TimeUnit.ofLabel?_eq_some_iff.mpr hlabel
  rw [ofText, h.split?_eq]
  simp only [if_neg hshort, hletters, hunit, number_eq]
  rfl

/-- A number with any other letters is refused for them. -/
theorem ofText_of_unknown (h : Spells text.toList parts)
    (hlength : parts.digits.length ≤ Number.digitLimit) (hletters : parts.letters ≠ [])
    (hlabel : ∀ unit : TimeUnit, parts.label ∉ unit.labels) :
    ofText text = .error (.refused (.unknownUnit parts.label TimeUnit.sortedLabels)) := by
  have hshort : ¬ Number.digitLimit < parts.digits.length := by omega
  have hsome : parts.letters.isEmpty = false := by simpa using hletters
  have hunit : TimeUnit.ofLabel? parts.label = none := TimeUnit.ofLabel?_eq_none_iff.mpr hlabel
  rw [ofText, h.split?_eq]
  simp only [if_neg hshort, hsome, hunit]
  rfl

/-- No text writes a negative duration. -/
theorem nanos_nonneg_of_ofText {duration : Duration} (h : ofText text = .ok duration) :
    0 ≤ duration.nanos := by
  unfold ofText at h
  split at h
  · cases h
  · split at h
    · cases h
    · split at h
      · obtain rfl := Except.ok.inj h
        exact Int.mul_nonneg (Int.natCast_nonneg _) (by decide)
      · split at h
        · rename_i unit _
          obtain rfl := Except.ok.inj h
          exact Int.mul_nonneg (Int.natCast_nonneg _) (Int.le_of_lt unit.nanos_pos)
        · cases h

/-- A letter in lower case comes of a letter. -/
theorem isAlpha_of_isAlpha_toLower {c : Char} (h : c.toLower.isAlpha = true) :
    c.isAlpha = true := by
  by_cases hupper : c.val ≥ 'A'.val ∧ c.val ≤ 'Z'.val
  · have hcase : c.isUpper = true := decide_eq_true hupper
    show (c.isUpper || c.isLower) = true
    rw [hcase, Bool.true_or]
  · have hsame : c.toLower = c := dif_neg hupper
    rwa [hsame] at h

/-- A printed number with a label in letters of either case, and with blanks around them, is read as
so many units. -/
theorem parse_of_printed {number : Nat} (hwritable : Number.Writable number) {unit : TimeUnit}
    {label : String} (hlabel : label ∈ unit.labels) {letters before between after : List Char}
    (hcase : letters.map Char.toLower = label.toList) (hbefore : Blanks before)
    (hbetween : Blanks between) (hafter : Blanks after)
    (htext : text.toList =
      before ++ (Number.decimal number ++ (between ++ (letters ++ after)))) :
    parse (.text text) = .ok ⟨number * unit.nanos⟩ := by
  have hdecimal : Number.decimal number = Nat.toDigits 10 number := by
    rw [Number.decimal, if_neg (by omega), Int.natAbs_natCast]
  have hletters : ∀ c ∈ letters, c.isAlpha = true := by
    intro c hc
    have hlower : c.toLower ∈ label.toList := hcase ▸ List.mem_map_of_mem hc
    exact isAlpha_of_isAlpha_toLower ((TimeUnit.isAlpha_of_mem_labels hlabel).2 _ hlower)
  have hspells : Spells text.toList ⟨Nat.toDigits 10 number, letters⟩ := by
    refine ⟨Nat.toDigits_ne_nil, fun c hc => isDigit_of_mem_toDigits hc, hletters,
      before, between, after, hbefore, hbetween, hafter, ?_⟩
    rw [htext, hdecimal]
  have hshort : (Nat.toDigits 10 number).length ≤ Number.digitLimit := by
    simpa [Number.Writable] using hwritable
  have hparts : DurationText.label ⟨Nat.toDigits 10 number, letters⟩ ∈ unit.labels := by
    rw [DurationText.label, hcase, String.ofList_toList]
    exact hlabel
  calc parse (.text text)
      = .ok ⟨decimalValue (Nat.toDigits 10 number) * unit.nanos⟩ :=
        ofText_of_label hspells hshort hparts
    _ = .ok ⟨number * unit.nanos⟩ := by rw [decimalValue_toDigits]

end Parse

/-- What a text comes to that is read as a duration. -/
structure GrammarLaw (text : String) : Prop where
  /-- Its digits and its letters can be found in one way at most. -/
  unique : ∀ parts others, Spells text.toList parts → Spells text.toList others → parts = others
  /-- If they cannot be found, the text is refused. -/
  malformed : (∀ parts, ¬ Spells text.toList parts) →
    parse (.text text) = .error (.refused (.notADuration text))
  /-- Too many digits are a failure whatever the letters are; leading zeros count. -/
  long : ∀ parts, Spells text.toList parts → Number.digitLimit < parts.digits.length →
    parse (.text text) = .error .tooManyDigits
  /-- Otherwise digits without letters count milliseconds. -/
  bare : ∀ parts, Spells text.toList parts → parts.digits.length ≤ Number.digitLimit →
    parts.letters = [] → parse (.text text) = .ok ⟨decimalValue parts.digits * nanosPerMilli⟩
  /-- Digits with letters that are the label of a unit, in either case, count this unit. -/
  labelled : ∀ parts, Spells text.toList parts → parts.digits.length ≤ Number.digitLimit →
    ∀ unit : TimeUnit, parts.label ∈ unit.labels →
      parse (.text text) = .ok ⟨decimalValue parts.digits * unit.nanos⟩
  /-- Any other letters are refused. -/
  unknown : ∀ parts, Spells text.toList parts → parts.digits.length ≤ Number.digitLimit →
    parts.letters ≠ [] → (∀ unit : TimeUnit, parts.label ∉ unit.labels) →
      parse (.text text) = .error (.refused (.unknownUnit parts.label TimeUnit.sortedLabels))
  /-- No duration that is read is negative. -/
  nonneg : ∀ duration, parse (.text text) = .ok duration → 0 ≤ duration.nanos
  /-- A number that was printed is read back with its unit, whatever the case of the label's letters
  and the blanks around. -/
  printed : ∀ number : Nat, Number.Writable number → ∀ (unit : TimeUnit) (label : String),
    label ∈ unit.labels → ∀ letters before between after : List Char,
      letters.map Char.toLower = label.toList → Blanks before → Blanks between → Blanks after →
      text.toList = before ++ (Number.decimal number ++ (between ++ (letters ++ after))) →
      parse (.text text) = .ok ⟨number * unit.nanos⟩

/-- Every text is read as the grammar of durations says. -/
theorem parse_grammar (text : String) : GrammarLaw text where
  unique _ _ hparts hothers :=
    Option.some.inj (hparts.split?_eq.symm.trans hothers.split?_eq)
  malformed h := ofText_of_not_spells h
  long _ h hlong := ofText_of_long h hlong
  bare _ h hlength hletters := ofText_of_bare h hlength hletters
  labelled _ h hlength _ hlabel := ofText_of_label h hlength hlabel
  unknown _ h hlength hletters hlabel := ofText_of_unknown h hlength hletters hlabel
  nonneg _ h := nanos_nonneg_of_ofText h
  printed _ hwritable _ _ hlabel _ _ _ _ hcase hbefore hbetween hafter htext :=
    parse_of_printed hwritable hlabel hcase hbefore hbetween hafter htext

/-- A number with blanks around and a label in mixed case. -/
example : ofText " 7\tSeconds \n" = .ok ⟨7000000000⟩ := by decide +kernel

end Duration

end NumberFeed
