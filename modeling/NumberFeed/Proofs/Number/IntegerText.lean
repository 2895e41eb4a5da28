import Mathlib.Data.List.Basic
import NumberFeed.Proofs.Text.Digits
import NumberFeed.Proofs.Time.DurationText

/-!
# The grammar of integers

The text of an integer is a sign, which may be left out, and runs of digits with a single underscore
between each two of them; white space may stand around it (`IntegerText.Spells`). A text of this
form is read as the number that its digits write, unless there are too many of them
(`Number.read_of_spells`), and no other text is read (`Number.read_of_not_spells`).

Reading goes through the text once: it drops the padding (`Number.trim_append`), takes off a sign
(`Number.splitSign_text`) and follows the runs (`Number.digitRun?_runs`). Each step has its
converse, by which what has been read shows the form of the text.

Bytes are read like the text whose characters they are, if this is all ASCII
(`Number.readBytes_asciiBytes`): white space and digits beyond ASCII do not occur there.
-/

namespace NumberFeed

open NumberFeed.Text

/-! ## The form of a text -/

/-- What stands before the digits of an integer. -/
inductive Sign
  | absent
  | plus
  | minus
  deriving DecidableEq

namespace Sign

/-- A sign as characters. -/
def text : Sign → List Char
  | absent => []
  | plus => ['+']
  | minus => ['-']

/-- The integer with a sign and an absolute value. -/
def apply : Sign → Nat → Int
  | minus, n => -n
  | _, n => n

end Sign

/-- A sign and runs of digits. -/
structure IntegerText where
  /-- The sign. -/
  sign : Sign
  /-- The runs of digits, from the left. -/
  runs : List (List Char)

namespace IntegerText

/-- All digits, without what stands between them. -/
def digits (parts : IntegerText) : List Char := parts.runs.flatten

/-- The characters from the sign to the last digit. -/
def text (parts : IntegerText) : List Char := parts.sign.text ++ ['_'].intercalate parts.runs

/-- The integer that the sign and the digits write. -/
def number (parts : IntegerText) : Int := parts.sign.apply (decimalValue parts.digits)

/-- The characters with the Unicode property of white space, by the first and the last number of
each run of them; the separators `U+001C` to `U+001F` do not have it. -/
def spaceRanges : List (Nat × Nat) := [
    (0x09, 0x0d), (0x20, 0x20), (0x85, 0x85), (0xa0, 0xa0), (0x1680, 0x1680), (0x2000, 0x200a),
    (0x2028, 0x2029), (0x202f, 0x202f), (0x205f, 0x205f), (0x3000, 0x3000)]

/-- White space and nothing else. -/
def Spaces (cs : List Char) : Prop :=
  ∀ c ∈ cs, ∃ range ∈ spaceRanges, range.1 ≤ c.toNat ∧ c.toNat ≤ range.2

/-- A sign and runs of digits that make up a text, together with the white space around them. -/
structure Spells (cs : List Char) (parts : IntegerText) : Prop where
  /-- There are digits. -/
  ne_nil : parts.runs ≠ []
  /-- A run is not empty, and consists of digits of any script. -/
  runs : ∀ run ∈ parts.runs, run ≠ [] ∧ ∀ c ∈ run, isDigit c = true
  /-- Nothing else stands in the text but white space before and after them. -/
  layout : ∃ before after, Spaces before ∧ Spaces after ∧ cs = before ++ (parts.text ++ after)

end IntegerText

open IntegerText

/-- An integer is padded by white space. -/
theorem isPadding_iff {c : Char} :
    isPadding c = true ↔ ∃ range ∈ spaceRanges, range.1 ≤ c.toNat ∧ c.toNat ≤ range.2 := by
  simp only [isPadding, isAsciiPadding, isWideBlank, Bool.or_eq_true, Bool.and_eq_true, beq_iff_eq,
    decide_eq_true_eq, List.contains_eq_mem, List.mem_cons, List.not_mem_nil, or_false, spaceRanges,
    exists_eq_or_imp, exists_eq_left]
  omega

/-- So white space is what is dropped before an integer is read. -/
theorem spaces_iff {cs : List Char} : Spaces cs ↔ ∀ c ∈ cs, isPadding c = true := by
  simp only [Spaces, isPadding_iff]

namespace Number

/-! ## Padding -/

section Padding

variable {pads : Char → Bool} {before core after : List Char}

/-- What stands between padding is left, if it neither begins nor ends with padding. -/
theorem trim_append (hne : core ≠ []) (hbefore : ∀ c ∈ before, pads c = true)
    (hafter : ∀ c ∈ after, pads c = true) (hfirst : ∀ c ∈ core.head?, pads c = false)
    (hlast : ∀ c ∈ core.getLast?, pads c = false) :
    trim pads (before ++ (core ++ after)) = core := by
  have hstart : (before ++ (core ++ after)).dropWhile pads = core ++ after := by
    refine (DurationText.span_append hbefore fun c hc => hfirst c ?_).2
    rwa [List.head?_append_of_ne_nil _ hne] at hc
  have hend : (after.reverse ++ core.reverse).dropWhile pads = core.reverse := by
    refine (DurationText.span_append (fun c hc => hafter c (List.mem_reverse.mp hc)) fun c hc =>
      hlast c ?_).2
    rwa [List.head?_reverse] at hc
  rw [trim, hstart, List.reverse_append, hend, List.reverse_reverse]

/-- What is dropped is padding on both sides. -/
theorem exists_padding (pads : Char → Bool) (cs : List Char) :
    ∃ before after, (∀ c ∈ before, pads c = true) ∧ (∀ c ∈ after, pads c = true) ∧
      cs = before ++ (trim pads cs ++ after) := by
  generalize hrest : cs.dropWhile pads = rest
  refine ⟨cs.takeWhile pads, (rest.reverse.takeWhile pads).reverse,
    fun c hc => List.mem_takeWhile_imp hc,
    fun c hc => List.mem_takeWhile_imp (List.mem_reverse.mp hc), ?_⟩
  calc cs = cs.takeWhile pads ++ rest := by rw [← hrest, List.takeWhile_append_dropWhile]
    _ = cs.takeWhile pads ++
          (rest.reverse.takeWhile pads ++ rest.reverse.dropWhile pads).reverse := by
        rw [List.takeWhile_append_dropWhile, List.reverse_reverse]
    _ = _ := by rw [List.reverse_append, trim, hrest]

end Padding

/-! ## Signs -/

/-- A sign before a digit is taken off. -/
theorem splitSign_text (sign : Sign) {body : List Char} (h : ∀ c ∈ body.head?, isDigit c = true) :
    splitSign (sign.text ++ body) = (decide (sign = .minus), body) := by
  cases sign with
  | plus => rfl
  | minus => rfl
  | absent =>
    show splitSign body = (false, body)
    unfold splitSign
    split
    · exact absurd (h '-' rfl) (by decide)
    · exact absurd (h '+' rfl) (by decide)
    · rfl

/-- What is taken off is a sign. -/
theorem exists_sign (cs : List Char) :
    ∃ sign : Sign, cs = sign.text ++ (splitSign cs).2 := by
  unfold splitSign
  split
  · exact ⟨.minus, rfl⟩
  · exact ⟨.plus, rfl⟩
  · exact ⟨.absent, rfl⟩

/-! ## Runs of digits -/

section Runs

variable {digit : Char → Option Nat} {c : Char} {value : Nat} {run more : List Char}
  {runs : List (List Char)} {values : List Nat}

/-- After a digit and an underscore the reading goes on with another run. -/
theorem digitRun?_underscore (h : digit c = some value) (more : List Char) :
    digitRun? digit (c :: '_' :: more) = (digitRun? digit more).map (value :: ·) := by
  rw [digitRun?, h]
  rfl

/-- After a digit and anything else it goes on with that. -/
theorem digitRun?_next (h : digit c = some value) {next : Char} (hnext : next ≠ '_')
    (more : List Char) : digitRun? digit (c :: next :: more) =
      (digitRun? digit (next :: more)).map (value :: ·) := by
  rw [digitRun?, h]
  dsimp only
  split
  · rename_i heq
    cases heq
  · rename_i heq
    obtain ⟨rfl, -⟩ := List.cons.inj heq
    exact absurd rfl hnext
  · rename_i heq
    obtain ⟨rfl, rfl⟩ := List.cons.inj heq
    rfl

/-- The underscore is no digit. -/
theorem ne_underscore_of_isDigit (h : isDigit c = true) : c ≠ '_' := by
  rintro rfl
  exact absurd h (by decide)

/-- A run of digits is read as their values. -/
theorem digitRun?_of_digits (hne : run ≠ []) (h : ∀ c ∈ run, isDigit c = true) :
    digitRun? digitValue? run = some (run.filterMap digitValue?) := by
  induction run with
  | nil => exact absurd rfl hne
  | cons c rest ih =>
    obtain ⟨value, hvalue⟩ := Option.isSome_iff_exists.mp (h c List.mem_cons_self)
    have hrest : ∀ d ∈ rest, isDigit d = true := fun d hd => h d (List.mem_cons_of_mem c hd)
    rw [List.filterMap_cons_some hvalue]
    cases rest with
    | nil =>
      rw [digitRun?, hvalue]
      rfl
    | cons next rest =>
      have hnext := ne_underscore_of_isDigit (hrest next List.mem_cons_self)
      rw [digitRun?_next hvalue hnext, ih (List.cons_ne_nil _ _) hrest]
      rfl

/-- A run before an underscore is read as the values of its digits. -/
theorem digitRun?_append (hne : run ≠ []) (h : ∀ c ∈ run, isDigit c = true) (more : List Char) :
    digitRun? digitValue? (run ++ '_' :: more) =
      (digitRun? digitValue? more).map (run.filterMap digitValue? ++ ·) := by
  induction run with
  | nil => exact absurd rfl hne
  | cons c rest ih =>
    obtain ⟨value, hvalue⟩ := Option.isSome_iff_exists.mp (h c List.mem_cons_self)
    have hrest : ∀ d ∈ rest, isDigit d = true := fun d hd => h d (List.mem_cons_of_mem c hd)
    rw [List.filterMap_cons_some hvalue]
    cases rest with
    | nil => exact digitRun?_underscore hvalue more
    | cons next rest =>
      have hnext := ne_underscore_of_isDigit (hrest next List.mem_cons_self)
      have hgo := digitRun?_next hvalue hnext (rest ++ '_' :: more)
      rw [List.cons_append, List.cons_append, hgo, ← List.cons_append,
        ih (List.cons_ne_nil _ _) hrest, Option.map_map]
      rfl

/-- Runs with underscores between them are read as the values of all digits. -/
theorem digitRun?_runs (hne : runs ≠ [])
    (h : ∀ run ∈ runs, run ≠ [] ∧ ∀ c ∈ run, isDigit c = true) :
    digitRun? digitValue? (['_'].intercalate runs) =
      some (runs.flatten.filterMap digitValue?) := by
  induction runs with
  | nil => exact absurd rfl hne
  | cons run rest ih =>
    obtain ⟨hrun, hdigits⟩ := h run List.mem_cons_self
    cases rest with
    | nil =>
      rw [List.intercalate_singleton, List.flatten_singleton]
      exact digitRun?_of_digits hrun hdigits
    | cons next rest =>
      rw [List.intercalate_cons_cons, List.append_assoc, List.singleton_append,
        digitRun?_append hrun hdigits,
        ih (List.cons_ne_nil _ _) fun other hother => h other (List.mem_cons_of_mem run hother),
        Option.map_some, ← List.filterMap_append]
      rfl

/-- Runs with underscores between them begin and end with a digit. -/
theorem ends_of_runs (hne : runs ≠ [])
    (h : ∀ run ∈ runs, run ≠ [] ∧ ∀ c ∈ run, isDigit c = true) :
    ['_'].intercalate runs ≠ [] ∧ (∀ c ∈ (['_'].intercalate runs).head?, isDigit c = true) ∧
      ∀ c ∈ (['_'].intercalate runs).getLast?, isDigit c = true := by
  induction runs with
  | nil => exact absurd rfl hne
  | cons run rest ih =>
    obtain ⟨hrun, hdigits⟩ := h run List.mem_cons_self
    cases rest with
    | nil =>
      rw [List.intercalate_singleton]
      exact ⟨hrun, fun c hc => hdigits c (List.mem_of_mem_head? hc),
        fun c hc => hdigits c (List.mem_of_mem_getLast? hc)⟩
    | cons next rest =>
      obtain ⟨hrest, -, hlast⟩ :=
        ih (List.cons_ne_nil _ _) fun other hother => h other (List.mem_cons_of_mem run hother)
      rw [List.intercalate_cons_cons, List.append_assoc]
      refine ⟨List.append_ne_nil_of_left_ne_nil hrun _, fun c hc => ?_, fun c hc => ?_⟩
      · rw [List.head?_append_of_ne_nil _ hrun] at hc
        exact hdigits c (List.mem_of_mem_head? hc)
      · rw [← List.append_assoc, List.getLast?_append_of_ne_nil _ hrest] at hc
        exact hlast c hc

/-- Whatever is read in this way consists of runs with underscores between them. -/
theorem exists_runs {cs : List Char} (h : digitRun? digitValue? cs = some values) :
    ∃ runs : List (List Char), runs ≠ [] ∧
      (∀ run ∈ runs, run ≠ [] ∧ ∀ c ∈ run, isDigit c = true) ∧ cs = ['_'].intercalate runs := by
  have hdigit : ∀ {c : Char} {value : Nat}, digitValue? c = some value → isDigit c = true := by
    intro c value hvalue
    rw [isDigit, hvalue]
    rfl
  induction cs using digitRun?.induct digitValue? generalizing values with
  | case1 => cases h
  | case2 c rest hnone =>
    rw [digitRun?, hnone] at h
    cases h
  | case3 c value hvalue =>
    refine ⟨[[c]], List.cons_ne_nil _ _, ?_, rfl⟩
    intro run hrun
    obtain rfl := List.mem_singleton.mp hrun
    exact ⟨List.cons_ne_nil _ _, fun d hd => List.mem_singleton.mp hd ▸ hdigit hvalue⟩
  | case4 c value hvalue more ih =>
    -- The digit is a run of its own.
    rw [digitRun?_underscore hvalue] at h
    obtain ⟨others, hothers, -⟩ := Option.map_eq_some_iff.mp h
    obtain ⟨runs, hne, hruns, rfl⟩ := ih hothers
    refine ⟨[c] :: runs, List.cons_ne_nil _ _, ?_, ?_⟩
    · intro run hrun
      rcases List.mem_cons.mp hrun with rfl | hrun
      · exact ⟨List.cons_ne_nil _ _, fun d hd => List.mem_singleton.mp hd ▸ hdigit hvalue⟩
      · exact hruns run hrun
    · obtain ⟨run, rest, rfl⟩ := List.exists_cons_of_ne_nil hne
      rw [List.intercalate_cons_cons]
      rfl
  | case5 c value hvalue next more hnext ih =>
    -- The digit comes before the first of the runs.
    rw [digitRun?_next hvalue hnext] at h
    obtain ⟨others, hothers, -⟩ := Option.map_eq_some_iff.mp h
    obtain ⟨runs, hne, hruns, heq⟩ := ih hothers
    obtain ⟨run, rest, rfl⟩ := List.exists_cons_of_ne_nil hne
    refine ⟨(c :: run) :: rest, List.cons_ne_nil _ _, ?_, ?_⟩
    · intro other hother
      rcases List.mem_cons.mp hother with rfl | hother
      · refine ⟨List.cons_ne_nil _ _, fun d hd => ?_⟩
        rcases List.mem_cons.mp hd with rfl | hd
        · exact hdigit hvalue
        · exact (hruns run List.mem_cons_self).2 d hd
      · exact hruns other (List.mem_cons_of_mem run hother)
    · rw [heq]
      cases rest with
      | nil => rw [List.intercalate_singleton, List.intercalate_singleton]
      | cons second rest =>
        rw [List.intercalate_cons_cons, List.intercalate_cons_cons]
        rfl

end Runs

/-! ## Reading -/

section Read

variable {text : String} {parts : IntegerText}

/-- What is left of a text of this form without its padding is the sign and the runs. -/
theorem trim_of_spells {cs : List Char} (h : Spells cs parts) : trim isPadding cs = parts.text := by
  obtain ⟨before, after, hbefore, hafter, rfl⟩ := h.layout
  obtain ⟨hne, hfirst, hlast⟩ := ends_of_runs h.ne_nil h.runs
  -- Neither a sign nor a digit pads an integer.
  refine trim_append (List.append_ne_nil_of_right_ne_nil _ hne) (spaces_iff.mp hbefore)
    (spaces_iff.mp hafter) (fun c hc => ?_) (fun c hc => ?_)
  · unfold IntegerText.text at hc
    cases hsign : parts.sign with
    | absent =>
      rw [hsign] at hc
      exact isPadding_of_isDigit (hfirst c hc)
    | plus =>
      rw [hsign] at hc
      obtain rfl := Option.mem_some_iff.mp hc
      decide
    | minus =>
      rw [hsign] at hc
      obtain rfl := Option.mem_some_iff.mp hc
      decide
  · unfold IntegerText.text at hc
    rw [List.getLast?_append_of_ne_nil _ hne] at hc
    exact isPadding_of_isDigit (hlast c hc)

/-- A text of this form is read as the number that it writes, unless that has too many digits. -/
theorem read_of_spells (h : Spells text.toList parts) :
    read text = if parts.digits.length ≤ digitLimit then .ok parts.number
      else .error .tooManyDigits := by
  have hfirst := (ends_of_runs h.ne_nil h.runs).2.1
  have hdigits : ∀ c ∈ parts.digits, (digitValue? c).isSome = true := by
    intro c hc
    obtain ⟨run, hrun, hmem⟩ := List.mem_flatten.mp hc
    exact (h.runs run hrun).2 c hmem
  have hlength : (parts.digits.filterMap digitValue?).length = parts.digits.length :=
    List.filterMap_length_eq_length.mpr hdigits
  rw [read, readWith, trim_of_spells h, IntegerText.text, splitSign_text parts.sign hfirst]
  dsimp only
  rw [digitRun?_runs h.ne_nil h.runs]
  dsimp only
  rw [← IntegerText.digits, hlength, ofDigits_eq_decimalValue, number]
  cases parts.sign <;> rfl

/-- No other text is read. -/
theorem read_of_not_spells (h : ∀ parts, ¬ Spells text.toList parts) :
    read text = .error .malformedInteger := by
  obtain ⟨before, after, hbefore, hafter, hlayout⟩ := exists_padding isPadding text.toList
  obtain ⟨sign, hsign⟩ := exists_sign (trim isPadding text.toList)
  rw [read, readWith]
  rcases hrun : digitRun? digitValue? (splitSign (trim isPadding text.toList)).2 with _ | values
  · dsimp only
    rw [hrun]
  · -- What has been read would show the form of the text.
    obtain ⟨runs, hne, hruns, hbody⟩ := exists_runs hrun
    rw [hbody] at hsign
    rw [hsign] at hlayout
    exact absurd ⟨hne, hruns, before, after, spaces_iff.mpr hbefore, spaces_iff.mpr hafter, hlayout⟩
      (h ⟨sign, runs⟩)

/-- A text is read as an integer just when it has the form and not too many digits. -/
theorem read_eq_ok_iff {n : Int} : read text = .ok n ↔
    ∃ parts, Spells text.toList parts ∧ parts.digits.length ≤ digitLimit ∧ parts.number = n := by
  constructor
  · intro hread
    by_cases hspells : ∃ parts, Spells text.toList parts
    · obtain ⟨parts, hspells⟩ := hspells
      rw [read_of_spells hspells] at hread
      split at hread
      · rename_i hshort
        exact ⟨parts, hspells, hshort, Except.ok.inj hread⟩
      · cases hread
    · rw [read_of_not_spells (not_exists.mp hspells)] at hread
      cases hread
  · rintro ⟨parts, hspells, hshort, rfl⟩
    rw [read_of_spells hspells, if_pos hshort]

/-- Digits of different scripts may stand in one number, but no two underscores next to each
other. -/
example : read " -1_\u0662\n" = .ok (-12) ∧ read "1__2" = .error .malformedInteger :=
  ⟨rfl, rfl⟩

end Read

/-! ## Bytes -/

section Bytes

variable {c : Char} {cs : List Char}

/-- The bytes of a text that is all ASCII, one for each character. -/
def asciiBytes (text : String) : List UInt8 := text.toList.map fun c => c.toNat.toUInt8

/-- The characters of such bytes are those of the text. -/
theorem chars_asciiBytes {text : String} (h : ∀ c ∈ text.toList, c.toNat < 0x80) :
    ((asciiBytes text).map fun byte => Char.ofNat byte.toNat) = text.toList := by
  rw [asciiBytes, List.map_map]
  refine (List.map_congr_left fun c hc => ?_).trans (List.map_id _)
  have hbyte : c.toNat.toUInt8.toNat = c.toNat :=
    Nat.mod_eq_of_lt (Nat.lt_trans (h c hc) (by decide))
  show Char.ofNat c.toNat.toUInt8.toNat = c
  rw [hbyte, Char.ofNat_toNat]

/-- The white space of ASCII is all that pads there. -/
theorem isPadding_of_ascii (h : c.toNat < 0x80) : isPadding c = isAsciiPadding c := by
  have hwide : isWideBlank c = false := by
    simp only [isWideBlank, Bool.or_eq_false_iff, Bool.and_eq_false_iff, List.contains_eq_mem,
      List.mem_cons, List.not_mem_nil, or_false, decide_eq_false_iff_not]
    omega
  rw [isPadding, hwide, Bool.or_false]

/-- The digits of ASCII are all that are digits there. -/
theorem digitValue?_of_ascii (h : c.toNat < 0x80) : digitValue? c = asciiDigitValue? c := by
  unfold asciiDigitValue?
  by_cases hrun : '0' ≤ c ∧ c ≤ '9'
  · have hdigit : c.isDigit = true :=
      Bool.and_eq_true_iff.mpr ⟨decide_eq_true hrun.1, decide_eq_true hrun.2⟩
    rw [if_pos hrun, digitValue?_of_isDigit hdigit]
    rfl
  · -- All other scripts come after ASCII.
    have hlater : ∀ first ∈ digitZeros, first = 0x30 ∨ 0x80 ≤ first := by decide
    have hnone : ¬ isDigit c = true := by
      intro hdigit
      obtain ⟨first, hfirst, hplace⟩ := isDigit_iff.mp hdigit
      rcases hlater first hfirst with rfl | hfar
      · refine hrun ⟨UInt32.le_iff_toNat_le.mpr hplace.1, UInt32.le_iff_toNat_le.mpr ?_⟩
        exact Nat.le_of_lt_succ hplace.2
      · omega
    rw [if_neg hrun]
    exact Option.not_isSome_iff_eq_none.mp hnone

/-- Only how the characters at both ends are classed decides what is dropped. -/
theorem trim_congr {pads other : Char → Bool} (h : ∀ c ∈ cs, pads c = other c) :
    trim pads cs = trim other cs := by
  have hdrop : ∀ ds : List Char, (∀ c ∈ ds, pads c = other c) →
      ds.dropWhile pads = ds.dropWhile other := by
    intro ds hds
    induction ds with
    | nil => rfl
    | cons d ds ih =>
      rw [List.dropWhile_cons, List.dropWhile_cons, hds d List.mem_cons_self,
        ih fun c hc => hds c (List.mem_cons_of_mem d hc)]
  have hrest : ∀ c ∈ (cs.dropWhile other).reverse, pads c = other c := fun c hc =>
    h c ((List.dropWhile_sublist other).subset (List.mem_reverse.mp hc))
  rw [trim, hdrop cs h, hdrop _ hrest, trim]

/-- Only the values of its characters decide what a run of digits is read as. -/
theorem digitRun?_congr {digit other : Char → Option Nat} (h : ∀ c ∈ cs, digit c = other c) :
    digitRun? digit cs = digitRun? other cs := by
  induction cs using digitRun?.induct digit with
  | case1 => rfl
  | case2 c rest hnone =>
    rw [digitRun?, digitRun?, ← h c List.mem_cons_self, hnone]
  | case3 c value hvalue =>
    rw [digitRun?, digitRun?, ← h c List.mem_cons_self, hvalue]
  | case4 c value hvalue more ih =>
    have hother := (h c List.mem_cons_self).symm.trans hvalue
    rw [digitRun?_underscore hvalue, digitRun?_underscore hother,
      ih fun d hd => h d (List.mem_cons_of_mem _ (List.mem_cons_of_mem _ hd))]
  | case5 c value hvalue next more hnext ih =>
    have hother := (h c List.mem_cons_self).symm.trans hvalue
    rw [digitRun?_next hvalue hnext, digitRun?_next hother hnext,
      ih fun d hd => h d (List.mem_cons_of_mem _ hd)]

/-- What is taken off a text leaves characters of that text. -/
theorem mem_of_mem_splitSign {pads : Char → Bool} (h : c ∈ (splitSign (trim pads cs)).2) :
    c ∈ cs := by
  obtain ⟨sign, hsign⟩ := exists_sign (trim pads cs)
  obtain ⟨before, after, -, -, hlayout⟩ := exists_padding pads cs
  rw [hlayout, hsign]
  exact List.mem_append_right _ (List.mem_append_left _ (List.mem_append_right _ h))

/-- The bytes of a text that is all ASCII are read as the text is. -/
theorem readBytes_asciiBytes {text : String} (h : ∀ c ∈ text.toList, c.toNat < 0x80) :
    readBytes (asciiBytes text) = read text := by
  have htrim : trim isAsciiPadding text.toList = trim isPadding text.toList :=
    trim_congr fun c hc => (isPadding_of_ascii (h c hc)).symm
  have hrun : digitRun? asciiDigitValue? (splitSign (trim isPadding text.toList)).2 =
      digitRun? digitValue? (splitSign (trim isPadding text.toList)).2 :=
    digitRun?_congr fun c hc => (digitValue?_of_ascii (h c (mem_of_mem_splitSign hc))).symm
  rw [readBytes, chars_asciiBytes h, read, readWith, readWith, htrim]
  dsimp only
  rw [hrun]

end Bytes

end Number

end NumberFeed
