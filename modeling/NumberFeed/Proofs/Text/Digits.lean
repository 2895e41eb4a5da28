import Mathlib.Data.List.Basic
import Mathlib.Data.List.Induction
import Mathlib.Data.Nat.Digits.Defs
import NumberFeed.Number.Integer

/-!
# Digits, letters and blanks

A text is taken apart by classes of characters, which works because the classes are apart: no digit
of any script is a blank (`isBlank_of_isDigit`) or a letter (`isAlpha_of_isDigit`), and no letter is
a blank (`isBlank_of_isAlpha`).

A sequence of digits writes a number by the places of its digits, the last one counting ones
(`decimalValue`), and reading it from the left gives this number (`ofDigits_eq_decimalValue`). The
decimal text of a natural number consists of digits and writes the number it was made of
(`decimalValue_toDigits`).
-/

namespace NumberFeed.Text

/-! ## The classes are apart -/

/-- A digit lies within ten places of the zero of its script. -/
theorem isDigit_iff {c : Char} :
    isDigit c = true ↔ ∃ first ∈ digitZeros, first ≤ c.toNat ∧ c.toNat < first + 10 := by
  simp [isDigit, digitValue?]

/-- The blank characters, by the first and the last number of each run of them. -/
def blankRanges : List (Nat × Nat) := [
    (0x09, 0x0d), (0x1c, 0x20), (0x85, 0x85), (0xa0, 0xa0), (0x1680, 0x1680), (0x2000, 0x200a),
    (0x2028, 0x2029), (0x202f, 0x202f), (0x205f, 0x205f), (0x3000, 0x3000)]

/-- A blank lies in one of those runs. -/
theorem exists_blankRange {c : Char} (h : isBlank c = true) :
    ∃ range ∈ blankRanges, range.1 ≤ c.toNat ∧ c.toNat ≤ range.2 := by
  simp only [isBlank, isPadding, isAsciiPadding, isWideBlank, Bool.or_eq_true, Bool.and_eq_true,
    beq_iff_eq, decide_eq_true_eq, List.contains_eq_mem, List.mem_cons, List.not_mem_nil,
    or_false] at h
  simp only [blankRanges, List.mem_cons, List.not_mem_nil, or_false, exists_eq_or_imp,
    exists_eq_left]
  omega

/-- A letter of ASCII has one of two runs of numbers. -/
theorem toNat_of_isAlpha {c : Char} (h : c.isAlpha = true) :
    0x41 ≤ c.toNat ∧ c.toNat ≤ 0x5a ∨ 0x61 ≤ c.toNat ∧ c.toNat ≤ 0x7a := by
  have hletter : (c.isUpper || c.isLower) = true := h
  rcases Bool.or_eq_true_iff.mp hletter with hupper | hlower
  · have hrun : c.val ≥ 'A'.val ∧ c.val ≤ 'Z'.val := of_decide_eq_true hupper
    exact .inl hrun
  · obtain ⟨hfirst, hlast⟩ := Bool.and_eq_true_iff.mp hlower
    have hrun : c.val ≥ 'a'.val ∧ c.val ≤ 'z'.val :=
      ⟨of_decide_eq_true hfirst, of_decide_eq_true hlast⟩
    exact .inr hrun

/-- No digit is a blank. -/
theorem isBlank_of_isDigit {c : Char} (h : isDigit c = true) : isBlank c = false := by
  -- No run of digits meets a run of blanks, which is looked up for each two of them.
  have hapart : ∀ first ∈ digitZeros, ∀ range ∈ blankRanges,
      first + 9 < range.1 ∨ range.2 < first := by
    decide +kernel
  obtain ⟨first, hfirst, hrun⟩ := isDigit_iff.mp h
  have hblank : ¬ isBlank c = true := by
    intro hblank
    obtain ⟨range, hrange, hcode⟩ := exists_blankRange hblank
    have hplace := hapart first hfirst range hrange
    omega
  simpa using hblank

/-- So no digit pads an integer. -/
theorem isPadding_of_isDigit {c : Char} (h : isDigit c = true) : isPadding c = false := by
  have hblank := isBlank_of_isDigit h
  by_contra hpads
  rw [isBlank_of_isPadding (by simpa using hpads)] at hblank
  cases hblank

/-- No digit is a letter. -/
theorem isAlpha_of_isDigit {c : Char} (h : isDigit c = true) : c.isAlpha = false := by
  -- The first run of digits ends before the letters begin, and the others start after them.
  have hapart : ∀ first ∈ digitZeros, first + 9 < 0x41 ∨ 0x7a < first := by decide
  obtain ⟨first, hfirst, hrun⟩ := isDigit_iff.mp h
  have hletter : ¬ c.isAlpha = true := by
    intro hletter
    have hcode := toNat_of_isAlpha hletter
    have hplace := hapart first hfirst
    omega
  simpa using hletter

/-- No letter is a blank. -/
theorem isBlank_of_isAlpha {c : Char} (h : c.isAlpha = true) : isBlank c = false := by
  have hapart : ∀ range ∈ blankRanges, range.2 < 0x41 ∨ 0x7a < range.1 := by decide
  have hletter := toNat_of_isAlpha h
  have hblank : ¬ isBlank c = true := by
    intro hblank
    obtain ⟨range, hrange, hcode⟩ := exists_blankRange hblank
    have hplace := hapart range hrange
    omega
  simpa using hblank

/-! ## The number that digits write -/

/-- The number that digits write, of which the last one counts ones and each other one ten times as
much as the next. -/
def decimalValue (digits : List Char) : Nat :=
  Nat.ofDigits 10 (digits.reverse.filterMap digitValue?)

/-- Values that are read from the left make the number that they write by their places. -/
theorem ofDigits_eq_ofDigits_reverse (values : List Nat) :
    ofDigits 0 values = Nat.ofDigits 10 values.reverse := by
  induction values using List.reverseRecOn with
  | nil => rfl
  | append_singleton values last ih =>
    -- The last digit is the first one to count.
    calc ofDigits 0 (values ++ [last]) = 10 * ofDigits 0 values + last := by simp [ofDigits]
      _ = last + 10 * Nat.ofDigits 10 values.reverse := by rw [ih, Nat.add_comm]
      _ = Nat.ofDigits 10 (values ++ [last]).reverse := by
        rw [List.reverse_append, List.reverse_singleton, List.singleton_append, Nat.ofDigits_cons]

/-- Digits that are read from the left make the number that they write. -/
theorem ofDigits_eq_decimalValue (digits : List Char) :
    ofDigits 0 (digits.filterMap digitValue?) = decimalValue digits := by
  rw [ofDigits_eq_ofDigits_reverse, decimalValue, List.filterMap_reverse]

/-- Zeros before the digits of a number change nothing. -/
theorem decimalValue_zeros (zeros : Nat) (digits : List Char) :
    decimalValue (List.replicate zeros '0' ++ digits) = decimalValue digits := by
  have hzero : digitValue? '0' = some 0 := by decide
  have hread : ∀ values : List Nat,
      ofDigits 0 (List.replicate zeros 0 ++ values) = ofDigits 0 values := by
    intro values
    induction zeros with
    | zero => rfl
    | succ zeros ih => exact ih
  rw [← ofDigits_eq_decimalValue, ← ofDigits_eq_decimalValue, List.filterMap_append,
    List.filterMap_replicate_of_some hzero, hread]

/-- A digit of ASCII is a digit, of the value that its place gives it. -/
theorem digitValue?_of_isDigit {c : Char} (h : c.isDigit = true) :
    digitValue? c = some (c.toNat - 0x30) := by
  have hrun : 0x30 ≤ c.toNat ∧ c.toNat ≤ 0x39 := by
    simp only [Char.isDigit, Bool.and_eq_true, decide_eq_true_eq, ge_iff_le,
      UInt32.le_iff_toNat_le] at h
    exact h
  -- The zero of ASCII comes first in the table.
  have htable : digitZeros = 0x30 :: digitZeros.tail := rfl
  have hfirst : (decide (0x30 ≤ c.toNat) && decide (c.toNat < 0x30 + 10)) = true := by
    simp only [Bool.and_eq_true, decide_eq_true_eq]
    omega
  rw [digitValue?, htable, List.find?_cons]
  simp only [hfirst, Option.map_some]

/-- The decimal text of a natural number consists of digits. -/
theorem isDigit_of_mem_toDigits {n : Nat} {c : Char} (h : c ∈ Nat.toDigits 10 n) :
    isDigit c = true := by
  have hascii : c.isDigit = true := Nat.isDigit_of_mem_toDigits (by decide) (by decide) h
  rw [isDigit, digitValue?_of_isDigit hascii]
  rfl

/-- The decimal text of a natural number writes this number. -/
theorem decimalValue_toDigits (n : Nat) : decimalValue (Nat.toDigits 10 n) = n := by
  have hvalues : (Nat.toDigits 10 n).filterMap digitValue? =
      (Nat.toDigits 10 n).map fun c => c.toNat - 0x30 := by
    rw [← List.filterMap_eq_map]
    refine List.filterMap_congr fun c hc => ?_
    exact digitValue?_of_isDigit (Nat.isDigit_of_mem_toDigits (by decide) (by decide) hc)
  calc decimalValue (Nat.toDigits 10 n)
      = ofDigits 0 ((Nat.toDigits 10 n).map fun c => c.toNat - 0x30) := by
        rw [← ofDigits_eq_decimalValue, hvalues]
    _ = Nat.ofDigitChars 10 (Nat.toDigits 10 n) 0 := by
        rw [ofDigits, List.foldl_map, Nat.ofDigitChars_eq_foldl]
        rfl
    _ = n := Nat.ofDigitChars_ten_toDigits

end NumberFeed.Text
