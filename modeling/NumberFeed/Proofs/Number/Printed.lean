import NumberFeed.Proofs.Number.IntegerText
import NumberFeed.Proofs.Number.Writable

/-!
# Integers that are written and read

There are many ways of writing an integer: with a sign that says nothing, with zeros before its
digits and underscores between them (`IntegerText.Writes`), and with white space around. From each
of them it is read back, if there are not too many digits (`Number.read_of_writes`). The plainest of
them is its decimal text (`Number.read_decimal`).
-/

namespace NumberFeed

open NumberFeed.Text

namespace IntegerText

/-- A way of writing an integer: a sign that fits, and its decimal digits with zeros before them,
which make up the runs. -/
structure Writes (n : Int) (zeros : Nat) (parts : IntegerText) : Prop where
  /-- The sign gives the integer from its absolute value. -/
  sign : parts.sign.apply n.natAbs = n
  /-- No run is empty. -/
  runs : ∀ run ∈ parts.runs, run ≠ []
  /-- The runs together are the zeros and the digits. -/
  digits : parts.digits = List.replicate zeros '0' ++ Nat.toDigits 10 n.natAbs

namespace Writes

variable {n : Int} {zeros : Nat} {parts : IntegerText}

/-- Such a text writes the integer. -/
theorem number_eq (h : Writes n zeros parts) : parts.number = n := by
  rw [number, h.digits, decimalValue_zeros, decimalValue_toDigits, h.sign]

/-- It has the form of an integer, whatever white space stands around it. -/
theorem spells (h : Writes n zeros parts) {before after : List Char} (hbefore : Spaces before)
    (hafter : Spaces after) : Spells (before ++ (parts.text ++ after)) parts := by
  have hdigit : ∀ c ∈ parts.digits, isDigit c = true := by
    intro c hc
    rw [h.digits] at hc
    rcases List.mem_append.mp hc with hzero | hdigit
    · obtain rfl := List.eq_of_mem_replicate hzero
      decide
    · exact isDigit_of_mem_toDigits hdigit
  refine ⟨?_, fun run hrun => ⟨h.runs run hrun, fun c hc => ?_⟩, before, after, hbefore, hafter,
    rfl⟩
  · -- Without runs there would be no digit, but every number has one.
    intro hnone
    have hlength := congrArg List.length h.digits
    have hsome : 0 < (Nat.toDigits 10 n.natAbs).length := Nat.length_toDigits_pos
    rw [IntegerText.digits, hnone, List.flatten_nil, List.length_append, List.length_nil] at hlength
    omega
  · exact hdigit c (List.mem_flatten.mpr ⟨run, hrun, hc⟩)

end Writes

/-- The parts of the decimal text of an integer. -/
def ofInt (n : Int) : IntegerText :=
  ⟨if n < 0 then .minus else .absent, [Nat.toDigits 10 n.natAbs]⟩

/-- The decimal text of an integer is one way of writing it. -/
theorem writes_ofInt (n : Int) : Writes n 0 (ofInt n) := by
  refine ⟨?_, fun run hrun => ?_, List.flatten_singleton⟩
  · unfold ofInt
    dsimp only
    split
    · show -(n.natAbs : Int) = n
      omega
    · show (n.natAbs : Int) = n
      omega
  · obtain rfl := List.mem_singleton.mp hrun
    exact List.ne_nil_of_length_pos Nat.length_toDigits_pos

/-- Its parts make up the text. -/
theorem text_ofInt (n : Int) : (ofInt n).text = Number.decimal n := by
  unfold text ofInt Number.decimal
  dsimp only
  rw [List.intercalate_singleton]
  split <;> rfl

end IntegerText

namespace Number

open IntegerText

/-- An integer is read back from every way of writing it with no more digits than can be read. -/
theorem read_of_writes {n : Int} {zeros : Nat} {parts : IntegerText} {before after : List Char}
    (h : Writes n zeros parts) (hshort : parts.digits.length ≤ digitLimit)
    (hbefore : Spaces before) (hafter : Spaces after) :
    read (String.ofList (before ++ (parts.text ++ after))) = .ok n := by
  refine read_eq_ok_iff.mpr ⟨parts, ?_, hshort, h.number_eq⟩
  rw [String.toList_ofList]
  exact h.spells hbefore hafter

/-- An integer that can be written is read back from its text. -/
theorem read_decimal {n : Int} (h : Writable n) : read (String.ofList (decimal n)) = .ok n := by
  have hblank : Spaces [] := fun c hc => absurd hc List.not_mem_nil
  have hshort : (ofInt n).digits.length ≤ digitLimit := by
    rw [(writes_ofInt n).digits]
    exact h
  have hread := read_of_writes (writes_ofInt n) hshort hblank hblank
  rwa [List.nil_append, List.append_nil, text_ofInt] at hread

end Number

end NumberFeed
