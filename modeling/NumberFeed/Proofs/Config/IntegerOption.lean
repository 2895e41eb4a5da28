import NumberFeed.Config.Setting
import NumberFeed.Proofs.Number.Printed

/-!
# Texts that are set as integers

A setting for an integer converts a text just when it has the form of an integer and not too many
digits, and refuses any other text with that text in the message (`Setting.integer_text_law`). So an
integer is converted from every way of writing it: with white space around it, a sign that says
nothing, zeros before the digits and underscores between them. Bytes of ASCII are converted as the
text that they encode.
-/

namespace NumberFeed

open IntegerText

namespace Setting

/-- What a setting for an integer makes of texts and bytes. -/
structure IntegerTextLaw (setting : Setting) : Prop where
  /-- It converts a text to an integer just when a sign and runs of digits make up the text, with
  white space around them, there are not too many digits, and they write that integer. -/
  accepts : ∀ (text : String) (n : Int), setting.convert (.text text) = .ok (.int n) ↔
    ∃ parts, Spells text.toList parts ∧ parts.digits.length ≤ Number.digitLimit ∧ parts.number = n
  /-- It refuses every other text as an illegal argument, and the message tells that text. -/
  refuses : ∀ text : String,
    (∀ parts, Spells text.toList parts → Number.digitLimit < parts.digits.length) →
      setting.convert (.text text) = .error (.refused (.notAnInteger text))
  /-- It converts the decimal text of an integer that can be written back to that integer. -/
  printed : ∀ n : Int, Number.Writable n →
    setting.convert (.text (String.ofList (Number.decimal n))) = .ok (.int n)
  /-- It does so for every way of writing the integer with no more digits than can be read. -/
  written : ∀ (n : Int) (zeros : Nat) (parts : IntegerText) (before after : List Char),
    Writes n zeros parts → parts.digits.length ≤ Number.digitLimit →
      Spaces before → Spaces after →
      setting.convert (.text (String.ofList (before ++ (parts.text ++ after)))) = .ok (.int n)
  /-- It converts bytes as the text that they encode, if this is all ASCII. -/
  bytes : ∀ text : String, (∀ c ∈ text.toList, c.toNat < 0x80) → ∀ n : Int,
    (setting.convert (.bytes (Number.asciiBytes text)) = .ok (.int n) ↔
      setting.convert (.text text) = .ok (.int n))

section Convert

variable {key fallback : Value} {text : String} {bytes : List UInt8} {n : Int} {cause : Failure}

/-- A text that can be read is converted to the integer that it writes. -/
theorem convert_text_of_ok (h : Number.read text = .ok n) :
    convert ⟨key, .integer, fallback⟩ (.text text) = .ok (.int n) := by
  unfold convert toInteger
  dsimp only [Value.toInt]
  rw [h]
  rfl

/-- A text that cannot be read is refused. -/
theorem convert_text_of_error (h : Number.read text = .error cause) :
    convert ⟨key, .integer, fallback⟩ (.text text) = .error (.refused (.notAnInteger text)) := by
  unfold convert toInteger
  dsimp only [Value.toInt]
  rw [h]
  rfl

/-- Only a text that can be read is converted. -/
theorem convert_text_iff :
    convert ⟨key, .integer, fallback⟩ (.text text) = .ok (.int n) ↔ Number.read text = .ok n := by
  refine ⟨fun hconvert => ?_, convert_text_of_ok⟩
  rcases hread : Number.read text with cause | m
  · rw [convert_text_of_error hread] at hconvert
    cases hconvert
  · rw [convert_text_of_ok hread] at hconvert
    exact congrArg Except.ok (Value.int.inj (Except.ok.inj hconvert))

/-- Only bytes that can be read are converted. -/
theorem convert_bytes_iff : convert ⟨key, .integer, fallback⟩ (.bytes bytes) = .ok (.int n) ↔
    Number.readBytes bytes = .ok n := by
  unfold convert toInteger
  dsimp only [Value.toInt]
  rcases Number.readBytes bytes with cause | m
  · refine ⟨fun hconvert => ?_, by rintro ⟨⟩⟩
    -- The message may fail to be put together, but nothing is converted.
    dsimp only [Except.toOption] at hconvert
    rcases soleText (.bytes bytes) with early | shown <;> cases hconvert
  · show (Except.ok (Value.int m) : Except Failure Value) = _ ↔ _
    rw [Except.ok.injEq, Except.ok.injEq, Value.int.injEq]

end Convert

/-- A setting for an integer converts texts and bytes as the law says. -/
theorem integer_text_law (key fallback : Value) : IntegerTextLaw ⟨key, .integer, fallback⟩ := by
  constructor
  · intro text n
    exact convert_text_iff.trans Number.read_eq_ok_iff
  · intro text hlong
    by_cases hspells : ∃ parts, Spells text.toList parts
    · obtain ⟨parts, hspells⟩ := hspells
      have hread : Number.read text = .error .tooManyDigits := by
        rw [Number.read_of_spells hspells, if_neg (Nat.not_le.mpr (hlong parts hspells))]
      exact convert_text_of_error hread
    · exact convert_text_of_error (Number.read_of_not_spells (not_exists.mp hspells))
  · exact fun n hn => convert_text_of_ok (Number.read_decimal hn)
  · intro n zeros parts before after hwrites hshort hbefore hafter
    exact convert_text_of_ok (Number.read_of_writes hwrites hshort hbefore hafter)
  · intro text hascii n
    rw [convert_bytes_iff, convert_text_iff, Number.readBytes_asciiBytes hascii]

end Setting

end NumberFeed
