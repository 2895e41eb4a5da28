/-!
# Blank characters

Three classes of blanks. A blank may stand around the parts of a duration. Fewer characters pad the
text of an integer: the four separators `U+001C` to `U+001F` are blank but pad nothing. Bytes are
padded by the six blanks of ASCII alone.
-/

namespace NumberFeed.Text

/-- The six blanks of ASCII that pad a number: tab, the three line and page breaks, carriage return
and space. -/
def isAsciiPadding (c : Char) : Bool :=
  c.toNat == 0x20 || (0x09 ≤ c.toNat && c.toNat ≤ 0x0d)

/-- The blanks beyond ASCII: the next-line control and the spaces and separators of Unicode. -/
def isWideBlank (c : Char) : Bool :=
  [0x85, 0xa0, 0x1680, 0x2028, 0x2029, 0x202f, 0x205f, 0x3000].contains c.toNat ||
    (0x2000 ≤ c.toNat && c.toNat ≤ 0x200a)

/-- What may stand before and after the digits of an integer. -/
def isPadding (c : Char) : Bool :=
  isAsciiPadding c || isWideBlank c

/-- What may stand between the parts of a duration: padding and the information separators. -/
def isBlank (c : Char) : Bool :=
  isPadding c || (0x1c ≤ c.toNat && c.toNat ≤ 0x1f)

/-- Whatever pads an integer is blank. -/
theorem isBlank_of_isPadding {c : Char} (h : isPadding c = true) : isBlank c = true := by
  simp [isBlank, h]

end NumberFeed.Text
