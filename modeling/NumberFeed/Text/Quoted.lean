import NumberFeed.Text.Printable

/-!
# Quoted text and bytes

A value inside a list, and any value that is shown by its literal, has its text in quotes. The quote
is the single one, unless the text holds a single quote and no double quote. Inside, the backslash
and the quote in use are escaped, line breaks and tabs have their letters, and what cannot be shown
has its number in hexadecimal.
-/

namespace NumberFeed.Text

/-- The single quote. -/
def singleQuote : Char := '\x27'

/-- The double quote. -/
def doubleQuote : Char := '\x22'

/-- The quote for a text: the single one, unless the text holds it and lacks the double one. -/
def quoteFor (cs : List Char) : Char :=
  if cs.contains singleQuote && !cs.contains doubleQuote then doubleQuote else singleQuote

/-- The lowercase hexadecimal digits of `n`, padded with zeros to `width`. -/
def hexDigits (width n : Nat) : List Char :=
  let digits := Nat.toDigits 16 n
  List.replicate (width - digits.length) '0' ++ digits

/-- A character by its number: two, four or eight hexadecimal digits, whichever suffice. -/
def escapeByNumber (n : Nat) : List Char :=
  if n < 0x100 then '\\' :: 'x' :: hexDigits 2 n
  else if n < 0x10000 then '\\' :: 'u' :: hexDigits 4 n
  else '\\' :: 'U' :: hexDigits 8 n

/-- One character inside quotes, of which those with `shown` stand for themselves. -/
def escapeChar (shown : Char → Bool) (quote c : Char) : List Char :=
  if c = quote ∨ c = '\\' then ['\\', c]
  else if c = '\n' then ['\\', 'n']
  else if c = '\r' then ['\\', 'r']
  else if c = '\t' then ['\\', 't']
  else if shown c then [c]
  else escapeByNumber c.toNat

/-- A sequence of characters in quotes. -/
def quoteChars (shown : Char → Bool) (cs : List Char) : List Char :=
  let quote := quoteFor cs
  quote :: cs.flatMap (escapeChar shown quote) ++ [quote]

/-- A text in quotes. -/
def quoted (text : String) : String :=
  String.ofList (quoteChars isPrintable text.toList)

/-- The characters whose codes are the given bytes. -/
def bytesAsChars (bytes : List UInt8) : List Char :=
  bytes.map fun byte => Char.ofNat byte.toNat

/-- Bytes in quotes after a `b`: only the printable characters of ASCII are shown as they are. -/
def quotedBytes (bytes : List UInt8) : String :=
  String.ofList
    ('b' :: quoteChars (fun c => c.toNat < 0x80 && isPrintable c) (bytesAsChars bytes))

end NumberFeed.Text
