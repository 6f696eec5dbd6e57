import LineGate.Text.Printable

/-! # Quoted text

Messages show a piece of text between quotation marks, so that its ends, its line breaks and its
invisible characters can be seen. The mark is a single quote, unless the text holds single quotes
and no double quote.
-/

namespace LineGate

/-- The single quote, the usual mark around quoted text. -/
def singleQuote : Char := '\x27'

/-- The double quote, the mark around text that holds single quotes only. -/
def doubleQuote : Char := '\x22'

/-- The last `width` hexadecimal digits of a number, in lower case. -/
def hexDigits (width n : Nat) : List Char :=
  (List.range width).reverse.map fun i => Nat.digitChar (n / Nat.pow 16 i % 16)

namespace Quoted

/-- The **mark** that encloses a text. -/
def mark (cs : List Char) : Char :=
  if cs.contains singleQuote && !cs.contains doubleQuote then doubleQuote else singleQuote

/-- How one character is written between two marks `q`: the mark and the backslash behind a
backslash, line breaks and tabs by letter, other characters that are not printable by number. -/
def escape (q c : Char) : List Char :=
  if c = q ∨ c = '\\' then ['\\', c]
  else if c = '\n' then ['\\', 'n']
  else if c = '\r' then ['\\', 'r']
  else if c = '\t' then ['\\', 't']
  else if isPrintable c then [c]
  else if c.toNat < 0x100 then '\\' :: 'x' :: hexDigits 2 c.toNat
  else if c.toNat < 0x10000 then '\\' :: 'u' :: hexDigits 4 c.toNat
  else '\\' :: 'U' :: hexDigits 8 c.toNat

end Quoted

/-- **Quoted text**: the text between its marks, with escapes inside. -/
def quoteChars (cs : List Char) : List Char :=
  let q := Quoted.mark cs
  q :: (cs.flatMap (Quoted.escape q) ++ [q])

/-- Quoted text as a string. -/
def quoted (s : String) : String := String.ofList (quoteChars s.toList)

end LineGate
