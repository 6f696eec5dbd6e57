import LineGate.Text.CharSet

/-! # Blank characters

The white space that separates tokens, surrounds directives and is trimmed from both ends of a
condition: the Unicode white-space characters together with the four separators U+001C to U+001F.
-/

namespace LineGate

/-- **Blank characters**: 29 characters; zero-width space and byte-order mark are not among them. -/
def blankSet : CharSet := ⟨
  [0x9, 0xE, 0x1C, 0x21, 0x85, 0x86, 0xA0, 0xA1, 0x1680, 0x1681, 0x2000, 0x200B, 0x2028, 0x202A,
   0x202F, 0x2030, 0x205F, 0x2060, 0x3000, 0x3001]⟩

/-- Whether a character is blank. -/
def isBlank (c : Char) : Bool := blankSet.contains c

/-- Drop the blanks at the front of a text. -/
def trimStart (cs : List Char) : List Char := cs.dropWhile isBlank

/-- **Trimming**: drop the blanks at both ends of a text. -/
def trim (cs : List Char) : List Char := (trimStart (trimStart cs).reverse).reverse

/-- Trimming as a function on strings. -/
def trimmed (s : String) : String := String.ofList (trim s.toList)

end LineGate
