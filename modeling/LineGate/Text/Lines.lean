import LineGate.Text.Separated

/-! # Lines

A text is a sequence of lines separated by line feeds. The last line has no line feed behind it, so
a text with `n` line feeds has `n + 1` lines, and a carriage return belongs to its line.
-/

namespace LineGate

/-- The **lines** of a text. -/
def linesOf (text : String) : List String :=
  (Separated.split '\n' text.toList).map String.ofList

/-- The **text** made of the given lines. -/
def textOf (lines : List String) : String :=
  String.ofList (Separated.join '\n' (lines.map String.toList))

/-- A text without the line feed at its end, if it has one. -/
def dropFinalLineFeed (cs : List Char) : List Char :=
  if cs.getLast? = some '\n' then cs.dropLast else cs

end LineGate
