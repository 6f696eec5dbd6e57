import LineGate.Number.Shortest
import LineGate.Text.Quoted
import LineGate.Value.Basic

/-! # Writing values

Two notations for values: the **display** notation of plain log messages, and the **JSON** notation
of structured logs.
-/

namespace LineGate

/-- Texts with commas between them. -/
def commaSeparated (texts : List String) : String := ", ".intercalate texts

namespace Value

mutual

/-- **Display notation**: texts are quoted, and a table is written with braces. -/
def display : Value → String
  | .null => "None"
  | .bool b => if b then "True" else "False"
  | .int n => toString n
  | .float x => x.text "inf"
  | .nan _ => "nan"
  | .str s => quoted s
  | .list items => "[" ++ commaSeparated (displayAll items) ++ "]"
  | .dict entries => "\x7b" ++ commaSeparated (displayEntries entries) ++ "\x7d"
  | .function _ => "<function>"

/-- The items of a list in display notation. -/
def displayAll : List Value → List String
  | [] => []
  | v :: rest => display v :: displayAll rest

/-- The entries of a table in display notation. -/
def displayEntries : List (String × Value) → List String
  | [] => []
  | (key, v) :: rest => (quoted key ++ ": " ++ display v) :: displayEntries rest

end

/-- The value as a log message shows it: a text without quotes. -/
def shown : Value → String
  | .str s => s
  | other => other.display

/-! ## JSON -/

/-- How one character is written in a JSON string. -/
def jsonEscape (c : Char) : List Char :=
  if c = '\x22' ∨ c = '\\' then ['\\', c]
  else if c = '\n' then ['\\', 'n']
  else if c = '\r' then ['\\', 'r']
  else if c = '\t' then ['\\', 't']
  else if c = '\x0c' then ['\\', 'f']
  else if c = '\x08' then ['\\', 'b']
  else if c.toNat < 0x20 then '\\' :: 'u' :: hexDigits 4 c.toNat
  else [c]

/-- A text as a JSON string. -/
def jsonString (s : String) : String :=
  String.ofList ('\x22' :: (s.toList.flatMap jsonEscape ++ ['\x22']))

mutual

/-- **JSON notation**. A function has none, and is written as null. -/
def json : Value → String
  | .null => "null"
  | .bool b => if b then "true" else "false"
  | .int n => toString n
  | .float x => x.text "Infinity"
  | .nan _ => "NaN"
  | .str s => jsonString s
  | .list items => "[" ++ commaSeparated (jsonAll items) ++ "]"
  | .dict entries => "\x7b" ++ commaSeparated (jsonEntries entries) ++ "\x7d"
  | .function _ => "null"

/-- The items of a list in JSON notation. -/
def jsonAll : List Value → List String
  | [] => []
  | v :: rest => json v :: jsonAll rest

/-- The entries of a table in JSON notation. -/
def jsonEntries : List (String × Value) → List String
  | [] => []
  | (key, v) :: rest => (jsonString key ++ ": " ++ json v) :: jsonEntries rest

end

end Value

end LineGate
