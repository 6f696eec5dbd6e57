/-! # Diagnostics and rejections

A **diagnostic** is a message about one line of a source text. A **rejection** is a fatal condition:
it stops the processing of a text, carries the index of the offending line, and is given its
location once the text as a whole is at hand. Lines of locations and diagnostics count from one,
columns and line indices from zero.
-/

namespace LineGate

/-- How grave a diagnostic is. -/
inductive Severity where
  | warning
  | error
  /-- A severity with a name of its own. -/
  | other (name : String)
  deriving DecidableEq, Repr

/-- The name of a severity. -/
def Severity.name : Severity → String
  | .warning => "warning"
  | .error => "error"
  | .other name => name

/-- **Locations** in a source text. -/
structure Location where
  /-- The line, counted from one. -/
  line : Int
  /-- The text of the line. -/
  lineText : String := ""
  /-- The column of the first character, counted from zero. -/
  column : Option Int := none
  /-- The number of characters pointed at. -/
  length : Option Int := none
  /-- The name of the source. -/
  file : Option String := none
  deriving DecidableEq, Repr

/-- The parts of a location between colons: the file if it has a name, the line, and the column
counted from one. -/
def Location.format (l : Location) : String :=
  let file := match l.file with
    | some name => if name.isEmpty then "" else name ++ ":"
    | none => ""
  let column := match l.column with
    | some c => ":" ++ toString (c + 1)
    | none => ""
  file ++ toString l.line ++ column

/-- **Diagnostics**: a message and the place it is about. -/
structure Diagnostic where
  severity : Severity
  message : String
  /-- The line, counted from one. -/
  line : Int
  /-- The column, counted from zero. -/
  column : Option Int := none
  /-- The number of characters pointed at. -/
  length : Option Int := none
  /-- The text of the line. -/
  lineText : String := ""
  /-- The name of the source. -/
  file : Option String := none
  deriving DecidableEq, Repr

namespace Diagnostic

/-- The place a diagnostic is about. -/
def location (d : Diagnostic) : Location :=
  ⟨d.line, d.lineText, d.column, d.length, d.file⟩

/-- The same diagnostic about another source. -/
def withFile (d : Diagnostic) (file : Option String) : Diagnostic := { d with file }

/-- A diagnostic in one line: location, severity and message. -/
def format (d : Diagnostic) : String :=
  d.location.format ++ ": " ++ d.severity.name ++ ": " ++ d.message

end Diagnostic

/-- The **kinds of rejection**. -/
inductive Rejection.Kind where
  /-- A rejection of no particular kind. -/
  | general
  /-- An error directive in an active branch. -/
  | directive
  /-- A condition that cannot be evaluated, with the condition's text. -/
  | expression (text : String)
  /-- A block that is not closed. -/
  | unterminated
  deriving DecidableEq, Repr

/-- **Rejections**: fatal conditions of a source text. -/
structure Rejection where
  /-- What the text is rejected for. -/
  kind : Rejection.Kind
  message : String
  /-- The index of the offending line, if known. -/
  line : Option Int := none
  /-- The offending place, once known. -/
  location : Option Location := none
  deriving DecidableEq, Repr

namespace Rejection

/-- A rejection as a diagnostic; without a location it points at its line, or at the first one. -/
def toDiagnostic (r : Rejection) : Diagnostic :=
  match r.location with
  | some l => ⟨.error, r.message, l.line, l.column, l.length, l.lineText, l.file⟩
  | none => { severity := .error, message := r.message, line := r.line.getD 0 + 1 }

/-- A rejection in one line: its location, if known, and its message. -/
def describe (r : Rejection) : String :=
  match r.location with
  | some l => l.format ++ ": " ++ r.message
  | none => r.message

end Rejection

end LineGate
