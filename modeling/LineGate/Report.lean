import LineGate.Document
import LineGate.Log.Record
import LineGate.Value.Notation

/-! # Reporting on documents

The log records that processing a text leads to. They are made from the events of the walk and from
its outcome, so a verbose run differs from a quiet one in its records alone.
-/

namespace LineGate

namespace Report

open Log

/-- How a source without a name is called. -/
def sourceName (file : Option String) : String :=
  match file with
  | some name => if name.isEmpty then "<text>" else name
  | none => "<text>"

/-- The word for a truth value. -/
def truthWord (b : Bool) : String := if b then "True" else "False"

/-- The record of a decided condition. -/
def evaluated (logger condition : String) (line : Option Int) (result : Bool) : Record :=
  let place := match line with
    | some i => " at line " ++ toString (i + 1)
    | none => ""
  ⟨.info, logger, "Expression " ++ quoted condition ++ place ++ " resulted with " ++
    truthWord result, []⟩

/-- The record of a kept line. -/
def included (logger : String) (file : Option String) (line : Nat) : Record :=
  ⟨.info, logger, "Including line " ++ sourceName file ++ ":" ++ toString (line + 1), []⟩

/-- The record of a warning. -/
def warned (logger : String) (d : Diagnostic) : Record :=
  ⟨.debug, logger, "warning directive on line " ++ toString d.line ++ ": " ++ d.message, []⟩

/-- The **records of an event** under a pair of loggers. Kept lines and decided conditions are
reported only by a verbose run. -/
def event (conditions blocks : String) (verbose : Bool) (file : Option String) : Event → List Record
  | .included line => if verbose then [included blocks file line] else []
  | .evaluated condition line result =>
    if verbose then [evaluated conditions condition (some line) result] else []
  | .warned d => [warned blocks d]

/-- The record of a rejected text. -/
def rejected (logger : String) (file : Option String) (r : Rejection) : Record :=
  ⟨.debug, logger, "rejecting " ++ sourceName file ++ ": " ++ r.describe, []⟩

/-- The record of a processed text, if it has hidden lines. -/
def suppressed (logger : String) (file : Option String) (f : Formatted) : List Record :=
  if f.hidden.isEmpty then []
  else [⟨.debug, logger, "suppressing " ++ toString f.hidden.length ++ " of " ++
    toString f.lineCount ++ " lines in " ++ sourceName file, []⟩]

/-- The **records of an outcome** of processing a text. -/
def outcome (logger : String) (file : Option String) : Except Rejection Formatted → List Record
  | .ok f => suppressed logger file f
  | .error r => [rejected logger file r]

/-- The record of taking over the variables of the process. -/
def snapshot (count : Nat) : Record :=
  ⟨.debug, loggerName "processing.env",
    "snapshot of " ++ toString count ++ " process environment variables", []⟩

/-! ## Diagnostics and traces -/

/-- A named value that may be missing. -/
def optionalField (name : String) : Option Value → List (String × Value)
  | some v => [(name, v)]
  | none => []

/-- The **context of a diagnostic**: its severity and its place, without what is missing. -/
def diagnosticContext (d : Diagnostic) : List (String × Value) :=
  [("severity", .str d.severity.name)] ++ optionalField "file" (d.file.map .str) ++
    [("line", .int d.line)] ++ optionalField "column" (d.column.map .int) ++
    optionalField "length" (d.length.map .int)

/-- The record of a diagnostic, at the level of its severity. -/
def diagnostic (logger : String) (d : Diagnostic) : Record :=
  ⟨if d.severity = .error then .error else .warning, logger, d.format, diagnosticContext d⟩

/-- The variable of the process that asks for traces of file access. -/
def traceVariable : String := "IFDEF_TRACE_IO"

/-- The **trace** of an access to files, if traces are asked for. -/
def trace (environ : List (String × String)) (logger message : String)
    (context : List (String × Value)) : List Record :=
  if environ.lookup traceVariable = some "1" then
    if context.isEmpty then [⟨.debug, logger, message, []⟩]
    else [⟨.debug, logger, message ++ " | ctx=" ++ (Value.dict context).display, context⟩]
  else []

end Report

end LineGate
