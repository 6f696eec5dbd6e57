import LineGate.Environment
import LineGate.Report

/-! # Settings and gates

The settings of a preprocessor are resolved once into a **gate**: the directive pattern is compiled,
the variables are fixed, and from then on any number of texts can be sent through it.
-/

namespace LineGate

/-- A pattern as a setting: its source, or a compiled pattern. -/
inductive PatternInput where
  | source (text : String)
  | compiled (p : Pattern)

/-- **Settings** of a preprocessor. -/
structure Settings where
  /-- Report every kept line and every decided condition. -/
  verbose : Bool := false
  /-- A directive pattern in place of the default ones. -/
  pattern : Option PatternInput := none
  /-- The pattern that a file's path has to contain. -/
  fileFilter : PatternInput := .source "\\.[jt]sx?"
  /-- Use the default pattern with three slashes. -/
  requireTriple : Bool := true
  /-- Blank hidden lines in place of commenting them out. -/
  fillWithSpaces : Bool := false
  /-- The marker in front of lines that are commented out. -/
  commentMarker : String := "//"
  /-- The variables; without them those of the process are taken over. -/
  «variables» : Option Environment := none

namespace Settings

/-- The directive pattern. -/
def directivePattern (s : Settings) (glossary : Pattern.Glossary) :
    Except Directive.Refusal Pattern :=
  match s.pattern with
  | some (.compiled p) => Directive.checkPattern p
  | some (.source text) => Directive.compilePattern glossary text
  | none => Directive.compilePattern glossary (Directive.defaultPattern s.requireTriple)

/-- The file filter. -/
def filterPattern (s : Settings) (glossary : Pattern.Glossary) :
    Except (String × Pattern.Fault) Pattern :=
  match s.fileFilter with
  | .compiled p => .ok p
  | .source text => match Pattern.compile glossary text with
    | .ok p => .ok p
    | .error fault => .error (text, fault)

/-- The style of neutralising lines. -/
def style (s : Settings) : Style :=
  if s.fillWithSpaces then .blank else .comment s.commentMarker

/-- The variables of the process as an environment of texts. -/
def processEnvironment (environ : List (String × String)) : Environment :=
  environ.map fun (name, text) => (name, .str text)

/-- **The variables** of a preprocessor, and the record of taking over those of the process. -/
def resolveVariables (s : Settings) (environ : List (String × String)) :
    Environment × List Log.Record :=
  match s.variables with
  | some env => (env, [])
  | none => (processEnvironment environ, [Report.snapshot environ.length])

end Settings

/-- **Gates**: preprocessors whose settings are resolved, with supplied functions of state `σ`. -/
structure Gate (σ : Type) where
  pattern : Pattern
  functions : Functions σ
  «variables» : Environment
  style : Style
  verbose : Bool
  /-- The logger under whose children the gate reports. -/
  logger : String

namespace Gate

variable {σ : Type}

/-- **Build a gate** from settings, the supplied functions and the variables of the process. The
glossary is for the patterns. -/
def build (glossary : Pattern.Glossary) (s : Settings) (functions : Functions σ)
    (environ : List (String × String)) (logger : String) :
    Except Directive.Refusal (Gate σ) × List Log.Record :=
  match s.directivePattern glossary with
  | .error refusal => (.error refusal, [])
  | .ok pattern =>
    let (env, records) := s.resolveVariables environ
    (.ok { pattern, functions, «variables» := env, style := s.style, verbose := s.verbose, logger },
      records)

/-- The directives that a gate recognises. -/
def directive? (g : Gate σ) : String → Option Directive := Directive.find? g.pattern

/-- The evaluator of a gate. -/
def evaluator (g : Gate σ) : Evaluator σ := Condition.evaluator g.functions g.variables

/-- The outcome of sending a text through a gate: the result, the records and the state of the
supplied functions. -/
structure Passage (σ : Type) where
  result : Except Rejection Formatted
  records : List Log.Record
  state : σ

/-- The records of a passage: those of its events, then that of its outcome. -/
def records (g : Gate σ) (file : Option String) (events : List Event)
    (result : Except Rejection Formatted) : List Log.Record :=
  let conditions := Log.childLogger g.logger "expr"
  let blocks := Log.childLogger g.logger "parser"
  let documents := Log.childLogger g.logger "formatter"
  events.flatMap (Report.event conditions blocks g.verbose file) ++
    Report.outcome documents file result

/-- **Send a text through a gate**. -/
def format (g : Gate σ) (file : Option String) (text : String) (state : σ) : Passage σ :=
  let (result, progress) :=
    Document.format g.directive? g.evaluator g.style file text state
  ⟨result, g.records file progress.events.toList result, progress.state⟩

end Gate

end LineGate
