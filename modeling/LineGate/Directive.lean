import LineGate.Pattern.Parser
import LineGate.Pattern.Search

/-! # Directives

A directive is a line in which the directive pattern is found with one of the directive words in its
`token` group. What the `expression` group matched goes with it: the condition of an `if`, the text
of a warning. A line with any other word is ordinary content.
-/

namespace LineGate

/-- **Kinds of directives**; several words may stand for one kind. -/
inductive Directive.Kind where
  /-- Opens a block, with a condition. -/
  | opening
  /-- Starts another branch, with a condition. -/
  | elseIf
  /-- Starts another branch without a condition. -/
  | otherwise
  /-- Closes a block. -/
  | closing
  /-- Gives a warning. -/
  | warning
  /-- Rejects the text. -/
  | error
  deriving DecidableEq, Repr

/-- **Directives** found on a line. -/
structure Directive where
  /-- The directive word as written. -/
  word : String
  kind : Directive.Kind
  /-- The condition or message, empty if there is none. -/
  expression : String := ""
  /-- Where the pattern was found in the line. -/
  column : Nat := 0
  /-- How many characters it took. -/
  length : Nat := 0
  deriving DecidableEq, Repr

namespace Directive

/-- The name of a kind. -/
def Kind.name : Kind → String
  | .opening => "if"
  | .elseIf => "elseif"
  | .otherwise => "else"
  | .closing => "endif"
  | .warning => "warning"
  | .error => "error"

/-- The **directive words** with their kinds. -/
def words : List (String × Kind) :=
  [("if", .opening), ("elseif", .elseIf), ("elif", .elseIf), ("else", .otherwise),
    ("endif", .closing), ("warning", .warning), ("warn", .warning), ("error", .error),
    ("err", .error)]

/-- The usual directive pattern: three slashes and a hash sign. -/
def triplePattern : String := "///\\s*#(?P<token>.*?)(?:\\s+(?P<expression>.*?))?\\s*$"

/-- The relaxed directive pattern: two slashes and a hash sign. -/
def doublePattern : String := "//\\s*#(?P<token>.*?)(?:\\s+(?P<expression>.*?))?\\s*$"

/-- The directive pattern that applies when there is no custom one. -/
def defaultPattern (requireTriple : Bool) : String :=
  if requireTriple then triplePattern else doublePattern

/-- **Refused patterns**: why a pattern cannot recognise directives. -/
inductive Refusal where
  /-- The text is not a pattern. -/
  | invalid (source : String) (fault : Pattern.Fault)
  /-- There is no group for the directive word. -/
  | noToken (source : String)
  deriving DecidableEq, Repr

/-- The wording of a refusal. -/
def Refusal.message : Refusal → String
  | .invalid source (.broken reason position) =>
    "invalid directive pattern " ++ quoted source ++ ": " ++
      Pattern.Fault.message source (.broken reason position)
  | .invalid source fault => fault.message source
  | .noToken source => "directive pattern " ++ quoted source ++ " has no named group 'token'"

/-- A pattern can recognise directives if it has a group for the directive word. -/
def checkPattern (p : Pattern) : Except Refusal Pattern :=
  if p.hasGroup "token" then .ok p else .error (.noToken p.source)

/-- **The directive pattern** with a given source. -/
def compilePattern (glossary : Pattern.Glossary) (source : String) : Except Refusal Pattern :=
  match Pattern.compile glossary source with
  | .ok p => checkPattern p
  | .error fault => .error (.invalid source fault)

/-- The directive that a match stands for, if its word is a directive word. -/
def ofMatch? (p : Pattern) (line : List Char) (m : Pattern.Match) : Option Directive := do
  let word := String.ofList (← p.groupText? line m "token")
  let kind ← words.lookup word
  let expression := String.ofList ((p.groupText? line m "expression").getD [])
  return ⟨word, kind, expression, m.start, m.stop - m.start⟩

/-- **The directive on a line**, if there is one. -/
def find? (p : Pattern) (line : String) : Option Directive := do
  let m ← p.search? line.toList
  ofMatch? p line.toList m

end Directive

end LineGate
