/-! # Options of the command

The command line has **switches**, some of which take a value. Reading a command line gives its
**options**: what each switch was set to, and the files to process.
-/

namespace LineGate

namespace Command

/-- **Switches** of the command line. -/
inductive Switch where
  /-- Show the help text. -/
  | help
  /-- Define a variable. -/
  | define
  /-- Do not take over the variables of the process. -/
  | noEnv
  /-- Use the default pattern with two slashes. -/
  | doubleSlash
  /-- Use a directive pattern of one's own. -/
  | pattern
  /-- Use a file filter of one's own. -/
  | filter
  /-- Blank hidden lines. -/
  | fillSpaces
  /-- Use a comment marker of one's own. -/
  | commentMarker
  /-- Write the results into a directory. -/
  | outDir
  /-- Write the results over the files they come from. -/
  | inPlace
  /-- Report kept lines and decided conditions. -/
  | verbose
  /-- Write the log as JSON objects. -/
  | jsonLogs
  deriving DecidableEq, Repr

namespace Switch

/-- All switches, in the order in which they are looked for. -/
def all : List Switch :=
  [.help, .define, .noEnv, .doubleSlash, .pattern, .filter, .fillSpaces, .commentMarker, .outDir,
    .inPlace, .verbose, .jsonLogs]

/-- The spellings of a switch: the one with a single dash first, if there is one. -/
def spellings : Switch → List String
  | .help => ["-h", "--help"]
  | .define => ["-D", "--define"]
  | .noEnv => ["--no-env"]
  | .doubleSlash => ["--double-slash"]
  | .pattern => ["--pattern"]
  | .filter => ["--filter"]
  | .fillSpaces => ["--fill-spaces"]
  | .commentMarker => ["--comment-prefix"]
  | .outDir => ["-o", "--out-dir"]
  | .inPlace => ["--in-place"]
  | .verbose => ["-v", "--verbose"]
  | .jsonLogs => ["--json-logs"]

/-- Whether a switch takes a value. -/
def takesValue : Switch → Bool
  | .define | .pattern | .filter | .commentMarker | .outDir => true
  | _ => false

/-- How messages call a switch. -/
def label (s : Switch) : String := "/".intercalate s.spellings

/-- The switch with a given spelling. -/
def ofSpelling? (text : String) : Option Switch := all.find? (·.spellings.contains text)

/-- The spellings that start with a text, and what they spell. -/
def startingWith (text : String) : List (String × Switch) :=
  all.flatMap fun s =>
    (s.spellings.filter fun spelling => text.toList.isPrefixOf spelling.toList).map (·, s)

end Switch

/-- **Destinations** of the results. -/
inductive Destination where
  | standardOutput
  | directory (name : String)
  | inPlace
  deriving DecidableEq, Repr

/-- **Options** of the command. -/
structure Options where
  files : List String := []
  /-- The definitions, in their order. -/
  defines : List String := []
  noEnv : Bool := false
  doubleSlash : Bool := false
  pattern : Option String := none
  filter : Option String := none
  fillSpaces : Bool := false
  commentMarker : Option String := none
  destination : Destination := .standardOutput
  verbose : Bool := false
  jsonLogs : Bool := false
  deriving DecidableEq, Repr

end Command

end LineGate
