import LineGate.Command.Options
import LineGate.Text.Quoted

/-! # Usage of the command

The texts that explain the command line, and what can be wrong with one.
-/

namespace LineGate

namespace Command

/-- **Faults of a command line**. -/
inductive UsageFault where
  /-- A shortened spelling could stand for several switches. -/
  | ambiguous (text : String) (candidates : List String)
  /-- A switch lacks its value. -/
  | missingValue (s : Switch)
  /-- A switch is given a value that it does not take. -/
  | unwantedValue (s : Switch) (value : String)
  /-- Two switches exclude each other. -/
  | conflict (s earlier : Switch)
  /-- There are no files. -/
  | missingFiles
  /-- Some arguments have no meaning. -/
  | unrecognized (texts : List String)
  deriving DecidableEq, Repr

/-- A message about the use of a switch. -/
def aboutSwitch (s : Switch) (text : String) : String := "argument " ++ s.label ++ ": " ++ text

/-- The wording of a fault. -/
def UsageFault.message : UsageFault → String
  | .ambiguous text candidates =>
    "ambiguous option: " ++ text ++ " could match " ++ ", ".intercalate candidates
  | .missingValue s => aboutSwitch s "expected one argument"
  | .unwantedValue s value => aboutSwitch s ("ignored explicit argument " ++ quoted value)
  | .conflict s earlier => aboutSwitch s ("not allowed with argument " ++ earlier.label)
  | .missingFiles => "the following arguments are required: FILE"
  | .unrecognized texts => "unrecognized arguments: " ++ " ".intercalate texts

/-- Lines of text, each with a line feed behind it. -/
def paragraph (lines : List String) : String := String.join (lines.map (· ++ "\n"))

/-- The usage text. -/
def usage : String :=
  paragraph
    ["usage: ifdef [-h] [-D NAME[=VALUE]] [--no-env] [--double-slash]",
      "             [--pattern REGEX] [--filter REGEX] [--fill-spaces]",
      "             [--comment-prefix TEXT] [-o DIR | --in-place] [-v] [--json-logs]",
      "             FILE [FILE ...]"]

/-- **The help text**. -/
def help : String :=
  usage ++
  paragraph
    ["",
      "ifdef – conditional-compilation preprocessor",
      "Lines inside inactive ///#if branches are commented out (or blanked);",
      "the line count of every file is preserved.",
      "",
      "positional arguments:",
      "  FILE                  Source files to preprocess.",
      "",
      "options:",
      "  -h, --help            show this help message and exit",
      "",
      "Variables:",
      "  -D NAME[=VALUE], --define NAME[=VALUE]",
      "                        Bind NAME in the expression environment. Repeatable. VALUE is read as",
      "                        true/false, an integer or a float when it looks like one, else a string.",
      "                        A bare NAME binds true.",
      "  --no-env              Do not expose process environment variables to expressions.",
      "",
      "Grammar:",
      "  --double-slash        Accept //#directive instead of requiring ///#directive.",
      "  --pattern REGEX       Custom directive pattern with named groups 'token' and 'expression'.",
      "  --filter REGEX        Only process files whose path matches REGEX (default: \\.[jt]sx?).",
      "",
      "Output:",
      "  --fill-spaces         Replace suppressed lines with spaces instead of commenting them out.",
      "  --comment-prefix TEXT",
      "                        Prefix used to comment out suppressed lines (default: //).",
      "  -o DIR, --out-dir DIR",
      "                        Write results into DIR (same file names).",
      "  --in-place            Overwrite the input files.",
      "",
      "Miscellaneous:",
      "  -v, --verbose         Log included lines and expression results.",
      "  --json-logs           Emit logs as JSON lines."]

/-- What is printed for a faulty command line. -/
def UsageFault.report (f : UsageFault) : String := usage ++ "ifdef: error: " ++ f.message ++ "\n"

end Command

end LineGate
