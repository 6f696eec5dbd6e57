import LineGate.Command.Arguments
import LineGate.Command.Host
import LineGate.Define
import LineGate.Preprocessor

/-! # Running the command

A run reads its command line, builds a preprocessor, and processes the named files one after the
other. Files that do not concern the preprocessor are skipped. A file that cannot be read and a text
that is rejected make the run fail in the end, and do not keep the other files from being processed.
A run whose command line or settings are faulty ends before it touches any file.
-/

namespace LineGate

namespace Command

variable {m : Type → Type}

/-- **What ends a run before its time**. -/
inductive Escape where
  /-- A pattern has a fault that is not reported as misuse. -/
  | pattern (source : String) (fault : Pattern.Fault)
  /-- A result cannot be written. -/
  | file (fault : FileFault)
  /-- A file is not text. -/
  | encoding (fault : Utf8.Fault)
  /-- Printing was cut off. -/
  | interruption (i : Interruption)
  deriving DecidableEq, Repr

/-- Runs: they may end before their time. -/
abbrev Run (m : Type → Type) := ExceptT Escape m

/-- The status of a run in which all went well. -/
def success : Nat := 0

/-- The status of a run in which a file failed. -/
def failure : Nat := 1

/-- The status of a run with a faulty command line or faulty settings. -/
def misuse : Nat := 2

/-- The status of a run that the user stopped. -/
def stopped : Nat := 130

/-! ## Settings -/

/-- What can be wrong with the settings that options ask for. -/
inductive Trouble where
  | items (bad : List Define.BadItem)
  | digits (fault : TooManyDigits)
  | refused (refusal : Preprocessor.Refusal)
  deriving DecidableEq, Repr

/-- The wording of trouble with the settings. -/
def Trouble.message : Trouble → String
  | .items bad => "; ".intercalate (bad.map (·.message))
  | .digits fault => fault.message
  | .refused refusal => refusal.message

/-- The file filter that options ask for; an empty one does not count. -/
def Options.fileFilter (o : Options) (standard : PatternInput) : PatternInput :=
  match o.filter with
  | some source => if source.isEmpty then standard else .source source
  | none => standard

/-- The settings that options ask for, with given variables. -/
def Options.settingsWith (o : Options) (env : Environment) : Settings :=
  let standard : Settings := {}
  { verbose := o.verbose
    pattern := o.pattern.map .source
    fileFilter := o.fileFilter standard.fileFilter
    requireTriple := !o.doubleSlash
    fillWithSpaces := o.fillSpaces
    commentMarker := o.commentMarker.getD standard.commentMarker
    «variables» := some env }

/-- **The settings that options ask for**, and the record of taking over the variables of the
process. -/
def Options.settings (o : Options) (environ : List (String × String)) :
    Except Trouble Settings × List Log.Record :=
  let (base, records) := Define.base (!o.noEnv) environ
  match Define.collect base [] o.defines with
  | .error fault => (.error (.digits fault), records)
  | .ok (env, []) => (.ok (o.settingsWith env), records)
  | .ok (_, bad) => (.error (.items bad), records)

/-- The supplied functions of the command: there are none. -/
def noFunctions : Functions Unit := ⟨fun _ _ state => (.ok .null, state)⟩

/-- What keeps the command from having a preprocessor. -/
inductive Obstacle where
  | trouble (t : Trouble)
  | escape (source : String) (fault : Pattern.Fault)
  deriving DecidableEq, Repr

/-- What a refused preprocessor means to the command. -/
def Obstacle.ofRefusal (refusal : Preprocessor.Refusal) : Obstacle :=
  match refusal.escape? with
  | some (source, fault) => .escape source fault
  | none => .trouble (.refused refusal)

/-- **The preprocessor that options ask for**. -/
def Options.preprocessor (o : Options) (glossary : Pattern.Glossary)
    (environ : List (String × String)) :
    Except Obstacle (Preprocessor Unit) × List Log.Record :=
  match o.settings environ with
  | (.error t, records) => (.error (.trouble t), records)
  | (.ok settings, records) =>
    match Preprocessor.build glossary settings noFunctions environ with
    | (.ok p, more) => (.ok p, records ++ more)
    | (.error refusal, more) => (.error (.ofRefusal refusal), records ++ more)

/-! ## Targets -/

/-- The directory that results are written into, if there is one. -/
def Options.directory? (o : Options) : Option Path :=
  match o.destination with
  | .directory name => if name.isEmpty then none else some (Path.ofString name)
  | _ => none

/-- **The target** of the result for a file; without one it is printed. -/
def Options.target? (o : Options) (path : Path) : Option Path :=
  if o.destination = .inPlace then some path else o.directory?.map (·.join path.name)

/-- Go through paths and collect the names under which a path differs from an earlier one. -/
def clashesFrom (seen : List (String × Path)) (clashes : List String) : List Path → List String
  | [] => clashes.reverse
  | p :: rest =>
    match seen.lookup p.name with
    | none => clashesFrom ((p.name, p) :: seen) clashes rest
    | some earlier =>
      if earlier = p ∨ clashes.contains p.name then clashesFrom seen clashes rest
      else clashesFrom seen (p.name :: clashes) rest

/-- **Clashes**: the names that several of the paths share. -/
def clashes (paths : List Path) : List String := clashesFrom [] [] paths

/-- The clashes among the results that would be written into one directory. -/
def Options.clashes (o : Options) (p : Preprocessor Unit) : List String :=
  Command.clashes ((o.files.filter p.accepts).map Path.ofString)

/-! ## Records -/

/-- The logger of the command. -/
def logger : String := Log.loggerName "cli"

/-- A record of the command. -/
def record (level : Log.Level) (message : String) : Log.Record := ⟨level, logger, message, []⟩

/-- The record of a skipped file. -/
def skipped (path : Path) : Log.Record :=
  record .warning ("⚠  skipping " ++ path.toString ++ " (does not match file filter)")

/-- The record of a file that cannot be read. -/
def unreadable (path : Path) (fault : FileFault) : Log.Record :=
  record .error ("cannot read " ++ path.toString ++ ": " ++ fault.message)

/-- The record of a written result. -/
def written (path target : Path) : Log.Record :=
  record .info ("✔ " ++ path.toString ++ " → " ++ target.toString)

/-- The record of results that clash. -/
def clashing (directory : Path) (names : List String) : Log.Record :=
  record .error ("several inputs would be written to the same file in " ++ directory.toString ++
    ": " ++ ", ".intercalate names)

/-! ## Processing files -/

section Processing

variable [Monad m] (host : Host m)

/-- Log several records. -/
def logAll : List Log.Record → m Unit
  | [] => pure ()
  | r :: rest => do
    host.log r
    logAll rest

/-- An operation on files whose failure ends the run. -/
def orEscape (operation : m (Except FileFault Unit)) : Run m Unit := do
  match ← ExceptT.lift operation with
  | .ok () => return ()
  | .error fault => throw (.file fault)

/-- Print a text; an interruption ends the run. -/
def printOrEscape (text : String) : Run m Unit := do
  match ← ExceptT.lift (host.print text) with
  | .ok () => return ()
  | .error i => throw (.interruption i)

/-- Deliver the result for a file to its target. -/
def deliver (path : Path) (target : Option Path) (text : String) : Run m Unit := do
  match target with
  | none => printOrEscape host text
  | some target =>
    orEscape (host.writeFile target (Utf8.encode text.toList))
    ExceptT.lift (host.log (written path target))

/-- **Process a file**; the answer tells whether all went well. -/
def processFile (environ : List (String × String)) (o : Options) (p : Preprocessor Unit)
    (name : String) : Run m Bool := do
  let path := Path.ofString name
  if !p.accepts path.toString then
    ExceptT.lift (host.log (skipped path))
    return true
  let loading := p.receive environ path (← ExceptT.lift (host.readFile path)) ()
  ExceptT.lift (logAll host loading.records)
  match loading.result with
  | .error (.file fault) =>
    ExceptT.lift (host.log (unreadable path fault))
    return false
  | .error (.encoding fault) => throw (.encoding fault)
  | .ok result =>
    ExceptT.lift (logAll host (result.warnings.map (Report.diagnostic logger)))
    match result.outcome with
    | .error diagnostic =>
      ExceptT.lift (host.log (Report.diagnostic logger diagnostic))
      return false
    | .ok formatted =>
      deliver host path (o.target? path) formatted.text
      return true

/-- **Process files** one after the other; the answer tells whether all went well. -/
def processAll (environ : List (String × String)) (o : Options) (p : Preprocessor Unit) :
    List String → Run m Bool
  | [] => return true
  | name :: rest => do
    let ok ← processFile host environ o p name
    let others ← processAll environ o p rest
    return ok && others

/-- Process the files of the command line, unless results would clash. -/
def processFiles (environ : List (String × String)) (o : Options) (p : Preprocessor Unit) :
    Run m Nat := do
  if let some directory := o.directory? then
    let names := o.clashes p
    if !names.isEmpty then
      ExceptT.lift (host.log (clashing directory names))
      return misuse
    orEscape (host.makeDirectories directory)
  let ok ← processAll host environ o p o.files
  return if ok then success else failure

/-! ## The command -/

/-- How the log is set up: its mode and its threshold. -/
structure LogMode where
  json : Bool := false
  threshold : Int := Log.Level.info.rank
  deriving DecidableEq, Repr

/-- The variable of the process that asks for a log of JSON objects. -/
def jsonVariable : String := "IFDEF_JSON_LOGS"

/-- The log that options and variables of the process ask for. -/
def Options.logMode (o : Options) (environ : List (String × String)) : LogMode :=
  { json := o.jsonLogs || environ.lookup jsonVariable == some "1" }

/-- Run the command with options. -/
def runWith (environ : List (String × String)) (mode : Option LogMode) (o : Options) :
    Run m Nat := do
  let mode := mode.getD (o.logMode environ)
  ExceptT.lift (host.setUpLog mode.json mode.threshold)
  let (preprocessor, records) := o.preprocessor host.glossary environ
  ExceptT.lift (logAll host records)
  match preprocessor with
  | .ok p => processFiles host environ o p
  | .error (.trouble t) =>
    ExceptT.lift (host.log (record .error t.message))
    return misuse
  | .error (.escape source fault) => throw (.pattern source fault)

/-- Show the help text. It does no harm if nobody reads it. -/
def showHelp : Run m Nat := do
  match ← ExceptT.lift (host.print help) with
  | .error .keyboard => throw (.interruption .keyboard)
  | _ => return success

/-- **Run the command** on a command line; the answer is the exit status. -/
def run (environ : List (String × String)) (mode : Option LogMode) (argv : List String) :
    Run m Nat := do
  match Options.parse argv with
  | .ok o => runWith host environ mode o
  | .error .help => showHelp host
  | .error (.usage fault) =>
    ExceptT.lift (host.complain fault.report)
    return misuse

/-- **The command as a program**: interruptions have an exit status, too. -/
def execute (environ : List (String × String)) (argv : List String) : Run m Nat :=
  tryCatch (run host environ none argv) fun
    | .interruption .keyboard => do
      ExceptT.lift (host.log (record .error "Interrupted by user."))
      return stopped
    | .interruption .brokenPipe => return success
    | other => throw other

end Processing

end Command

end LineGate
