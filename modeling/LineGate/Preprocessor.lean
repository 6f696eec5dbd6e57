import LineGate.File.System
import LineGate.Settings

/-! # Preprocessing files

A preprocessor is a gate together with a file filter. It decides which files concern it, takes their
bytes apart, and packs what comes out: the processed text with its warnings, or one error. A text
that is rejected is an ordinary result; a file that cannot be read or decoded is not.
-/

namespace LineGate

/-- **Preprocessors** with supplied functions of state `σ`. -/
structure Preprocessor (σ : Type) where
  /-- What the path of a file has to contain. -/
  filter : Pattern
  gate : Gate σ

/-- **What a file gave**: the processed text or an error, and the name of the loader that the text
is meant for. -/
structure LoadResult where
  loader : String
  outcome : Except Diagnostic Formatted

namespace LoadResult

/-- Whether there is a processed text. -/
def ok (r : LoadResult) : Bool := r.outcome.isOk

/-- The processed text. -/
def contents? (r : LoadResult) : Option String := r.outcome.toOption.map (·.text)

/-- The warnings that go with the processed text. -/
def warnings (r : LoadResult) : List Diagnostic :=
  match r.outcome with
  | .ok f => f.warnings
  | .error _ => []

/-- The error in place of a processed text. -/
def errors (r : LoadResult) : List Diagnostic :=
  match r.outcome with
  | .ok _ => []
  | .error d => [d]

end LoadResult

/-- Why a file gave nothing. -/
inductive LoadFault where
  /-- The file cannot be read. -/
  | file (fault : FileFault)
  /-- The file is not text. -/
  | encoding (fault : Utf8.Fault)
  deriving DecidableEq, Repr

/-- **Loading**: a result or a failure, the records of what happened, and the state of the supplied
functions afterwards. -/
structure Loading (σ : Type) (ε : Type) where
  result : Except ε LoadResult
  records : List Log.Record
  state : σ

namespace Preprocessor

variable {σ : Type}

/-- The name that a preprocessor is registered under. -/
def name : String := "ifdef"

/-- The logger of preprocessors. -/
def logger : String := Log.loggerName "plugin"

/-- The loaders that an extension can name. -/
def loaders : List String := ["tsx", "jsx", "ts", "js"]

/-- The loader of files with any other extension. -/
def defaultLoader : String := "js"

/-- **The loader of a file**, by its extension. -/
def loaderOf (path : Path) : String :=
  if loaders.contains path.extension then path.extension else defaultLoader

/-- What can keep settings from giving a preprocessor. -/
inductive Refusal where
  /-- The file filter is not a pattern. -/
  | filter (source : String) (fault : Pattern.Fault)
  /-- The directive pattern is refused. -/
  | directive (refusal : Directive.Refusal)
  deriving DecidableEq, Repr

/-- The wording of a refusal. -/
def Refusal.message : Refusal → String
  | .filter source fault => fault.message source
  | .directive refusal => refusal.message

/-- What a refusal is if it is no mere faulty value: the pattern and its fault. A broken rule in the
directive pattern is reported as a faulty value, one in the file filter is not. -/
def Refusal.escape? : Refusal → Option (String × Pattern.Fault)
  | .filter source (.broken reason position) => some (source, .broken reason position)
  | .filter source (.overflow o) => some (source, .overflow o)
  | .directive (.invalid source (.overflow o)) => some (source, .overflow o)
  | _ => none

/-- **Build a preprocessor** from settings, the supplied functions and the variables of the process.
The glossary is for the patterns. -/
def build (glossary : Pattern.Glossary) (s : Settings) (functions : Functions σ)
    (environ : List (String × String)) : Except Refusal (Preprocessor σ) × List Log.Record :=
  match s.filterPattern glossary with
  | .error (source, fault) => (.error (.filter source fault), [])
  | .ok filter => match Gate.build glossary s functions environ Log.baseLogger with
    | (.ok gate, records) => (.ok ⟨filter, gate⟩, records)
    | (.error refusal, records) => (.error (.directive refusal), records)

/-- **Whether a file concerns the preprocessor**, by the text of its path. -/
def accepts (p : Preprocessor σ) (path : String) : Bool := p.filter.occursIn path

/-- The record of a rejected file. -/
def rejectedRecord (file : String) (r : Rejection) : Log.Record :=
  ⟨.debug, logger, file ++ " rejected: " ++ r.message, []⟩

/-- **Process a text** that was found under a path. This never fails: a rejected text gives an
error. -/
def process {ε : Type} (p : Preprocessor σ) (text path : String) (state : σ) : Loading σ ε :=
  let passage := p.gate.format (some path) text state
  let loader := loaderOf (Path.ofString path)
  match passage.result with
  | .ok formatted => ⟨.ok ⟨loader, .ok formatted⟩, passage.records, passage.state⟩
  | .error rejection =>
    let diagnostic := rejection.toDiagnostic.withFile (some path)
    ⟨.ok ⟨loader, .error diagnostic⟩, passage.records ++ [rejectedRecord path rejection],
      passage.state⟩

/-- The trace of an access to a path. -/
def trace (environ : List (String × String)) (message : String) (path : Path)
    (details : List (String × Value)) : List Log.Record :=
  Report.trace environ logger message (("path", .str path.toString) :: details)

/-- **Take in a file**: the bytes found under a path, or the failure to read them. -/
def receive (p : Preprocessor σ) (environ : List (String × String)) (path : Path)
    (content : Except FileFault Bytes) (state : σ) : Loading σ LoadFault :=
  let reading := trace environ "reading source" path []
  match content with
  | .error fault => ⟨.error (.file fault), reading, state⟩
  | .ok bytes => match Utf8.decode bytes with
    | .error fault => ⟨.error (.encoding fault), reading, state⟩
    | .ok chars =>
      let read := trace environ "read source" path [("chars", .int chars.length)]
      let loading := p.process (String.ofList chars) path.toString state
      { loading with records := reading ++ read ++ loading.records }

/-- **Load a file** of a file system. -/
def load (p : Preprocessor σ) (environ : List (String × String)) (fs : FileSystem) (path : Path)
    (state : σ) : Loading σ LoadFault :=
  p.receive environ path (fs.read path) state

end Preprocessor

end LineGate
