import LineGate.File.System
import LineGate.Log.Handler
import LineGate.Pattern.Reader

/-! # Hosts and sessions

The command reaches its surroundings through a **host**: files, the two output streams, and the log.
A **session** is a host that consists of values only: a file system, what was written to the streams
so far, and the log handler.
-/

namespace LineGate

namespace Command

/-- What can cut off printing. -/
inductive Interruption where
  /-- Nobody reads the output any more. -/
  | brokenPipe
  /-- The user stops the command. -/
  | keyboard
  deriving DecidableEq, Repr

/-- **Hosts**: the surroundings of the command, with effects in `m`. -/
structure Host (m : Type → Type) where
  /-- The characters that patterns can give by name. -/
  glossary : Pattern.Glossary
  /-- The bytes of a file. -/
  readFile : Path → m (Except FileFault Bytes)
  /-- Write a file, in place of an earlier one. -/
  writeFile : Path → Bytes → m (Except FileFault Unit)
  /-- Make a directory and the missing ones above it. -/
  makeDirectories : Path → m (Except FileFault Unit)
  /-- Write to the standard output. -/
  print : String → m (Except Interruption Unit)
  /-- Write to the standard error stream. -/
  complain : String → m Unit
  /-- Set up the log handler, with its mode and its threshold. -/
  setUpLog : Bool → Int → m Unit
  /-- Hand a record to the log handler. -/
  log : Log.Record → m Unit

/-- **Sessions**. -/
structure Session where
  files : FileSystem := {}
  /-- The log handler, once it is set up. It writes to the standard error stream. -/
  handler : Option (Log.Handler Unit) := none
  /-- What was written to the standard output. -/
  out : String := ""
  /-- What was written to the standard error stream. -/
  err : String := ""

namespace Session

/-- Change the file system, unless that fails. -/
def changeFiles (change : FileSystem → Except FileFault FileSystem) :
    StateM Session (Except FileFault Unit) := do
  let s ← get
  match change s.files with
  | .ok files =>
    set { s with files }
    return .ok ()
  | .error fault => return .error fault

/-- What a record adds to the standard error stream. -/
def logText (s : Session) (stamp : String) (r : Log.Record) : String :=
  match s.handler with
  | some h => (h.line? stamp r).getD ""
  | none => (Log.bareLine? r).getD ""

/-- **The host that a session is**. All records get the same time stamp, and an interruption, if
there is one, meets every attempt to print. -/
def host (glossary : Pattern.Glossary) (stamp : String) (interruption : Option Interruption) :
    Host (StateM Session) where
  glossary := glossary
  readFile path := return (← get).files.read path
  writeFile path content := changeFiles (·.write path content)
  makeDirectories path := changeFiles (·.makeDirectories path)
  print text :=
    match interruption with
    | some i => return .error i
    | none => do
      modify fun s => { s with out := s.out ++ text }
      return .ok ()
  complain text := modify fun s => { s with err := s.err ++ text }
  setUpLog json threshold :=
    modify fun s => { s with handler := some (Log.Handler.setUp s.handler () json threshold none) }
  log r := modify fun s => { s with err := s.err ++ s.logText stamp r }

/-- A session has the glossary that it is given. -/
@[simp] theorem host_glossary (glossary : Pattern.Glossary) (stamp : String)
    (interruption : Option Interruption) : (host glossary stamp interruption).glossary = glossary := rfl

end Session

end Command

end LineGate
