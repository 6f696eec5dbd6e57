import LineGate.File.Path
import LineGate.Text.Quoted
import LineGate.Text.Utf8

/-! # File systems

A file system with a root and a working directory, as far as the program deals with it: files with
their bytes, and directories. Relative paths start from the working directory, the others from the root.
Operations fail as those of an operating system do, and a failure names the path it is about.
-/

namespace LineGate

/-- **Faults** of file operations. -/
inductive FileFault.Cause where
  | notFound
  | exists
  | notDirectory
  | isDirectory
  deriving DecidableEq, Repr

/-- A fault and the path it is about. -/
structure FileFault where
  cause : FileFault.Cause
  path : Path
  deriving DecidableEq, Repr

/-- The number and the words for a fault. -/
def FileFault.Cause.words : FileFault.Cause → String
  | .notFound => "[Errno 2] No such file or directory"
  | .exists => "[Errno 17] File exists"
  | .notDirectory => "[Errno 20] Not a directory"
  | .isDirectory => "[Errno 21] Is a directory"

/-- The message for a fault. -/
def FileFault.message (f : FileFault) : String :=
  f.cause.words ++ ": " ++ quoted f.path.toString

/-- What a name in a directory stands for. -/
inductive FileNode where
  | file (content : Bytes)
  | directory
  deriving DecidableEq, Repr

/-- **File systems**: the entries by their names from the root on. -/
structure FileSystem where
  /-- The names of the working directory, which is there with all directories above it. -/
  home : List String := []
  entries : List (List String × FileNode) := []
  deriving Repr

namespace FileSystem

/-- The entry under a sequence of names; on the way to the working directory there are directories. -/
def node? (fs : FileSystem) (names : List String) : Option FileNode :=
  if names.isPrefixOf fs.home then some .directory else fs.entries.lookup names

/-- Put an entry in place of an earlier one, or behind the others. -/
def put (fs : FileSystem) (names : List String) (node : FileNode) : FileSystem :=
  { fs with
    entries :=
      if fs.entries.any (·.1 == names) then
        fs.entries.map fun e => if e.1 = names then (names, node) else e
      else fs.entries ++ [(names, node)] }

/-- Follow names from a directory on. All but the last must lead to directories. Double dots lead back,
from the root to itself. -/
def follow (fs : FileSystem) (here : List String) :
    List String → Except FileFault.Cause (List String)
  | [] => .ok here
  | name :: rest =>
    if name = ".." then follow fs here.dropLast rest
    else
      let there := here ++ [name]
      if rest.isEmpty then .ok there
      else match fs.node? there with
        | none => .error .notFound
        | some (.file _) => .error .notDirectory
        | some .directory => follow fs there rest

/-- Where a path starts from, by the names of the directory. -/
def start (fs : FileSystem) (p : Path) : List String := if p.root.isEmpty then fs.home else []

/-- The entry that a path leads to, by its names from the root on. -/
def resolve (fs : FileSystem) (p : Path) : Except FileFault (List String) :=
  (fs.follow (fs.start p) p.parts).mapError (⟨·, p⟩)

/-- Whether a path leads to a directory. -/
def isDirectory (fs : FileSystem) (p : Path) : Bool :=
  match fs.resolve p with
  | .ok names => fs.node? names == some .directory
  | .error _ => false

/-- **Read** a file. -/
def read (fs : FileSystem) (p : Path) : Except FileFault Bytes := do
  match fs.node? (← fs.resolve p) with
  | some (.file content) => return content
  | some .directory => throw ⟨.isDirectory, p⟩
  | none => throw ⟨.notFound, p⟩

/-- **Write** a file, in place of an earlier one. -/
def write (fs : FileSystem) (p : Path) (content : Bytes) : Except FileFault FileSystem := do
  let names ← fs.resolve p
  match fs.node? names with
  | some .directory => throw ⟨.isDirectory, p⟩
  | _ => return fs.put names (.file content)

/-- Make a directory in an existing one. -/
def makeDirectory (fs : FileSystem) (p : Path) : Except FileFault FileSystem := do
  let names ← fs.resolve p
  match fs.node? names with
  | some _ => throw ⟨.exists, p⟩
  | none => return fs.put names .directory

/-- Failing to make a directory does no harm if the directory is there. -/
def unlessPresent (fs : FileSystem) (p : Path) :
    Except FileFault FileSystem → Except FileFault FileSystem
  | .ok fs => .ok fs
  | .error fault => if fs.isDirectory p then .ok fs else .error fault

/-- Make a directory, with up to `depth` directories above it that are missing. -/
def makeDirectoriesUpTo (fs : FileSystem) : (depth : Nat) → Path → Except FileFault FileSystem
  | 0, p => fs.unlessPresent p (fs.makeDirectory p)
  | depth + 1, p => match fs.makeDirectory p with
    | .error ⟨.notFound, _⟩ => do
      let fs ← fs.makeDirectoriesUpTo depth p.parent
      fs.unlessPresent p (fs.makeDirectory p)
    | outcome => fs.unlessPresent p outcome

/-- **Make a directory** together with the missing ones above it. -/
def makeDirectories (fs : FileSystem) (p : Path) : Except FileFault FileSystem :=
  fs.makeDirectoriesUpTo p.parts.length p

end FileSystem

end LineGate
