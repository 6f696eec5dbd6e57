import LineGate.Text.Separated

/-! # Paths

A path is a sequence of names, relative or from the root. Empty names and single dots between
slashes do not count; double dots are kept. Two paths are the same path when they have the same root
and the same names.
-/

namespace LineGate

/-- **Paths**. -/
structure Path where
  /-- The slashes at the front: none, one, or exactly two. -/
  root : String := ""
  /-- The names between slashes. -/
  parts : List String := []
  deriving DecidableEq, Repr

namespace Path

/-- The root of a path with the given number of slashes at its front. -/
def rootOf (slashes : Nat) : String :=
  if slashes = 0 then "" else if slashes = 2 then "//" else "/"

/-- **Read a path**. -/
def ofString (s : String) : Path :=
  let cs := s.toList
  let names := (Separated.split '/' cs).map String.ofList
  ⟨rootOf (cs.takeWhile (· = '/')).length, names.filter fun n => n ≠ "" && n ≠ "."⟩

/-- A path as text; the path without names is a single dot. -/
def toString (p : Path) : String :=
  let names := String.ofList (Separated.join '/' (p.parts.map String.toList))
  if p.root.isEmpty && p.parts.isEmpty then "." else p.root ++ names

/-- The last name of a path, empty if it has none. -/
def name (p : Path) : String := p.parts.getLastD ""

/-- The path without its last name. -/
def parent (p : Path) : Path := { p with parts := p.parts.dropLast }

/-- The path of a name inside the directory `p`. -/
def join (p : Path) (name : String) : Path :=
  { p with parts := p.parts ++ (ofString name).parts }

/-- The **extension** of a path: what stands behind the last dot of its name. A dot at either end of
the name does not start an extension. -/
def extension (p : Path) : String :=
  let cs := p.name.toList
  let after := (cs.reverse.takeWhile (· ≠ '.')).reverse
  if after.isEmpty ∨ cs.length ≤ after.length + 1 then "" else String.ofList after

end Path

end LineGate
