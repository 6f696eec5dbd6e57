import LineGate.Pattern.Width
import LineGate.Text.Identifier

/-! # Readers of patterns

The source of a pattern is first cut into **pieces**: a character, or a backslash with the character
behind it. Reading proceeds piece by piece, from left to right, and stops at the first fault. This file
has what all readers share, and the reading of flags; the number of pieces bounds every loop.
-/

namespace LineGate

namespace Pattern

/-- The characters that have a name, by their names. -/
abbrev Glossary := String → Option Char

/-- The glossary without names. -/
def Glossary.empty : Glossary := fun _ => none

/-- **Pieces** of a pattern's source. -/
inductive Piece where
  | char (c : Char)
  | escape (c : Char)
  /-- A backslash that ends the pattern. -/
  | dangling
  deriving DecidableEq, Repr

/-! ## Flags -/

/-- **Flags** change what a part of a pattern means. -/
inductive Flag where
  /-- Upper and lower case are the same. -/
  | ignoreCase
  /-- Lines have starts and ends. -/
  | multiline
  /-- A point stands for any character. -/
  | dotAll
  /-- White space and comments do not count. -/
  | verbose
  /-- Classes and case are about the first 128 characters. -/
  | ascii
  /-- Classes and case are about all characters. -/
  | unicode
  /-- Classes and case are those of a language. -/
  | locale
  /-- The pattern has no repetitions. -/
  | template
  deriving DecidableEq, Repr

namespace Flag

/-- The flag with a given letter. -/
def ofChar? : Char → Option Flag
  | 'i' => some .ignoreCase
  | 'm' => some .multiline
  | 's' => some .dotAll
  | 'x' => some .verbose
  | 'a' => some .ascii
  | 'u' => some .unicode
  | 'L' => some .locale
  | 't' => some .template
  | _ => none

/-- Whether a flag chooses an alphabet. -/
def isAlphabet : Flag → Bool
  | .ascii | .unicode | .locale => true
  | _ => false

end Flag

/-- The flags that are set. -/
abbrev Flags := List Flag

namespace Flags

/-- Turn flags on and off. An alphabet that is turned on takes the place of the one before. -/
def change (flags on off : Flags) : Flags :=
  let kept := if on.any Flag.isAlphabet then flags.filter (!·.isAlphabet) else flags
  (kept ++ on).filter (!off.contains ·)

/-- The alphabet of classes and case. -/
def alphabet (flags : Flags) : Alphabet := if flags.contains .ascii then .ascii else .unicode

end Flags

namespace Piece

/-- The number of characters of a piece. -/
def width : Piece → Nat
  | .char _ => 1
  | .escape _ => 2
  | .dangling => 1

/-- A piece as written. -/
def text : Piece → String
  | .char c => String.singleton c
  | .escape c => String.ofList ['\\', c]
  | .dangling => "\\"

/-- The flag that a piece stands for. -/
def flag? : Piece → Option Flag
  | .char c => Flag.ofChar? c
  | _ => none

/-- Whether a piece is a letter. -/
def isLetter : Piece → Bool
  | .char c => LineGate.isLetter c
  | _ => false

/-- Whether a piece does not count in a verbose pattern. -/
def isSpace : Piece → Bool
  | .char c => Class.space.contains .ascii c
  | _ => false

/-- The pieces of a source. -/
def ofChars : List Char → List Piece
  | '\\' :: c :: rest => .escape c :: ofChars rest
  | ['\\'] => [.dangling]
  | c :: rest => .char c :: ofChars rest
  | [] => []

/-- The names of characters in a source: what stands in braces behind a backslash and an `N`. -/
def names : List Piece → List String
  | .escape 'N' :: .char '{' :: rest =>
    String.join ((rest.takeWhile (· ≠ .char '}')).map text) :: names rest
  | _ :: rest => names rest
  | [] => []

end Piece

/-- The characters that a source names, by their names. -/
def Glossary.named (glossary : Glossary) (pieces : List Piece) : List (String × Char) :=
  (Piece.names pieces).filterMap fun name => (glossary name).map (name, ·)

/-! ## Reading -/

/-- What reading keeps track of: the pieces to come and their place, and what has been met so far. -/
structure Reading where
  /-- The characters that the source names, by their names. -/
  named : List (String × Char) := []
  pieces : List Piece
  position : Nat := 0
  /-- The number of groups that have been opened. -/
  groups : Nat := 0
  names : List (String × Nat) := []
  /-- The widths of the groups that have been closed. -/
  widths : List (Nat × Width) := []
  /-- Inside a look back, the number of groups in front of it. -/
  behind : Option Nat := none
  /-- The groups that conditions name by number, and where, latest first. -/
  conditions : List (Nat × Nat) := []
  /-- The flags of the whole pattern. -/
  flags : Flags := []

/-- Reading may stop with a fault. -/
abbrev Reader := StateT Reading (Except Fault)

namespace Reader

/-- Stop with a broken rule at a given place. -/
def fail {α : Type} (reason : Reason) (position : Nat) : Reader α :=
  throw (.broken reason (some position))

/-- The next piece. -/
def peek : Reader (Option Piece) := return (← get).pieces.head?

/-- The place of the next piece. -/
def place : Reader Nat := return (← get).position

/-- A bound for loops: they take a piece in every round but the last. -/
def rounds : Reader Nat := return (← get).pieces.length + 1

/-- Whether the next piece is a given character. -/
def sees (c : Char) : Reader Bool := return (← peek) == some (.char c)

/-- A backslash must not come next as the last character. -/
def checkNext : Reader Unit := do
  if (← peek) == some .dangling then fail .trailingBackslash (← place)

/-- Take the next piece. -/
def next : Reader (Option Piece) := do
  let state ← get
  match state.pieces with
  | [] => return none
  | p :: rest =>
    set { state with pieces := rest, position := state.position + p.width }
    checkNext
    return some p

/-- Pass over a given character if it comes next. -/
def accept (c : Char) : Reader Bool := do
  if ← sees c then
    let _ ← next
    return true
  else return false

/-- Take up to `limit` further characters that satisfy a test. -/
def takeWhile (test : Char → Bool) : Nat → Reader (List Char)
  | 0 => return []
  | limit + 1 => do
    match ← peek with
    | some (.char c) =>
      if test c then
        let _ ← next
        return c :: (← takeWhile test limit)
      else return []
    | _ => return []

/-- Pass over everything up to a given character; the answer tells whether there is one. -/
def skipPast (c : Char) : Nat → Reader Bool
  | 0 => return false
  | fuel + 1 => do
    match ← next with
    | none => return false
    | some p => if p = .char c then return true else skipPast c fuel

/-- The text up to a terminator, behind the part `done` of it (latest first); `what` it is must not be
empty. -/
def textUpTo (terminator : Char) (what : String) : Nat → List Char → Reader String
  | 0, done => return String.ofList done.reverse
  | fuel + 1, done => do
    match ← next with
    | none =>
      if done.isEmpty then fail (.missing what) (← place)
      else fail (.unclosedName terminator) ((← place) - done.length)
    | some p =>
      if p = .char terminator then
        if done.isEmpty then fail (.missing what) ((← place) - 1)
        return String.ofList done.reverse
      else textUpTo terminator what fuel (p.text.toList.reverse ++ done)

/-! ## Reading flags -/

/-- The flag that comes next, or one of the characters that may end the flags. -/
def flagOr (ends : List Char) (missing : FlagFault) : Reader (Flag ⊕ Char) := do
  match ← next with
  | none => fail (.flags missing) (← place)
  | some p =>
    if let some c := ends.find? (p = .char ·) then return .inr c
    if let some flag := p.flag? then return .inl flag
    fail (.flags (if p.isLetter then .unknown else missing)) ((← place) - p.width)

/-- The flags that are turned on, from a given one on, and the character that ends them. -/
def flagsOn : Nat → Flags → Flag → Reader (Flags × Char)
  | 0, on, _ => return (on, ':')
  | fuel + 1, on, flag => do
    if flag = .locale then fail (.flags .locale) (← place)
    if flag.isAlphabet && on.any (fun f => f.isAlphabet && f ≠ flag) then
      fail (.flags .alphabets) (← place)
    match ← flagOr [')', '-', ':'] .missingEnd with
    | .inl further => flagsOn fuel (flag :: on) further
    | .inr c => return (flag :: on, c)

/-- The flags that are turned off, from a given one on. -/
def flagsOff : Nat → Flags → Flag → Reader Flags
  | 0, off, _ => return off
  | fuel + 1, off, flag => do
    if flag.isAlphabet then fail (.flags .alphabetOff) (← place)
    match ← flagOr [':'] .missingColon with
    | .inl further => flagsOff fuel (flag :: off) further
    | .inr _ => return flag :: off

/-- **Flags** in a group, from the first one on or from the sign that turns flags off. Without a colon
behind them they are flags of the whole pattern, and there is no answer. -/
def groupFlags (first : Option Flag) : Reader (Option (Flags × Flags)) := do
  let fuel ← rounds
  let (on, sign) ← match first with
    | some flag => flagsOn fuel [] flag
    | none => pure ([], '-')
  if sign = ')' then
    modify fun state => { state with flags := state.flags ++ on }
    return none
  if on.contains .template then fail (.flags .globalOn) ((← place) - 1)
  let off ← if sign = '-' then
      match ← flagOr [] .missingFlag with
      | .inl flag => flagsOff fuel [] flag
      | .inr _ => pure []
    else pure []
  if off.contains .template then fail (.flags .globalOff) ((← place) - 1)
  if on.any off.contains then fail (.flags .onAndOff) ((← place) - 1)
  return some (on, off)

end Reader

end Pattern

end LineGate
