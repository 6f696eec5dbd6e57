import LineGate.Pattern.Reader

/-! # Reading patterns

Patterns are read from the inside out: escapes and sets, repetitions, the heads of groups, and at last
sequences and alternatives, which contain one another. The nesting of groups is bounded by the number of
pieces, which serves as fuel. What can only be said of a whole pattern is checked at the end.
-/

namespace LineGate

namespace Pattern

namespace Reader

/-! ## Escapes -/

/-- Characters that are written with a letter. -/
def letterEscape? : Char → Option Char
  | 'a' => some '\x07'
  | 'f' => some '\x0c'
  | 'n' => some '\n'
  | 'r' => some '\r'
  | 't' => some '\t'
  | 'v' => some '\x0b'
  | '\\' => some '\\'
  | _ => none

/-- Classes that are written with a letter. -/
def classEscape? (a : Alphabet) : Char → Option Member
  | 'd' => some (.cls a .digit false)
  | 'D' => some (.cls a .digit true)
  | 's' => some (.cls a .space false)
  | 'S' => some (.cls a .space true)
  | 'w' => some (.cls a .word false)
  | 'W' => some (.cls a .word true)
  | _ => none

/-- Assertions that are written with a letter. -/
def assertionEscape? (a : Alphabet) : Char → Option Assertion
  | 'A' => some .start
  | 'Z' => some .close
  | 'b' => some (.boundary a)
  | 'B' => some (.noBoundary a)
  | _ => none

/-- A character given by exactly `count` hexadecimal digits behind the letter `c`. -/
def hexEscape (c : Char) (count : Nat) : Reader Nat := do
  let digits ← takeWhile Numeral.isHexDigit count
  let text := String.ofList ('\\' :: c :: digits)
  if digits.length ≠ count then fail (.incompleteEscape text) ((← place) - text.length)
  let n := Numeral.hexNatural digits
  if 0x80000000 ≤ n then throw (.overflow .code)
  if 0x110000 ≤ n then fail (.badEscape text) ((← place) - text.length)
  return n

/-- A character given by its name in braces. -/
def namedEscape : Reader Nat := do
  if !(← accept '{') then fail (.missing "\x7b") (← place)
  let name ← textUpTo '}' "character name" (← rounds) []
  match (← get).named.lookup name with
  | some c => return c.toNat
  | none => fail (.unknownCharacter name) ((← place) - (name.length + 4))

/-- Whether a character is an octal digit. -/
def isOctal (c : Char) : Bool := '0' ≤ c && c ≤ '7'

/-- The value of octal digits that have just been passed; there are no numbers beyond three of them. -/
def octal (digits : List Char) : Reader Nat := do
  let n := digits.foldl (fun n d => 8 * n + digitValue d) 0
  let text := String.ofList ('\\' :: digits)
  if 0o377 < n then fail (.octalRange text) ((← place) - text.length)
  return n

/-- A character given by octal digits, the first of which is known. -/
def octalEscape (first : Char) : Reader Nat := do
  octal (first :: (← takeWhile isOctal 2))

/-- A character behind a backslash that has no meaning of its own: punctuation stands for itself. -/
def plainEscape (c : Char) : Reader Nat := do
  if c.isAlpha || c.isDigit then
    fail (.badEscape (String.ofList ['\\', c])) ((← place) - 2)
  else return c.toNat

/-- The code point behind a backslash, given by number, by name or by itself. -/
def codeEscape (c : Char) : Reader Nat :=
  match letterEscape? c with
  | some d => return d.toNat
  | none =>
    if c = 'x' then hexEscape c 2
    else if c = 'u' then hexEscape c 4
    else if c = 'U' then hexEscape c 8
    else if c = 'N' then namedEscape
    else if c = '0' then octalEscape c
    else plainEscape c

/-- One given code point, under flags. -/
def literal (flags : Flags) (n : Nat) : Regex :=
  if flags.contains .ignoreCase && flags.alphabet.isCased n then
    .loose flags.alphabet false [.code (flags.alphabet.lower n)]
  else if n.isValidChar then .char (Char.ofNat n)
  else .set false [.code n]

/-! ## References to groups -/

/-- Inside a look back, a group that is referred to has to be closed in front of it. -/
def checkLookBehind (index : Nat) : Reader Unit := do
  let state ← get
  if let some front := state.behind then
    if (state.widths.lookup index).isNone then fail .openGroup state.position
    if front < index then fail .sameLookBehind state.position

/-- A reference to a group, whose text is the last `width` characters. The group has to be closed. -/
def reference (flags : Flags) (index width : Nat) : Reader Regex := do
  let state ← get
  if (state.widths.lookup index).isNone then fail .openGroup (state.position - width)
  checkLookBehind index
  return .ref (if flags.contains .ignoreCase then some flags.alphabet else none) index

/-- A number behind a backslash: a character if there are three octal digits, else a group. -/
def numberEscape (flags : Flags) (first : Char) : Reader Regex := do
  let digits := first :: (← takeWhile Char.isDigit 1)
  let third ← if digits.length = 2 && digits.all isOctal then takeWhile isOctal 1 else pure []
  if third.isEmpty then
    let index := Numeral.natural digits
    if (← get).groups < index then fail (.badReference index) ((← place) - digits.length)
    reference flags index (digits.length + 1)
  else return literal flags (← octal (digits ++ third))

/-- An escape outside of sets. -/
def escape (flags : Flags) (c : Char) : Reader Regex :=
  match classEscape? flags.alphabet c, assertionEscape? flags.alphabet c with
  | some m, _ => return .set false [m]
  | none, some a => return .assert a
  | none, none =>
    if c.isDigit && c ≠ '0' then numberEscape flags c
    else do return literal flags (← codeEscape c)

/-! ## Sets -/

/-- An escape inside a set. -/
def setEscape (flags : Flags) (c : Char) : Reader Member :=
  match classEscape? flags.alphabet c with
  | some m => return m
  | none =>
    if c = 'b' then return .code 8
    else if isOctal c then do return .code (← octalEscape c)
    else do return .code (← codeEscape c)

/-- The member that a piece inside a set stands for. -/
def setMember (flags : Flags) : Piece → Reader Member
  | .char c => return .code c.toNat
  | .escape c => setEscape flags c
  | .dangling => return .code '\\'.toNat

/-- The members of a set that was opened at `opened`, up to its closing bracket. The first member
may be a closing bracket itself. -/
def setMembers (flags : Flags) (opened : Nat) : Nat → List Member → Reader (List Member)
  | 0, members => return members.reverse
  | fuel + 1, members => do
    match ← next with
    | none => fail .unclosedSet opened
    | some low =>
      if low = .char ']' && !members.isEmpty then return members.reverse
      let first ← setMember flags low
      if ← accept '-' then
        match ← next with
        | none => fail .unclosedSet opened
        | some high =>
          if high = .char ']' then return (.code '-'.toNat :: first :: members).reverse
          let last ← setMember flags high
          match first, last with
          | .code m, .code n =>
            if n < m then badRange low high
            else setMembers flags opened fuel (.range m n :: members)
          | _, _ => badRange low high
      else setMembers flags opened fuel (first :: members)
where
  /-- Report a range that has no members, or an end that is not a character. -/
  badRange (low high : Piece) : Reader (List Member) := do
    fail (.badRange low.text high.text) ((← place) - (low.width + 1 + high.width))

/-- A set, under flags. A single code point is treated like a character outside of sets. -/
def setOf (flags : Flags) (negated : Bool) (members : List Member) : Regex :=
  let a := flags.alphabet
  let loosely := flags.contains .ignoreCase
  match members.eraseDups with
  | [.code n] =>
    if loosely && a.isCased n then .loose a negated [.code (a.lower n)] else .set negated [.code n]
  | distinct =>
    if loosely && distinct.any (·.isCased a) then .loose a negated distinct
    else .set negated distinct

/-- A set whose opening bracket has just been passed. -/
def charSet (flags : Flags) : Reader Regex := do
  let opened := (← place) - 1
  let negated ← accept '^'
  return setOf flags negated (← setMembers flags opened (← rounds) [])

/-! ## Repetitions -/

/-- The first number of repetitions that is too large. -/
def repetitionLimit : Nat := 0xFFFFFFFF

/-- A number of repetitions, given by its digits. -/
def repetitions (digits : List Char) : Reader Nat := do
  if integerDigitLimit < digits.length then throw (.digits ⟨digits.length⟩)
  let n := Numeral.natural digits
  if repetitionLimit ≤ n then throw (.overflow .repetition)
  return n

/-- The bounds of a repetition in braces, whose opening brace has just been passed. Braces that do
not hold bounds stand for themselves, and nothing is passed over. -/
def braces : Reader (Option (Nat × Option Nat)) := do
  let saved ← get
  if ← sees '}' then return none
  let low ← takeWhile Char.isDigit (← rounds)
  let high ← if ← accept ',' then takeWhile Char.isDigit (← rounds) else pure low
  if ← accept '}' then
    let min ← repetitions low
    if high.isEmpty then return some (min, none)
    let max ← repetitions high
    if max < min then fail .crossedBounds saved.position
    return some (min, some max)
  else
    set saved
    return none

/-- Repeat the last of the items read so far (latest first); the sign of the repetition stands at
`sign`. An assertion cannot be repeated, and neither can a repetition. -/
def repeatLast (items : List Regex) (sign min : Nat) (max : Option Nat) : Reader (List Regex) :=
  match items with
  | [] => fail .nothingToRepeat sign
  | .assert _ :: _ => fail .nothingToRepeat sign
  | .rep .. :: _ => fail .multipleRepeat sign
  | .possessive .. :: _ => fail .multipleRepeat sign
  | item :: earlier => do
    if ← accept '?' then return .rep item min max false :: earlier
    if ← accept '+' then return .possessive item min max :: earlier
    return .rep item min max true :: earlier

/-! ## Groups -/

/-- The name of a group, up to a terminator. -/
def groupName (terminator : Char) : Reader String := do
  let name ← textUpTo terminator "group name" (← rounds) []
  if isIdentifier name.toList then return name
  else fail (.badName name) ((← place) - (name.length + 1))

/-- The number of a group, as a whole number that may be written with some freedom. -/
def groupNumber? (text : List Char) : Option Nat := do
  let (negative, digits) := Numeral.splitSign (← Numeral.dropUnderscores none (trim text))
  if digits.isEmpty || !digits.all isDecimal || integerDigitLimit < digits.length then none
  else
    let n := Numeral.natural digits
    if negative && n ≠ 0 then none else some n

/-- The first number of a group that is too large. -/
def groupLimit : Nat := 0x3FFFFFFF

/-- The group that a condition asks for, by its name or number. A number may run ahead of the groups
met so far. -/
def condition : Reader Nat := do
  let text ← textUpTo ')' "group name" (← rounds) []
  let named := isIdentifier text.toList
  let state ← get
  let start := state.position - (text.length + 1)
  match if named then state.names.lookup text else groupNumber? text.toList with
  | none => fail (if named then .unknownGroup text else .badName text) start
  | some index =>
    if !named then
      if index = 0 then fail .badNumber start
      if groupLimit ≤ index then fail (.badReference index) start
      set { state with conditions := (index, start) :: state.conditions }
    checkLookBehind index
    return index

/-- Open a group that records what it matches, and give it the next number. -/
def openGroup (name : Option String) : Reader Nat := do
  let state ← get
  let index := state.groups + 1
  match name with
  | none => set { state with groups := index }
  | some text =>
    if let some earlier := state.names.lookup text then
      fail (.redefined text index earlier) ((← place) - (text.length + 1))
    set { state with groups := index, names := (text, index) :: state.names }
  return index

/-- **What a group is**, by its head. -/
inductive Head where
  /-- It has no contents. -/
  | nothing
  /-- It sets flags of the whole pattern. -/
  | flags
  /-- It refers to another group. -/
  | ref (r : Regex)
  /-- It holds an expression, under flags; it has a number if it records what it matches. -/
  | group (index : Option Nat) (flags : Flags)
  | atomic
  | look (behind negated : Bool)
  /-- It holds an expression for the case that another group has matched, and one for the other. -/
  | condition (index : Nat)

/-- The head of a group that has a letter of its own. -/
def letterHead (flags : Flags) : Reader Head := do
  if ← accept '<' then
    let name ← groupName '>'
    return .group (some (← openGroup (some name))) flags
  if ← accept '=' then
    let name ← groupName ')'
    match (← get).names.lookup name with
    | none => fail (.unknownGroup name) ((← place) - (name.length + 1))
    | some index => return .ref (← reference flags index (name.length + 1))
  match ← next with
  | none => fail .unexpectedEnd (← place)
  | some p => fail (.unknownExtension ("P" ++ p.text)) ((← place) - (p.width + 2))

/-- The head of a look at what stands before. -/
def behindHead : Reader Head := do
  match ← next with
  | none => fail .unexpectedEnd (← place)
  | some (.char '=') => return .look true false
  | some (.char '!') => return .look true true
  | some p => fail (.unknownExtension ("<" ++ p.text)) ((← place) - (p.width + 2))

/-- The head of a group that starts with flags. -/
def flagHead (flags : Flags) (first : Option Flag) : Reader Head := do
  match ← groupFlags first with
  | none => return .flags
  | some (on, off) => return .group none (flags.change on off)

/-- What a group is, read behind its opening bracket, which stands at `opened`. -/
def groupHead (flags : Flags) (opened : Nat) : Reader Head := do
  if !(← accept '?') then return .group (some (← openGroup none)) flags
  match ← next with
  | none => fail .unexpectedEnd (← place)
  | some (.char ':') => return .group none flags
  | some (.char 'P') => letterHead flags
  | some (.char '#') =>
    if ← skipPast ')' (← rounds) then return .nothing else fail .unclosedComment opened
  | some (.char '=') => return .look false false
  | some (.char '!') => return .look false true
  | some (.char '<') => behindHead
  | some (.char '(') => return .condition (← condition)
  | some (.char '>') => return .atomic
  | some (.char '-') => flagHead flags none
  | some p =>
    match p.flag? with
    | some flag => flagHead flags (some flag)
    | none => fail (.unknownExtension p.text) ((← place) - (p.width + 1))

/-- The closing bracket of a group that was opened at `opened`. -/
def closing (opened : Nat) : Reader Unit := do
  if !(← accept ')') then fail .unclosedGroup opened

/-- Close a group, and note its width if it has a number. -/
def closeGroup (opened : Nat) (index : Option Nat) (body : Regex) : Reader Regex := do
  closing opened
  if let some i := index then
    modify fun state => { state with widths := (i, body.width state.widths) :: state.widths }
  return .group index body

/-- Start to look back; the answer is to be given back at the end. -/
def enterLook (behind : Bool) : Reader (Option Nat) := do
  let state ← get
  if behind && state.behind.isNone then set { state with behind := some state.groups }
  return state.behind

/-- Close a look. -/
def closeLook (opened : Nat) (outer : Option Nat) (behind negated : Bool) (body : Regex) :
    Reader Regex := do
  modify fun state => { state with behind := outer }
  closing opened
  let state ← get
  return .look (if behind then some (body.width state.widths) else none) negated body

/-! ## Expressions -/

/-- One item after another. -/
def sequence (items : List Regex) : Regex :=
  match items with
  | [] => .empty
  | [item] => item
  | item :: rest => .seq item (sequence rest)

/-- The start of a line or the text, under flags. -/
def startOf (flags : Flags) : Regex :=
  .assert (if flags.contains .multiline then .lineStart else .start)

/-- The end of a line or the text, under flags. -/
def endOf (flags : Flags) : Regex :=
  .assert (if flags.contains .multiline then .lineEnd else .ending)

mutual

/-- Alternatives between bars. On the `top` of the pattern the flags of the whole pattern apply, which
the first alternative may set at its start. -/
def alternatives (top : Bool) : Nat → Bool → Flags → Reader Regex
  | 0, _, _ => return .empty
  | fuel + 1, first, flags => do
    let item ← items fuel (top && first) flags []
    if ← accept '|' then
      let state ← get
      let flags := if top then state.flags else flags
      return .alt item (← alternatives top fuel false flags)
    else return item

/-- Items in sequence, behind those read before (latest first), up to a bar or the end of the
group. At the `first` place of the pattern its flags can be set. -/
def items : Nat → Bool → Flags → List Regex → Reader Regex
  | 0, _, _, done => return sequence done.reverse
  | fuel + 1, first, flags, done => do
    match ← peek with
    | none => return sequence done.reverse
    | some (.char '|') => return sequence done.reverse
    | some (.char ')') => return sequence done.reverse
    | some piece =>
      let here ← place
      let _ ← next
      if flags.contains .verbose && piece.isSpace then items fuel first flags done
      else if flags.contains .verbose && piece = .char '#' then
        let _ ← skipPast '\n' (← rounds)
        items fuel first flags done
      else match piece with
      | .escape c => items fuel first flags ((← escape flags c) :: done)
      | .dangling => items fuel first flags done
      | .char '[' => items fuel first flags ((← charSet flags) :: done)
      | .char '.' =>
        items fuel first flags ((if flags.contains .dotAll then .all else .any) :: done)
      | .char '^' => items fuel first flags (startOf flags :: done)
      | .char '$' => items fuel first flags (endOf flags :: done)
      | .char '*' => items fuel first flags (← repeatLast done here 0 none)
      | .char '+' => items fuel first flags (← repeatLast done here 1 none)
      | .char '?' => items fuel first flags (← repeatLast done here 0 (some 1))
      | .char '{' =>
        match ← braces with
        | some (min, max) => items fuel first flags (← repeatLast done here min max)
        | none => items fuel first flags (literal flags '{'.toNat :: done)
      | .char '(' =>
        match ← groupHead flags here with
        | .nothing => items fuel first flags done
        | .ref r => items fuel first flags (r :: done)
        | .flags =>
          if !first || !done.isEmpty then fail .lateFlags here
          let state ← get
          items fuel first state.flags done
        | .group index inner =>
          let body ← alternatives false fuel false inner
          items fuel first flags ((← closeGroup here index body) :: done)
        | .atomic =>
          let body ← alternatives false fuel false flags
          closing here
          items fuel first flags (.atomic body :: done)
        | .look behind negated =>
          let outer ← enterLook behind
          let body ← alternatives false fuel false flags
          items fuel first flags ((← closeLook here outer behind negated body) :: done)
        | .condition index =>
          let yes ← items fuel false flags []
          let no ← if ← accept '|' then items fuel false flags [] else pure .empty
          if ← sees '|' then fail .manyBranches (← place)
          closing here
          items fuel first flags (.ifGroup index yes no :: done)
      | .char c => items fuel first flags (literal flags c.toNat :: done)

end

/-! ## Whole patterns -/

/-- The groups that conditions name by number have to exist. -/
def checkConditions (groups : Nat) : List (Nat × Nat) → Reader Unit
  | [] => return ()
  | (index, start) :: rest => do
    if groups < index then fail (.badReference index) start
    checkConditions groups rest

/-- A whole pattern. -/
def whole (fuel : Nat) : Reader Regex := do
  checkNext
  let regex ← alternatives true fuel true []
  let state ← get
  if state.flags.contains .ascii && state.flags.contains .unicode then throw .alphabets
  if (← peek).isSome then fail .unbalanced state.position
  checkConditions state.groups state.conditions.reverse
  match regex.fault? (state.flags.contains .template) with
  | some reason => throw (.broken reason none)
  | none => return regex

end Reader

/-- **Read a pattern** from its source, with a glossary for characters that are given by name. -/
def compile (glossary : Glossary) (source : String) : Except Fault Pattern :=
  let pieces := Piece.ofChars source.toList
  let named := glossary.named pieces
  match (Reader.whole (2 * (pieces.length + 1))).run { named, pieces } with
  | .ok (regex, state) => .ok ⟨source, regex, state.names⟩
  | .error fault => .error fault

end Pattern

end LineGate
