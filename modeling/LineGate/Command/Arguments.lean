import LineGate.Command.Usage
import LineGate.Text.Digit
import LineGate.Text.Lines

/-! # Reading the command line

Every argument first gets a **role**, from its own text alone: it is a switch, or a plain argument,
or it looks like a switch and is none. A value may be attached to a switch behind an equals sign, or
directly if the switch is spelled with a single dash; such switches may also be written together.
Long spellings may be shortened as long as they are clear. Behind a double dash every argument is
plain.

Then the arguments are read from left to right. A switch without its value takes the plain argument
behind it. The first stretch of plain arguments between switches names the files, and any later one
has no meaning.
-/

namespace LineGate

namespace Command

/-- **Roles** of arguments. -/
inductive Role where
  /-- A file, or the value of a switch. -/
  | plain
  /-- The double dash. -/
  | separator
  /-- A switch, spelled with a single dash or not, and the value attached to it. -/
  | switch (s : Switch) (short : Bool) (attached : Option String)
  /-- It looks like a switch and is none. -/
  | unknown
  deriving DecidableEq, Repr

/-- **Arguments** with their roles. -/
structure Argument where
  text : String
  role : Role
  deriving DecidableEq, Repr

namespace Argument

/-- Whether an argument is plain or the double dash. -/
def isPlain (a : Argument) : Bool :=
  match a.role with
  | .plain | .separator => true
  | _ => false

/-- Whether the characters behind a dash make it a negative number: digits, or a fraction in decimal
digits. -/
def isNumeral (cs : List Char) : Bool :=
  let body := dropFinalLineFeed cs
  match body.dropWhile isDecimal with
  | [] => !body.isEmpty
  | '.' :: fraction => !fraction.isEmpty && fraction.all isDecimal
  | _ => false

/-- The role of an argument with a dash that spells no switch. Negative numbers and texts with
spaces are plain. -/
def leftover (cs : List Char) : Role :=
  if isNumeral cs || cs.contains ' ' then .plain else .unknown

/-- A text cut at its first equals sign. -/
def cutEquals (text : String) : String × Option String :=
  let (name, value) := Separated.cut '=' text.toList
  (String.ofList name, value.map String.ofList)

/-- The role of an argument with two dashes in front, which may shorten a spelling. -/
def longRole (text : String) (cs : List Char) : Except UsageFault Role :=
  let (name, value) := cutEquals text
  match Switch.startingWith name with
  | [] => .ok (leftover cs)
  | [(_, s)] => .ok (.switch s false value)
  | several => .error (.ambiguous text (several.map (·.1)))

/-- The role of an argument with one dash in front, which may have a value right behind its
letter. -/
def shortRole (letter : Char) (rest : List Char) : Role :=
  match Switch.ofSpelling? (String.ofList ['-', letter]) with
  | some s => .switch s true (some (String.ofList rest))
  | none => leftover (letter :: rest)

/-- **The role of an argument**. -/
def roleOf (text : String) : Except UsageFault Role :=
  match text.toList with
  | '-' :: c :: rest =>
    let (name, value) := cutEquals text
    match Switch.ofSpelling? text, Switch.ofSpelling? name with
    | some s, _ => .ok (.switch s (c != '-') none)
    | none, some s => .ok (.switch s (c != '-') value)
    | none, none => if c = '-' then longRole text (c :: rest) else .ok (shortRole c rest)
  | _ => .ok .plain

/-- **Give every argument its role**. -/
def classify : List String → Except UsageFault (List Argument)
  | [] => .ok []
  | text :: rest =>
    if text = "--" then .ok (⟨text, .separator⟩ :: rest.map (⟨·, .plain⟩))
    else do
      let role ← roleOf text
      let others ← classify rest
      return ⟨text, role⟩ :: others

end Argument

/-! ## Switches written together -/

/-- **What an argument sets**: some switches without values, then one more, with the value attached
to it. -/
structure Cluster where
  flags : List Switch := []
  last : Switch
  value : Option String := none
  deriving DecidableEq, Repr

namespace Cluster

/-- The cluster of a switch with a single dash and the characters behind it. Behind a switch that
takes no value the next character is a switch of its own. -/
def ofLetters (s : Switch) : List Char → Except UsageFault Cluster
  | [] => .ok { last := s }
  | c :: rest =>
    if s.takesValue then .ok { last := s, value := some (String.ofList (c :: rest)) }
    else match Switch.ofSpelling? (String.ofList ['-', c]) with
      | some next => do
        let cluster ← ofLetters next rest
        return { cluster with flags := s :: cluster.flags }
      | none => .error (.unwantedValue s (String.ofList (c :: rest)))

/-- **The cluster of a switch** and what is attached to it. -/
def ofSwitch (s : Switch) (short : Bool) : Option String → Except UsageFault Cluster
  | none => .ok { last := s }
  | some value =>
    if s.takesValue then .ok { last := s, value := some value }
    else if short && !value.isEmpty then ofLetters s value.toList
    else .error (.unwantedValue s value)

end Cluster

/-! ## Reading -/

/-- What reading a command line can end with, other than options. -/
inductive Stop where
  /-- The help text is asked for. -/
  | help
  | usage (fault : UsageFault)
  deriving DecidableEq, Repr

/-- Set a switch; the value counts only if the switch takes one. -/
def Options.set (o : Options) (s : Switch) (value : String) : Except Stop Options :=
  match s with
  | .help => .error .help
  | .define => .ok { o with defines := o.defines ++ [value] }
  | .noEnv => .ok { o with noEnv := true }
  | .doubleSlash => .ok { o with doubleSlash := true }
  | .pattern => .ok { o with pattern := some value }
  | .filter => .ok { o with filter := some value }
  | .fillSpaces => .ok { o with fillSpaces := true }
  | .commentMarker => .ok { o with commentMarker := some value }
  | .outDir =>
    if o.destination = .inPlace then .error (.usage (.conflict .outDir .inPlace))
    else .ok { o with destination := .directory value }
  | .inPlace => match o.destination with
    | .directory _ => .error (.usage (.conflict .inPlace .outDir))
    | _ => .ok { o with destination := .inPlace }
  | .verbose => .ok { o with verbose := true }
  | .jsonLogs => .ok { o with jsonLogs := true }

/-- Set several switches that take no value. -/
def Options.setAll (o : Options) : List Switch → Except Stop Options
  | [] => .ok o
  | s :: rest => do
    let o ← o.set s ""
    o.setAll rest

/-- **The state of reading**: the options so far, whether the files have been named, and the
arguments without a meaning. -/
structure Reading where
  options : Options := {}
  filesNamed : Bool := false
  extras : List String := []
  deriving DecidableEq, Repr

namespace Reading

/-- Set what a cluster sets. -/
def setCluster (r : Reading) (c : Cluster) (value : String) : Except Stop Reading := do
  let options ← r.options.setAll c.flags
  let options ← options.set c.last value
  return { r with options }

/-- Note arguments without a meaning. -/
def note (r : Reading) (texts : List String) : Reading := { r with extras := r.extras ++ texts }

/-- Take a stretch of plain arguments. The first one that holds more than a double dash names the
files, and loses the double dash. -/
def takePlain (r : Reading) (stretch : List Argument) : Reading :=
  let texts := stretch.map (·.text)
  if !r.filesNamed && stretch.any (·.role == .plain) then
    { r with options := { r.options with files := texts.erase "--" }, filesNamed := true }
  else r.note texts

/-- Read the arguments from left to right. -/
def read (r : Reading) : List Argument → Except Stop Reading
  | [] => .ok r
  | a :: rest =>
    match a.role with
    | .unknown => read (r.note [a.text]) rest
    | .switch s short attached =>
      match Cluster.ofSwitch s short attached with
      | .error fault => .error (.usage fault)
      | .ok cluster =>
        if cluster.last.takesValue && cluster.value.isNone then
          match rest with
          | ⟨text, .plain⟩ :: rest => do
            let r ← r.setCluster cluster text
            read r rest
          | _ => .error (.usage (.missingValue cluster.last))
        else do
          let r ← r.setCluster cluster (cluster.value.getD "")
          read r rest
    | _ =>
      have : (rest.dropWhile (·.isPlain)).length ≤ rest.length :=
        (List.dropWhile_suffix _).length_le
      read (r.takePlain (a :: rest.takeWhile (·.isPlain))) (rest.dropWhile (·.isPlain))
termination_by args => args.length
decreasing_by
  all_goals
    simp only [List.length_cons]
    omega

/-- The options at the end of the command line. -/
def finish (r : Reading) : Except Stop Options :=
  if !r.filesNamed then .error (.usage .missingFiles)
  else if !r.extras.isEmpty then .error (.usage (.unrecognized r.extras))
  else .ok r.options

end Reading

/-- **Read a command line**. -/
def Options.parse (argv : List String) : Except Stop Options := do
  let args ← (Argument.classify argv).mapError .usage
  let r ← Reading.read {} args
  r.finish

end Command

end LineGate
