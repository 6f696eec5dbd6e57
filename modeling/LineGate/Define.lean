import LineGate.Environment
import LineGate.Number.Numeral
import LineGate.Report
import LineGate.Text.Identifier
import LineGate.Text.Lines

/-! # Definitions

Variables are defined on the command line by items `NAME=VALUE` or `NAME`. The value is read as a
truth value or a number when it looks like one, and is a text otherwise; a bare name is bound to
true. Definitions are laid over the variables of the process, if those are taken over.
-/

namespace LineGate

namespace Define

/-- The number that a text denotes, with an optional sign and up to one line feed behind it. -/
def number? (raw : List Char) : Option (Except TooManyDigits Value) :=
  let (negative, body) := Numeral.splitSign (dropFinalLineFeed raw)
  (Numeral.Decimal.parse? body).map fun d =>
    if d.isInteger then d.integer.map fun n => .int (if negative then -(n : Int) else n)
    else .ok (.float (d.toDouble negative))

/-- **The value of a definition**. -/
def coerce (raw : String) : Except TooManyDigits Value :=
  if raw = "true" then .ok (.bool true)
  else if raw = "false" then .ok (.bool false)
  else (number? raw.toList).getD (.ok (.str raw))

/-- **Items that define nothing**: the name is missing or not an identifier. -/
structure BadItem where
  item : String
  deriving DecidableEq, Repr

/-- The message for an item that defines nothing. -/
def BadItem.message (bad : BadItem) : String :=
  "--define expects NAME[=VALUE] (got '" ++ bad.item ++ "')"

/-- An item cut at its first equals sign: the name without the blanks around it, and the value. -/
def cutItem (item : String) : List Char × Option String :=
  let (name, value) := Separated.cut '=' item.toList
  (trim name, value.map String.ofList)

/-- What can keep an item from being a definition. -/
inductive Fault where
  | bad (item : BadItem)
  | digits (fault : TooManyDigits)
  deriving DecidableEq, Repr

/-- The wording of a fault. -/
def Fault.message : Fault → String
  | .bad item => item.message
  | .digits fault => fault.message

/-- **The binding of an item**. -/
def binding (item : String) : Except Fault (String × Value) :=
  let (name, value) := cutItem item
  if isIdentifier name then
    match value with
    | none => .ok (String.ofList name, .bool true)
    | some raw => ((coerce raw).mapError .digits).map fun v => (String.ofList name, v)
  else .error (.bad ⟨item⟩)

/-- **The bindings of items**, the later ones over the earlier ones, and the bad items on the way. A
number with too many digits ends the reading. -/
def collect (env : Environment) (bad : List BadItem) :
    List String → Except TooManyDigits (Environment × List BadItem)
  | [] => .ok (env, bad.reverse)
  | item :: rest => match binding item with
    | .ok (name, value) => collect (env.bind name value) bad rest
    | .error (.bad b) => collect env (b :: bad) rest
    | .error (.digits fault) => .error fault

/-- The bindings of items when the first bad item ends the reading. -/
def strict (env : Environment) : List String → Except Fault Environment
  | [] => .ok env
  | item :: rest => match binding item with
    | .ok (name, value) => strict (env.bind name value) rest
    | .error fault => .error fault

/-- The variables that definitions are laid over. -/
def base (inherit : Bool) (environ : List (String × String)) : Environment × List Log.Record :=
  if inherit then
    (environ.map fun (name, text) => (name, .str text), [Report.snapshot environ.length])
  else ([], [])

end Define

end LineGate
