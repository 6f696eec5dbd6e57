import LineGate.Number.Numeral
import LineGate.Text.Blank
import LineGate.Text.Word

/-! # Tokens of conditions

A condition is read from left to right. At each place the **lexeme** that starts there is as long as
possible: a numeral, a text between quotes, a name or an operator. Blanks separate lexemes and are
left out.
-/

namespace LineGate

/-- **Token kinds**. A name that is a literal or a keyword is not an ordinary name. -/
inductive Token.Kind where
  | number
  | string
  | literal
  | keyword
  | name
  | op
  deriving DecidableEq, Repr

/-- **Tokens**: a lexeme with its kind and its place, counted in characters from zero. -/
structure Token where
  kind : Token.Kind
  text : String
  pos : Nat
  deriving DecidableEq, Repr

namespace Token

/-! ## Widths of lexemes

Each function gives the number of characters that a lexeme of one kind takes at the front of a
text. -/

/-- The width of a hexadecimal numeral. -/
def hexWidth? : List Char → Option Nat
  | '0' :: x :: rest =>
    let digits := rest.takeWhile Numeral.isHexDigit
    if (x = 'x' ∨ x = 'X') ∧ digits ≠ [] then some (2 + digits.length) else none
  | _ => none

/-- The width of a numeral; a hexadecimal one takes precedence. -/
def numberWidth? (cs : List Char) : Option Nat :=
  match hexWidth? cs with
  | some n => some n
  | none => (Numeral.Decimal.read cs).map fun (_, rest) => cs.length - rest.length

/-- The width of what stands before the closing quote `q`, and of the quote itself. A backslash
takes the next character with it, which must not be a line feed. -/
def closingWidth? (q : Char) : List Char → Option Nat
  | [] => none
  | '\\' :: c :: rest => if c = '\n' then none else (closingWidth? q rest).map (· + 2)
  | c :: rest =>
    if c = q then some 1
    else if c = '\\' then none
    else (closingWidth? q rest).map (· + 1)

/-- The width of a quoted text, both quotes included. -/
def stringWidth? : List Char → Option Nat
  | q :: rest => if q = '\x22' ∨ q = '\x27' then (closingWidth? q rest).map (· + 1) else none
  | [] => none

/-- Names start with a letter of the Latin alphabet, an underscore or a dollar sign. -/
def isNameStart (c : Char) : Bool := c.isAlpha || c = '_' || c = '$'

/-- Names go on with word characters and dollar signs. -/
def isNameRest (c : Char) : Bool := isWord c || c = '$'

/-- The width of a name. -/
def nameWidth? : List Char → Option Nat
  | c :: rest => if isNameStart c then some (1 + (rest.takeWhile isNameRest).length) else none
  | [] => none

/-- The **operators**, longer ones first. -/
def operators : List String :=
  ["===", "!==", "==", "!=", "<=", ">=", "&&", "||",
    "<", ">", "!", "(", ")", "[", "]", ",", "-"]

/-- The width of an operator: that of the first one in the list which the text starts with. -/
def opWidth? (cs : List Char) : Option Nat :=
  (operators.find? fun op => op.toList.isPrefixOf cs).map String.length

/-- The names that stand for values. -/
def literals : List String := ["true", "false", "True", "False", "null", "undefined", "None"]

/-- The names that act as operators. -/
def keywords : List String := ["and", "or", "not", "in"]

/-- The kind of a name-shaped lexeme. -/
def nameKind (text : String) : Kind :=
  if literals.contains text then .literal
  else if keywords.contains text then .keyword
  else .name

/-- The **lexeme** at the front of a text: its kind, none for blanks, and its width. -/
def lexeme? (cs : List Char) : Option (Option Kind × Nat) :=
  let blanks := (cs.takeWhile isBlank).length
  if blanks ≠ 0 then some (none, blanks)
  else match numberWidth? cs with
    | some n => some (some .number, n)
    | none => match stringWidth? cs with
      | some n => some (some .string, n)
      | none => match nameWidth? cs with
        | some n => some (some (nameKind (String.ofList (cs.take n))), n)
        | none => (opWidth? cs).map fun n => (some .op, n)

/-- A **stray character**: no lexeme starts at its place. -/
structure Stray where
  char : Char
  pos : Nat
  deriving DecidableEq, Repr

/-- The tokens of a text whose first character is at place `pos`. -/
def scan (pos : Nat) : List Char → Except Stray (List Token)
  | [] => .ok []
  | c :: rest =>
    match lexeme? (c :: rest) with
    | none => .error ⟨c, pos⟩
    | some (kind, width) =>
      match scan (pos + width) (rest.drop (width - 1)) with
      | .error stray => .error stray
      | .ok tokens => match kind with
        | some kind => .ok (⟨kind, String.ofList ((c :: rest).take width), pos⟩ :: tokens)
        | none => .ok tokens
termination_by cs => cs.length

/-- **Tokens of a source text**, or its first stray character. -/
def tokenize (source : String) : Except Stray (List Token) := scan 0 source.toList

end Token

end LineGate
