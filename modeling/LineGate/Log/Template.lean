import LineGate.Value.Notation

/-! # Message templates

A log message may be given as a template with arguments. A percent sign and a letter stand for the
next argument; two percent signs stand for one.
-/

namespace LineGate

namespace Log

/-- An argument in the notation that a letter asks for: its text, its display notation, or an
integer. -/
def argumentText? : Char → Value → Option String
  | 's', v => some v.shown
  | 'r', v => some v.display
  | 'd', .int n => some (toString n)
  | 'd', .bool b => some (if b then "1" else "0")
  | _, _ => none

/-- Fill a template with arguments; there have to be as many as the template has places. -/
def fillChars : List Char → List Value → Option (List Char)
  | [], [] => some []
  | [], _ :: _ => none
  | '%' :: '%' :: rest, args => (fillChars rest args).map ('%' :: ·)
  | '%' :: c :: rest, v :: args => do
    let text ← argumentText? c v
    return text.toList ++ (← fillChars rest args)
  | c :: rest, args => if c = '%' then none else (fillChars rest args).map (c :: ·)

/-- **The message** of a template. Without arguments the template is the message itself. -/
def fill? (template : String) (args : List Value) : Option String :=
  if args.isEmpty then some template else (fillChars template.toList args).map String.ofList

end Log

end LineGate
