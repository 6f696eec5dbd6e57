import LineGate.Value.Basic
import LineGate.Value.Fault
import LineGate.Text.Quoted

/-! # Expressions

The trees that conditions are read into, and the ways in which reading can fail.
-/

namespace LineGate

/-- The two **connectives**. -/
inductive Connective where
  | and
  | or
  deriving DecidableEq, Repr

/-- **Comparison operators**. -/
inductive Comparison where
  | strictEq
  | strictNe
  | looseEq
  | looseNe
  | order (op : OrderOp)
  | member
  | notMember
  deriving DecidableEq, Repr

/-- A comparison operator as written. -/
def Comparison.symbol : Comparison → String
  | .strictEq => "==="
  | .strictNe => "!=="
  | .looseEq => "=="
  | .looseNe => "!="
  | .order op => op.symbol
  | .member => "in"
  | .notMember => "not in"

/-- **Expressions**. -/
inductive Expr where
  /-- A number, a text, a truth value or the absent value. -/
  | literal (value : Value)
  /-- A variable. -/
  | name (name : String)
  /-- Whether a variable is bound. -/
  | defined (name : String)
  /-- A function of the environment applied to arguments. -/
  | call (name : String) (args : List Expr)
  /-- A list of values. -/
  | list (items : List Expr)
  /-- The opposite of a truth value. -/
  | not (operand : Expr)
  /-- The negative of a number. -/
  | negate (operand : Expr)
  /-- A connective, whose right operand is evaluated only if the left one does not decide. -/
  | logical (op : Connective) (left right : Expr)
  /-- A comparison. -/
  | compare (op : Comparison) (left right : Expr)
  deriving Repr, Inhabited

/-- **Syntax faults** of conditions; positions count characters from zero. -/
inductive SyntaxFault where
  /-- No token starts at this character. -/
  | stray (char : Char) (pos : Nat)
  /-- The condition has no token at all. -/
  | empty
  /-- A token that cannot stand where it does. -/
  | unexpected (text : String) (pos : Nat)
  /-- The condition stops where an operand is needed. -/
  | unexpectedEnd
  /-- The condition stops where a closing bracket is needed. -/
  | missing (wanted : String)
  /-- Another token stands where a closing bracket is needed. -/
  | mismatch (wanted found : String) (pos : Nat)
  /-- The built-in test takes a name or a text. -/
  | definedOperand (pos : Nat)
  /-- An integer with more digits than are allowed. -/
  | digits (fault : TooManyDigits)
  deriving DecidableEq, Repr

namespace SyntaxFault

/-- A position in a condition, as messages give it. -/
def place (source : String) (pos : Nat) : String :=
  " at column " ++ toString (pos + 1) ++ " in " ++ quoted source

/-- The wording of a syntax fault in the condition `source`. -/
def message (source : String) : SyntaxFault → String
  | .stray c pos => "unexpected character " ++ quoted (String.singleton c) ++ place source pos
  | .empty => "empty expression"
  | .unexpected text pos => "unexpected " ++ quoted text ++ place source pos
  | .unexpectedEnd => "unexpected end of expression in " ++ quoted source
  | .missing wanted => "expected " ++ quoted wanted ++ " at end of " ++ quoted source
  | .mismatch wanted found pos =>
    "expected " ++ quoted wanted ++ " but found " ++ quoted found ++ place source pos
  | .definedOperand pos => "defined() expects a name" ++ place source pos
  | .digits fault => fault.message

end SyntaxFault

end LineGate
