import LineGate.Number.Double
import LineGate.Number.Numeral
import LineGate.Text.Blank

/-! # Values

What variables hold and conditions compute with. A condition is decided by the **truth** of its
value: nothing, zero and everything empty count as false.

Functions are opaque: a function value is an identity, and what calling it does is given apart.
A value that is not a number carries an identity too when it is stored in a variable, because a
stored item is found again in a list even though it equals nothing, itself included.
-/

namespace LineGate

/-- **Values** of variables and expressions. -/
inductive Value where
  /-- The absent value. -/
  | null
  /-- A truth value. -/
  | bool (b : Bool)
  /-- An integer of any size. -/
  | int (n : Int)
  /-- A number in double precision. -/
  | float (x : Double)
  /-- The result of a computation that has no number as its result, with its identity if it is kept
  in a variable. -/
  | nan (identity : Option Nat)
  /-- A text. -/
  | str (s : String)
  /-- A list of values. -/
  | list (items : List Value)
  /-- A table with text keys, in order of insertion. -/
  | dict (entries : List (String × Value))
  /-- A function, known by its identity. -/
  | function (identity : Nat)
  deriving Repr, Inhabited

namespace Value

/-- The name of a value's type, as messages give it. -/
def typeName : Value → String
  | .null => "NoneType"
  | .bool _ => "bool"
  | .int _ => "int"
  | .float _ => "float"
  | .nan _ => "float"
  | .str _ => "str"
  | .list _ => "list"
  | .dict _ => "dict"
  | .function _ => "function"

/-- The **kinds** that strict equality tells apart. -/
inductive Kind where
  | null
  | bool
  | number
  | string
  | list
  | dict
  | function
  deriving DecidableEq, Repr

/-- The kind of a value: all numbers are of one kind, truth values are not numbers. -/
def kind : Value → Kind
  | .null => .null
  | .bool _ => .bool
  | .int _ => .number
  | .float _ => .number
  | .nan _ => .number
  | .str _ => .string
  | .list _ => .list
  | .dict _ => .dict
  | .function _ => .function

/-- **Truth** of a value. -/
def truthy : Value → Bool
  | .null => false
  | .bool b => b
  | .int n => n != 0
  | .float x => !x.isZero
  | .nan _ => true
  | .str s => !s.isEmpty
  | .list items => !items.isEmpty
  | .dict entries => !entries.isEmpty
  | .function _ => true

/-! ## Numbers among the values -/

/-- **Numeric reading** of a value, for exact comparison. -/
inductive Numeric where
  | int (n : Int)
  | float (x : Double)
  | nan
  deriving DecidableEq, Repr

/-- Numbers and truth values have a numeric reading; true reads as one. -/
def numeric? : Value → Option Numeric
  | .bool b => some (.int (if b then 1 else 0))
  | .int n => some (.int n)
  | .float x => some (.float x)
  | .nan _ => some .nan
  | _ => none

/-- **Exact comparison** of numbers. What is not a number compares with nothing. -/
def Numeric.compare : Numeric → Numeric → Option Ordering
  | .int m, .int n => some (Ord.compare m n)
  | .int m, .float y => some (Double.compareInt m y)
  | .float x, .int n => some (Double.compareInt n x).swap
  | .float x, .float y => some (Double.compare x y)
  | .nan, _ => none
  | _, .nan => none

/-- Whether the value is a number; a truth value is not. -/
def isNumber : Value → Bool
  | .int _ | .float _ | .nan _ => true
  | _ => false

/-- Whether the value is a text. -/
def isText : Value → Bool
  | .str _ => true
  | _ => false

/-- Whether the value is a truth value. -/
def isBool : Value → Bool
  | .bool _ => true
  | _ => false

/-- Whether the value is null. -/
def isNull : Value → Bool
  | .null => true
  | _ => false

/-- The double that a text stands for, once trimmed. -/
def textNumber (s : String) : Option Double := Numeral.readDouble? (trim s.toList)

/-- The **value as a double**: outer `none` when an integer is beyond the range of doubles, inner
`none` when the value is not a number. -/
def toDouble? : Value → Option (Option Double)
  | .bool b => some (some (if b then Double.one else Double.zero))
  | .int n => (Double.ofInt? n).map some
  | .float x => some (some x)
  | .str s => some (textNumber s)
  | _ => some none

end Value

end LineGate
