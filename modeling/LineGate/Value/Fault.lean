/-! # Faults of values

The ways in which an operation on values can fail, and their wording.
-/

namespace LineGate

/-- The four **ordering operators**. -/
inductive OrderOp where
  | less
  | lessEq
  | greater
  | greaterEq
  deriving DecidableEq, Repr

namespace OrderOp

/-- The operator as written. -/
def symbol : OrderOp → String
  | .less => "<"
  | .lessEq => "<="
  | .greater => ">"
  | .greaterEq => ">="

/-- Whether the operator holds between two things that compare as `o`. -/
def holds : OrderOp → Ordering → Bool
  | .less, o => o == .lt
  | .lessEq, o => o != .gt
  | .greater, o => o == .gt
  | .greaterEq, o => o != .lt

end OrderOp

/-- **Faults** of operations on values. -/
inductive ValueFault where
  /-- The two types have no order. -/
  | unordered (op : OrderOp) (left right : String)
  /-- Nothing can be contained in a value of this type. -/
  | notContainer (type : String)
  /-- Only a text can be contained in a text. -/
  | notText (type : String)
  /-- A value of this type cannot be a key. -/
  | notKey (type : String)
  /-- The integer is beyond the range of doubles. -/
  | beyondDouble
  deriving DecidableEq, Repr

/-- The wording of a fault. -/
def ValueFault.message : ValueFault → String
  | .unordered op left right =>
    "'" ++ op.symbol ++ "' not supported between instances of '" ++ left ++ "' and '" ++ right ++ "'"
  | .notContainer type => "argument of type '" ++ type ++ "' is not iterable"
  | .notText type => "'in <string>' requires string as left operand, not " ++ type
  | .notKey type => "unhashable type: '" ++ type ++ "'"
  | .beyondDouble => "int too large to convert to float"

end LineGate
