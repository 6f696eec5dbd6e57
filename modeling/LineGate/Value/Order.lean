import LineGate.Value.Equality

/-! # Order and membership

Ordering is defined between numbers, between texts and between lists; a number and a text are
ordered as doubles. Membership looks for an item in a list, a key in a table or a piece in a text.
-/

namespace LineGate

namespace Value

/-- Order of the numeric readings of two values; what is not a number is in no order. -/
def orderNumbers (op : OrderOp) (a b : Value) : Except ValueFault Bool :=
  match a.numeric?, b.numeric? with
  | some x, some y => .ok ((x.compare y).any op.holds)
  | _, _ => .error (.unordered op a.typeName b.typeName)

mutual

/-- **Plain order**: numbers by size, texts by their characters, lists by their first difference. -/
def order (op : OrderOp) : Value → Value → Except ValueFault Bool
  | .str s, .str t => .ok (op.holds (Ord.compare s t))
  | .list xs, .list ys => orderItems op xs ys
  | a, b => orderNumbers op a b

/-- Lists are ordered as the first items that differ, else by length. -/
def orderItems (op : OrderOp) : List Value → List Value → Except ValueFault Bool
  | [], [] => .ok (op.holds .eq)
  | [], _ :: _ => .ok (op.holds .lt)
  | _ :: _, [] => .ok (op.holds .gt)
  | x :: xs, y :: ys => if sameItem x y then orderItems op xs ys else order op x y

end

/-- Order of two doubles; a missing one is in no order. -/
def orderDoubles (op : OrderOp) : Option Double → Option Double → Bool
  | some x, some y => op.holds (Double.compare x y)
  | _, _ => false

/-- **Order in conditions**: as plain order, but a number and a text are compared as doubles. -/
def looseOrder (op : OrderOp) (a b : Value) : Except ValueFault Bool :=
  if (a.isNumber && b.isText) || (b.isNumber && a.isText) then
    match a.toDouble?, b.toDouble? with
    | some x, some y => .ok (orderDoubles op x y)
    | _, _ => .error .beyondDouble
  else order op a b

/-- Whether a list of characters occurs inside another as one piece. -/
def occursIn (piece : List Char) : List Char → Bool
  | [] => piece.isEmpty
  | c :: cs => piece.isPrefixOf (c :: cs) || occursIn piece cs

/-- **Membership** of `a` in `b`. -/
def member (a : Value) : Value → Except ValueFault Bool
  | .list items => .ok (items.any (sameItem a))
  | .str t => match a with
    | .str s => .ok (occursIn s.toList t.toList)
    | other => .error (.notText other.typeName)
  | .dict entries => match a with
    | .str s => .ok (entries.any (·.1 == s))
    | .list _ | .dict _ => .error (.notKey a.typeName)
    | _ => .ok false
  | other => .error (.notContainer other.typeName)

/-- The **negative** of a value: a number changes its sign; anything else is first read as a double,
and what is no number stays none. -/
def negate : Value → Except ValueFault Value
  | .int n => .ok (.int (-n))
  | .float x => .ok (.float x.neg)
  | .nan _ => .ok (.nan none)
  | other => match other.toDouble? with
    | some (some x) => .ok (.float x.neg)
    | some none => .ok (.nan none)
    | none => .error .beyondDouble

end Value

end LineGate
