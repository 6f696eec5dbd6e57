import LineGate.Value.Basic
import LineGate.Value.Fault

/-! # Equality of values

Three relations. **Plain equality** compares numbers exactly, texts by their characters, lists item
by item, tables without regard to order, and functions by identity. **Loose equality** also lets a
number or truth value equal a numeric text. **Strict equality** asks for the same kind first.

An item stored in a container is the same item as itself even when it is not a number and so equals
nothing; `identical` recognises it.
-/

namespace LineGate

namespace Value

/-- Whether two values are one stored item that is not a number. -/
def identical : Value → Value → Bool
  | .nan (some i), .nan (some j) => i == j
  | _, _ => false

/-- Equality of the numeric readings of two values. -/
def equalNumbers (a b : Value) : Bool :=
  match a.numeric?, b.numeric? with
  | some x, some y => x.compare y == some .eq
  | _, _ => false

/-- The value under a key. -/
def lookup (key : String) : List (String × Value) → Option Value
  | [] => none
  | (k, v) :: rest => if k = key then some v else lookup key rest

mutual

/-- **Plain equality**. -/
def equal : Value → Value → Bool
  | .null, .null => true
  | .str s, .str t => s == t
  | .list xs, .list ys => equalItems xs ys
  | .dict xs, .dict ys => xs.length == ys.length && equalEntries xs ys
  | .function i, .function j => i == j
  | .bool b, other => equalNumbers (.bool b) other
  | .int n, other => equalNumbers (.int n) other
  | .float x, other => equalNumbers (.float x) other
  | _, _ => false

/-- Lists are equal when their items agree one by one. -/
def equalItems : List Value → List Value → Bool
  | [], [] => true
  | x :: xs, y :: ys => (identical x y || equal x y) && equalItems xs ys
  | _, _ => false

/-- Every entry of the first table agrees with the entry under the same key in the second. -/
def equalEntries : List (String × Value) → List (String × Value) → Bool
  | [], _ => true
  | (key, x) :: rest, table =>
    (match lookup key table with
      | some y => identical x y || equal x y
      | none => false) && equalEntries rest table

end

/-- Whether two items of containers agree: the same stored item, or equal ones. -/
def sameItem (x y : Value) : Bool := identical x y || equal x y

/-- Whether loose equality compares the two values as doubles: one is a number or truth value and
the other a text or truth value. -/
def comparesAsDoubles (a b : Value) : Bool :=
  ((a.isNumber || a.isBool) && (b.isText || b.isBool)) ||
    ((b.isNumber || b.isBool) && (a.isText || a.isBool))

/-- Equality of two doubles, neither of which may be missing. -/
def equalDoubles : Option Double → Option Double → Bool
  | some x, some y => x.key == y.key
  | _, _ => false

/-- **Loose equality**. It fails only on an integer beyond the range of doubles. -/
def looseEqual (a b : Value) : Except ValueFault Bool :=
  if a.isNull || b.isNull then .ok (a.isNull && b.isNull)
  else if comparesAsDoubles a b then
    match a.toDouble?, b.toDouble? with
    | some x, some y => .ok (equalDoubles x y)
    | _, _ => .error .beyondDouble
  else .ok (equal a b)

/-- **Strict equality**. -/
def strictEqual (a b : Value) : Bool := a.kind == b.kind && equal a b

end Value

end LineGate
