/-! # Sets of characters as boundary lists

A set of characters is kept as the ascending list of code points at which membership changes: the
first boundary opens the first run of members, the second closes it, and so on. A character belongs
to the set exactly when an odd number of boundaries lie at or below its code point.
-/

namespace LineGate

/-- **Boundary list** of a set of characters: the code points at which membership changes. -/
structure CharSet where
  /-- The ascending boundaries; members begin at the first, end before the second, and so on. -/
  bounds : List Nat

namespace CharSet

/-- Membership of `n` when `inside` holds below the first boundary of the list. -/
def scan : List Nat → Bool → Nat → Bool
  | [], inside, _ => inside
  | b :: bs, inside, n => if n < b then inside else scan bs (!inside) n

/-- Whether a character belongs to the set. -/
def contains (s : CharSet) (c : Char) : Bool := scan s.bounds false c.toNat

/-- The greatest boundary at or below `n`, starting from the boundary `last` passed before. -/
def floorFrom : List Nat → Nat → Nat → Nat
  | [], last, _ => last
  | b :: bs, last, n => if n < b then last else floorFrom bs b n

/-- The boundary at which the run around a character starts, `0` below the first boundary. -/
def floor (s : CharSet) (c : Char) : Nat := floorFrom s.bounds 0 c.toNat

end CharSet

end LineGate
