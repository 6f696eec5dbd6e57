/-! # Double-precision numbers

Numbers with a point are kept in double precision, with a sign and an exact magnitude. The
magnitudes representable in double precision are ranked from zero over the subnormal and the normal
numbers to infinity; the rank of a magnitude is its bit pattern. Neighbouring magnitudes have
neighbouring ranks, so comparing doubles is comparing integers, and rounding picks a rank.

There is no value for "not a number" here: a computation that has no numeric result says so itself.
-/

namespace LineGate

/-- The rank of the infinite magnitude, `2047 · 2^52`. -/
def infinityRank : Nat := 2047 * Nat.pow 2 52

/-- **Doubles**: a sign and the rank of a magnitude, infinity included. -/
structure Double where
  /-- Whether the number is below zero, or the negative zero. -/
  negative : Bool
  /-- The rank of the magnitude. -/
  rank : Nat
  /-- No magnitude exceeds infinity. -/
  rank_le : rank ≤ infinityRank
  deriving DecidableEq, Repr

namespace Double

/-- The double of a given sign whose magnitude has rank `r`, infinite when there is none. -/
def ofRank (negative : Bool) (r : Nat) : Double :=
  ⟨negative, min r infinityRank, Nat.min_le_right _ _⟩

/-- Zero. -/
def zero : Double := ofRank false 0

/-- The number one. -/
def one : Double := ofRank false (1023 * Nat.pow 2 52)

/-- Infinity of a given sign. -/
def infinity (negative : Bool) : Double := ofRank negative infinityRank

/-- Change the sign, also of zero. -/
def neg (x : Double) : Double := { x with negative := !x.negative }

/-- Whether the number is zero of either sign. -/
def isZero (x : Double) : Bool := x.rank == 0

/-- Whether the number is infinite. -/
def isInfinite (x : Double) : Bool := x.rank == infinityRank

/-- The bit pattern of the number. -/
def bits (x : Double) : Nat := (if x.negative then Nat.pow 2 63 else 0) + x.rank

/-- The **signed rank**: doubles are ordered as their signed ranks, and the two zeros share one. -/
def key (x : Double) : Int := if x.negative then -(x.rank : Int) else x.rank

/-- The significand of a finite magnitude: the magnitude is `mantissa · 2 ^ exponent`. -/
def mantissa (x : Double) : Nat :=
  if x.rank < Nat.pow 2 52 then x.rank else Nat.pow 2 52 + x.rank % Nat.pow 2 52

/-- The binary exponent that belongs to `mantissa`. -/
def exponent (x : Double) : Int := (max (x.rank / Nat.pow 2 52) 1 : Nat) - (1075 : Int)

/-- Compare two doubles. -/
def compare (x y : Double) : Ordering := Ord.compare x.key y.key

/-- Compare an integer with a double, exactly: no rounding takes place. -/
def compareInt (n : Int) (x : Double) : Ordering :=
  if x.isInfinite then (if x.negative then .gt else .lt)
  else
    let m : Int := if x.negative then -(x.mantissa : Int) else x.mantissa
    Ord.compare (n * Nat.pow 2 (-x.exponent).toNat) (m * Nat.pow 2 x.exponent.toNat)

/-! ## Rounding -/

/-- The quotient `num / den` rounded to the nearest natural number, a half to the even one. -/
def roundQuotient (num den : Nat) : Nat :=
  let q := num / den
  let r := num % den
  if 2 * r < den ∨ (2 * r = den ∧ q % 2 = 0) then q else q + 1

/-- The binary exponent of the last place in which the magnitude `num / den` is rounded: the
significand keeps 53 bits, and no place is finer than `2 ^ (-1074)`. -/
def lastPlace (num den : Nat) : Int :=
  let k : Int := (num.log2 : Int) - den.log2 - 53
  let tooFine := den * Nat.pow 2 (53 + k).toNat ≤ num * Nat.pow 2 (-(53 + k)).toNat
  max (if tooFine then k + 1 else k) (-1074)

/-- The rank of the magnitude nearest to `num / den`, a half going to the even significand. A
significand that rounds up to the next power of two carries into the exponent by itself. -/
def rankOfRatio (num den : Nat) : Nat :=
  let e := lastPlace num den
  (e + 1074).toNat * Nat.pow 2 52 +
    roundQuotient (num * Nat.pow 2 (-e).toNat) (den * Nat.pow 2 e.toNat)

/-- **Nearest double** to the ratio `num / den`; a ratio beyond the largest finite double is
infinite. -/
def ofRatio (negative : Bool) (num den : Nat) : Double :=
  if num = 0 then ofRank negative 0 else ofRank negative (rankOfRatio num den)

/-- **Nearest double** to `digits · 10 ^ exponent`. Magnitudes far outside the range of doubles are
recognised by their exponent alone. -/
def ofDecimal (negative : Bool) (digits : Nat) (exponent : Int) : Double :=
  if digits = 0 then ofRank negative 0
  else if exponent > 400 then infinity negative
  else if exponent < 0 ∧ digits.log2 + 1101 < 3 * (-exponent).toNat then ofRank negative 0
  else ofRatio negative (digits * Nat.pow 10 exponent.toNat) (Nat.pow 10 (-exponent).toNat)

/-- **Nearest double** to an integer, if it is in the range of finite doubles. -/
def ofInt? (n : Int) : Option Double :=
  let x := ofRatio (n < 0) n.natAbs 1
  if x.isInfinite then none else some x

end Double

end LineGate
