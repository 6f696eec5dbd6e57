import LineGate.Number.Double

/-! # Shortest decimal text

A double is written with the fewest digits that read back to it, and of those with the digits
nearest to its exact value. Numbers of moderate size are written positionally, others with an
exponent.
-/

namespace LineGate

namespace Double

/-- A finite magnitude as a ratio. -/
def ratio (x : Double) : Nat × Nat :=
  (x.mantissa * Nat.pow 2 x.exponent.toNat, Nat.pow 2 (-x.exponent).toNat)

/-- The place of the leading decimal digit of a positive ratio: `10 ^ place ≤ num / den`, and the
next power of ten is greater. -/
def leadingPlace (num den : Nat) : Int :=
  if den ≤ num then ((Nat.toDigits 10 (num / den)).length : Int) - 1
  else
    match (List.range 400).find? fun i => den ≤ num * Nat.pow 10 (i + 1) with
    | some i => -((i : Int) + 1)
    | none => -400

/-- The decimal with `n` digits that reads back to the magnitude of `x`, if there is one: the nearer
of the two neighbours of the exact value, the even one when both are as near. -/
def readBack? (x : Double) (n : Nat) : Option (Nat × Int) :=
  let (num, den) := x.ratio
  let scale := leadingPlace num den - n + 1
  let scaledNum := num * Nat.pow 10 (-scale).toNat
  let scaledDen := den * Nat.pow 10 scale.toNat
  let low := scaledNum / scaledDen
  let rest := 2 * (scaledNum % scaledDen)
  let near := if rest < scaledDen ∨ (rest = scaledDen ∧ low % 2 = 0) then [low, low + 1]
    else [low + 1, low]
  (near.find? fun d => (ofDecimal false d scale).rank == x.rank).map (·, scale)

/-- **Shortest decimal**: digits and the power of ten of the last one. Seventeen digits always read
back. -/
def shortest (x : Double) : Nat × Int :=
  ((List.range 17).findSome? fun n => x.readBack? (n + 1)).getD (0, 0)

/-- Drop the zeros at the end of a run of digits. -/
def dropTrailingZeros (ds : List Char) : List Char := (ds.reverse.dropWhile (· = '0')).reverse

/-- The exponent behind the mark, with its sign and at least two digits. -/
def exponentText (e : Int) : List Char :=
  let ds := Nat.toDigits 10 e.natAbs
  (if e < 0 then '-' else '+') :: (if ds.length < 2 then '0' :: ds else ds)

/-- Lay out digits whose first one stands at the place `lead`: positionally from the fourth place
behind the point to the sixteenth before it, with an exponent otherwise. -/
def layOut (ds : List Char) (lead : Int) : List Char :=
  if 0 ≤ lead ∧ lead < 16 then
    let whole := lead.toNat + 1
    if ds.length ≤ whole then ds ++ List.replicate (whole - ds.length) '0' ++ ['.', '0']
    else ds.take whole ++ '.' :: ds.drop whole
  else if -4 ≤ lead ∧ lead < 0 then
    '0' :: '.' :: (List.replicate ((-lead).toNat - 1) '0' ++ ds)
  else match ds with
    | [d] => d :: 'e' :: exponentText lead
    | d :: rest => d :: '.' :: (rest ++ 'e' :: exponentText lead)
    | [] => []

/-- The digits of a finite magnitude, laid out. -/
def magnitudeText (x : Double) : List Char :=
  if x.isZero then ['0', '.', '0']
  else
    let (digits, scale) := x.shortest
    let all := Nat.toDigits 10 digits
    layOut (dropTrailingZeros all) (scale + all.length - 1)

/-- **Text of a double**, given the word for infinity. -/
def text (infinityWord : String) (x : Double) : String :=
  (if x.negative then "-" else "") ++
    (if x.isInfinite then infinityWord else String.ofList x.magnitudeText)

end Double

end LineGate
