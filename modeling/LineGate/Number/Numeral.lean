import LineGate.Text.Digit
import LineGate.Number.Double

/-! # Numerals

How numbers are written. A **decimal numeral** is a run of digits with an optional point and an
optional exponent; a **hexadecimal numeral** is `0x` with hexadecimal digits. The expression
language, the definitions of the command line and the reading of numeric text all share the decimal
numerals of this file.
-/

namespace LineGate

/-- The greatest number of digits that a plain decimal integer may have. -/
def integerDigitLimit : Nat := 4300

/-- **Too many digits**: a plain decimal integer beyond the limit. -/
structure TooManyDigits where
  /-- The number of digits, leading zeros included. -/
  count : Nat
  deriving DecidableEq, Repr

/-- The wording of the digit limit. -/
def TooManyDigits.message (fault : TooManyDigits) : String :=
  "Exceeds the limit (" ++ toString integerDigitLimit ++
    " digits) for integer string conversion: value has " ++ toString fault.count ++
    " digits; use sys.set_int_max_str_digits() to increase the limit"

namespace Numeral

/-- The value of a run of decimal digits. -/
def natural (cs : List Char) : Nat := cs.foldl (fun n c => 10 * n + digitValue c) 0

/-- Whether a character is a hexadecimal digit. -/
def isHexDigit (c : Char) : Bool :=
  c.isDigit || ('a' ≤ c && c ≤ 'f') || ('A' ≤ c && c ≤ 'F')

/-- The value of a hexadecimal digit. -/
def hexDigitValue (c : Char) : Nat :=
  if c.isDigit then c.toNat - '0'.toNat
  else if 'a' ≤ c then c.toNat - 'a'.toNat + 10
  else c.toNat - 'A'.toNat + 10

/-- The value of a run of hexadecimal digits. -/
def hexNatural (cs : List Char) : Nat := cs.foldl (fun n c => 16 * n + hexDigitValue c) 0

/-- The exponent part of a decimal numeral: an `e`, an optional sign, and digits. -/
structure Exponent where
  /-- The letter as written. -/
  letter : Char
  /-- The sign as written, if any. -/
  sign : Option Char
  /-- The digits of the exponent. -/
  digits : List Char
  deriving DecidableEq, Repr

/-- **Decimal numerals** as written. -/
structure Decimal where
  /-- The digits before the point. -/
  whole : List Char
  /-- The digits behind the point, when there is a point. -/
  fraction : Option (List Char)
  /-- The exponent, when there is one. -/
  exponent : Option Exponent
  deriving DecidableEq, Repr

namespace Exponent

/-- The exponent's value. -/
def value (e : Exponent) : Int :=
  if e.sign = some '-' then -(natural e.digits : Int) else natural e.digits

/-- The exponent as written. -/
def text (e : Exponent) : List Char := e.letter :: (e.sign.toList ++ e.digits)

/-- Read an exponent at the front of a text; without digits there is none. -/
def read : List Char → Option (Exponent × List Char)
  | c :: rest =>
    if c = 'e' ∨ c = 'E' then
      let (sign, rest) := match rest with
        | s :: more => if s = '+' ∨ s = '-' then (some s, more) else (none, rest)
        | [] => (none, rest)
      let digits := rest.takeWhile isDecimal
      if digits.isEmpty then none else some (⟨c, sign, digits⟩, rest.dropWhile isDecimal)
    else none
  | [] => none

end Exponent

namespace Decimal

/-- The numeral as written. -/
def text (d : Decimal) : List Char :=
  d.whole ++ (match d.fraction with | some f => '.' :: f | none => []) ++
    (match d.exponent with | some e => e.text | none => [])

/-- Whether the numeral denotes an integer: it has neither point nor exponent. -/
def isInteger (d : Decimal) : Bool := d.fraction.isNone && d.exponent.isNone

/-- The integer that a run of digits denotes, if it is not too long. -/
def integer (d : Decimal) : Except TooManyDigits Nat :=
  if d.whole.length > integerDigitLimit then .error ⟨d.whole.length⟩ else .ok (natural d.whole)

/-- All digits before the exponent, the point left out. -/
def digits (d : Decimal) : List Char := d.whole ++ d.fraction.getD []

/-- The double nearest to the numeral, with the given sign. -/
def toDouble (negative : Bool) (d : Decimal) : Double :=
  let shift : Int := match d.exponent with | some e => e.value | none => 0
  Double.ofDecimal negative (natural d.digits) (shift - (d.fraction.getD []).length)

/-- Add the exponent that stands next in the text, if any. -/
def withExponent (whole : List Char) (fraction : Option (List Char)) (rest : List Char) :
    Decimal × List Char :=
  match Exponent.read rest with
  | some (e, rest) => (⟨whole, fraction, some e⟩, rest)
  | none => (⟨whole, fraction, none⟩, rest)

/-- **Read** the longest decimal numeral at the front of a text. A point needs a digit on at least
one side of it. -/
def read (cs : List Char) : Option (Decimal × List Char) :=
  let whole := cs.takeWhile isDecimal
  match cs.dropWhile isDecimal with
  | '.' :: rest =>
    let fraction := rest.takeWhile isDecimal
    if whole.isEmpty && fraction.isEmpty then none
    else some (withExponent whole (some fraction) (rest.dropWhile isDecimal))
  | rest => if whole.isEmpty then none else some (withExponent whole none rest)

/-- Read a text that is one decimal numeral and nothing else. -/
def parse? (cs : List Char) : Option Decimal :=
  match read cs with
  | some (d, []) => some d
  | _ => none

end Decimal

/-! ## Numeric text

Text that stands where a number is needed is read with some freedom: a sign, the words for infinity,
and single underscores between digits. -/

/-- Drop the underscores of a text, each of which must stand between two digits. The first argument
is the character before the text. -/
def dropUnderscores : Option Char → List Char → Option (List Char)
  | before, [] => if before = some '_' then none else some []
  | before, c :: cs =>
    if c = '_' then
      if before.any isDecimal then dropUnderscores (some c) cs else none
    else if before = some '_' && !isDecimal c then none
    else (dropUnderscores (some c) cs).map (c :: ·)

/-- A sign at the front of a text, and what follows it. -/
def splitSign : List Char → Bool × List Char
  | '-' :: cs => (true, cs)
  | '+' :: cs => (false, cs)
  | cs => (false, cs)

/-- **Numeric text**: the double that a text denotes. Text that is no number, and text that says so,
denotes none. -/
def readDouble? (cs : List Char) : Option Double := do
  let (negative, body) := splitSign (← dropUnderscores none cs)
  let word := String.ofList (body.map Char.toLower)
  if word = "inf" ∨ word = "infinity" then some (Double.infinity negative)
  else (Decimal.parse? body).map (Decimal.toDouble negative)

end Numeral

end LineGate
