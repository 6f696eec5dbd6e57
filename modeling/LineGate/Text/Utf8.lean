/-! # UTF-8

Files hold bytes. Reading accepts exactly well-formed UTF-8 and reports the first place where a file
is malformed; writing gives each character its shortest form, so what was read is written back byte
for byte.
-/

namespace LineGate

/-- The bytes of a file. -/
abbrev Bytes := List UInt8

namespace Utf8

/-- What is wrong with a byte sequence. -/
inductive Defect where
  /-- The byte cannot start a character. -/
  | start
  /-- A byte that should continue a character does not. -/
  | continuation
  /-- The input ends inside a character. -/
  | truncated
  deriving DecidableEq, Repr

/-- **Malformed input**: the offending bytes are `width` bytes from `position` on, the first of
which is `byte`. -/
structure Fault where
  /-- The first offending byte. -/
  byte : UInt8
  /-- Its offset in the input. -/
  position : Nat
  /-- How many bytes are reported together. -/
  width : Nat
  /-- What is wrong with them. -/
  defect : Defect
  deriving DecidableEq, Repr

/-- The words for a defect. -/
def Defect.words : Defect → String
  | .start => "invalid start byte"
  | .continuation => "invalid continuation byte"
  | .truncated => "unexpected end of data"

/-- Lower-case hexadecimal text of one byte, two digits. -/
def hexByte (b : UInt8) : String :=
  String.ofList [Nat.digitChar (b.toNat / 16), Nat.digitChar (b.toNat % 16)]

/-- The message for malformed input names a single byte, or the span of several. -/
def Fault.message (f : Fault) : String :=
  let place :=
    if f.width ≤ 1 then "byte 0x" ++ hexByte f.byte ++ " in position " ++ toString f.position
    else "bytes in position " ++ toString f.position ++ "-" ++ toString (f.position + f.width - 1)
  "'utf-8' codec can't decode " ++ place ++ ": " ++ f.defect.words

/-- Continuation bytes are `80` to `BF`. -/
def isContinuation (b : UInt8) : Bool := 0x80 ≤ b && b ≤ 0xBF

/-- Whether `c` may follow the lead byte `b`: a continuation byte that neither makes a longer form
than needed, nor a surrogate, nor a code point beyond the last. -/
def mayFollow (b c : UInt8) : Bool :=
  if b = 0xE0 then 0xA0 ≤ c && c ≤ 0xBF
  else if b = 0xED then 0x80 ≤ c && c ≤ 0x9F
  else if b = 0xF0 then 0x90 ≤ c && c ≤ 0xBF
  else if b = 0xF4 then 0x80 ≤ c && c ≤ 0x8F
  else isContinuation c

/-- The character of a two-byte form. -/
def pair (b c : UInt8) : Char := Char.ofNat (b.toNat % 0x20 * 0x40 + c.toNat % 0x40)

/-- The character of a three-byte form. -/
def triple (b c d : UInt8) : Char :=
  Char.ofNat (b.toNat % 0x10 * 0x1000 + c.toNat % 0x40 * 0x40 + d.toNat % 0x40)

/-- The character of a four-byte form. -/
def quadruple (b c d e : UInt8) : Char :=
  Char.ofNat
    (b.toNat % 0x08 * 0x40000 + c.toNat % 0x40 * 0x1000 + d.toNat % 0x40 * 0x40 + e.toNat % 0x40)

/-- Decode from offset `pos` on, behind the characters `done` (latest first). -/
def decodeOnto (done : List Char) (pos : Nat) : Bytes → Except Fault (List Char)
  | [] => .ok done.reverse
  | b :: rest =>
    if b < 0x80 then decodeOnto (Char.ofNat b.toNat :: done) (pos + 1) rest
    else if b < 0xC2 then .error ⟨b, pos, 1, .start⟩
    else if b < 0xE0 then
      match rest with
      | [] => .error ⟨b, pos, 1, .truncated⟩
      | c :: rest =>
        if isContinuation c then decodeOnto (pair b c :: done) (pos + 2) rest
        else .error ⟨b, pos, 1, .continuation⟩
    else if b < 0xF0 then
      match rest with
      | [] => .error ⟨b, pos, 1, .truncated⟩
      | c :: rest =>
        if !mayFollow b c then .error ⟨b, pos, 1, .continuation⟩
        else match rest with
          | [] => .error ⟨b, pos, 2, .truncated⟩
          | d :: rest =>
            if isContinuation d then decodeOnto (triple b c d :: done) (pos + 3) rest
            else .error ⟨b, pos, 2, .continuation⟩
    else if b < 0xF5 then
      match rest with
      | [] => .error ⟨b, pos, 1, .truncated⟩
      | c :: rest =>
        if !mayFollow b c then .error ⟨b, pos, 1, .continuation⟩
        else match rest with
          | [] => .error ⟨b, pos, 2, .truncated⟩
          | d :: rest =>
            if !isContinuation d then .error ⟨b, pos, 2, .continuation⟩
            else match rest with
              | [] => .error ⟨b, pos, 3, .truncated⟩
              | e :: rest =>
                if isContinuation e then decodeOnto (quadruple b c d e :: done) (pos + 4) rest
                else .error ⟨b, pos, 3, .continuation⟩
    else .error ⟨b, pos, 1, .start⟩

/-- **Decoding**: the characters of well-formed input, or its first fault. -/
def decode (bytes : Bytes) : Except Fault (List Char) := decodeOnto [] 0 bytes

/-- The shortest form of one character. -/
def encodeChar (c : Char) : Bytes :=
  let n := c.toNat
  if n < 0x80 then [n.toUInt8]
  else if n < 0x800 then [(0xC0 + n / 0x40).toUInt8, (0x80 + n % 0x40).toUInt8]
  else if n < 0x10000 then
    [(0xE0 + n / 0x1000).toUInt8, (0x80 + n / 0x40 % 0x40).toUInt8, (0x80 + n % 0x40).toUInt8]
  else
    [(0xF0 + n / 0x40000).toUInt8, (0x80 + n / 0x1000 % 0x40).toUInt8,
      (0x80 + n / 0x40 % 0x40).toUInt8, (0x80 + n % 0x40).toUInt8]

/-- **Encoding** a text, character by character. -/
def encode (cs : List Char) : Bytes := cs.flatMap encodeChar

end Utf8

end LineGate
