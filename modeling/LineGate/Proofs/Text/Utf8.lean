import LineGate.Text.Utf8

/-! # Encoded text can be decoded

What was encoded is well-formed, and decoding it gives the text back (`decode_encode`). There is one
case for each number of bytes that a character can take. -/

namespace LineGate

namespace Utf8

/-! ## Bytes as numbers -/

section Byte

variable {n : Nat} (h : n < 256) (b : UInt8)
include h

/-- The value of a byte. -/
theorem toNat_toUInt8 : n.toUInt8.toNat = n := by
  rw [Nat.toUInt8_eq, UInt8.toNat_ofNat']
  exact Nat.mod_eq_of_lt h

/-- Bytes are compared by their values. -/
theorem toUInt8_lt : n.toUInt8 < b ↔ n < b.toNat := by
  rw [UInt8.lt_iff_toNat_lt, toNat_toUInt8 h]

/-- Bytes are compared by their values. -/
theorem toUInt8_le : n.toUInt8 ≤ b ↔ n ≤ b.toNat := by
  rw [UInt8.le_iff_toNat_le, toNat_toUInt8 h]

/-- Bytes are compared by their values. -/
theorem le_toUInt8 : b ≤ n.toUInt8 ↔ b.toNat ≤ n := by
  rw [UInt8.le_iff_toNat_le, toNat_toUInt8 h]

/-- Bytes are equal if their values are. -/
theorem toUInt8_eq : n.toUInt8 = b ↔ n = b.toNat := by
  rw [← UInt8.toNat_inj, toNat_toUInt8 h]

end Byte

/-- A byte that continues a character. -/
theorem isContinuation_toUInt8 {n : Nat} (h : n < 0x40) : isContinuation (0x80 + n).toUInt8 = true := by
  have byte : 0x80 + n < 256 := by omega
  simp only [isContinuation, Bool.and_eq_true, decide_eq_true_eq, le_toUInt8 byte, toUInt8_le byte,
    UInt8.reduceToNat]
  omega

/-- A byte that may follow the first one of a character: it makes neither a longer form than needed,
nor a surrogate, nor a code point beyond the last. -/
theorem mayFollow_toUInt8 {m n : Nat} (hm : m < 256) (h : n < 0x40) (long : m = 0xE0 → 0x20 ≤ n)
    (surrogate : m = 0xED → n < 0x20) (long' : m = 0xF0 → 0x10 ≤ n) (last : m = 0xF4 → n < 0x10) :
    mayFollow m.toUInt8 (0x80 + n).toUInt8 = true := by
  have byte : 0x80 + n < 256 := by omega
  simp only [mayFollow, isContinuation_toUInt8 h, toUInt8_eq hm, le_toUInt8 byte, toUInt8_le byte,
    UInt8.reduceToNat]
  split
  · simp only [Bool.and_eq_true, decide_eq_true_eq]
    omega
  · split
    · simp only [Bool.and_eq_true, decide_eq_true_eq]
      omega
    · split
      · simp only [Bool.and_eq_true, decide_eq_true_eq]
        omega
      · split
        · simp only [Bool.and_eq_true, decide_eq_true_eq]
          omega
        · rfl

/-! ## Characters -/

section Character

variable (done : List Char) (pos : Nat) (rest : Bytes) {a b c d : Nat}

/-- A character of one byte. -/
theorem decodeOnto_one (ha : a < 0x80) :
    decodeOnto done pos (a.toUInt8 :: rest) = decodeOnto (Char.ofNat a :: done) (pos + 1) rest := by
  have byte : a < 256 := by omega
  rw [decodeOnto.eq_def]
  simp only [toUInt8_lt byte, UInt8.reduceToNat, ha, if_true, toNat_toUInt8 byte]

/-- A character of two bytes. -/
theorem decodeOnto_two (ha : 2 ≤ a) (ha' : a < 0x20) (hb : b < 0x40) :
    decodeOnto done pos ((0xC0 + a).toUInt8 :: (0x80 + b).toUInt8 :: rest) =
      decodeOnto (Char.ofNat (a * 0x40 + b) :: done) (pos + 2) rest := by
  have byte : 0xC0 + a < 256 := by omega
  have char : pair (0xC0 + a).toUInt8 (0x80 + b).toUInt8 = Char.ofNat (a * 0x40 + b) := by
    rw [pair, toNat_toUInt8 byte, toNat_toUInt8 (show 0x80 + b < 256 by omega),
      show (0xC0 + a) % 0x20 = a by omega, show (0x80 + b) % 0x40 = b by omega]
  rw [decodeOnto.eq_def]
  dsimp only
  rw [if_neg (by simp only [toUInt8_lt byte, UInt8.reduceToNat]; omega),
    if_neg (by simp only [toUInt8_lt byte, UInt8.reduceToNat]; omega),
    if_pos (by simp only [toUInt8_lt byte, UInt8.reduceToNat]; omega),
    if_pos (isContinuation_toUInt8 hb), char]

/-- A character of three bytes. -/
theorem decodeOnto_three (ha : a < 0x10) (hb : b < 0x40) (hc : c < 0x40) (long : a = 0 → 0x20 ≤ b)
    (surrogate : a = 0xD → b < 0x20) :
    decodeOnto done pos
        ((0xE0 + a).toUInt8 :: (0x80 + b).toUInt8 :: (0x80 + c).toUInt8 :: rest) =
      decodeOnto (Char.ofNat (a * 0x1000 + b * 0x40 + c) :: done) (pos + 3) rest := by
  have byte : 0xE0 + a < 256 := by omega
  have char : triple (0xE0 + a).toUInt8 (0x80 + b).toUInt8 (0x80 + c).toUInt8 =
      Char.ofNat (a * 0x1000 + b * 0x40 + c) := by
    rw [triple, toNat_toUInt8 byte, toNat_toUInt8 (show 0x80 + b < 256 by omega),
      toNat_toUInt8 (show 0x80 + c < 256 by omega), show (0xE0 + a) % 0x10 = a by omega,
      show (0x80 + b) % 0x40 = b by omega, show (0x80 + c) % 0x40 = c by omega]
  have follows : mayFollow (0xE0 + a).toUInt8 (0x80 + b).toUInt8 = true :=
    mayFollow_toUInt8 byte hb (by omega) (by omega) (by omega) (by omega)
  rw [decodeOnto.eq_def]
  dsimp only
  rw [if_neg (by simp only [toUInt8_lt byte, UInt8.reduceToNat]; omega),
    if_neg (by simp only [toUInt8_lt byte, UInt8.reduceToNat]; omega),
    if_neg (by simp only [toUInt8_lt byte, UInt8.reduceToNat]; omega),
    if_pos (by simp only [toUInt8_lt byte, UInt8.reduceToNat]; omega), follows,
    if_neg (by decide), if_pos (isContinuation_toUInt8 hc), char]

/-- A character of four bytes. -/
theorem decodeOnto_four (ha : a < 5) (hb : b < 0x40) (hc : c < 0x40) (hd : d < 0x40)
    (long : a = 0 → 0x10 ≤ b) (last : a = 4 → b < 0x10) :
    decodeOnto done pos ((0xF0 + a).toUInt8 :: (0x80 + b).toUInt8 :: (0x80 + c).toUInt8 ::
        (0x80 + d).toUInt8 :: rest) =
      decodeOnto (Char.ofNat (a * 0x40000 + b * 0x1000 + c * 0x40 + d) :: done) (pos + 4) rest := by
  have byte : 0xF0 + a < 256 := by omega
  have char : quadruple (0xF0 + a).toUInt8 (0x80 + b).toUInt8 (0x80 + c).toUInt8 (0x80 + d).toUInt8 =
      Char.ofNat (a * 0x40000 + b * 0x1000 + c * 0x40 + d) := by
    rw [quadruple, toNat_toUInt8 byte, toNat_toUInt8 (show 0x80 + b < 256 by omega),
      toNat_toUInt8 (show 0x80 + c < 256 by omega), toNat_toUInt8 (show 0x80 + d < 256 by omega),
      show (0xF0 + a) % 0x08 = a by omega, show (0x80 + b) % 0x40 = b by omega,
      show (0x80 + c) % 0x40 = c by omega, show (0x80 + d) % 0x40 = d by omega]
  have follows : mayFollow (0xF0 + a).toUInt8 (0x80 + b).toUInt8 = true :=
    mayFollow_toUInt8 byte hb (by omega) (by omega) (by omega) (by omega)
  rw [decodeOnto.eq_def]
  dsimp only
  rw [if_neg (by simp only [toUInt8_lt byte, UInt8.reduceToNat]; omega),
    if_neg (by simp only [toUInt8_lt byte, UInt8.reduceToNat]; omega),
    if_neg (by simp only [toUInt8_lt byte, UInt8.reduceToNat]; omega),
    if_neg (by simp only [toUInt8_lt byte, UInt8.reduceToNat]; omega),
    if_pos (by simp only [toUInt8_lt byte, UInt8.reduceToNat]; omega), follows,
    if_neg (by decide), isContinuation_toUInt8 hc, if_neg (by decide),
    if_pos (isContinuation_toUInt8 hd), char]

/-- A character is a code point that is not a surrogate. -/
theorem toNat_of_char (x : Char) : x.toNat < 0x110000 ∧ ¬ (0xD800 ≤ x.toNat ∧ x.toNat < 0xE000) := by
  have valid : x.toNat < 0xD800 ∨ 0xDFFF < x.toNat ∧ x.toNat < 0x110000 := x.valid
  omega

/-- **An encoded character is decoded.** -/
theorem decodeOnto_encodeChar (x : Char) :
    ∃ pos', decodeOnto done pos (encodeChar x ++ rest) = decodeOnto (x :: done) pos' rest := by
  obtain ⟨bound, surrogate⟩ := toNat_of_char x
  have back : Char.ofNat x.toNat = x := Char.ofNat_toNat x
  unfold encodeChar
  dsimp only
  generalize x.toNat = n at bound surrogate back ⊢
  split
  · rename_i small
    exact ⟨pos + 1, by rw [List.singleton_append, decodeOnto_one done pos rest small, back]⟩
  · split
    · refine ⟨pos + 2, ?_⟩
      have two := decodeOnto_two done pos rest (a := n / 0x40) (b := n % 0x40) (by omega) (by omega)
        (by omega)
      rw [show n / 0x40 * 0x40 + n % 0x40 = n by omega, back] at two
      exact two
    · split
      · refine ⟨pos + 3, ?_⟩
        have three := decodeOnto_three done pos rest (a := n / 0x1000) (b := n / 0x40 % 0x40)
          (c := n % 0x40) (by omega) (by omega) (by omega) (by omega) (by omega)
        rw [show n / 0x1000 * 0x1000 + n / 0x40 % 0x40 * 0x40 + n % 0x40 = n by omega, back] at three
        exact three
      · refine ⟨pos + 4, ?_⟩
        have four := decodeOnto_four done pos rest (a := n / 0x40000) (b := n / 0x1000 % 0x40)
          (c := n / 0x40 % 0x40) (d := n % 0x40) (by omega) (by omega) (by omega) (by omega) (by omega)
          (by omega)
        rw [show n / 0x40000 * 0x40000 + n / 0x1000 % 0x40 * 0x1000 + n / 0x40 % 0x40 * 0x40 +
          n % 0x40 = n by omega, back] at four
        exact four

end Character

/-- An encoded text is decoded behind what was decoded before. -/
theorem decodeOnto_encode (done : List Char) (pos : Nat) (text : List Char) :
    decodeOnto done pos (encode text) = .ok (done.reverse ++ text) := by
  induction text generalizing done pos with
  | nil => simp [encode, decodeOnto]
  | cons x text ih =>
    obtain ⟨pos', eq⟩ := decodeOnto_encodeChar done pos (encode text) x
    rw [encode, List.flatMap_cons, ← encode, eq, ih, List.reverse_cons, List.append_assoc,
      List.singleton_append]

/-- **Encoded text can be decoded.** -/
theorem decode_encode (text : List Char) : decode (encode text) = .ok text :=
  decodeOnto_encode [] 0 text

end Utf8

end LineGate
