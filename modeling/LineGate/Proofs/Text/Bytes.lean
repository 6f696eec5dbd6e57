import Mathlib.Data.List.Basic
import LineGate.Proofs.Text.Lines
import LineGate.Proofs.Text.Utf8

/-! # Texts as bytes

Every character has one form only, so that decoded bytes are encoded again (`encode_of_decode`). In
the form of a character a single byte **leads**, and the others continue it: the leading bytes count
the characters (`length_of_encode`). A character of ASCII is its own byte and is part of no other
form, so the lines of a text are encoded to the stretches between the line feeds of its bytes
(`splitOn_encode`), and a line ends with a carriage return exactly if its bytes do
(`getLast?_encode`). -/

namespace LineGate

namespace Utf8

/-! ## Shortest forms -/

section Forms

variable {b c d e : UInt8}

/-- The values of bytes that continue a character. -/
theorem isContinuation_iff : isContinuation c = true ↔ 0x80 ≤ c.toNat ∧ c.toNat < 0xC0 := by
  simp only [isContinuation, Bool.and_eq_true, decide_eq_true_eq, UInt8.le_iff_toNat_le,
    UInt8.reduceToNat]
  omega

/-- The values of a byte that may follow the first one of a character. -/
theorem bounds_of_mayFollow (h : mayFollow b c = true) :
    (0x80 ≤ c.toNat ∧ c.toNat < 0xC0) ∧ (b.toNat = 0xE0 → 0xA0 ≤ c.toNat) ∧
      (b.toNat = 0xED → c.toNat < 0xA0) ∧ (b.toNat = 0xF0 → 0x90 ≤ c.toNat) ∧
      (b.toNat = 0xF4 → c.toNat < 0x90) := by
  unfold mayFollow isContinuation at h
  simp only [← UInt8.toNat_inj, UInt8.le_iff_toNat_le, UInt8.reduceToNat] at h
  split at h
  · simp only [Bool.and_eq_true, decide_eq_true_eq] at h
    omega
  · split at h
    · simp only [Bool.and_eq_true, decide_eq_true_eq] at h
      omega
    · split at h
      · simp only [Bool.and_eq_true, decide_eq_true_eq] at h
        omega
      · split at h <;> simp only [Bool.and_eq_true, decide_eq_true_eq] at h <;> omega

/-- The code point of a character that is given by it. -/
theorem toNat_ofNat {n : Nat} (h : n < 0xD800 ∨ 0xDFFF < n ∧ n < 0x110000) :
    (Char.ofNat n).toNat = n := by
  have valid : n.isValidChar := h
  rw [Char.ofNat, dif_pos valid]
  rfl

/-- A byte is given by its value. -/
theorem toUInt8_eq_of_toNat {n : Nat} (h : n = b.toNat) : n.toUInt8 = b :=
  (toUInt8_eq (h ▸ b.toNat_lt) b).mpr h

/-- A form of one byte is the shortest one. -/
theorem encodeChar_one (hb : b < 0x80) : encodeChar (Char.ofNat b.toNat) = [b] := by
  simp only [UInt8.lt_iff_toNat_lt, UInt8.reduceToNat] at hb
  rw [encodeChar, toNat_ofNat (by omega)]
  rw [if_pos hb, toUInt8_eq_of_toNat rfl]

/-- A form of two bytes is the shortest one. -/
theorem encodeChar_pair (hb : ¬ b < 0xC2) (hb' : b < 0xE0) (hc : isContinuation c = true) :
    encodeChar (pair b c) = [b, c] := by
  simp only [UInt8.lt_iff_toNat_lt, UInt8.reduceToNat] at hb hb'
  have hc := isContinuation_iff.mp hc
  rw [encodeChar, pair, toNat_ofNat (by omega)]
  rw [if_neg (by omega), if_pos (by omega), toUInt8_eq_of_toNat (b := b) (by omega),
    toUInt8_eq_of_toNat (b := c) (by omega)]

/-- A form of three bytes is the shortest one. -/
theorem encodeChar_triple (hb : ¬ b < 0xE0) (hb' : b < 0xF0) (hc : mayFollow b c = true)
    (hd : isContinuation d = true) : encodeChar (triple b c d) = [b, c, d] := by
  simp only [UInt8.lt_iff_toNat_lt, UInt8.reduceToNat] at hb hb'
  obtain ⟨hc, long, surrogate, -, -⟩ := bounds_of_mayFollow hc
  have hd := isContinuation_iff.mp hd
  rw [encodeChar, triple, toNat_ofNat (by omega)]
  rw [if_neg (by omega), if_neg (by omega), if_pos (by omega),
    toUInt8_eq_of_toNat (b := b) (by omega), toUInt8_eq_of_toNat (b := c) (by omega),
    toUInt8_eq_of_toNat (b := d) (by omega)]

/-- A form of four bytes is the shortest one. -/
theorem encodeChar_quadruple (hb : ¬ b < 0xF0) (hb' : b < 0xF5) (hc : mayFollow b c = true)
    (hd : isContinuation d = true) (he : isContinuation e = true) :
    encodeChar (quadruple b c d e) = [b, c, d, e] := by
  simp only [UInt8.lt_iff_toNat_lt, UInt8.reduceToNat] at hb hb'
  obtain ⟨hc, -, -, long, last⟩ := bounds_of_mayFollow hc
  have hd := isContinuation_iff.mp hd
  have he := isContinuation_iff.mp he
  rw [encodeChar, quadruple, toNat_ofNat (by omega)]
  rw [if_neg (by omega), if_neg (by omega), if_neg (by omega),
    toUInt8_eq_of_toNat (b := b) (by omega), toUInt8_eq_of_toNat (b := c) (by omega),
    toUInt8_eq_of_toNat (b := d) (by omega), toUInt8_eq_of_toNat (b := e) (by omega)]

end Forms

/-! ## Encoding what was decoded -/

/-- Nothing is encoded to no bytes. -/
@[simp] theorem encode_nil : encode [] = [] := rfl

/-- A text is encoded character by character. -/
theorem encode_cons (x : Char) (text : List Char) :
    encode (x :: text) = encodeChar x ++ encode text :=
  List.flatMap_cons

/-- Two texts are encoded one after the other. -/
theorem encode_append (a b : List Char) : encode (a ++ b) = encode a ++ encode b :=
  List.flatMap_append

/-- What is decoded behind other characters is encoded again. -/
theorem encode_of_decodeOnto {done chars : List Char} {pos : Nat} {bytes : Bytes}
    (h : decodeOnto done pos bytes = .ok chars) :
    ∃ text, chars = done.reverse ++ text ∧ encode text = bytes := by
  -- One more character stands in front of those that are encoded again.
  have further {done : List Char} {x : Char} {form rest : Bytes} (shortest : encodeChar x = form)
      (later : ∃ text, chars = (x :: done).reverse ++ text ∧ encode text = rest) :
      ∃ text, chars = done.reverse ++ text ∧ encode text = form ++ rest := by
    obtain ⟨text, rfl, rfl⟩ := later
    refine ⟨x :: text, ?_, ?_⟩
    · rw [List.reverse_cons, List.append_assoc, List.singleton_append]
    · rw [encode_cons, shortest]
  fun_induction decodeOnto done pos bytes with
  | case1 done pos =>
    refine ⟨[], ?_, rfl⟩
    rw [List.append_nil]
    exact (Except.ok.inj h).symm
  | case2 done pos b rest one ih => exact further (encodeChar_one one) (ih h)
  | case5 done pos b _ two two' c rest hc ih => exact further (encodeChar_pair two two' hc) (ih h)
  | case10 done pos b _ _ three three' c hc d rest hd ih =>
    exact further (encodeChar_triple three three' (by simpa using hc) hd) (ih h)
  | case17 done pos b _ _ _ four four' c hc d hd e rest he ih =>
    exact further (encodeChar_quadruple four four' (by simpa using hc) (by simpa using hd) he) (ih h)
  -- In all other cases the input is malformed.
  | _ => cases h

/-- **Decoded bytes are encoded again.** -/
theorem encode_of_decode {bytes : Bytes} {chars : List Char} (h : decode bytes = .ok chars) :
    encode chars = bytes := by
  obtain ⟨text, rfl, encoded⟩ := encode_of_decodeOnto h
  exact encoded

/-! ## Characters among the bytes -/

/-- **The form of a character**: a byte that leads, and bytes that continue the character. A character
of ASCII is a single byte; the form of any other has no byte of ASCII. -/
theorem encodeChar_form (x : Char) :
    ∃ b rest, encodeChar x = b :: rest ∧ isContinuation b = false ∧
      (∀ c ∈ rest, isContinuation c = true) ∧ (x.toNat < 0x80 → b.toNat = x.toNat ∧ rest = []) ∧
      (0x80 ≤ x.toNat → 0x80 ≤ b.toNat) := by
  obtain ⟨bound, -⟩ := toNat_of_char x
  -- A byte outside of the range of those that continue a character leads.
  have leads {n : Nat} (byte : n < 256) (h : n < 0x80 ∨ 0xC0 ≤ n) :
      isContinuation n.toUInt8 = false := by
    refine Bool.eq_false_iff.mpr fun inside => ?_
    have range := isContinuation_iff.mp inside
    rw [toNat_toUInt8 byte] at range
    omega
  unfold encodeChar
  dsimp only
  generalize x.toNat = n at bound ⊢
  split
  · refine ⟨_, [], rfl, leads (by omega) (by omega), ?_, fun _ => ⟨?_, rfl⟩, fun _ => by omega⟩
    · exact fun c hc => nomatch hc
    · exact toNat_toUInt8 (by omega)
  · split
    · refine ⟨_, _, rfl, leads (by omega) (by omega), ?_, fun _ => by omega, fun _ => ?_⟩
      · intro c hc
        rw [List.mem_singleton.mp hc]
        exact isContinuation_toUInt8 (by omega)
      · rw [toNat_toUInt8 (by omega)]
        omega
    · split
      · refine ⟨_, _, rfl, leads (by omega) (by omega), ?_, fun _ => by omega, fun _ => ?_⟩
        · intro c hc
          simp only [List.mem_cons, List.not_mem_nil, or_false] at hc
          rcases hc with rfl | rfl <;> exact isContinuation_toUInt8 (by omega)
        · rw [toNat_toUInt8 (by omega)]
          omega
      · refine ⟨_, _, rfl, leads (by omega) (by omega), ?_, fun _ => by omega, fun _ => ?_⟩
        · intro c hc
          simp only [List.mem_cons, List.not_mem_nil, or_false] at hc
          rcases hc with rfl | rfl | rfl <;> exact isContinuation_toUInt8 (by omega)
        · rw [toNat_toUInt8 (by omega)]
          omega

/-- A byte of ASCII is in the form of its own character only. -/
theorem mem_encodeChar {a : UInt8} (ascii : a.toNat < 0x80) (x : Char) :
    a ∈ encodeChar x ↔ x.toNat = a.toNat := by
  obtain ⟨b, rest, form, -, continues, single, beyond⟩ := encodeChar_form x
  rw [form, List.mem_cons]
  constructor
  · rintro (rfl | inside)
    · by_cases small : x.toNat < 0x80
      · exact (single small).1.symm
      · have := beyond (by omega)
        omega
    · have := isContinuation_iff.mp (continues a inside)
      omega
  · intro same
    obtain ⟨eq, -⟩ := single (by omega)
    exact .inl (UInt8.toNat_inj.mp (by omega))

/-- A byte of ASCII is among the bytes of a text exactly if its character is in the text. -/
theorem mem_encode {a : UInt8} (ascii : a.toNat < 0x80) (text : List Char) :
    a ∈ encode text ↔ Char.ofNat a.toNat ∈ text := by
  rw [encode, List.mem_flatMap]
  constructor
  · rintro ⟨x, mem, inside⟩
    rw [← (mem_encodeChar ascii x).mp inside, Char.ofNat_toNat]
    exact mem
  · intro mem
    refine ⟨_, mem, (mem_encodeChar ascii _).mpr ?_⟩
    exact toNat_ofNat (by omega)

/-- **The number of characters** in the bytes of a text: that of the bytes that lead. -/
def charCount (bytes : Bytes) : Nat := bytes.countP fun b => !isContinuation b

/-- The bytes of a text have as many characters as the text. -/
@[simp] theorem charCount_encode (text : List Char) : charCount (encode text) = text.length := by
  induction text with
  | nil => rfl
  | cons x text ih =>
    obtain ⟨b, rest, form, leads, continues, -⟩ := encodeChar_form x
    have others : rest.countP (fun b => !isContinuation b) = 0 := by
      rw [List.countP_eq_zero]
      intro c hc
      rw [continues c hc]
      decide
    rw [charCount] at ih ⊢
    rw [encode_cons, form, List.countP_append, List.countP_cons, others, ih, leads,
      List.length_cons]
    simp only [Bool.not_false, if_true]
    omega

/-- **The bytes of a text end with a carriage return** exactly if the text does. -/
theorem getLast?_encode (text : List Char) :
    (encode text).getLast? = some 0x0D ↔ text.getLast? = some '\r' := by
  rcases List.eq_nil_or_concat text with rfl | ⟨before, x, rfl⟩
  · simp
  · have last : (encode (before ++ [x])).getLast? = (encodeChar x).getLast? := by
      obtain ⟨b, rest, form, -⟩ := encodeChar_form x
      rw [encode_append, encode_cons, encode_nil, List.append_nil, form, List.getLast?_append_cons]
    rw [List.concat_eq_append, last, List.getLast?_concat]
    constructor
    · intro ends
      have inside := (mem_encodeChar (by decide) x).mp (List.mem_of_getLast? ends)
      rw [← Char.ofNat_toNat x, inside]
      rfl
    · intro ends
      rw [Option.some.inj ends]
      rfl

/-! ## Lines among the bytes -/

/-- The byte of a line feed. -/
def lineFeed : UInt8 := 0x0A

/-- A line feed is encoded to its byte. -/
theorem encodeChar_lineFeed : encodeChar '\n' = [lineFeed] := rfl

/-- Lines are joined by line feeds, before or after they are encoded. -/
theorem encode_join (parts : List (List Char)) :
    encode (Separated.join '\n' parts) = [lineFeed].intercalate (parts.map encode) := by
  induction parts with
  | nil => rfl
  | cons part rest ih =>
    cases rest with
    | nil =>
      rw [Separated.join_singleton, List.map_singleton, List.intercalate_singleton]
    | cons next more =>
      rw [Separated.join_cons '\n' (List.cons_ne_nil next more), encode_append, encode_cons, ih,
        encodeChar_lineFeed, List.map_cons, List.map_cons, List.map_cons,
        List.intercalate_cons_cons, List.append_assoc]

/-- **Lines are found among the bytes**: between the line feeds in the bytes of a text stand the bytes
of its lines. -/
theorem splitOn_encode (text : List Char) :
    (encode text).splitOn lineFeed = (Separated.split '\n' text).map encode := by
  have clean : ∀ bytes ∈ (Separated.split '\n' text).map encode, lineFeed ∉ bytes := by
    intro bytes mem
    obtain ⟨part, inside, rfl⟩ := List.mem_map.mp mem
    rw [mem_encode (by decide)]
    exact Separated.not_mem_of_mem_split '\n' inside
  have nonempty : (Separated.split '\n' text).map encode ≠ [] :=
    fun eq => Separated.split_ne_nil '\n' text (List.map_eq_nil_iff.mp eq)
  calc (encode text).splitOn lineFeed
      = (encode (Separated.join '\n' (Separated.split '\n' text))).splitOn lineFeed := by
        rw [Separated.join_split]
    _ = ([lineFeed].intercalate ((Separated.split '\n' text).map encode)).splitOn lineFeed := by
        rw [encode_join]
    _ = (Separated.split '\n' text).map encode := List.splitOn_intercalate lineFeed clean nonempty

end Utf8

end LineGate
