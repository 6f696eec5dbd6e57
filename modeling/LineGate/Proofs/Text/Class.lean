import LineGate.Expr.Token
import LineGate.Text.Identifier

/-! # Classes of characters

The characters of names, of numerals and of blanks are given as boundary lists of code points. Which
of these classes have no character in common is what keeps lexemes apart: no character of a name or
of a numeral is blank, and no name starts with a digit of any script. Whether a small class is apart
from a large one is decided by going through the members of the small one (`CharSet.apart`), and for
two large ones by passing their boundaries together (`CharSet.separate`). -/

namespace LineGate

/-! ## Members of boundary lists -/

/-- The **members** of a boundary list whose last run is closed, as code points. -/
def CharSet.members : List Nat → List Nat
  | opening :: closing :: bounds => List.range' opening (closing - opening) ++ members bounds
  | _ => []

/-- What a boundary list contains is among its members. -/
theorem CharSet.mem_members {n : Nat} :
    ∀ {bounds : List Nat}, bounds.length % 2 = 0 → scan bounds false n = true → n ∈ members bounds
  | [], _, inside => by cases inside
  | [_], even, _ => by cases even
  | opening :: closing :: bounds, even, inside => by
    have even : bounds.length % 2 = 0 := by
      simp only [List.length_cons] at even
      omega
    rw [scan, scan] at inside
    rw [members, List.mem_append, List.mem_range'_1]
    by_cases before : n < opening
    · rw [if_pos before] at inside
      cases inside
    · by_cases within : n < closing
      · exact .inl (by omega)
      · -- Behind the run the membership is as it was before it.
        rw [if_neg before, if_neg within] at inside
        exact .inr (mem_members even inside)

/-- **Classes are apart** if no member of the one is in the other. -/
theorem CharSet.apart {small large : CharSet} (closed : small.bounds.length % 2 = 0)
    (outside : ∀ n ∈ members small.bounds, scan large.bounds false n = false) {c : Char}
    (inside : large.contains c = true) : small.contains c = false := by
  apply Bool.eq_false_iff.mpr
  intro both
  have out := outside c.toNat (mem_members closed both)
  rw [contains, out] at inside
  cases inside

/-! ## Two boundary lists -/

/-- Whether two boundary lists, with what holds below their first boundaries, have **no member in
common**, as far as that is seen from at most `fuel` boundaries. -/
def CharSet.separate : Nat → List Nat → Bool → List Nat → Bool → Bool
  | _, [], inside, _, _ => !inside
  | _, _ :: _, _, [], inside' => !inside'
  | 0, _ :: _, _, _ :: _, _ => false
  | fuel + 1, a :: as, inside, b :: bs, inside' =>
    !(inside && inside') &&
      if a.blt b then separate fuel as (!inside) (b :: bs) inside'
      else if b.blt a then separate fuel (a :: as) inside bs (!inside')
      else separate fuel as (!inside) bs (!inside')

/-- Separate boundary lists have no member in common. -/
theorem CharSet.scan_eq_false_of_separate {fuel : Nat} {as bs : List Nat} {inside inside' : Bool}
    (h : separate fuel as inside bs inside' = true) {n : Nat} (mem : scan as inside n = true) :
    scan bs inside' n = false := by
  fun_induction separate fuel as inside bs inside' with
  | case1 => simp_all [scan]
  | case2 => simp_all [scan]
  | case3 => cases h
  | case4 fuel a as inside b bs inside' below above both =>
    obtain ⟨apart, rest⟩ := (Bool.and_eq_true _ _).mp h
    have mem_or : n < a ∧ inside = true ∨ a ≤ n ∧ scan as (!inside) n = true := by
      rw [scan] at mem
      by_cases lt : n < a
      · exact .inl ⟨lt, by simpa [lt] using mem⟩
      · exact .inr ⟨Nat.le_of_not_lt lt, by simpa [lt] using mem⟩
    -- Below both boundaries nothing has changed yet; otherwise the smaller one is passed.
    have start (lt : n < a) (lt' : n < b) : scan (b :: bs) inside' n = false := by
      rw [scan, if_pos lt']
      rcases mem_or with ⟨-, rfl⟩ | ⟨le, -⟩
      · simpa using apart
      · omega
    by_cases ab : a < b
    · rw [if_pos (Nat.blt_eq.mpr ab)] at rest
      rcases mem_or with ⟨lt, -⟩ | ⟨-, mem⟩
      · exact start lt (by omega)
      · exact below rest mem
    · rw [if_neg (by simpa [Nat.blt_eq] using ab)] at rest
      by_cases lt' : n < b
      · exact start (by omega) lt'
      · rw [scan, if_neg lt']
        by_cases ba : b < a
        · rw [if_pos (Nat.blt_eq.mpr ba)] at rest
          exact above rest mem
        · rw [if_neg (by simpa [Nat.blt_eq] using ba)] at rest
          rcases mem_or with ⟨lt, -⟩ | ⟨-, mem⟩
          · omega
          · exact both rest mem

/-- What holds below the first boundary decides between a class and its complement. -/
theorem CharSet.scan_not (bounds : List Nat) (inside : Bool) (n : Nat) :
    scan bounds (!inside) n = !scan bounds inside n := by
  induction bounds generalizing inside with
  | nil => rfl
  | cons b bs ih =>
    rw [scan, scan, ih]
    split <;> rfl

/-- **A class is part of another one** if it is separate from the complement. -/
theorem CharSet.contains_of_separate {small large : CharSet} {fuel : Nat}
    (h : separate fuel small.bounds false large.bounds true = true) {c : Char}
    (mem : small.contains c = true) : large.contains c = true := by
  have outside : scan large.bounds (!false) c.toNat = false := scan_eq_false_of_separate h mem
  rw [scan_not] at outside
  simpa [contains] using outside

/-! ## Blanks -/

/-- The visible characters of ASCII, and those up to the next blank, are not blank. -/
theorem isBlank_of_visible {c : Char} (low : 33 ≤ c.toNat) (high : c.toNat < 0x85) :
    isBlank c = false := by
  change CharSet.scan (0x9 :: 0xE :: 0x1C :: 0x21 :: 0x85 :: _) false c.toNat = false
  -- Four boundaries lie at or below the character.
  rw [CharSet.scan, if_neg (by omega), CharSet.scan, if_neg (by omega), CharSet.scan,
    if_neg (by omega), CharSet.scan, if_neg (by omega), CharSet.scan, if_pos high]
  rfl

/-- Without the characters that are taken, those are left from the first other one on. -/
theorem drop_length_takeWhile (test : Char → Bool) (cs : List Char) :
    cs.drop (cs.takeWhile test).length = cs.dropWhile test := by
  have behind : (cs.takeWhile test ++ cs.dropWhile test).drop (cs.takeWhile test).length =
      cs.dropWhile test := List.drop_left
  rwa [List.takeWhile_append_dropWhile] at behind

/-- No blanks are taken before a character that is not blank. -/
theorem takeWhile_isBlank_cons {c : Char} (visible : isBlank c = false) (rest : List Char) :
    (c :: rest).takeWhile isBlank = [] := by
  rw [List.takeWhile_cons, visible]
  rfl

/-- A text without blanks at its ends stays as it is when it is trimmed. -/
theorem trim_eq_self {cs : List Char} (first : ∀ c ∈ cs.head?, isBlank c = false)
    (last : ∀ c ∈ cs.getLast?, isBlank c = false) : trim cs = cs := by
  have start (text : List Char) (visible : ∀ c ∈ text.head?, isBlank c = false) :
      trimStart text = text := by
    cases text with
    | nil => rfl
    | cons c rest => rw [trimStart, List.dropWhile_cons_of_neg (by simp [visible c rfl])]
  rw [← List.head?_reverse] at last
  rw [trim, start cs first, start cs.reverse last, List.reverse_reverse]

/-- No blank is a member of the words, nor of the digits. -/
theorem scan_of_mem_blankSet : ∀ n ∈ CharSet.members blankSet.bounds,
    CharSet.scan wordSet.bounds false n = false ∧ CharSet.scan digitSet.bounds false n = false := by
  decide +kernel

/-- No word character is blank. -/
theorem isBlank_of_isWord {c : Char} (word : isWord c = true) : isBlank c = false :=
  CharSet.apart (by decide) (fun n inside => (scan_of_mem_blankSet n inside).1) word

/-- No digit of any script is blank. -/
theorem isBlank_of_isDecimal {c : Char} (digit : isDecimal c = true) : isBlank c = false :=
  CharSet.apart (by decide) (fun n inside => (scan_of_mem_blankSet n inside).2) digit

/-! ## Digits -/

/-- The code points of the decimal digits of ASCII. -/
theorem toNat_of_isDigit {c : Char} (digit : c.isDigit = true) :
    48 ≤ c.toNat ∧ c.toNat ≤ 57 := by
  simp only [Char.isDigit, Bool.and_eq_true, decide_eq_true_eq] at digit
  exact digit

/-- No hexadecimal digit is blank. -/
theorem isBlank_of_isHexDigit {c : Char} (digit : Numeral.isHexDigit c = true) :
    isBlank c = false := by
  simp only [Numeral.isHexDigit, Bool.or_eq_true, Bool.and_eq_true, decide_eq_true_eq] at digit
  rcases digit with (decimal | ⟨low, high⟩) | ⟨low, high⟩
  · have code := toNat_of_isDigit decimal
    exact isBlank_of_visible (by omega) (by omega)
  · have low : 97 ≤ c.toNat := low
    have high : c.toNat ≤ 102 := high
    exact isBlank_of_visible (by omega) (by omega)
  · have low : 65 ≤ c.toNat := low
    have high : c.toNat ≤ 70 := high
    exact isBlank_of_visible (by omega) (by omega)

/-! ## Names -/

/-- The code points of the characters that names start with. -/
theorem toNat_of_isNameStart {c : Char} (start : Token.isNameStart c = true) :
    c.toNat = 36 ∨ 65 ≤ c.toNat ∧ c.toNat ≤ 122 := by
  simp only [Token.isNameStart, Bool.or_eq_true, decide_eq_true_eq] at start
  rcases start with (letter | rfl) | rfl
  · rcases (Bool.or_eq_true _ _).mp letter with upper | lower
    · have code : 65 ≤ c.toNat ∧ c.toNat ≤ 90 := of_decide_eq_true upper
      omega
    · have code := (Bool.and_eq_true _ _).mp lower
      have low : 97 ≤ c.toNat := of_decide_eq_true code.1
      have high : c.toNat ≤ 122 := of_decide_eq_true code.2
      omega
  · decide
  · decide

/-- Names do not start with a digit of any script. -/
theorem isDecimal_of_isNameStart {c : Char} (start : Token.isNameStart c = true) :
    isDecimal c = false := by
  change CharSet.scan (0x30 :: 0x3A :: 0x660 :: _) false c.toNat = false
  rcases toNat_of_isNameStart start with dollar | ⟨low, high⟩
  · rw [CharSet.scan, if_pos (by omega)]
  · rw [CharSet.scan, if_neg (by omega), CharSet.scan, if_neg (by omega), CharSet.scan,
      if_pos (by omega)]
    rfl

/-- Names do not start with a blank. -/
theorem isBlank_of_isNameStart {c : Char} (start : Token.isNameStart c = true) :
    isBlank c = false := by
  have code := toNat_of_isNameStart start
  exact isBlank_of_visible (by omega) (by omega)

/-- No character of a name is blank. -/
theorem isBlank_of_isNameRest {c : Char} (inner : Token.isNameRest c = true) :
    isBlank c = false := by
  simp only [Token.isNameRest, Bool.or_eq_true, decide_eq_true_eq] at inner
  rcases inner with word | rfl
  · exact isBlank_of_isWord word
  · decide

/-- What starts a name may stand behind its start as well. -/
theorem isNameRest_of_isNameStart {c : Char} (start : Token.isNameStart c = true) :
    Token.isNameRest c = true := by
  simp only [Token.isNameStart, Bool.or_eq_true, decide_eq_true_eq] at start
  rcases start with (letter | rfl) | rfl
  · have word : isWord c = true := by
      change CharSet.scan (0x30 :: 0x3A :: 0x41 :: 0x5B :: 0x5F :: 0x60 :: 0x61 :: 0x7B :: _) false
        c.toNat = true
      rcases (Bool.or_eq_true _ _).mp letter with upper | lower
      · have code : 65 ≤ c.toNat ∧ c.toNat ≤ 90 := of_decide_eq_true upper
        rw [CharSet.scan, if_neg (by omega), CharSet.scan, if_neg (by omega), CharSet.scan,
          if_neg (by omega), CharSet.scan, if_pos (by omega)]
        rfl
      · have code := (Bool.and_eq_true _ _).mp lower
        have low : 97 ≤ c.toNat := of_decide_eq_true code.1
        have high : c.toNat ≤ 122 := of_decide_eq_true code.2
        rw [CharSet.scan, if_neg (by omega), CharSet.scan, if_neg (by omega), CharSet.scan,
          if_neg (by omega), CharSet.scan, if_neg (by omega), CharSet.scan, if_neg (by omega),
          CharSet.scan, if_neg (by omega), CharSet.scan, if_neg (by omega), CharSet.scan,
          if_pos (by omega)]
        rfl
    simp [Token.isNameRest, word]
  · decide
  · decide

/-- The digits of all scripts may stand behind the start of a name. -/
theorem isNameRest_of_isDecimal {c : Char} (digit : isDecimal c = true) :
    Token.isNameRest c = true := by
  have part : CharSet.separate 2000 digitSet.bounds false wordSet.bounds true = true := by
    decide +kernel
  have word : isWord c = true := CharSet.contains_of_separate part digit
  simp [Token.isNameRest, word]

/-! ## Identifiers -/

/-- Whether a character may stand in an identifier, at its start or behind. -/
def inIdentifier (c : Char) : Bool :=
  identifierStartSet.contains c || identifierContinueSet.contains c

/-- All characters of an identifier may stand in one. -/
theorem inIdentifier_of_mem {cs : List Char} (identifier : isIdentifier cs = true) {c : Char}
    (inside : c ∈ cs) : inIdentifier c = true := by
  cases cs with
  | nil => cases inside
  | cons first rest =>
    obtain ⟨start, inner⟩ := (Bool.and_eq_true _ _).mp identifier
    rcases List.mem_cons.mp inside with rfl | inside
    · simp [inIdentifier, start]
    · simp [inIdentifier, List.all_eq_true.mp inner c inside]

/-- No blank stands in an identifier. -/
theorem isBlank_of_inIdentifier {c : Char} (h : inIdentifier c = true) : isBlank c = false := by
  have start : CharSet.separate 2000 identifierStartSet.bounds false blankSet.bounds false = true := by
    decide +kernel
  have inner : CharSet.separate 2000 identifierContinueSet.bounds false blankSet.bounds false = true := by
    decide +kernel
  rcases (Bool.or_eq_true _ _).mp h with mem | mem
  · exact CharSet.scan_eq_false_of_separate start mem
  · exact CharSet.scan_eq_false_of_separate inner mem

/-- No digit of any script starts an identifier. -/
theorem isDecimal_of_identifierStart {c : Char} (h : identifierStartSet.contains c = true) :
    isDecimal c = false := by
  have apart : CharSet.separate 2000 identifierStartSet.bounds false digitSet.bounds false = true := by
    decide +kernel
  exact CharSet.scan_eq_false_of_separate apart h

end LineGate
