import LineGate.Number.Numeral

/-! # Decimal numerals and their text

A decimal numeral is **well formed** when its parts are runs of digits and there is at least one
digit beside the point. What `Decimal.read` takes off the front of a text is the text of a
well-formed numeral (`Decimal.read_eq_some`), and the text of a well-formed numeral is read back
whole (`Decimal.parse?_text`). -/

namespace LineGate

namespace Numeral

/-! ## Runs of digits -/

/-- The front part of a text that a test admits satisfies the test throughout. -/
theorem of_mem_takeWhile {p : Char → Bool} {c : Char} {cs : List Char}
    (inside : c ∈ cs.takeWhile p) : p c = true :=
  List.all_eq_true.mp (List.all_takeWhile (l := cs)) c inside

/-- A text does **not start with a digit**: it is empty or starts with another character. -/
def NoDigit (cs : List Char) : Prop := cs.takeWhile isDecimal = []

/-- The empty text does not start with a digit. -/
theorem noDigit_nil : NoDigit [] := rfl

/-- A character that is no digit ends a run of digits. -/
theorem noDigit_cons {c : Char} (cs : List Char) (other : isDecimal c = false) :
    NoDigit (c :: cs) := by
  rw [NoDigit, List.takeWhile_cons, other]
  rfl

/-- A text that does not start with a digit loses nothing with its leading digits. -/
theorem NoDigit.dropWhile_eq {cs : List Char} (h : NoDigit cs) : cs.dropWhile isDecimal = cs := by
  have whole := List.takeWhile_append_dropWhile (p := isDecimal) (l := cs)
  rw [NoDigit] at h
  rwa [h, List.nil_append] at whole

/-- A run of digits in front of a text that starts with none is what is taken. -/
theorem NoDigit.takeWhile_append {digits cs : List Char} (h : NoDigit cs)
    (all : ∀ c ∈ digits, isDecimal c = true) : (digits ++ cs).takeWhile isDecimal = digits := by
  rw [List.takeWhile_append_of_pos all, h, List.append_nil]

/-- A run of digits in front of a text that starts with none is what is dropped. -/
theorem NoDigit.dropWhile_append {digits cs : List Char} (h : NoDigit cs)
    (all : ∀ c ∈ digits, isDecimal c = true) : (digits ++ cs).dropWhile isDecimal = cs := by
  rw [List.dropWhile_append_of_pos all, h.dropWhile_eq]

/-! ## Digits of integers -/

/-- The decimal digits of an integer are digits. -/
theorem isDecimal_of_mem_toDigits {n : Nat} {c : Char} (inside : c ∈ Nat.toDigits 10 n) :
    isDecimal c = true :=
  isDecimal_of_isDigit c (Nat.isDigit_of_mem_toDigits (by decide) (by decide) inside)

/-- The value of ASCII digits is that of the standard library. -/
theorem natural_eq_ofDigitChars {digits : List Char} (all : ∀ c ∈ digits, c.isDigit = true) :
    natural digits = Nat.ofDigitChars 10 digits 0 := by
  have fold : ∀ n, digits.foldl (fun n c => 10 * n + digitValue c) n =
      Nat.ofDigitChars 10 digits n := by
    induction digits with
    | nil => exact fun _ => rfl
    | cons c digits ih =>
      intro n
      have value : digitValue c = c.toNat - '0'.toNat := if_pos (all c List.mem_cons_self)
      rw [List.foldl_cons, value, ih fun d inside => all d (List.mem_cons_of_mem c inside)]
      rfl
  exact fold 0

/-- **The decimal digits of an integer** have it as their value. -/
theorem natural_toDigits (n : Nat) : natural (Nat.toDigits 10 n) = n := by
  have all : ∀ c ∈ Nat.toDigits 10 n, c.isDigit = true := fun c =>
    Nat.isDigit_of_mem_toDigits (by decide) (by decide)
  rw [natural_eq_ofDigitChars all, Nat.ofDigitChars_toDigits (by decide) (by decide)]

/-! ## Exponents -/

/-- **Well-formed exponents**: a letter, perhaps a sign, and at least one digit. -/
structure Exponent.WellFormed (e : Exponent) : Prop where
  /-- The letter is one of two. -/
  letter : e.letter = 'e' ∨ e.letter = 'E'
  /-- The sign, if there is one, is one of two. -/
  sign : ∀ s, e.sign = some s → s = '+' ∨ s = '-'
  /-- There is a digit. -/
  nonempty : e.digits ≠ []
  /-- The digits are digits. -/
  digits : ∀ c ∈ e.digits, isDecimal c = true

/-- Behind the letter and the sign an exponent takes all the digits. -/
theorem Exponent.of_digits {letter : Char} {sign : Option Char} {body rest : List Char}
    {e : Exponent} (isLetter : letter = 'e' ∨ letter = 'E')
    (isSign : ∀ s, sign = some s → s = '+' ∨ s = '-')
    (found : (if (body.takeWhile isDecimal).isEmpty then none
      else some (⟨letter, sign, body.takeWhile isDecimal⟩, body.dropWhile isDecimal))
        = some (e, rest)) :
    e.WellFormed ∧ letter :: (sign.toList ++ body) = e.text ++ rest := by
  split at found
  case isTrue => cases found
  case isFalse some_digit =>
    cases found
    have nonempty : body.takeWhile isDecimal ≠ [] := by simpa using some_digit
    exact ⟨⟨isLetter, isSign, nonempty, fun c inside => of_mem_takeWhile inside⟩,
      by simp [Exponent.text]⟩

/-- What is read as an exponent is the text of a well-formed one. -/
theorem Exponent.read_eq_some {cs rest : List Char} {e : Exponent}
    (found : Exponent.read cs = some (e, rest)) : e.WellFormed ∧ cs = e.text ++ rest := by
  cases cs with
  | nil => cases found
  | cons c tail =>
    by_cases letter : c = 'e' ∨ c = 'E'
    case neg => simp [Exponent.read, letter] at found
    simp only [Exponent.read, if_pos letter] at found
    cases tail with
    | nil => simp at found
    | cons s more =>
      by_cases isSign : s = '+' ∨ s = '-'
      · simp only [if_pos isSign] at found
        exact Exponent.of_digits letter (by rintro _ ⟨⟩; exact isSign) found
      · simp only [if_neg isSign] at found
        exact Exponent.of_digits letter (by simp) found

/-- A well-formed exponent is read from its text, together with the digits that follow it. -/
theorem Exponent.read_text_append {e : Exponent} (wf : e.WellFormed) (rest : List Char) :
    Exponent.read (e.text ++ rest) =
      some (⟨e.letter, e.sign, e.digits ++ rest.takeWhile isDecimal⟩, rest.dropWhile isDecimal) := by
  obtain ⟨letter, sign, digits⟩ := e
  have taken : (digits ++ rest).takeWhile isDecimal = digits ++ rest.takeWhile isDecimal :=
    List.takeWhile_append_of_pos wf.digits
  have dropped : (digits ++ rest).dropWhile isDecimal = rest.dropWhile isDecimal :=
    List.dropWhile_append_of_pos wf.digits
  have some_digit : digits ≠ [] := wf.nonempty
  have isLetter : letter = 'e' ∨ letter = 'E' := wf.letter
  cases sign with
  | some s =>
    have isSign := wf.sign s rfl
    simp [Exponent.read, Exponent.text, isLetter, isSign, taken, dropped, some_digit]
  | none =>
    -- Without a sign the first digit stands where a sign could, and it is none.
    obtain ⟨d, more, rfl⟩ := List.exists_cons_of_ne_nil some_digit
    have digit : isDecimal d = true := wf.digits d (by simp)
    have notSign : ¬(d = '+' ∨ d = '-') := by
      rintro (rfl | rfl)
      · exact absurd digit (by decide)
      · exact absurd digit (by decide)
    rw [List.cons_append] at taken dropped
    simp [Exponent.read, Exponent.text, isLetter, notSign, taken, dropped]

/-- A well-formed exponent is read back from its text. -/
theorem Exponent.read_text {e : Exponent} (wf : e.WellFormed) :
    Exponent.read e.text = some (e, []) := by
  have back := Exponent.read_text_append wf []
  simpa using back

/-- The text of a well-formed exponent does not start with a digit, whatever follows it. -/
theorem Exponent.WellFormed.noDigit_text_append {e : Exponent} (wf : e.WellFormed)
    (rest : List Char) : NoDigit (e.text ++ rest) := by
  refine noDigit_cons _ ?_
  rcases wf.letter with h | h <;> rw [h] <;> decide

/-- The text of a well-formed exponent does not start with a digit. -/
theorem Exponent.WellFormed.noDigit_text {e : Exponent} (wf : e.WellFormed) : NoDigit e.text := by
  simpa using wf.noDigit_text_append []

/-! ## Decimal numerals -/

namespace Decimal

/-- **Well-formed decimal numerals**: runs of digits, with a digit on at least one side of the
point, and a well-formed exponent. -/
structure WellFormed (d : Decimal) : Prop where
  /-- The digits before the point are digits. -/
  whole : ∀ c ∈ d.whole, isDecimal c = true
  /-- The digits behind the point are digits. -/
  fraction : ∀ f, d.fraction = some f → ∀ c ∈ f, isDecimal c = true
  /-- There is a digit before the exponent. -/
  nonempty : d.digits ≠ []
  /-- The exponent is well formed. -/
  exponent : ∀ e, d.exponent = some e → e.WellFormed

/-- The exponent part of a numeral's text. -/
def exponentText (d : Decimal) : List Char :=
  match d.exponent with
  | some e => e.text
  | none => []

/-- The text of a numeral with a point. -/
theorem text_of_point {d : Decimal} {f : List Char} (point : d.fraction = some f) :
    d.text = d.whole ++ '.' :: (f ++ d.exponentText) := by
  obtain ⟨whole, fraction, exponent⟩ := d
  cases point
  cases exponent <;> simp [Decimal.text, exponentText]

/-- The text of a numeral without a point. -/
theorem text_of_no_point {d : Decimal} (noPoint : d.fraction = none) :
    d.text = d.whole ++ d.exponentText := by
  obtain ⟨whole, fraction, exponent⟩ := d
  cases noPoint
  cases exponent <;> simp [Decimal.text, exponentText]

/-- What stands before the exponent is kept when the exponent is read, and nothing is lost. -/
theorem withExponent_eq {whole cs rest : List Char} {fraction : Option (List Char)} {d : Decimal}
    (found : withExponent whole fraction cs = (d, rest)) :
    d.whole = whole ∧ d.fraction = fraction ∧ cs = d.exponentText ++ rest ∧
      ∀ e, d.exponent = some e → e.WellFormed := by
  unfold withExponent at found
  split at found
  case h_1 e rest' isExponent =>
    cases found
    obtain ⟨wf, rfl⟩ := Exponent.read_eq_some isExponent
    exact ⟨rfl, rfl, rfl, by rintro _ ⟨⟩; exact wf⟩
  case h_2 =>
    cases found
    exact ⟨rfl, rfl, rfl, by simp⟩

/-- **What is read is well formed**: reading takes the text of a well-formed numeral off the
front. -/
theorem read_eq_some {cs rest : List Char} {d : Decimal} (found : read cs = some (d, rest)) :
    d.WellFormed ∧ cs = d.text ++ rest := by
  have parts := List.takeWhile_append_dropWhile (p := isDecimal) (l := cs)
  have digits : ∀ c ∈ cs.takeWhile isDecimal, isDecimal c = true := fun c => of_mem_takeWhile
  simp only [read] at found
  split at found
  case h_1 behind point =>
    -- A point: the digits behind it are the fraction, and one of the two runs is not empty.
    split at found
    case isTrue => cases found
    case isFalse some_digit =>
      obtain ⟨whole, fraction, tail, exponent⟩ := withExponent_eq (Option.some.inj found)
      refine ⟨⟨whole ▸ digits, ?_, ?_, exponent⟩, ?_⟩
      · intro f isFraction
        rw [fraction] at isFraction
        cases isFraction
        exact fun c inside => of_mem_takeWhile inside
      · rw [Decimal.digits, whole, fraction]
        simpa [List.isEmpty_iff] using some_digit
      · rw [point] at parts
        have split_behind := List.takeWhile_append_dropWhile (p := isDecimal) (l := behind)
        rw [tail] at split_behind
        calc cs = cs.takeWhile isDecimal ++ '.' :: behind := parts.symm
          _ = d.whole ++ '.' :: (behind.takeWhile isDecimal ++ (d.exponentText ++ rest)) := by
            rw [whole, split_behind]
          _ = d.text ++ rest := by rw [text_of_point fraction]; simp
  case h_2 noPoint =>
    split at found
    case isTrue => cases found
    case isFalse some_digit =>
      obtain ⟨whole, fraction, tail, exponent⟩ := withExponent_eq (Option.some.inj found)
      refine ⟨⟨whole ▸ digits, by simp [fraction], ?_, exponent⟩, ?_⟩
      · rw [Decimal.digits, whole, fraction]
        simpa using some_digit
      · rw [tail] at parts
        rw [text_of_no_point fraction, whole, List.append_assoc, parts]

/-- The exponent part of a well-formed numeral does not start with a digit. -/
theorem WellFormed.noDigit_exponentText {d : Decimal} (wf : d.WellFormed) :
    NoDigit d.exponentText := by
  unfold exponentText
  split
  · exact (wf.exponent _ ‹_›).noDigit_text
  · exact noDigit_nil

/-- The exponent part of a well-formed numeral is read back. -/
theorem WellFormed.withExponent_exponentText {d : Decimal} (wf : d.WellFormed) :
    withExponent d.whole d.fraction d.exponentText = (d, []) := by
  obtain ⟨whole, fraction, exponent⟩ := d
  cases exponent with
  | none => rfl
  | some e =>
    have back : Exponent.read e.text = some (e, []) := Exponent.read_text (wf.exponent e rfl)
    simp only [withExponent, exponentText, back]

/-- **A well-formed numeral is read back** from its text. -/
theorem WellFormed.parse?_text {d : Decimal} (wf : d.WellFormed) : parse? d.text = some d := by
  have back := wf.withExponent_exponentText
  have noDigit := wf.noDigit_exponentText
  have nonempty := wf.nonempty
  suffices read d.text = some (d, []) by rw [parse?, this]
  cases fraction : d.fraction with
  | some f =>
    have atPoint : NoDigit ('.' :: (f ++ d.exponentText)) := noDigit_cons _ (by decide)
    have digits := wf.fraction f fraction
    rw [Decimal.digits, fraction] at nonempty
    rw [fraction] at back
    have some_digit : (d.whole.isEmpty && f.isEmpty) = false := by
      cases h : d.whole <;> simp_all
    simp only [read, text_of_point fraction, atPoint.takeWhile_append wf.whole,
      atPoint.dropWhile_append wf.whole, noDigit.takeWhile_append digits,
      noDigit.dropWhile_append digits, some_digit, back, Bool.false_eq_true, if_false]
  | none =>
    rw [Decimal.digits, fraction] at nonempty
    rw [fraction] at back
    have some_digit : d.whole.isEmpty = false := by simpa using nonempty
    -- An exponent starts with its letter, so `read` does not see a point behind the digits.
    have noPoint : ∀ rest, d.exponentText ≠ '.' :: rest := by
      intro rest isPoint
      unfold exponentText at isPoint
      split at isPoint
      · rename_i e isExponent
        have letter := (wf.exponent e isExponent).letter
        rw [(List.cons.inj isPoint).1] at letter
        exact absurd letter (by decide)
      · cases isPoint
    simp only [read, text_of_no_point fraction, noDigit.takeWhile_append wf.whole,
      noDigit.dropWhile_append wf.whole, some_digit, back, Bool.false_eq_true, if_false]

/-- **The texts that are numerals** and nothing else are those of well-formed ones. -/
theorem parse?_eq_some_iff {cs : List Char} {d : Decimal} :
    parse? cs = some d ↔ d.WellFormed ∧ cs = d.text := by
  constructor
  · intro found
    unfold parse? at found
    split at found
    · rename_i d' read
      cases found
      simpa using read_eq_some read
    · cases found
  · rintro ⟨wf, rfl⟩
    exact wf.parse?_text

/-- The characters of a well-formed numeral: digits, points, signs and the letters of exponents. -/
theorem WellFormed.of_mem_text {d : Decimal} (wf : d.WellFormed) {c : Char} (inside : c ∈ d.text) :
    isDecimal c = true ∨ c ∈ ['.', 'e', 'E', '+', '-'] := by
  have ofExponent : c ∈ d.exponentText → isDecimal c = true ∨ c ∈ ['.', 'e', 'E', '+', '-'] := by
    intro inside
    unfold exponentText at inside
    split at inside
    · rename_i e isExponent
      have exponent := wf.exponent e isExponent
      simp only [Exponent.text, List.mem_cons, List.mem_append, Option.mem_toList] at inside
      rcases inside with rfl | isSign | digit
      · rcases exponent.letter with h | h <;> simp [h]
      · rcases exponent.sign c isSign with rfl | rfl <;> simp
      · exact .inl (exponent.digits c digit)
    · cases inside
  cases fraction : d.fraction with
  | some f =>
    rw [text_of_point fraction, List.mem_append, List.mem_cons, List.mem_append] at inside
    rcases inside with digit | rfl | digit | exponent
    · exact .inl (wf.whole c digit)
    · simp
    · exact .inl (wf.fraction f fraction c digit)
    · exact ofExponent exponent
  | none =>
    rw [text_of_no_point fraction, List.mem_append] at inside
    rcases inside with digit | exponent
    · exact .inl (wf.whole c digit)
    · exact ofExponent exponent

/-- A numeral starts with a digit or with its point. -/
theorem WellFormed.exists_head {d : Decimal} (wf : d.WellFormed) :
    ∃ c rest, d.text = c :: rest ∧ (isDecimal c = true ∨ c = '.') := by
  cases whole : d.whole with
  | cons c digits =>
    refine ⟨c, _, by rw [Decimal.text, whole]; rfl, .inl (wf.whole c ?_)⟩
    simp [whole]
  | nil =>
    -- Without digits before it the point comes first.
    cases fraction : d.fraction with
    | none =>
      have nonempty := wf.nonempty
      simp [Decimal.digits, whole, fraction] at nonempty
    | some f =>
      have text : d.text = '.' :: (f ++ d.exponentText) := by
        rw [text_of_point fraction, whole, List.nil_append]
      exact ⟨'.', _, text, .inr rfl⟩

/-! ### Longest numerals -/

/-- Reading an exponent takes nothing but the front of the text. -/
theorem length_withExponent_le (whole : List Char) (fraction : Option (List Char))
    (cs : List Char) : (withExponent whole fraction cs).2.length ≤ cs.length := by
  cases found : withExponent whole fraction cs with
  | mk d rest =>
    obtain ⟨-, -, rfl, -⟩ := withExponent_eq found
    rw [List.length_append]
    exact Nat.le_add_left ..

/-- Behind the digits of a numeral its exponent is taken, if it has one. -/
theorem WellFormed.length_withExponent_append_le {d : Decimal} (wf : d.WellFormed)
    (whole : List Char) (fraction : Option (List Char)) (rest : List Char) :
    (withExponent whole fraction ((d.exponentText ++ rest).dropWhile isDecimal)).2.length ≤
      rest.length := by
  have shorter : (rest.dropWhile isDecimal).length ≤ rest.length :=
    (List.dropWhile_suffix isDecimal).length_le
  unfold exponentText
  split
  · rename_i e isExponent
    have exponent := wf.exponent e isExponent
    rw [(exponent.noDigit_text_append rest).dropWhile_eq, withExponent,
      Exponent.read_text_append exponent]
    exact shorter
  · exact Nat.le_trans (length_withExponent_le _ _ _) shorter

/-- **Reading takes the longest numeral**: in front of whatever text, a well-formed numeral is read
to its end at least. -/
theorem WellFormed.exists_read_append {d : Decimal} (wf : d.WellFormed) (rest : List Char) :
    ∃ d' rest', read (d.text ++ rest) = some (d', rest') ∧ rest'.length ≤ rest.length := by
  have behind := fun whole fraction => wf.length_withExponent_append_le whole fraction rest
  have nonempty := wf.nonempty
  cases fraction : d.fraction with
  | some f =>
    rw [Decimal.digits, fraction] at nonempty
    have atPoint : NoDigit ('.' :: (f ++ (d.exponentText ++ rest))) := noDigit_cons _ (by decide)
    have text : d.text ++ rest = d.whole ++ '.' :: (f ++ (d.exponentText ++ rest)) := by
      simp [text_of_point fraction]
    have digits := wf.fraction f fraction
    have some_digit : (d.whole.isEmpty &&
        (f ++ (d.exponentText ++ rest).takeWhile isDecimal).isEmpty) = false := by
      cases whole : d.whole with
      | cons c digits => rfl
      | nil =>
        cases f with
        | cons c digits => rfl
        | nil => exact absurd (by simp [whole]) nonempty
    have found : read (d.text ++ rest) = some (withExponent d.whole
        (some (f ++ (d.exponentText ++ rest).takeWhile isDecimal))
        ((d.exponentText ++ rest).dropWhile isDecimal)) := by
      simp only [read, text, atPoint.takeWhile_append wf.whole, atPoint.dropWhile_append wf.whole,
        List.takeWhile_append_of_pos digits, List.dropWhile_append_of_pos digits, some_digit,
        Bool.false_eq_true, if_false]
    exact ⟨_, _, found, behind _ _⟩
  | none =>
    rw [Decimal.digits, fraction] at nonempty
    have text : d.text ++ rest = d.whole ++ (d.exponentText ++ rest) := by
      simp [text_of_no_point fraction]
    have some_digit : (d.whole ++ (d.exponentText ++ rest).takeWhile isDecimal).isEmpty = false := by
      simpa using fun noWhole => absurd noWhole (by simpa using nonempty)
    simp only [read, text, List.takeWhile_append_of_pos wf.whole,
      List.dropWhile_append_of_pos wf.whole, some_digit]
    split
    case h_2 => exact ⟨_, _, rfl, behind _ none⟩
    case h_1 more point =>
      -- A point can only follow if there is no exponent, whose letter would stand there.
      have noExponent : d.exponentText = [] := by
        unfold exponentText
        split
        · rename_i e isExponent
          have exponent := wf.exponent e isExponent
          rw [exponentText, isExponent, (exponent.noDigit_text_append rest).dropWhile_eq] at point
          have letter := exponent.letter
          rw [(List.cons.inj point).1] at letter
          exact absurd letter (by decide)
        · rfl
      have length := congrArg List.length point
      rw [noExponent, List.nil_append, List.length_cons] at length
      refine ⟨_, _, rfl, Nat.le_trans (length_withExponent_le _ _ _) ?_⟩
      have inside := (List.dropWhile_suffix isDecimal (l := more)).length_le
      have outside := (List.dropWhile_suffix isDecimal (l := rest)).length_le
      omega

/-- The numeral that is written with some digits alone. -/
def plain (digits : List Char) : Decimal := ⟨digits, none, none⟩

/-- Its text are the digits. -/
@[simp] theorem text_plain (digits : List Char) : (plain digits).text = digits := by
  simp [plain, Decimal.text]

/-- It is well formed, if there are digits. -/
theorem wellFormed_plain {digits : List Char} (all : ∀ c ∈ digits, isDecimal c = true)
    (nonempty : digits ≠ []) : (plain digits).WellFormed := by
  refine ⟨all, nofun, ?_, nofun⟩
  simpa [plain, Decimal.digits] using nonempty

/-- The decimal digits of an integer make a well-formed numeral. -/
theorem wellFormed_toDigits (n : Nat) : (plain (Nat.toDigits 10 n)).WellFormed :=
  wellFormed_plain (fun _ => isDecimal_of_mem_toDigits) Nat.toDigits_ne_nil

/-- A numeral that denotes an integer is written with its digits alone. -/
theorem text_of_isInteger {d : Decimal} (integer : d.isInteger = true) : d.text = d.whole := by
  obtain ⟨whole, fraction, exponent⟩ := d
  simp only [isInteger, Bool.and_eq_true, Option.isNone_iff_eq_none] at integer
  obtain ⟨rfl, rfl⟩ := integer
  simp [Decimal.text]

/-- **The numerals that denote integers** are those that are written with digits alone. -/
theorem WellFormed.isInteger_iff {d : Decimal} (wf : d.WellFormed) :
    d.isInteger = true ↔ ∀ c ∈ d.text, isDecimal c = true := by
  constructor
  · intro integer
    rw [text_of_isInteger integer]
    exact wf.whole
  · intro digits
    -- A point or the letter of an exponent would be in the text.
    have noPoint : d.fraction = none := by
      refine Option.eq_none_iff_forall_ne_some.mpr fun f point => ?_
      have digit := digits '.' (by simp [text_of_point point])
      exact absurd digit (by decide)
    have noExponent : d.exponent = none := by
      refine Option.eq_none_iff_forall_ne_some.mpr fun e isExponent => ?_
      have digit := digits e.letter (by simp [Decimal.text, isExponent, Exponent.text])
      rcases (wf.exponent e isExponent).letter with letter | letter <;>
        exact absurd (letter ▸ digit) (by decide)
    rw [isInteger, noPoint, noExponent]
    rfl

end Decimal

end Numeral

end LineGate
