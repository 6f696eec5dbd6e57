import LineGate.Proofs.Number.Numeral
import LineGate.Proofs.Text.Class

/-! # Signed numerals

A numeral may have a sign in front of it where numbers are given as text: in the definitions of the
command line, and where a text meets a number. What is split off as a sign is one
(`Numeral.exists_sign_of_splitSign`), a sign in front of a numeral is split off
(`Numeral.splitSign_text`), and the freedom with which numeric text is read leaves a signed numeral
with its own value (`Numeral.readDouble?_text`). -/

namespace LineGate

/-- The signs that may stand in front of a number, one of which is none. -/
def signs : List (List Char) := [[], ['+'], ['-']]

/-- Whether a sign makes a number negative. -/
def isMinus (sign : List Char) : Bool := sign == ['-']

namespace Numeral

/-! ## Splitting signs -/

/-- A sign that is split off stood in front. -/
theorem exists_sign_of_splitSign (cs : List Char) :
    ∃ sign ∈ signs, cs = sign ++ (splitSign cs).2 ∧ (splitSign cs).1 = isMinus sign := by
  unfold splitSign
  split
  · exact ⟨['-'], by simp [signs], rfl, rfl⟩
  · exact ⟨['+'], by simp [signs], rfl, rfl⟩
  · exact ⟨[], by simp [signs], rfl, rfl⟩

variable {sign : List Char} {d : Decimal}

/-- **A sign in front of a numeral is split off**: the numeral itself does not start with one. -/
theorem splitSign_text (isSign : sign ∈ signs) (wf : d.WellFormed) :
    splitSign (sign ++ d.text) = (isMinus sign, d.text) := by
  simp only [signs, List.mem_cons, List.not_mem_nil, or_false] at isSign
  obtain rfl | rfl | rfl := isSign
  · obtain ⟨c, rest, chars, head⟩ := wf.exists_head
    rw [List.nil_append, chars]
    unfold splitSign
    split
    · rename_i starts
      rw [(List.cons.inj starts).1] at head
      exact absurd head (by decide)
    · rename_i starts
      rw [(List.cons.inj starts).1] at head
      exact absurd head (by decide)
    · rfl
  · rfl
  · rfl

/-! ## Numeric text -/

/-- A text without underscores loses none. -/
theorem dropUnderscores_of_not_mem {before : Option Char} {cs : List Char}
    (first : before ≠ some '_') (others : '_' ∉ cs) : dropUnderscores before cs = some cs := by
  induction cs generalizing before with
  | nil => rw [dropUnderscores, if_neg first]
  | cons c cs ih =>
    obtain ⟨other, rest⟩ := not_or.mp (mt List.mem_cons.mpr others)
    have next : dropUnderscores (some c) cs = some cs := by
      refine ih ?_ rest
      rintro ⟨⟩
      exact other rfl
    simp [dropUnderscores, Ne.symm other, first, next]

/-- No underscore stands in a signed numeral. -/
theorem underscore_not_mem (isSign : sign ∈ signs) (wf : d.WellFormed) :
    '_' ∉ sign ++ d.text := by
  have noSign : ∀ sign ∈ signs, '_' ∉ sign := by decide
  intro inside
  rcases List.mem_append.mp inside with inside | inside
  · exact noSign sign isSign inside
  · exact absurd (wf.of_mem_text inside) (by decide)

/-- A numeral is no word, whether in capitals or not: it does not start with a letter. -/
theorem lowercase_text_ne (wf : d.WellFormed) {c : Char} (letter : Token.isNameStart c = true)
    (rest : List Char) : d.text.map Char.toLower ≠ c :: rest := by
  intro eq
  obtain ⟨first, more, chars, head⟩ := wf.exists_head
  rw [chars, List.map_cons] at eq
  have same : first.toLower = first := by
    rcases head with digit | rfl
    · refine dif_neg fun upper => ?_
      have capital : first.isUpper = true := decide_eq_true upper
      have letter : first.isAlpha = true := (Bool.or_eq_true _ _).mpr (.inl capital)
      have start : Token.isNameStart first = true := by
        rw [Token.isNameStart, letter, Bool.true_or, Bool.true_or]
      rw [isDecimal_of_isNameStart start] at digit
      cases digit
    · rfl
  rw [same] at eq
  rw [(List.cons.inj eq).1] at head
  rcases head with digit | rfl
  · rw [isDecimal_of_isNameStart letter] at digit
    cases digit
  · cases letter

/-- **Numeric text that is a signed numeral** has the value of the numeral, with that sign. -/
theorem readDouble?_text (isSign : sign ∈ signs) (wf : d.WellFormed) :
    readDouble? (sign ++ d.text) = some (d.toDouble (isMinus sign)) := by
  have kept : dropUnderscores none (sign ++ d.text) = some (sign ++ d.text) :=
    dropUnderscores_of_not_mem nofun (underscore_not_mem isSign wf)
  have noWord : ¬(String.ofList (d.text.map Char.toLower) = "inf" ∨
      String.ofList (d.text.map Char.toLower) = "infinity") := by
    rw [← String.toList_inj, ← String.toList_inj, String.toList_ofList]
    exact not_or.mpr ⟨lowercase_text_ne wf rfl _, lowercase_text_ne wf rfl _⟩
  simp only [readDouble?, kept, Option.bind_eq_bind, Option.bind_some, splitSign_text isSign wf,
    if_neg noWord, wf.parse?_text, Option.map_some]

/-! ## Negative numbers -/

/-- Ratios that differ in their sign alone have doubles that do. -/
theorem neg_ofRatio (num den : Nat) :
    (Double.ofRatio false num den).neg = Double.ofRatio true num den := by
  unfold Double.ofRatio
  split <;> rfl

/-- Decimals that differ in their sign alone have doubles that do. -/
theorem neg_ofDecimal (digits : Nat) (exponent : Int) :
    (Double.ofDecimal false digits exponent).neg = Double.ofDecimal true digits exponent := by
  unfold Double.ofDecimal
  split
  · rfl
  · split
    · rfl
    · split
      · rfl
      · exact neg_ofRatio _ _

/-- **Changing the sign of a numeral's double** is putting a minus sign in front of the numeral. -/
theorem Decimal.neg_toDouble (d : Decimal) : (d.toDouble false).neg = d.toDouble true :=
  neg_ofDecimal _ _

end Numeral

end LineGate
