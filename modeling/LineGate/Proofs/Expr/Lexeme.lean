import LineGate.Expr.Parser
import LineGate.Proofs.Expr.LexicalGrammar

/-! # The lexemes behind tokens

Every token of a source text is a lexeme at some place of it, so its text is of the lexical grammar
and has the kind that its form gives. Operators and keywords come from their lists, and a number is a
numeral that has a value unless it is an integer with too many digits. Tokens with these properties
are **proper** (`Token.Proper`), and tokenizing gives proper tokens only
(`Token.proper_of_tokenize`). -/

namespace LineGate

open Lexical (Form Matches)

namespace Token

variable {t : Token}

/-! ## Tokens are lexemes -/

/-- A token **is a lexeme**: its kind and its text are those at the front of some text. -/
def IsLexeme (t : Token) : Prop :=
  ∃ cs width, lexeme? cs = some (some t.kind, width) ∧ t.text = String.ofList (cs.take width)

/-- Every token of a text is a lexeme. -/
theorem isLexeme_of_scan {pos : Nat} {cs : List Char} {ts : List Token}
    (scanned : scan pos cs = .ok ts) {t : Token} (inside : t ∈ ts) : t.IsLexeme := by
  fun_induction scan pos cs generalizing ts with
  | case1 =>
    cases scanned
    cases inside
  | case2 => cases scanned
  | case3 => cases scanned
  | case4 pos c rest width tokens scannedRest kind isLexeme ih =>
    -- A lexeme with a kind is the first token; the others come from the rest.
    cases scanned
    rcases List.mem_cons.mp inside with rfl | inside
    · exact ⟨c :: rest, width, isLexeme, rfl⟩
    · exact ih scannedRest inside
  | case5 pos c rest width tokens scannedRest isBlank ih =>
    cases scanned
    exact ih scannedRest inside

/-- The text of a lexeme is of the lexical grammar, and its form gives its kind. -/
theorem IsLexeme.exists_form (isLexeme : t.IsLexeme) :
    ∃ form, Matches form t.text.toList ∧ Form.Gives form t.text t.kind := by
  obtain ⟨cs, width, found, text⟩ := isLexeme
  obtain ⟨form, longest, gives⟩ := Lexical.lexeme?_eq_some_iff.mp found
  refine ⟨form, ?_, text ▸ gives⟩
  rw [text, String.toList_ofList]
  exact longest.found

/-! ## Numbers -/

/-- A **plain integer**: a number token that is written with decimal digits alone. -/
def IsPlainInteger (t : Token) : Prop :=
  t.kind = .number ∧ ∀ c ∈ t.text.toList, isDecimal c = true

/-- **The value of a decimal numeral** as a token. -/
theorem numberValue_of_text {d : Numeral.Decimal} (wf : d.WellFormed)
    (text : t.text.toList = d.text) :
    Parser.numberValue t = (Parser.decimalValue d).mapError .digits := by
  rw [Parser.numberValue, text, Lexical.hexWidth?_text wf, wf.parse?_text]

/-- The value of a token that is written with decimal digits alone is that of its digits. -/
theorem numberValue_of_digits (digits : ∀ c ∈ t.text.toList, isDecimal c = true)
    (nonempty : t.text.toList ≠ []) :
    Parser.numberValue t =
      (Parser.decimalValue (.plain t.text.toList)).mapError .digits :=
  numberValue_of_text (Numeral.Decimal.wellFormed_plain digits nonempty)
    (Numeral.Decimal.text_plain _).symm

/-- A plain integer beyond the digit limit has no value. -/
theorem IsPlainInteger.numberValue_eq_error (plain : t.IsPlainInteger)
    (long : integerDigitLimit < t.text.length) :
    Parser.numberValue t = .error (.digits ⟨t.text.length⟩) := by
  have nonempty : t.text.toList ≠ [] := by
    intro empty
    rw [← String.length_toList, empty] at long
    exact absurd long (Nat.not_lt_zero _)
  have integer : (Numeral.Decimal.plain t.text.toList).integer = .error ⟨t.text.length⟩ := by
    rw [Numeral.Decimal.integer, Numeral.Decimal.plain, String.length_toList, if_pos long]
  rw [numberValue_of_digits plain.2 nonempty, Parser.decimalValue, integer]
  rfl

/-- A number lexeme has a value, unless it is a plain integer beyond the digit limit. -/
theorem numberValue_of_isLexeme (isLexeme : t.IsLexeme) (kind : t.kind = .number)
    (short : t.IsPlainInteger → t.text.length ≤ integerDigitLimit) :
    ∃ v, Parser.numberValue t = .ok v := by
  obtain ⟨form, found, gives⟩ := isLexeme.exists_form
  rw [kind] at gives
  cases gives
  unfold Parser.numberValue
  cases hex : hexWidth? t.text.toList with
  | some w => exact ⟨_, rfl⟩
  | none =>
    generalize chars : t.text.toList = cs at found hex
    cases found with
    | hex letter nonempty digits =>
      have isHex := Lexical.hexWidth?_append letter nonempty digits []
      rw [List.append_nil, hex] at isHex
      cases isHex
    | @decimal d wf =>
      -- A decimal numeral is read back from the token; only a long integer has no value.
      rw [wf.parse?_text]
      simp only [Parser.decimalValue]
      cases integer : d.isInteger with
      | false => exact ⟨_, rfl⟩
      | true =>
        rw [Numeral.Decimal.text_of_isInteger integer] at chars
        have bound : d.whole.length ≤ integerDigitLimit := by
          rw [← chars, String.length_toList]
          exact short ⟨kind, chars ▸ wf.whole⟩
        have value : d.integer = .ok (Numeral.natural d.whole) := by
          rw [Numeral.Decimal.integer, if_neg (Nat.not_lt.mpr bound)]
        rw [value]
        exact ⟨_, rfl⟩

/-- **Numbers have values**, apart from the plain integers beyond the digit limit. -/
theorem IsLexeme.numberValue_ok_iff (isLexeme : t.IsLexeme) (kind : t.kind = .number) :
    (∃ v, Parser.numberValue t = .ok v) ↔
      ¬(t.IsPlainInteger ∧ integerDigitLimit < t.text.length) := by
  constructor
  · rintro ⟨v, value⟩ ⟨plain, long⟩
    rw [plain.numberValue_eq_error long] at value
    cases value
  · intro short
    exact numberValue_of_isLexeme isLexeme kind fun plain => Nat.not_lt.mp fun long =>
      short ⟨plain, long⟩

/-! ## Proper tokens -/

/-- **Proper tokens**: operators and keywords are of their lists, and numbers have a value. -/
structure Proper (t : Token) : Prop where
  /-- An operator is one of the list. -/
  op : t.kind = .op → t.text ∈ operators
  /-- A keyword is one of the list. -/
  keyword : t.kind = .keyword → t.text ∈ keywords
  /-- A number has a value. -/
  number : t.kind = .number → ∃ v, Parser.numberValue t = .ok v

/-- A lexeme that is no integer beyond the digit limit is a proper token. -/
theorem IsLexeme.proper (isLexeme : t.IsLexeme)
    (short : t.IsPlainInteger → t.text.length ≤ integerDigitLimit) : t.Proper := by
  obtain ⟨form, found, gives⟩ := isLexeme.exists_form
  refine ⟨?_, ?_, fun kind => numberValue_of_isLexeme isLexeme kind short⟩
  · intro kind
    rw [kind] at gives
    cases gives
    generalize chars : t.text.toList = cs at found
    cases found with
    | op isOp => exact String.toList_inj.mp chars ▸ isOp
  · intro kind
    rw [kind] at gives
    cases gives with
    | keyword isKeyword => exact isKeyword

/-- **Tokenizing gives proper tokens**, when no plain integer exceeds the digit limit. -/
theorem proper_of_tokenize {source : String} {ts : List Token}
    (scanned : tokenize source = .ok ts)
    (short : ∀ t ∈ ts, t.IsPlainInteger → t.text.length ≤ integerDigitLimit) :
    ∀ t ∈ ts, t.Proper :=
  fun t inside => (isLexeme_of_scan scanned inside).proper (short t inside)

end Token

end LineGate
