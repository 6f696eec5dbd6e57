import LineGate.Proofs.Expr.Printer

/-! # Decimal numbers in conditions

A text that is one decimal number token from its first to its last character is the text of a decimal
numeral (`isDecimalToken_iff`). With or without a minus sign in front of it, such a text is a condition
of its own, and it may stand on the right of a comparison. Either is read as the numeral's value, under
the minus sign if there is one (`Expr.parse_signed`, `Expr.parse_strictEq`), or not at all if the
numeral is an integer with too many digits (`Expr.parse_signed_error`). -/

namespace LineGate

open Numeral (Decimal)
open Grammar (Derives)
open Lexeme (Spells)

/-- **Decimal number tokens**: tokenizing takes the whole text as one number, and this number is not
hexadecimal. -/
structure IsDecimalToken (t : String) : Prop where
  /-- The text is one number. -/
  tokens : Token.tokenize t = .ok [⟨.number, t, 0⟩]
  /-- It is not hexadecimal. -/
  decimal : Token.hexWidth? t.toList = none

/-- The minus sign, or nothing. -/
def minusSign (minus : Bool) : String := if minus then "-" else ""

/-! ## Tokens -/

namespace Lexeme

/-- The lexeme of a decimal numeral. -/
def decimal (d : Decimal) : Lexeme := ⟨.number, String.ofList d.text⟩

/-- The lexemes of a decimal numeral behind a minus sign, or alone. -/
def signed (minus : Bool) (d : Decimal) : List Lexeme :=
  if minus then [⟨.op, "-"⟩, decimal d] else [decimal d]

variable {d : Decimal} (wf : d.WellFormed)
include wf

/-- The text of a decimal numeral is a lexeme as a whole. -/
theorem whole_decimal : (decimal d).Whole := by
  refine whole_of_matches ?_ .number
  rw [decimal, String.toList_ofList]
  exact .decimal wf

/-- The text of a decimal numeral is one token. -/
theorem scan_decimal (pos : Nat) :
    Token.scan pos d.text = .ok [⟨.number, String.ofList d.text, pos⟩] := by
  have scanned := scan_whole (whole_decimal wf) .nothing
    (Token.scan.eq_1 (pos + (decimal d).text.length))
  rwa [List.append_nil, decimal, String.toList_ofList] at scanned

omit wf in
/-- **A minus sign is a token of its own**, whatever follows it: no other operator starts with it. -/
theorem scan_minus {rest : List Char} {pos : Nat} {ts : List Token}
    (others : Token.scan (pos + 1) rest = .ok ts) :
    Token.scan pos ('-' :: rest) = .ok (⟨.op, "-", pos⟩ :: ts) := by
  have starts : Lexical.Form.op.Starts '-' := by
    change '-' ∈ Token.operators.filterMap _
    decide
  have found : Token.lexeme? ('-' :: rest) = some (some .op, 1) :=
    Lexical.lexeme?_of_starts starts rest
  rw [Token.scan_token found, List.drop_one, List.tail_cons, others]
  rfl

/-- The tokens of a decimal numeral behind a minus sign, or alone. -/
theorem scan_signed (minus : Bool) (pos : Nat) :
    ∃ ts, Token.scan pos ((minusSign minus).toList ++ d.text) = .ok ts ∧
      ts.map Token.lexeme = signed minus d := by
  cases minus with
  | false => exact ⟨_, scan_decimal wf pos, rfl⟩
  | true => exact ⟨_, scan_minus (scan_decimal wf (pos + 1)), rfl⟩

end Lexeme

/-- **The decimal number tokens are the texts of decimal numerals.** -/
theorem isDecimalToken_iff {t : String} :
    IsDecimalToken t ↔ ∃ d : Decimal, d.WellFormed ∧ t = String.ofList d.text := by
  constructor
  · intro number
    have isLexeme := Token.isLexeme_of_scan number.tokens List.mem_cons_self
    obtain ⟨form, found, gives⟩ := isLexeme.exists_form
    have notHex := number.decimal
    cases gives
    generalize chars : t.toList = cs at found notHex
    cases found with
    | hex letter nonempty digits =>
      have isHex := Lexical.hexWidth?_append letter nonempty digits []
      rw [List.append_nil, notHex] at isHex
      cases isHex
    | @decimal d wf => exact ⟨d, wf, by rw [← chars, String.ofList_toList]⟩
  · rintro ⟨d, wf, rfl⟩
    constructor
    · rw [Token.tokenize, String.toList_ofList]
      exact Lexeme.scan_decimal wf 0
    · rw [String.toList_ofList]
      exact Lexical.hexWidth?_text wf

/-! ## Failing operands -/

namespace Parser

/-- A condition whose first signed operand cannot be read cannot be read either, and fails as it does. -/
theorem ofTokens_of_unaryExpr {t : Token} {ts : List Token} {fault : SyntaxFault}
    (start : accept ["not"] (t :: ts) = none)
    (fails : ∀ n, unaryExpr (n + 4) (t :: ts) = .error fault) :
    ofTokens (t :: ts) = .error fault := by
  -- Four levels stand between a condition and a signed operand.
  have fuel_eq : fuel (t :: ts) = 8 * (ts.length + 1) + 4 + 4 := by
    simp only [fuel, List.length_cons]
    omega
  have comparison : comparisonExpr (8 * (ts.length + 1) + 4 + 1) (t :: ts) = .error fault := by
    rw [comparisonExpr, fails]
    rfl
  have negation : notExpr (8 * (ts.length + 1) + 4 + 2) (t :: ts) = .error fault := by
    rw [notExpr, start]
    exact comparison
  have conjunction : andExpr (8 * (ts.length + 1) + 4 + 3) (t :: ts) = .error fault := by
    rw [andExpr, negation]
    rfl
  have alternative : orExpr (8 * (ts.length + 1) + 4 + 4) (t :: ts) = .error fault := by
    rw [orExpr, conjunction]
    rfl
  rw [ofTokens, fuel_eq, alternative]
  rfl

variable {t : Token} {fault : SyntaxFault}

/-- A number without a value cannot be read as a signed operand. -/
theorem unaryExpr_of_numberValue (kind : t.kind = .number) (fails : numberValue t = .error fault)
    (n : Nat) : unaryExpr (n + 2) [t] = .error fault := by
  have noSign (texts : List String) : accept texts [t] = none := by
    simp [accept, isSign, kind]
  have operand : operandExpr (n + 1) [t] = .error fault := by
    rw [operandExpr, kind]
    simp only [fails]
    rfl
  rw [unaryExpr, noSign, noSign]
  exact operand

/-- A number without a value makes a condition of it fail in the same way. -/
theorem ofTokens_of_numberValue (kind : t.kind = .number) (fails : numberValue t = .error fault) :
    ofTokens [t] = .error fault := by
  have noSign : accept ["not"] [t] = none := by simp [accept, isSign, kind]
  exact ofTokens_of_unaryExpr noSign fun n => unaryExpr_of_numberValue kind fails (n + 2)

/-- A number without a value fails behind a minus sign too. -/
theorem ofTokens_of_minus {m : Token} (minus : m.IsOp "-") (kind : t.kind = .number)
    (fails : numberValue t = .error fault) : ofTokens [m, t] = .error fault := by
  obtain ⟨isOp, text⟩ := minus
  have noNot : accept ["not"] [m, t] = none := by simp [accept, isSign, text]
  have noBang : accept ["!"] [m, t] = none := by simp [accept, isSign, text]
  have passed : accept ["-"] [m, t] = some [t] := by simp [accept, isSign, isOp, text]
  refine ofTokens_of_unaryExpr noNot fun n => ?_
  rw [unaryExpr, noBang, passed]
  simp only [unaryExpr_of_numberValue kind fails (n + 1)]
  rfl

end Parser

namespace Expr

/-- A value behind a minus sign, or alone. -/
def signed (minus : Bool) (v : Value) : Expr := if minus then .negate (.literal v) else .literal v

section Reading

variable {d : Decimal} (wf : d.WellFormed)
include wf

/-! ## Expressions -/

omit wf in
/-- A token with the lexeme of a decimal numeral has its text. -/
theorem text_of_lexeme {t : Token} (isNumber : t.lexeme = Lexeme.decimal d) :
    t.text.toList = d.text := by
  rw [show t.text = String.ofList d.text from congrArg Lexeme.text isNumber, String.toList_ofList]

/-- A decimal numeral spells its value, and with a minus sign the negative of it. -/
theorem spells_signed {v : Value} (value : Parser.decimalValue d = .ok v) (minus : Bool) :
    Spells .unary (Lexeme.signed minus d) (signed minus v) := by
  have operand : Spells .unary [Lexeme.decimal d] (.literal v) := by
    refine Lexeme.spells_singleton (Lexeme.whole_decimal wf) fun {t} isNumber => ?_
    refine .ofOperand (.number (congrArg Lexeme.kind isNumber) ?_)
    rw [Token.numberValue_of_text wf (text_of_lexeme isNumber), value]
    rfl
  cases minus with
  | false => exact operand
  | true => exact operand.sign (by decide) .minus

/-- No blank stands at the end of a text that ends with a decimal numeral. -/
theorem isBlank_of_getLast? (front : List Char) :
    ∀ c ∈ (front ++ d.text).getLast?, isBlank c = false := by
  intro c last
  obtain ⟨first, rest, chars, -⟩ := wf.exists_head
  rw [List.getLast?_append_of_ne_nil _ (by simp [chars])] at last
  exact Lexical.Matches.visible (.decimal wf) nofun (List.mem_of_getLast? last)

/-- A decimal numeral behind a minus sign, or alone, has no blanks at its ends. -/
theorem trim_signed (minus : Bool) :
    trim ((minusSign minus).toList ++ d.text) = (minusSign minus).toList ++ d.text := by
  refine trim_eq_self ?_ (isBlank_of_getLast? wf _)
  cases minus with
  | true =>
    rintro _ ⟨⟩
    decide
  | false =>
    intro c first
    exact Lexical.Matches.visible (.decimal wf) nofun (List.mem_of_head? first)

/-- **A decimal numeral is read as its value**, and with a minus sign as the negative of it. -/
theorem parse_signed {v : Value} (value : Parser.decimalValue d = .ok v) (minus : Bool) :
    parse (minusSign minus ++ String.ofList d.text) = .ok (signed minus v) := by
  obtain ⟨ts, scanned, same⟩ := Lexeme.scan_signed wf minus 0
  have derived := (spells_signed wf value minus).derives same
  have read := Lexeme.parse_of_scan (trim_signed wf minus) scanned
  rw [String.ofList_append, String.ofList_toList] at read
  rw [read]
  exact (derived.loosen (Nat.zero_le _)).ofTokens_eq

/-- **An integer with too many digits is not read**, with a minus sign or without. -/
theorem parse_signed_error {fault : TooManyDigits} (tooMany : Parser.decimalValue d = .error fault)
    (minus : Bool) :
    parse (minusSign minus ++ String.ofList d.text) = .error (.digits fault) := by
  obtain ⟨ts, scanned, same⟩ := Lexeme.scan_signed wf minus 0
  have read := Lexeme.parse_of_scan (trim_signed wf minus) scanned
  have noValue {t : Token} (isNumber : t.lexeme = Lexeme.decimal d) :
      Parser.numberValue t = .error (.digits fault) := by
    rw [Token.numberValue_of_text wf (text_of_lexeme isNumber), tooMany]
    rfl
  rw [String.ofList_append, String.ofList_toList] at read
  rw [read]
  cases minus with
  | false =>
    obtain ⟨t, rfl, isNumber⟩ := List.map_eq_singleton_iff.mp same
    exact Parser.ofTokens_of_numberValue (congrArg Lexeme.kind isNumber) (noValue isNumber)
  | true =>
    obtain ⟨m, rest, rfl, isMinus, same⟩ := List.map_eq_cons_iff.mp same
    obtain ⟨t, rfl, isNumber⟩ := List.map_eq_singleton_iff.mp same
    exact Parser.ofTokens_of_minus (Token.isOp_of_lexeme isMinus) (congrArg Lexeme.kind isNumber)
      (noValue isNumber)

/-! ## Comparisons -/

/-- The characters of a strict comparison of a variable with a signed numeral. -/
def comparedText (name : String) (minus : Bool) (d : Decimal) : List Char :=
  name.toList ++ ' ' :: ("===".toList ++ ' ' :: ((minusSign minus).toList ++ d.text))

/-- The tokens of a comparison are those of the variable, of the operator and of the numeral. -/
theorem scan_comparedText {name : String} (isName : IsName name) (minus : Bool) :
    ∃ ts, Token.scan 0 (comparedText name minus d) = .ok ts ∧
      ts.map Token.lexeme = ⟨.name, name⟩ :: ⟨.op, "==="⟩ :: Lexeme.signed minus d := by
  have sign_whole : (Lexeme.mk .op "===").Whole := Lexeme.whole_op (by decide)
  obtain ⟨ts, scanned, same⟩ := Lexeme.scan_signed wf minus (0 + name.length + 1 + "===".length + 1)
  exact ⟨_, Lexeme.scan_whole_space (Lexeme.whole_name isName)
    (Lexeme.scan_whole_space sign_whole scanned),
    congrArg (fun ls => Lexeme.mk .name name :: Lexeme.mk .op "===" :: ls) same⟩

/-- A comparison with a numeral has no blanks at its ends. -/
theorem trim_comparedText {name : String} (isName : IsName name) (minus : Bool) :
    trim (comparedText name minus d) = comparedText name minus d := by
  obtain ⟨c, rest, chars, visible⟩ := (Lexeme.whole_name isName).first
  have chars : name.toList = c :: rest := chars
  refine trim_eq_self ?_ ?_
  · rw [comparedText, chars]
    rintro _ ⟨⟩
    exact visible
  · have last := isBlank_of_getLast? wf
      (name.toList ++ ' ' :: ("===".toList ++ ' ' :: (minusSign minus).toList))
    simpa only [comparedText, List.append_assoc, List.cons_append] using last

/-- **A variable compared with a decimal numeral** is read as such. -/
theorem parse_strictEq {v : Value} (value : Parser.decimalValue d = .ok v) (minus : Bool)
    {name : String} (isName : IsName name) :
    parse (name ++ " === " ++ (minusSign minus ++ String.ofList d.text)) =
      .ok (.compare .strictEq (.name name) (signed minus v)) := by
  have source : name ++ " === " ++ (minusSign minus ++ String.ofList d.text) =
      String.ofList (comparedText name minus d) := by
    rw [← String.toList_inj]
    simp [comparedText]
  have left : Spells .operand [⟨.name, name⟩] (.name name) := by
    refine Lexeme.spells_singleton (Lexeme.whole_name isName) fun {t} isVariable => ?_
    obtain rfl : t.text = name := congrArg Lexeme.text isVariable
    exact .name (congrArg Lexeme.kind isVariable)
  have spells := (left.loosen (by decide)).compare .strictEq (spells_signed wf value minus)
    (by decide)
  obtain ⟨ts, scanned, same⟩ := scan_comparedText wf isName minus
  rw [source, Lexeme.parse_of_scan (trim_comparedText wf isName minus) scanned]
  exact ((spells.derives same).loosen (Nat.zero_le _)).ofTokens_eq

end Reading

end Expr

end LineGate
