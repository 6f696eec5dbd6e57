import LineGate.Condition
import LineGate.Proofs.Command.Definitions
import LineGate.Proofs.Expr.NumberText

/-! # Numbers in definitions and in conditions

The value of a definition and the number tokens of conditions are read by functions of their own. They
agree on every decimal number token, alone and behind a minus sign, although the sign is read together
with the number in a definition and is an operator in a condition (`Define.readAlike`). So a variable
that is defined by such a text is strictly equal to the number that the text is in a condition
(`Define.holds_defined`), and no other text is read as a number, apart from a plus sign in front and a
line feed behind (`Define.isSignedToken_of_coerce`). -/

namespace LineGate

open Numeral

namespace Define

/-! ## Signed numerals -/

/-- The minus sign is a sign. -/
theorem minusSign_mem (minus : Bool) :
    (minusSign minus).toList ∈ signs ∧ isMinus (minusSign minus).toList = minus := by
  cases minus <;> decide

section Signed

variable {d : Decimal} (wf : d.WellFormed) (minus : Bool)

include wf in
/-- The value of a definition that is a numeral, alone or behind a minus sign. -/
theorem coerce_signed : coerce (minusSign minus ++ String.ofList d.text) = signedValue minus d := by
  obtain ⟨isSign, same⟩ := minusSign_mem minus
  refine coerce_of_number? (number?_eq_some_iff.mpr
    ⟨_, isSign, d, [], by simp [feeds], wf, ?_, by rw [same]⟩)
  rw [String.toList_append, String.toList_ofList, List.append_nil]

/-- **The sign of a definition is the operator of a condition**: if a numeral has a value, then so has
the signed one, and that is what the condition of both evaluates to. -/
theorem exists_signedValue {v : Value} (value : Parser.decimalValue d = .ok v) :
    ∃ w, signedValue minus d = .ok w ∧ w.kind = .number ∧
      ∀ {σ : Type} (fns : Functions σ) (env : Environment),
        (Expr.signed minus v).eval fns env = pure w := by
  unfold Parser.decimalValue at value
  unfold signedValue
  by_cases integer : d.isInteger = true
  · rw [if_pos integer] at value ⊢
    cases number : d.integer with
    | error fault =>
      rw [number] at value
      cases value
    | ok n =>
      rw [number] at value
      cases value
      refine ⟨_, rfl, rfl, fun fns env => ?_⟩
      cases minus <;> rfl
  · rw [if_neg integer] at value ⊢
    cases value
    refine ⟨_, rfl, rfl, fun fns env => ?_⟩
    cases minus with
    | false => rfl
    | true =>
      rw [← Decimal.neg_toDouble]
      rfl

/-- A numeral without a value has none behind a minus sign either. -/
theorem signedValue_error {fault : TooManyDigits} (tooMany : Parser.decimalValue d = .error fault) :
    signedValue minus d = .error fault := by
  unfold Parser.decimalValue at tooMany
  unfold signedValue
  by_cases integer : d.isInteger = true
  · rw [if_pos integer] at tooMany ⊢
    cases number : d.integer with
    | error fault' =>
      rw [number] at tooMany
      cases tooMany
      rfl
    | ok n =>
      rw [number] at tooMany
      cases tooMany
  · rw [if_neg integer] at tooMany
    cases tooMany

end Signed

/-! ## Reading alike -/

/-- A text is **read alike** as a definition and as a condition: either it is the same number as both,
in whatever environment and state, or it has too many digits for both. -/
inductive ReadAlike (raw : String) : Prop where
  | number {v : Value} {e : Expr} : coerce raw = .ok v → v.kind = .number → Expr.parse raw = .ok e →
      (∀ {σ : Type} (fns : Functions σ) (env : Environment) (state : σ),
        (e.eval fns env).run state = (.ok v, state)) → ReadAlike raw
  | tooMany {fault : TooManyDigits} : coerce raw = .error fault →
      Expr.parse raw = .error (.digits fault) → ReadAlike raw

/-- **Decimal number tokens are read alike**, alone and behind a minus sign. -/
theorem readAlike {t : String} (token : IsDecimalToken t) (minus : Bool) :
    ReadAlike (minusSign minus ++ t) := by
  obtain ⟨d, wf, rfl⟩ := isDecimalToken_iff.mp token
  have coerced := coerce_signed wf minus
  cases value : Parser.decimalValue d with
  | ok v =>
    obtain ⟨w, signed, kind, evaluated⟩ := exists_signedValue minus value
    refine .number (coerced.trans signed) kind (Expr.parse_signed wf value minus)
      fun fns env state => ?_
    rw [evaluated]
    rfl
  | error fault =>
    exact .tooMany (coerced.trans (signedValue_error minus value))
      (Expr.parse_signed_error wf value minus)

/-- **Decimal number tokens without a value** are the runs of digits beyond the limit. -/
theorem coerce_token_error_iff {t : String} (token : IsDecimalToken t) (minus : Bool) :
    (∃ fault, coerce (minusSign minus ++ t) = .error fault) ↔
      (∀ c ∈ t.toList, isDecimal c = true) ∧ integerDigitLimit < t.length := by
  obtain ⟨d, wf, rfl⟩ := isDecimalToken_iff.mp token
  rw [coerce_signed wf, signedValue_error_iff, ← String.length_toList, String.toList_ofList,
    ← wf.isInteger_iff]
  refine and_congr_right fun integer => ?_
  rw [Decimal.text_of_isInteger integer]

/-! ## Defined numbers -/

/-- The value of a numeral is an integer or a double. -/
theorem int_or_float_of_signedValue {d : Decimal} {minus : Bool} {v : Value}
    (value : signedValue minus d = .ok v) : (∃ n, v = .int n) ∨ ∃ x, v = .float x := by
  unfold signedValue at value
  by_cases integer : d.isInteger = true
  · rw [if_pos integer] at value
    cases number : d.integer with
    | error fault =>
      rw [number] at value
      cases value
    | ok n =>
      rw [number] at value
      cases value
      exact .inl ⟨_, rfl⟩
  · rw [if_neg integer] at value
    cases value
    exact .inr ⟨_, rfl⟩

/-- A number that is not missing is strictly equal to itself. -/
theorem strictEqual_self {v : Value} (number : (∃ n, v = .int n) ∨ ∃ x, v = .float x) :
    v.strictEqual v = true := by
  obtain ⟨n, rfl⟩ | ⟨x, rfl⟩ := number
  · simp [Value.strictEqual, Value.equal, Value.equalNumbers, Value.numeric?,
      Value.Numeric.compare]
  · simp [Value.strictEqual, Value.equal, Value.equalNumbers, Value.numeric?,
      Value.Numeric.compare, Double.compare]

/-- A text is cut at a separator that does not occur before. -/
theorem cut_append {sep : Char} {front : List Char} (absent : sep ∉ front) (behind : List Char) :
    Separated.cut sep (front ++ sep :: behind) = (front, some behind) := by
  have before : ∀ c ∈ front, decide (c ≠ sep) = true := by
    intro c inside
    refine decide_eq_true ?_
    rintro rfl
    exact absent inside
  rw [Separated.cut, List.takeWhile_append_of_pos before, List.dropWhile_append_of_pos before]
  simp

/-- A name has no equals sign in it, and no blanks at its ends. -/
theorem cutItem_of_name {name : String} (isName : Expr.IsName name) (raw : String) :
    cutItem (name ++ "=" ++ raw) = (name.toList, some raw) := by
  have whole := Lexeme.whole_name isName
  obtain ⟨c, rest, chars, visible⟩ := whole.first
  have trimmed : trim name.toList = name.toList := by
    refine trim_eq_self (fun c' first => ?_) whole.last
    rw [show name.toList = c :: rest from chars] at first
    cases first
    exact visible
  have absent : '=' ∉ name.toList := by
    have letters := isName.word.matches
    generalize name.toList = cs at letters
    cases letters with
    | name start others =>
      intro inside
      rcases List.mem_cons.mp inside with rfl | inside
      · cases start
      · exact absurd (others _ inside) (by decide)
  have split : (name ++ "=" ++ raw).toList = name.toList ++ '=' :: raw.toList := by simp
  rw [cutItem, split, cut_append absent]
  simp [trimmed]

/-- **An item defines the variable** in front of its equals sign, if this is a name of the command line
as well as of conditions. -/
theorem collect_of_name {name raw : String} {v : Value} (isName : Expr.IsName name)
    (identifier : isIdentifier name.toList = true) (value : coerce raw = .ok v)
    (env : Environment) : collect env [] [name ++ "=" ++ raw] = .ok (env.bind name v, []) := by
  have bound : binding (name ++ "=" ++ raw) = .ok (name, v) := by
    rw [binding, cutItem_of_name isName]
    simp [identifier, value, Except.mapError, Except.map]
  rw [collect, bound]
  rfl

/-- **A variable is strictly equal to the number token that it is defined by**. -/
theorem holds_defined {t : String} (token : IsDecimalToken t) {minus : Bool} {v : Value}
    (value : coerce (minusSign minus ++ t) = .ok v) {name : String} (isName : Expr.IsName name)
    (env : Environment) {σ : Type} (fns : Functions σ) (line : Option Int) (state : σ) :
    Condition.holds fns (env.bind name v) (name ++ " === " ++ (minusSign minus ++ t)) line state =
      (.ok true, state) := by
  obtain ⟨d, wf, rfl⟩ := isDecimalToken_iff.mp token
  rw [coerce_signed wf] at value
  cases decimal : Parser.decimalValue d with
  | error fault =>
    rw [signedValue_error minus decimal] at value
    cases value
  | ok u =>
    obtain ⟨w, signed, -, evaluated⟩ := exists_signedValue minus decimal
    obtain rfl : w = v := Except.ok.inj (signed.symm.trans value)
    have found : (env.bind name w).find? name = some w := by
      rw [Environment.find?_bind, if_pos rfl]
    have same := strictEqual_self (int_or_float_of_signedValue signed)
    have run : ((Expr.compare .strictEq (.name name) (Expr.signed minus u)).eval fns
        (env.bind name w)).run state = (.ok (.bool true), state) := by
      simp only [Expr.eval, Eval.variableValue, found, evaluated, pure_bind, Comparison.apply, same]
      rfl
    rw [Condition.holds, Expr.parse_strictEq wf decimal minus isName]
    dsimp only
    rw [run]
    rfl

/-! ## Other texts -/

/-- **Signed number tokens**: a decimal number token with up to one sign in front of it and up to one
line feed behind it. -/
def IsSignedToken (raw : String) : Prop :=
  ∃ sign ∈ signs, ∃ t, IsDecimalToken t ∧ ∃ feed ∈ feeds, raw.toList = sign ++ t.toList ++ feed

/-- The texts that denote numbers are the signed number tokens. -/
theorem isSignedToken_iff (raw : String) :
    IsSignedToken raw ↔ ∃ value, number? raw.toList = some value := by
  constructor
  · rintro ⟨sign, isSign, t, token, feed, isFeed, chars⟩
    obtain ⟨d, wf, rfl⟩ := isDecimalToken_iff.mp token
    rw [String.toList_ofList] at chars
    exact ⟨_, number?_eq_some_iff.mpr ⟨sign, isSign, d, feed, isFeed, wf, chars, rfl⟩⟩
  · rintro ⟨value, found⟩
    obtain ⟨sign, isSign, d, feed, isFeed, wf, chars, -⟩ := number?_eq_some_iff.mp found
    refine ⟨sign, isSign, String.ofList d.text, isDecimalToken_iff.mpr ⟨d, wf, rfl⟩, feed, isFeed, ?_⟩
    rw [String.toList_ofList, chars]

/-- **A text that denotes no number stays a text**, unless it is one of the two words. -/
theorem coerce_of_not_signed {raw : String} (other : ¬IsSignedToken raw) (noTrue : raw ≠ "true")
    (noFalse : raw ≠ "false") : coerce raw = .ok (.str raw) := by
  have none : number? raw.toList = none := by
    refine Option.eq_none_iff_forall_ne_some.mpr fun value found => ?_
    exact other ((isSignedToken_iff raw).mpr ⟨value, found⟩)
  rw [coerce_of_ne noTrue noFalse, none]
  rfl

/-- The ways in which a definition gets its value. -/
theorem coerce_cases (raw : String) :
    raw = "true" ∧ coerce raw = .ok (.bool true) ∨
    raw = "false" ∧ coerce raw = .ok (.bool false) ∨
    IsSignedToken raw ∧ (∃ negative d, coerce raw = signedValue negative d) ∨
    coerce raw = .ok (.str raw) := by
  by_cases yes : raw = "true"
  · exact .inl ⟨yes, by rw [coerce, if_pos yes]⟩
  by_cases no : raw = "false"
  · exact .inr (.inl ⟨no, by rw [coerce, if_neg yes, if_pos no]⟩)
  by_cases token : IsSignedToken raw
  · obtain ⟨value, found⟩ := (isSignedToken_iff raw).mp token
    obtain ⟨sign, -, d, -, -, -, -, rfl⟩ := number?_eq_some_iff.mp found
    exact .inr (.inr (.inl ⟨token, _, d, coerce_of_number? found⟩))
  · exact .inr (.inr (.inr (coerce_of_not_signed token yes no)))

/-- **Only signed number tokens are numbers.** -/
theorem isSignedToken_of_coerce {raw : String} {v : Value} (value : coerce raw = .ok v)
    (number : v.kind = .number) : IsSignedToken raw := by
  rcases coerce_cases raw with ⟨-, eq⟩ | ⟨-, eq⟩ | ⟨token, -⟩ | eq
  · cases value.symm.trans eq
    cases number
  · cases value.symm.trans eq
    cases number
  · exact token
  · cases value.symm.trans eq
    cases number

/-- **Only the two words are truth values.** -/
theorem coerce_eq_bool_iff (raw : String) (b : Bool) :
    coerce raw = .ok (.bool b) ↔ raw = if b then "true" else "false" := by
  constructor
  · intro value
    rcases coerce_cases raw with ⟨word, eq⟩ | ⟨word, eq⟩ | ⟨-, _, d, eq⟩ | eq
    · cases value.symm.trans eq
      exact word
    · cases value.symm.trans eq
      exact word
    · obtain ⟨n, isInt⟩ | ⟨x, isFloat⟩ := int_or_float_of_signedValue (eq.symm.trans value)
      · cases isInt
      · cases isFloat
    · cases value.symm.trans eq
  · rintro rfl
    cases b <;> rfl

/-- **Numbers are read alike in definitions and in conditions.** A decimal number token, alone or behind
a minus sign, has the value of the condition that it is, or fails as a definition and as a condition,
which only an integer with too many digits does; and a variable that is defined by it is strictly equal
to it. As definitions, only decimal number tokens with up to one sign in front and one line feed behind
are numbers, only the two words are truth values, and any other text stays a text. -/
theorem numbers_alike :
    (∀ t, IsDecimalToken t → ∀ minus,
      ReadAlike (minusSign minus ++ t) ∧
      ((∃ fault, coerce (minusSign minus ++ t) = .error fault) ↔
        (∀ c ∈ t.toList, isDecimal c = true) ∧ integerDigitLimit < t.length) ∧
      ∀ v, coerce (minusSign minus ++ t) = .ok v →
        ∀ name, Expr.IsName name → isIdentifier name.toList = true → ∀ env,
          collect env [] [name ++ "=" ++ (minusSign minus ++ t)] = .ok (env.bind name v, []) ∧
          ∀ {σ : Type} (fns : Functions σ) (line : Option Int) (state : σ),
            Condition.holds fns (env.bind name v) (name ++ " === " ++ (minusSign minus ++ t)) line
              state = (.ok true, state)) ∧
    ∀ raw,
      (∀ v, coerce raw = .ok v → v.kind = .number → IsSignedToken raw) ∧
      (∀ b, coerce raw = .ok (.bool b) ↔ raw = if b then "true" else "false") ∧
      (¬IsSignedToken raw → raw ≠ "true" → raw ≠ "false" → coerce raw = .ok (.str raw)) := by
  refine ⟨fun t token minus => ⟨readAlike token minus, coerce_token_error_iff token minus,
    fun v value name isName identifier env => ⟨collect_of_name isName identifier value env, ?_⟩⟩,
    fun raw => ⟨fun v => isSignedToken_of_coerce, coerce_eq_bool_iff raw, coerce_of_not_signed⟩⟩
  exact fun fns line state => holds_defined token value isName env fns line state

/-- A negative integer with a digit of another script, defined and compared. -/
theorem numbers_alike_arabic :
    IsDecimalToken "4\u0662" ∧
    collect [] [] ["X=-4\u0662"] = .ok ([("X", .int (-42))], []) ∧
    (Condition.holds ⟨fun _ _ state => (.error (.other "" ""), state)⟩ [("X", .int (-42))]
      "X === -4\u0662" none ()).1 = .ok true := by
  have digits : ∀ c ∈ ['4', '\u0662'], isDecimal c = true := List.all_eq_true.mp (by decide)
  have wf := Decimal.wellFormed_plain digits nofun
  have token : IsDecimalToken "4\u0662" := isDecimalToken_iff.mpr ⟨_, wf, rfl⟩
  have value : coerce (minusSign true ++ "4\u0662") = .ok (.int (-42)) := coerce_signed wf true
  have isName : Expr.IsName "X" := by decide
  obtain ⟨collected, compared⟩ :=
    ((numbers_alike.1 _ token true).2.2 _ value "X" isName (by decide) [])
  exact ⟨token, collected, congrArg Prod.fst (compared _ none ())⟩

end Define

end LineGate
