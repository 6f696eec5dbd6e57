import LineGate.Proofs.Expr.Grammar

/-! # The steps of descent

What the functions of the parser do in one step, in the words of the grammar: which tokens the tests
for signs accept, and how the functions that read operators and lists of arguments go on.

Three levels of the grammar are chains of operands that associate to the left. They are three
instances of one structure, `Chain`, whose laws are all that the proofs about them use. -/

namespace LineGate

open Grammar (IsComparison StartsOperand)

/-! ## Signs -/

/-- A token is the **sign** of the given text, as an operator or as a keyword. -/
def Token.IsSign (text : String) (t : Token) : Prop :=
  (t.kind = .op ∨ t.kind = .keyword) ∧ t.text = text

/-- An operator is a sign. -/
theorem Token.IsOp.sign {text : String} {t : Token} (h : t.IsOp text) : t.IsSign text :=
  ⟨.inl h.1, h.2⟩

/-- A keyword is a sign. -/
theorem Token.IsKeyword.sign {text : String} {t : Token} (h : t.IsKeyword text) : t.IsSign text :=
  ⟨.inr h.1, h.2⟩

/-- A sign is accepted when its text is among those wanted. -/
theorem Token.IsSign.isSign {text : String} {t : Token} (h : t.IsSign text)
    (texts : List String) : Parser.isSign texts t = texts.contains text := by
  obtain ⟨kind | kind, rfl⟩ := h
  · simp [Parser.isSign, kind]
  · simp [Parser.isSign, kind]

/-- What an operand starts with is never accepted in place of another sign. -/
theorem Grammar.StartsOperand.isSign {t : Token} (h : StartsOperand t) {texts : List String}
    (round : texts.contains "(" = false) (square : texts.contains "[" = false) :
    Parser.isSign texts t = false := by
  rcases h with ⟨notOp, notKeyword⟩ | isRound | isSquare
  · simp [Parser.isSign, notOp, notKeyword]
  · rw [isRound.sign.isSign, round]
  · rw [isSquare.sign.isSign, square]

namespace Parser

/-- A sign is passed over. -/
theorem accept_of_isSign {texts : List String} {t : Token} (h : isSign texts t = true)
    (rest : List Token) : accept texts (t :: rest) = some rest := by
  rw [accept, if_pos h]

/-- A token that is no sign is left where it is. -/
theorem accept_of_not_isSign {texts : List String} {t : Token} (h : isSign texts t = false)
    (rest : List Token) : accept texts (t :: rest) = none := by
  rw [accept, if_neg (by simp [h])]

/-- What is passed over is one sign. -/
theorem accept_eq_some {texts : List String} {ts rest : List Token}
    (h : accept texts ts = some rest) : ∃ t, ts = t :: rest ∧ isSign texts t = true := by
  cases ts with
  | nil => cases h
  | cons t tail =>
    rw [accept] at h
    split at h
    case isTrue isSign =>
      cases h
      exact ⟨t, rfl, isSign⟩
    case isFalse => cases h

/-- The sign that has to come next is passed over. -/
theorem expect_of_isSign {wanted : String} {t : Token} (h : isSign [wanted] t = true)
    (rest : List Token) : expect wanted (t :: rest) = .ok rest := by
  rw [expect, accept_of_isSign h]

/-- A sign other than `not` is a comparison as the table says. -/
theorem comparison?_of_sign {text : String} {t : Token} (h : t.IsSign text) (notNot : text ≠ "not")
    (rest : List Token) :
    comparison? (t :: rest) = (comparisonSigns.lookup text).map fun op => (op, rest) := by
  have other : isSign ["not"] t = false := by
    rw [h.isSign]
    simpa using notNot
  obtain ⟨kind | kind, rfl⟩ := h
  · simp [comparison?, other, kind]
  · simp [comparison?, other, kind]

/-- A sign of the list of operators is looked up in the table by its symbol. -/
theorem lookup_symbol {op : Comparison} (sign : op.symbol ∈ Token.operators) :
    comparisonSigns.lookup op.symbol = some op := by
  cases op with
  | order op => cases op <;> rfl
  | member => exact absurd sign (by decide)
  | notMember => exact absurd sign (by decide)
  | _ => rfl

/-- A comparison operator of the grammar is read as such. -/
theorem comparison?_of_isComparison {sep : List Token} {op : Comparison}
    (h : IsComparison sep op) (rest : List Token) :
    comparison? (sep ++ rest) = some (op, rest) := by
  cases h with
  | @sign t op sign isOp =>
    have notNot : op.symbol ≠ "not" := by
      intro h
      exact absurd (h ▸ sign) (by decide)
    rw [List.singleton_append, comparison?_of_sign isOp.sign notNot, lookup_symbol sign]
    rfl
  | member isIn =>
    rw [List.singleton_append, comparison?_of_sign isIn.sign (by decide)]
    rfl
  | notMember isNot isIn =>
    -- The only operator of two tokens, for which the second one is looked at.
    have first := isNot.sign.isSign ["not"]
    obtain ⟨kind, text⟩ := isIn
    simp [comparison?, first, kind, text]

/-! ## Chains of operands -/

/-- A **chain**: a level of the grammar whose operands are joined by operators and associate to the
left. The four functions of the level come with the laws of one step. -/
structure Chain where
  /-- Read one operand. -/
  operand : Nat → List Token → Result (Expr × List Token)
  /-- The operator that comes next, as the way to join two operands, and the tokens behind it. -/
  join? : List Token → Option ((Expr → Expr → Expr) × List Token)
  /-- Read the whole chain. -/
  whole : Nat → List Token → Result (Expr × List Token)
  /-- Read the operators and operands that follow. -/
  rest : Nat → Expr → List Token → Result (Expr × List Token)
  whole_zero : ∀ ts, whole 0 ts = .error .unexpectedEnd
  rest_zero : ∀ l ts, rest 0 l ts = .error .unexpectedEnd
  /-- A chain starts with an operand. -/
  whole_succ : ∀ n ts, whole (n + 1) ts = operand n ts >>= fun p => rest n p.1 p.2
  /-- Without an operator the chain ends. -/
  rest_stop : ∀ n l ts, join? ts = none → rest (n + 1) l ts = .ok (l, ts)
  /-- Behind an operator stands an operand, and both become the left side of what follows. -/
  rest_join : ∀ n l ts join us, join? ts = some (join, us) →
    rest (n + 1) l ts = operand n us >>= fun p => rest n (join l p.1) p.2

/-- The chain of **alternatives**. -/
def alternatives : Chain where
  operand := andExpr
  join? ts := (accept ["||", "or"] ts).map fun rest => (.logical .or, rest)
  whole := orExpr
  rest := orRest
  whole_zero _ := by rw [orExpr]
  rest_zero _ _ := by rw [orRest]
  whole_succ _ _ := by rw [orExpr]
  rest_stop _ _ _ h := by rw [orRest, Option.map_eq_none_iff.mp h]
  rest_join _ _ _ _ _ h := by
    obtain ⟨_, accepted, pair⟩ := Option.map_eq_some_iff.mp h
    cases pair
    rw [orRest, accepted]

/-- The chain of **conjunctions**. -/
def conjunctions : Chain where
  operand := notExpr
  join? ts := (accept ["&&", "and"] ts).map fun rest => (.logical .and, rest)
  whole := andExpr
  rest := andRest
  whole_zero _ := by rw [andExpr]
  rest_zero _ _ := by rw [andRest]
  whole_succ _ _ := by rw [andExpr]
  rest_stop _ _ _ h := by rw [andRest, Option.map_eq_none_iff.mp h]
  rest_join _ _ _ _ _ h := by
    obtain ⟨_, accepted, pair⟩ := Option.map_eq_some_iff.mp h
    cases pair
    rw [andRest, accepted]

/-- The chain of **comparisons**. -/
def comparisons : Chain where
  operand := unaryExpr
  join? ts := (comparison? ts).map fun p => (.compare p.1, p.2)
  whole := comparisonExpr
  rest := comparisonRest
  whole_zero _ := by rw [comparisonExpr]
  rest_zero _ _ := by rw [comparisonRest]
  whole_succ _ _ := by rw [comparisonExpr]
  rest_stop _ _ _ h := by rw [comparisonRest, Option.map_eq_none_iff.mp h]
  rest_join _ _ _ _ _ h := by
    obtain ⟨_, found, pair⟩ := Option.map_eq_some_iff.mp h
    cases pair
    rw [comparisonRest, found]

/-! ## Arguments -/

/-- The arguments from the next one on, which has to be there. -/
def argumentsFrom (n : Nat) (closing : String) (ts : List Token) :
    Result (List Expr × List Token) := do
  let (first, ts) ← orExpr n ts
  let (others, ts) ← argumentsRest n closing ts
  .ok (first :: others, ts)

/-- A list of arguments is empty or has a first one. -/
theorem arguments_succ (n : Nat) (closing : String) (ts : List Token) :
    arguments (n + 1) closing ts = match accept [closing] ts with
      | some ts => .ok ([], ts)
      | none => argumentsFrom n closing ts := by
  rw [arguments]
  rfl

/-- Behind an argument stands a comma with a further one, or the closing bracket. -/
theorem argumentsRest_succ (n : Nat) (closing : String) (ts : List Token) :
    argumentsRest (n + 1) closing ts = match accept [","] ts with
      | some ts => argumentsFrom n closing ts
      | none => expect closing ts >>= fun ts => .ok ([], ts) := by
  rw [argumentsRest]
  rfl

end Parser

end LineGate
