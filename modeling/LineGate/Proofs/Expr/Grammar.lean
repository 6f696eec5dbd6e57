import LineGate.Expr.Parser

/-! # The grammar of conditions

The grammar as a relation between lists of tokens and the expressions they stand for, one level for
each strength of binding. It says nothing of how a list of tokens is read: there is no order of
attempts, no lookahead and no token behind the derived ones.

The terminals are tokens of a given kind and text. A left-associative operator has its own level on
the left and the next tighter level on the right. What an expression of a level can start with is
collected in `Level.Starts` (`Derives.head`). -/

namespace LineGate

/-- A token is the **operator** of the given text. -/
def Token.IsOp (text : String) (t : Token) : Prop := t.kind = .op ∧ t.text = text

/-- A token is the **keyword** of the given text. -/
def Token.IsKeyword (text : String) (t : Token) : Prop := t.kind = .keyword ∧ t.text = text

namespace Grammar

/-- **Levels** of binding, from the loosest to the tightest. -/
inductive Level where
  | or
  | and
  | not
  | comparison
  | unary
  | operand
  deriving DecidableEq, Repr

/-- **Comparison operators** as tokens: a sign, the keyword `in`, or the two keywords `not in`. -/
inductive IsComparison : List Token → Comparison → Prop where
  | sign {t : Token} {op : Comparison} :
      op.symbol ∈ Token.operators → t.IsOp op.symbol → IsComparison [t] op
  | member {t : Token} : t.IsKeyword "in" → IsComparison [t] .member
  | notMember {t u : Token} : t.IsKeyword "not" → u.IsKeyword "in" → IsComparison [t, u] .notMember

/-- **Pieces between commas**: each piece is a list of tokens with its expression, and the commas
stand between neighbours, never at the start or at the end. -/
inductive Commas : List (List Token × Expr) → List Token → Prop where
  | none : Commas [] []
  | one (p : List Token × Expr) : Commas [p] p.1
  | more (p q : List Token × Expr) {pieces : List (List Token × Expr)} {comma : Token}
      {ts : List Token} : comma.IsOp "," → Commas (q :: pieces) ts →
      Commas (p :: q :: pieces) (p.1 ++ comma :: ts)

/-- **Derivations**: the tokens that stand for an expression at a level of binding. -/
inductive Derives : Level → List Token → Expr → Prop where
  /-- A conjunction is an alternative. -/
  | ofAnd {ts : List Token} {e : Expr} : Derives .and ts e → Derives .or ts e
  /-- Alternatives joined by `||` or `or`. -/
  | or {t : Token} {ls rs : List Token} {l r : Expr} :
      Derives .or ls l → t.IsOp "||" ∨ t.IsKeyword "or" → Derives .and rs r →
      Derives .or (ls ++ t :: rs) (.logical .or l r)
  /-- A negation is a conjunction. -/
  | ofNot {ts : List Token} {e : Expr} : Derives .not ts e → Derives .and ts e
  /-- Conjuncts joined by `&&` or `and`. -/
  | and {t : Token} {ls rs : List Token} {l r : Expr} :
      Derives .and ls l → t.IsOp "&&" ∨ t.IsKeyword "and" → Derives .not rs r →
      Derives .and (ls ++ t :: rs) (.logical .and l r)
  /-- A comparison is a negation. -/
  | ofComparison {ts : List Token} {e : Expr} : Derives .comparison ts e → Derives .not ts e
  /-- Negation by the keyword, below the comparisons. -/
  | not {t : Token} {ts : List Token} {e : Expr} :
      t.IsKeyword "not" → Derives .not ts e → Derives .not (t :: ts) (.not e)
  /-- A signed operand is a comparison. -/
  | ofUnary {ts : List Token} {e : Expr} : Derives .unary ts e → Derives .comparison ts e
  /-- Comparisons, which chain to the left. -/
  | compare {sep ls rs : List Token} {op : Comparison} {l r : Expr} :
      Derives .comparison ls l → IsComparison sep op → Derives .unary rs r →
      Derives .comparison (ls ++ sep ++ rs) (.compare op l r)
  /-- An operand needs no sign. -/
  | ofOperand {ts : List Token} {e : Expr} : Derives .operand ts e → Derives .unary ts e
  /-- Negation by the sign, above the comparisons. -/
  | bang {t : Token} {ts : List Token} {e : Expr} :
      t.IsOp "!" → Derives .unary ts e → Derives .unary (t :: ts) (.not e)
  /-- The negative of a number. -/
  | minus {t : Token} {ts : List Token} {e : Expr} :
      t.IsOp "-" → Derives .unary ts e → Derives .unary (t :: ts) (.negate e)
  /-- A number. -/
  | number {t : Token} {v : Value} :
      t.kind = .number → Parser.numberValue t = .ok v → Derives .operand [t] (.literal v)
  /-- A text between quotes. -/
  | string {t : Token} :
      t.kind = .string → Derives .operand [t] (.literal (.str (Parser.stringValue t.text)))
  /-- A name that stands for a value. -/
  | literal {t : Token} :
      t.kind = .literal → Derives .operand [t] (.literal (Parser.literalValue t.text))
  /-- A variable. -/
  | name {t : Token} : t.kind = .name → Derives .operand [t] (.name t.text)
  /-- The built-in test of a name. -/
  | definedName {t opening u closing : Token} :
      t.kind = .name → t.text = "defined" → opening.IsOp "(" → u.kind = .name →
      closing.IsOp ")" → Derives .operand [t, opening, u, closing] (.defined u.text)
  /-- The built-in test of a name that is given as a text. -/
  | definedString {t opening u closing : Token} :
      t.kind = .name → t.text = "defined" → opening.IsOp "(" → u.kind = .string →
      closing.IsOp ")" →
      Derives .operand [t, opening, u, closing] (.defined (Parser.stringValue u.text))
  /-- A call. -/
  | call {t opening closing : Token} {pieces : List (List Token × Expr)} {inner : List Token} :
      t.kind = .name → t.text ≠ "defined" → opening.IsOp "(" → Commas pieces inner →
      (∀ p ∈ pieces, Derives .or p.1 p.2) → closing.IsOp ")" →
      Derives .operand (t :: opening :: (inner ++ [closing]))
        (.call t.text (pieces.map Prod.snd))
  /-- A list. -/
  | list {opening closing : Token} {pieces : List (List Token × Expr)} {inner : List Token} :
      opening.IsOp "[" → Commas pieces inner → (∀ p ∈ pieces, Derives .or p.1 p.2) →
      closing.IsOp "]" →
      Derives .operand (opening :: (inner ++ [closing])) (.list (pieces.map Prod.snd))
  /-- An expression between brackets. -/
  | group {opening closing : Token} {ts : List Token} {e : Expr} :
      opening.IsOp "(" → Derives .or ts e → closing.IsOp ")" →
      Derives .operand (opening :: (ts ++ [closing])) e

/-! ## First tokens -/

/-- What an **operand starts with**: a token that is neither an operator nor a keyword, or an
opening bracket. -/
def StartsOperand (t : Token) : Prop :=
  (t.kind ≠ .op ∧ t.kind ≠ .keyword) ∨ t.IsOp "(" ∨ t.IsOp "["

/-- What the expressions of a level **start with**. The two signs come in with the signed operands,
and the keyword with the negations. -/
def Level.Starts : Level → Token → Prop
  | .operand, t => StartsOperand t
  | .unary, t | .comparison, t => StartsOperand t ∨ t.IsOp "!" ∨ t.IsOp "-"
  | .not, t | .and, t | .or, t =>
    (StartsOperand t ∨ t.IsOp "!" ∨ t.IsOp "-") ∨ t.IsKeyword "not"

/-- **An expression has a first token**, and its level says which. -/
theorem Derives.head {level : Level} {ts : List Token} {e : Expr} (h : Derives level ts e) :
    ∃ t rest, ts = t :: rest ∧ level.Starts t := by
  -- A left-associative operator starts as its left side does; the other rules show the token.
  induction h with
  | ofAnd _ ih => exact ih
  | or _ _ _ left _ =>
    obtain ⟨t, rest, rfl, starts⟩ := left
    exact ⟨t, _, rfl, starts⟩
  | ofNot _ ih => exact ih
  | and _ _ _ left _ =>
    obtain ⟨t, rest, rfl, starts⟩ := left
    exact ⟨t, _, rfl, starts⟩
  | ofComparison _ ih =>
    obtain ⟨t, rest, rfl, starts⟩ := ih
    exact ⟨t, _, rfl, .inl starts⟩
  | not keyword _ _ => exact ⟨_, _, rfl, .inr keyword⟩
  | ofUnary _ ih => exact ih
  | compare _ _ _ left _ =>
    obtain ⟨t, rest, rfl, starts⟩ := left
    exact ⟨t, _, rfl, starts⟩
  | ofOperand _ ih =>
    obtain ⟨t, rest, rfl, starts⟩ := ih
    exact ⟨t, _, rfl, .inl starts⟩
  | bang sign _ _ => exact ⟨_, _, rfl, .inr (.inl sign)⟩
  | minus sign _ _ => exact ⟨_, _, rfl, .inr (.inr sign)⟩
  | number kind _ | string kind | literal kind | name kind | definedName kind _ _ _ _
  | definedString kind _ _ _ _ | call kind _ _ _ _ _ _ =>
    exact ⟨_, _, rfl, .inl (by simp [kind])⟩
  | list opening _ _ _ _ => exact ⟨_, _, rfl, .inr (.inr opening)⟩
  | group opening _ _ _ => exact ⟨_, _, rfl, .inr (.inl opening)⟩

/-- An expression has at least one token. -/
theorem Derives.length_pos {level : Level} {ts : List Token} {e : Expr} (h : Derives level ts e) :
    0 < ts.length := by
  obtain ⟨t, rest, rfl, _⟩ := h.head
  simp

end Grammar

end LineGate
