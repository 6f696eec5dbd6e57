import LineGate.Proofs.Expr.Descent

/-! # What the grammar derives is read

Tokens that derive an expression are read as that expression, whatever stands behind them, as long
as it cannot continue the expression and there is fuel enough (`Grammar.Derives.reads`). At the
levels that are chains the statement is about the point where the chain has been read so far: the
function that reads the rest of the chain takes over from there, with the fuel that is left.

Reading is a function, so tokens derive at most one expression (`Grammar.Derives.unique`). -/

namespace LineGate

open Grammar (Level Derives IsComparison Commas StartsOperand)

namespace Parser

/-! ## What may stand behind an expression -/

/-- Tokens that **end an operand**: no bracket that would make a name a call. -/
def EndsOperand (rest : List Token) : Prop := accept ["("] rest = none

/-- Tokens that **end a comparison**. -/
def EndsComparison (rest : List Token) : Prop := EndsOperand rest ∧ comparisons.join? rest = none

/-- Tokens that **end a conjunction**. -/
def EndsConjunction (rest : List Token) : Prop :=
  EndsComparison rest ∧ conjunctions.join? rest = none

/-- Tokens that **end an expression**. -/
def EndsExpr (rest : List Token) : Prop := EndsConjunction rest ∧ alternatives.join? rest = none

/-- A sign that is not wanted is left where it is. -/
theorem accept_of_sign {text : String} {t : Token} (h : t.IsSign text) {texts : List String}
    (other : texts.contains text = false) (rest : List Token) : accept texts (t :: rest) = none :=
  accept_of_not_isSign ((h.isSign texts).trans other) rest

/-- A sign outside the table, other than `not`, does not compare. -/
theorem comparisons_join?_of_sign {text : String} {t : Token} (h : t.IsSign text)
    (notNot : text ≠ "not") (other : comparisonSigns.lookup text = none) (rest : List Token) :
    comparisons.join? (t :: rest) = none := by
  simp only [comparisons, comparison?_of_sign h notNot, other, Option.map_none]

/-- A comparison operator ends an operand. -/
theorem endsOperand_of_isComparison {sep : List Token} {op : Comparison} (h : IsComparison sep op)
    (rest : List Token) : EndsOperand (sep ++ rest) := by
  cases h with
  | @sign t op sign isOp =>
    refine accept_of_sign isOp.sign ?_ rest
    -- The bracket is no comparison: its symbol is different from all of theirs.
    cases op with
    | order op => cases op <;> rfl
    | _ => rfl
  | member isIn => exact accept_of_sign isIn.sign rfl rest
  | notMember isNot _ => exact accept_of_sign isNot.sign rfl _

/-- The operator of conjunctions ends a comparison. -/
theorem endsComparison_of_and {t : Token} (h : t.IsOp "&&" ∨ t.IsKeyword "and")
    (rest : List Token) : EndsComparison (t :: rest) := by
  rcases h with isOp | isKeyword
  · exact ⟨accept_of_sign isOp.sign rfl rest,
      comparisons_join?_of_sign isOp.sign (by decide) rfl rest⟩
  · exact ⟨accept_of_sign isKeyword.sign rfl rest,
      comparisons_join?_of_sign isKeyword.sign (by decide) rfl rest⟩

/-- The operator of alternatives ends a conjunction. -/
theorem endsConjunction_of_or {t : Token} (h : t.IsOp "||" ∨ t.IsKeyword "or")
    (rest : List Token) : EndsConjunction (t :: rest) := by
  rcases h with isOp | isKeyword
  · refine ⟨⟨accept_of_sign isOp.sign rfl rest,
      comparisons_join?_of_sign isOp.sign (by decide) rfl rest⟩, ?_⟩
    exact Option.map_eq_none_iff.mpr (accept_of_sign isOp.sign rfl rest)
  · refine ⟨⟨accept_of_sign isKeyword.sign rfl rest,
      comparisons_join?_of_sign isKeyword.sign (by decide) rfl rest⟩, ?_⟩
    exact Option.map_eq_none_iff.mpr (accept_of_sign isKeyword.sign rfl rest)

/-- A closing bracket and a comma end an expression. -/
theorem endsExpr_of_isOp {text : String} {t : Token} (h : t.IsOp text)
    (ends : text ∈ [")", "]", ","]) (rest : List Token) : EndsExpr (t :: rest) := by
  simp only [List.mem_cons, List.not_mem_nil, or_false] at ends
  rcases ends with rfl | rfl | rfl <;>
  exact ⟨⟨⟨accept_of_sign h.sign rfl rest, comparisons_join?_of_sign h.sign (by decide) rfl rest⟩,
    Option.map_eq_none_iff.mpr (accept_of_sign h.sign rfl rest)⟩,
    Option.map_eq_none_iff.mpr (accept_of_sign h.sign rfl rest)⟩

/-- The end of the tokens ends an expression. -/
theorem endsExpr_nil : EndsExpr [] := ⟨⟨⟨rfl, rfl⟩, rfl⟩, rfl⟩

/-! ## Reading exactly some tokens -/

/-- A function **reads** the tokens `ts` as `e`: with enough fuel, and before tokens that end the
expression, it gives `e` and leaves the tokens behind. Every token is worth eight units of fuel, of
which `slack` need not be there for the first one. -/
def Reads (parse : Nat → List Token → Result (Expr × List Token)) (ends : List Token → Prop)
    (slack : Nat) (ts : List Token) (e : Expr) : Prop :=
  ∀ n rest, 8 * ts.length ≤ n + slack → ends rest → parse n (ts ++ rest) = .ok (e, rest)

namespace Chain

variable {c : Chain} {ends : List Token → Prop} {slack : Nat} {ts ls sep rs : List Token}
  {e l r : Expr}

/-- A chain **reaches** the end of the tokens `ts` with the expression `e` on the left of what may
follow; a token costs at most one unit of fuel on the way. -/
def Reaches (c : Chain) (ends : List Token → Prop) (slack : Nat) (ts : List Token) (e : Expr) :
    Prop :=
  ∀ n rest, 8 * ts.length ≤ n + slack → ends rest →
    ∃ m, n ≤ m + ts.length ∧ c.whole n (ts ++ rest) = c.rest m e rest

/-- One operand is a chain. -/
theorem reaches_of_reads (h : Reads c.operand ends (slack + 1) ts e) (nonempty : 0 < ts.length)
    (small : slack ≤ 7) : c.Reaches ends slack ts e := by
  intro n rest enough atEnd
  obtain ⟨n, rfl⟩ : ∃ k, n = k + 1 := ⟨n - 1, by omega⟩
  refine ⟨n, by omega, ?_⟩
  rw [c.whole_succ, h n rest (by omega) atEnd]
  rfl

/-- A chain goes on with an operator and an operand, which are joined to its left. -/
theorem Reaches.join {join : Expr → Expr → Expr} (left : c.Reaches ends slack ls l)
    (right : Reads c.operand ends (slack + 1) rs r) (nonempty : 0 < ls.length)
    (operator : 0 < sep.length) (small : slack ≤ 7) (atSep : ∀ rest, ends (sep ++ rest))
    (joined : ∀ rest, c.join? (sep ++ rest) = some (join, rest)) :
    c.Reaches ends slack (ls ++ sep ++ rs) (join l r) := by
  intro n rest enough atEnd
  simp only [List.length_append] at enough
  -- The left side leaves fuel for the operator and the right side, which costs one unit.
  obtain ⟨m, used, reached⟩ := left n (sep ++ (rs ++ rest)) (by omega) (atSep _)
  obtain ⟨m, rfl⟩ : ∃ k, m = k + 1 := ⟨m - 1, by omega⟩
  refine ⟨m, by simp only [List.length_append]; omega, ?_⟩
  calc c.whole n (ls ++ sep ++ rs ++ rest)
      = c.whole n (ls ++ (sep ++ (rs ++ rest))) := by simp only [List.append_assoc]
    _ = c.rest (m + 1) l (sep ++ (rs ++ rest)) := reached
    _ = c.operand m (rs ++ rest) >>= fun p => c.rest m (join l p.1) p.2 :=
        c.rest_join m l _ join _ (joined _)
    _ = c.rest m (join l r) rest := by rw [right m rest (by omega) atEnd]; rfl

/-- A chain that has reached its end, before tokens that do not continue it, has been read. -/
theorem Reaches.reads (h : c.Reaches ends slack ts e) (nonempty : 0 < ts.length)
    (small : slack ≤ 5) :
    Reads c.whole (fun rest => ends rest ∧ c.join? rest = none) slack ts e := by
  rintro n rest enough ⟨atEnd, noMore⟩
  obtain ⟨m, used, reached⟩ := h n rest enough atEnd
  obtain ⟨m, rfl⟩ : ∃ k, m = k + 1 := ⟨m - 1, by omega⟩
  rw [reached, c.rest_stop m e rest noMore]

end Chain

/-- What reading means at each level. -/
def LevelReads : Level → List Token → Expr → Prop
  | .operand => Reads operandExpr EndsOperand 7
  | .unary => Reads unaryExpr EndsOperand 6
  | .comparison => comparisons.Reaches EndsOperand 5
  | .not => Reads notExpr EndsComparison 4
  | .and => conjunctions.Reaches EndsComparison 3
  | .or => alternatives.Reaches EndsConjunction 2

section Steps

variable {t : Token} {ts : List Token} {e : Expr}

/-! ## Prefixes -/

/-- The keyword in front of a negation is read. -/
theorem reads_not (keyword : t.IsKeyword "not") (h : Reads notExpr EndsComparison 4 ts e) :
    Reads notExpr EndsComparison 4 (t :: ts) (.not e) := by
  intro n rest enough atEnd
  rw [List.length_cons] at enough
  obtain ⟨n, rfl⟩ : ∃ k, n = k + 1 := ⟨n - 1, by omega⟩
  rw [List.cons_append, notExpr, accept_of_isSign ((keyword.sign.isSign _).trans rfl)]
  simp only
  rw [h n rest (by omega) atEnd]
  rfl

/-- A comparison is read as a negation, since it does not start with the keyword. -/
theorem reads_not_of_comparison (h : Reads comparisonExpr EndsComparison 5 ts e)
    (derived : Derives .comparison ts e) : Reads notExpr EndsComparison 4 ts e := by
  obtain ⟨t, tail, rfl, starts⟩ := derived.head
  have noKeyword : isSign ["not"] t = false := by
    rcases starts with operand | bang | minus
    · exact operand.isSign rfl rfl
    · exact (bang.sign.isSign _).trans rfl
    · exact (minus.sign.isSign _).trans rfl
  intro n rest enough atEnd
  rw [List.length_cons] at enough
  obtain ⟨n, rfl⟩ : ∃ k, n = k + 1 := ⟨n - 1, by omega⟩
  rw [List.cons_append, notExpr, accept_of_not_isSign noKeyword]
  exact h n rest (by rw [List.length_cons]; omega) atEnd

/-- The sign `!` in front of a signed operand is read. -/
theorem reads_bang (sign : t.IsOp "!") (h : Reads unaryExpr EndsOperand 6 ts e) :
    Reads unaryExpr EndsOperand 6 (t :: ts) (.not e) := by
  intro n rest enough atEnd
  rw [List.length_cons] at enough
  obtain ⟨n, rfl⟩ : ∃ k, n = k + 1 := ⟨n - 1, by omega⟩
  rw [List.cons_append, unaryExpr, accept_of_isSign ((sign.sign.isSign _).trans rfl)]
  simp only
  rw [h n rest (by omega) atEnd]
  rfl

/-- The sign `-` in front of a signed operand is read. -/
theorem reads_minus (sign : t.IsOp "-") (h : Reads unaryExpr EndsOperand 6 ts e) :
    Reads unaryExpr EndsOperand 6 (t :: ts) (.negate e) := by
  intro n rest enough atEnd
  rw [List.length_cons] at enough
  obtain ⟨n, rfl⟩ : ∃ k, n = k + 1 := ⟨n - 1, by omega⟩
  -- The other sign is tried first and is not there.
  rw [List.cons_append, unaryExpr, accept_of_sign sign.sign rfl]
  simp only
  rw [accept_of_isSign ((sign.sign.isSign _).trans rfl)]
  simp only
  rw [h n rest (by omega) atEnd]
  rfl

/-- An operand is read as a signed one, since it does not start with a sign. -/
theorem reads_unary_of_operand (h : Reads operandExpr EndsOperand 7 ts e)
    (derived : Derives .operand ts e) : Reads unaryExpr EndsOperand 6 ts e := by
  obtain ⟨t, tail, rfl, starts⟩ := derived.head
  have starts : StartsOperand t := starts
  intro n rest enough atEnd
  rw [List.length_cons] at enough
  obtain ⟨n, rfl⟩ : ∃ k, n = k + 1 := ⟨n - 1, by omega⟩
  rw [List.cons_append, unaryExpr, accept_of_not_isSign (starts.isSign rfl rfl)]
  simp only
  rw [accept_of_not_isSign (starts.isSign rfl rfl)]
  exact h n rest (by rw [List.length_cons]; omega) atEnd

/-! ## Operands -/

/-- An operand of one token is read when the step at that token gives it. -/
theorem reads_token
    (h : ∀ n rest, EndsOperand rest → operandExpr (n + 1) (t :: rest) = .ok (e, rest)) :
    Reads operandExpr EndsOperand 7 [t] e := by
  intro n rest enough atEnd
  rw [List.length_singleton] at enough
  obtain ⟨n, rfl⟩ : ∃ k, n = k + 1 := ⟨n - 1, by omega⟩
  exact h n rest atEnd

/-- An expression between brackets is read. -/
theorem reads_group {closing : Token} (isOpening : t.IsOp "(")
    (h : Reads orExpr EndsExpr 2 ts e) (isClosing : closing.IsOp ")") :
    Reads operandExpr EndsOperand 7 (t :: (ts ++ [closing])) e := by
  intro n rest enough _
  simp only [List.length_cons, List.length_append, List.length_nil] at enough
  obtain ⟨n, rfl⟩ : ∃ k, n = k + 1 := ⟨n - 1, by omega⟩
  have inner : orExpr n (ts ++ closing :: rest) = .ok (e, closing :: rest) :=
    h n _ (by omega) (endsExpr_of_isOp isClosing (by decide) rest)
  have outer : expect ")" (closing :: rest) = .ok rest :=
    expect_of_isSign ((isClosing.sign.isSign _).trans rfl) rest
  obtain ⟨kind, text⟩ := isOpening
  rw [List.cons_append, List.append_assoc, List.singleton_append, operandExpr]
  simp only [kind, text, if_true, inner]
  change (expect ")" (closing :: rest) >>= fun ts => .ok (e, ts)) = _
  rw [outer]
  rfl

/-- The built-in test is read once its operand is. -/
theorem reads_defined {opening u closing : Token} {name : String} (kind : t.kind = .name)
    (text : t.text = "defined") (isOpening : opening.IsOp "(")
    (operand : ∀ ts, definedOperand (u :: ts) = expect ")" ts >>= fun ts => .ok (.defined name, ts))
    (isClosing : closing.IsOp ")") :
    Reads operandExpr EndsOperand 7 [t, opening, u, closing] (.defined name) := by
  intro n rest enough _
  simp only [List.length_cons, List.length_nil] at enough
  obtain ⟨n, rfl⟩ : ∃ k, n = k + 1 := ⟨n - 1, by omega⟩
  simp only [List.cons_append, List.nil_append]
  rw [operandExpr]
  have called := accept_of_isSign ((isOpening.sign.isSign ["("]).trans rfl) (u :: closing :: rest)
  simp only [kind, text, called, if_true]
  rw [operand, expect_of_isSign ((isClosing.sign.isSign _).trans rfl)]
  rfl

end Steps

/-! ## Arguments -/

/-- The text of a closing bracket ends a list of arguments and is no comma. -/
theorem argumentsRest_closing {text : String} {closing : Token} (isClosing : closing.IsOp text)
    (ends : text ∈ [")", "]"]) (n : Nat) (rest : List Token) :
    argumentsRest (n + 1) text (closing :: rest) = .ok ([], rest) := by
  have noComma : accept [","] (closing :: rest) = none := by
    refine accept_of_sign isClosing.sign ?_ rest
    simp only [List.mem_cons, List.not_mem_nil, or_false] at ends
    rcases ends with rfl | rfl <;> rfl
  have found : isSign [text] closing = true := by simp [isClosing.sign.isSign]
  rw [argumentsRest_succ, noComma]
  simp only
  rw [expect_of_isSign found]
  rfl

/-- **Pieces between commas are read** as arguments, up to the closing bracket. -/
theorem argumentsFrom_of_commas {text : String} {closing : Token} (isClosing : closing.IsOp text)
    (ends : text ∈ [")", "]"]) {pieces : List (List Token × Expr)} {inner : List Token}
    (commas : Commas pieces inner) (nonempty : pieces ≠ [])
    (each : ∀ p ∈ pieces, 0 < p.1.length ∧ Reads orExpr EndsExpr 2 p.1 p.2) :
    ∀ n rest, 8 * inner.length ≤ n + 2 →
      argumentsFrom n text (inner ++ closing :: rest) = .ok (pieces.map Prod.snd, rest) := by
  induction commas with
  | none => exact absurd rfl nonempty
  | one p =>
    -- The last piece stands before the closing bracket.
    intro n rest enough
    obtain ⟨pos, reads⟩ := each p (by simp)
    obtain ⟨n, rfl⟩ : ∃ k, n = k + 1 := ⟨n - 1, by omega⟩
    have atEnd : EndsExpr (closing :: rest) :=
      endsExpr_of_isOp isClosing (List.mem_append_left [","] ends) rest
    rw [argumentsFrom, reads (n + 1) _ enough atEnd]
    change (argumentsRest (n + 1) text (closing :: rest) >>= fun q => .ok (p.2 :: q.1, q.2)) = _
    rw [argumentsRest_closing isClosing ends]
    rfl
  | @more p q pieces comma ts isComma _ ih =>
    intro n rest enough
    simp only [List.length_append, List.length_cons] at enough
    obtain ⟨pos, reads⟩ := each p (by simp)
    obtain ⟨n, rfl⟩ : ∃ k, n = k + 1 := ⟨n - 1, by omega⟩
    -- Behind the comma the list starts over, with one unit of fuel less.
    have others := ih (by simp) (fun p inside => each p (by simp [inside])) n rest (by omega)
    have first := reads (n + 1) (comma :: (ts ++ closing :: rest)) (by omega)
      (endsExpr_of_isOp isComma (by decide) _)
    rw [argumentsFrom, List.append_assoc, List.cons_append, first]
    change (argumentsRest (n + 1) text (comma :: (ts ++ closing :: rest)) >>=
      fun q => .ok (p.2 :: q.1, q.2)) = _
    rw [argumentsRest_succ, accept_of_isSign ((isComma.sign.isSign _).trans rfl)]
    simp only
    rw [others]
    rfl

/-- An expression does not start with a closing bracket. -/
theorem not_isSign_of_starts {text : String} (ends : text ∈ [")", "]"]) {t : Token}
    (starts : Level.or.Starts t) : isSign [text] t = false := by
  simp only [List.mem_cons, List.not_mem_nil, or_false] at ends
  rcases starts with (operand | bang | minus) | keyword
  · rcases ends with rfl | rfl <;> exact operand.isSign rfl rfl
  · rcases ends with rfl | rfl <;> exact (bang.sign.isSign _).trans rfl
  · rcases ends with rfl | rfl <;> exact (minus.sign.isSign _).trans rfl
  · rcases ends with rfl | rfl <;> exact (keyword.sign.isSign _).trans rfl

/-- A list of pieces, empty or not, is read up to the closing bracket. -/
theorem arguments_of_commas {text : String} {closing : Token} (isClosing : closing.IsOp text)
    (ends : text ∈ [")", "]"]) {pieces : List (List Token × Expr)} {inner : List Token}
    (commas : Commas pieces inner) (derived : ∀ p ∈ pieces, Derives .or p.1 p.2)
    (each : ∀ p ∈ pieces, Reads orExpr EndsExpr 2 p.1 p.2) {n : Nat} (rest : List Token)
    (enough : 8 * inner.length ≤ n + 2) :
    arguments (n + 1) text (inner ++ closing :: rest) = .ok (pieces.map Prod.snd, rest) := by
  rw [arguments_succ]
  cases pieces with
  | nil =>
    cases commas
    have found : isSign [text] closing = true := by simp [isClosing.sign.isSign]
    rw [List.nil_append, accept_of_isSign found]
    rfl
  | cons p pieces =>
    -- The first piece starts the list, so the closing bracket does not come at once.
    obtain ⟨more, rfl⟩ : ∃ more, inner = p.1 ++ more := by
      cases commas with
      | one => exact ⟨[], by simp⟩
      | more => exact ⟨_, rfl⟩
    obtain ⟨t, tail, first, starts⟩ := (derived p (by simp)).head
    have notYet : accept [text] (p.1 ++ more ++ closing :: rest) = none := by
      rw [first]
      exact accept_of_not_isSign (not_isSign_of_starts ends starts) _
    rw [notYet]
    exact argumentsFrom_of_commas isClosing ends commas (by simp)
      (fun q inside => ⟨(derived q inside).length_pos, each q inside⟩) n rest enough

/-- A call is read. -/
theorem reads_call {t opening closing : Token} {pieces : List (List Token × Expr)}
    {inner : List Token} (kind : t.kind = .name) (notDefined : t.text ≠ "defined")
    (isOpening : opening.IsOp "(") (commas : Commas pieces inner)
    (derived : ∀ p ∈ pieces, Derives .or p.1 p.2)
    (each : ∀ p ∈ pieces, Reads orExpr EndsExpr 2 p.1 p.2) (isClosing : closing.IsOp ")") :
    Reads operandExpr EndsOperand 7 (t :: opening :: (inner ++ [closing]))
      (.call t.text (pieces.map Prod.snd)) := by
  intro n rest enough _
  simp only [List.length_cons, List.length_append, List.length_nil] at enough
  obtain ⟨n, rfl⟩ : ∃ k, n = k + 2 := ⟨n - 2, by omega⟩
  have args : arguments (n + 1) ")" (inner ++ closing :: rest) = .ok (pieces.map Prod.snd, rest) :=
    arguments_of_commas isClosing (by decide) commas derived each rest (by omega)
  simp only [List.cons_append, List.append_assoc, List.nil_append]
  rw [operandExpr]
  have called : accept ["("] (opening :: (inner ++ closing :: rest)) =
      some (inner ++ closing :: rest) :=
    accept_of_isSign ((isOpening.sign.isSign _).trans rfl) _
  simp only [kind, called, if_neg notDefined, args]
  rfl

/-- A list is read. -/
theorem reads_list {opening closing : Token} {pieces : List (List Token × Expr)}
    {inner : List Token} (isOpening : opening.IsOp "[") (commas : Commas pieces inner)
    (derived : ∀ p ∈ pieces, Derives .or p.1 p.2)
    (each : ∀ p ∈ pieces, Reads orExpr EndsExpr 2 p.1 p.2) (isClosing : closing.IsOp "]") :
    Reads operandExpr EndsOperand 7 (opening :: (inner ++ [closing]))
      (.list (pieces.map Prod.snd)) := by
  intro n rest enough _
  simp only [List.length_cons, List.length_append, List.length_nil] at enough
  obtain ⟨n, rfl⟩ : ∃ k, n = k + 2 := ⟨n - 2, by omega⟩
  have args : arguments (n + 1) "]" (inner ++ closing :: rest) = .ok (pieces.map Prod.snd, rest) :=
    arguments_of_commas isClosing (by decide) commas derived each rest (by omega)
  obtain ⟨kind, text⟩ := isOpening
  simp only [List.cons_append, List.append_assoc, List.nil_append]
  rw [operandExpr]
  simp only [kind, text, args]
  rfl

end Parser

namespace Grammar

open LineGate.Parser

/-- Alternatives that have been reached are read. -/
theorem Derives.reads_or {ts : List Token} {e : Expr} (derived : Derives .or ts e)
    (h : LevelReads .or ts e) : Reads orExpr EndsExpr 2 ts e :=
  Chain.Reaches.reads h derived.length_pos (by omega)

/-- **What the grammar derives is read**, at every level. -/
theorem Derives.reads {level : Level} {ts : List Token} {e : Expr} (h : Derives level ts e) :
    LevelReads level ts e := by
  -- Along the derivation: chains grow to the left, and brackets start over at the loosest level.
  induction h with
  | ofAnd derived ih =>
    exact Chain.reaches_of_reads (Chain.Reaches.reads ih derived.length_pos (by omega))
      derived.length_pos (by omega)
  | or left sign right ihl ihr =>
    rw [List.append_cons]
    exact Chain.Reaches.join ihl (Chain.Reaches.reads ihr right.length_pos (by omega))
      left.length_pos (by simp) (by omega) (fun rest => endsConjunction_of_or sign rest)
      (fun rest => by
        rcases sign with isOp | isKeyword
        · simp [alternatives, accept, isOp.sign.isSign]
        · simp [alternatives, accept, isKeyword.sign.isSign])
  | ofNot derived ih => exact Chain.reaches_of_reads ih derived.length_pos (by omega)
  | and left sign right ihl ihr =>
    rw [List.append_cons]
    exact Chain.Reaches.join ihl ihr left.length_pos (by simp) (by omega)
      (fun rest => endsComparison_of_and sign rest)
      (fun rest => by
        rcases sign with isOp | isKeyword
        · simp [conjunctions, accept, isOp.sign.isSign]
        · simp [conjunctions, accept, isKeyword.sign.isSign])
  | ofComparison derived ih =>
    exact reads_not_of_comparison (Chain.Reaches.reads ih derived.length_pos (by omega)) derived
  | not keyword _ ih => exact reads_not keyword ih
  | ofUnary derived ih => exact Chain.reaches_of_reads ih derived.length_pos (by omega)
  | compare left isComparison right ihl ihr =>
    exact Chain.Reaches.join ihl ihr left.length_pos (by cases isComparison <;> simp) (by omega)
      (fun rest => endsOperand_of_isComparison isComparison rest)
      (fun rest => by simp [comparisons, comparison?_of_isComparison isComparison])
  | ofOperand derived ih => exact reads_unary_of_operand ih derived
  | bang sign _ ih => exact reads_bang sign ih
  | minus sign _ ih => exact reads_minus sign ih
  | number kind value =>
    exact reads_token fun n rest _ => by simp only [operandExpr, kind, value]; rfl
  | string kind => exact reads_token fun n rest _ => by simp only [operandExpr, kind]
  | literal kind => exact reads_token fun n rest _ => by simp only [operandExpr, kind]
  | name kind =>
    -- A name is no call, because no bracket follows.
    refine reads_token fun n rest atEnd => ?_
    have noCall : accept ["("] rest = none := atEnd
    simp only [operandExpr, kind, noCall]
  | definedName kind text isOpening operand isClosing =>
    exact reads_defined kind text isOpening
      (fun ts => by simp only [definedOperand, operand]; rfl) isClosing
  | definedString kind text isOpening operand isClosing =>
    exact reads_defined kind text isOpening
      (fun ts => by simp only [definedOperand, operand]; rfl) isClosing
  | call kind notDefined isOpening commas derived isClosing ih =>
    exact reads_call kind notDefined isOpening commas derived
      (fun p inside => (derived p inside).reads_or (ih p inside)) isClosing
  | list isOpening commas derived isClosing ih =>
    exact reads_list isOpening commas derived
      (fun p inside => (derived p inside).reads_or (ih p inside)) isClosing
  | group isOpening derived isClosing ih =>
    exact reads_group isOpening (derived.reads_or ih) isClosing

/-- **Completeness**: tokens that derive an expression are read as that expression. -/
theorem Derives.ofTokens_eq {ts : List Token} {e : Expr} (h : Derives .or ts e) :
    ofTokens ts = .ok e := by
  have whole : orExpr (fuel ts) ts = .ok (e, []) := by
    have := h.reads_or h.reads (fuel ts) [] (by rw [fuel]; omega) endsExpr_nil
    rwa [List.append_nil] at this
  have nonempty : ts.isEmpty = false := by
    obtain ⟨t, rest, rfl, _⟩ := h.head
    rfl
  rw [ofTokens, nonempty, whole]
  rfl

/-- **The grammar is unambiguous**: tokens derive at most one expression. -/
theorem Derives.unique {ts : List Token} {e e' : Expr} (h : Derives .or ts e)
    (h' : Derives .or ts e') : e = e' :=
  Except.ok.inj (h.ofTokens_eq.symm.trans h'.ofTokens_eq)

end Grammar

end LineGate
