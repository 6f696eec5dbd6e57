import LineGate.Proofs.Expr.Lexeme
import LineGate.Proofs.Expr.Completeness

/-! # What is read is derived

On proper tokens every function of the parser gives an expression that the tokens it took derive, or
stops with a fault of syntax. Both halves are one statement, `Meets`, which is proved for all the
functions together by induction on the fuel (`Parser.sound`). With completeness it makes the parser
and the grammar agree on every list of tokens that a source text has. -/

namespace LineGate

open Grammar (Level Derives IsComparison Commas)

/-- A fault is **of syntax**; only the digit limit is not. -/
def SyntaxFault.IsSyntactic : SyntaxFault → Prop
  | .digits _ => False
  | _ => True

namespace Parser

/-! ## Outcomes -/

/-- An outcome **meets** a condition: a result satisfies it, and a fault is one of syntax. -/
def Meets {α : Type} (P : α → Prop) : Result α → Prop
  | .ok a => P a
  | .error fault => fault.IsSyntactic

/-- A computation meets what its second part makes of every result of the first. -/
theorem Meets.bind {α β : Type} {P : α → Prop} {Q : β → Prop} {x : Result α} {f : α → Result β}
    (h : Meets P x) (next : ∀ a, P a → Meets Q (f a)) : Meets Q (x >>= f) := by
  cases x with
  | error fault => exact h
  | ok a => exact next a h

/-- A weaker condition is met as well. -/
theorem Meets.imp {α : Type} {P Q : α → Prop} {x : Result α} (h : Meets P x)
    (weaker : ∀ a, P a → Q a) : Meets Q x := by
  cases x with
  | error fault => exact h
  | ok a => exact weaker a h

/-- All tokens of a list are **proper**. -/
def AllProper (ts : List Token) : Prop := ∀ t ∈ ts, t.Proper

/-- The tokens behind the first are proper. -/
theorem AllProper.tail {t : Token} {ts : List Token} (h : AllProper (t :: ts)) : AllProper ts :=
  fun u inside => h u (List.mem_cons_of_mem t inside)

/-- The tokens behind some are proper. -/
theorem AllProper.right {used rest : List Token} (h : AllProper (used ++ rest)) : AllProper rest :=
  fun t inside => h t (List.mem_append_right used inside)

/-- The expression that was **read from** `ts`, behind the tokens `before`: the tokens taken derive
it, and the others are left. -/
def ReadFrom (level : Level) (before ts : List Token) (p : Expr × List Token) : Prop :=
  ∃ used, ts = used ++ p.2 ∧ Derives level (before ++ used) p.1

/-! ## Signs -/

/-- A proper token that is accepted as a sign is an operator or a keyword of the lists. -/
theorem isSign_cases {texts : List String} {t : Token} (proper : t.Proper)
    (h : isSign texts t = true) :
    t.text ∈ texts ∧ (t.IsOp t.text ∧ t.text ∈ Token.operators ∨
      t.IsKeyword t.text ∧ t.text ∈ Token.keywords) := by
  simp only [isSign, Bool.and_eq_true, Bool.or_eq_true, beq_iff_eq, List.contains_iff_mem] at h
  obtain ⟨kind | kind, wanted⟩ := h
  · exact ⟨wanted, .inl ⟨⟨kind, rfl⟩, proper.op kind⟩⟩
  · exact ⟨wanted, .inr ⟨⟨kind, rfl⟩, proper.keyword kind⟩⟩

/-- A proper token that is accepted as an operator is that operator. -/
theorem isOp_of_isSign {text : String} {t : Token} (proper : t.Proper)
    (h : isSign [text] t = true) (other : text ∉ Token.keywords) : t.IsOp text := by
  obtain ⟨wanted, ⟨isOp, _⟩ | ⟨_, keyword⟩⟩ := isSign_cases proper h
  · rwa [List.mem_singleton.mp wanted] at isOp
  · exact absurd (List.mem_singleton.mp wanted ▸ keyword) other

/-- A proper token that is accepted as a keyword is that keyword. -/
theorem isKeyword_of_isSign {text : String} {t : Token} (proper : t.Proper)
    (h : isSign [text] t = true) (other : text ∉ Token.operators) : t.IsKeyword text := by
  obtain ⟨wanted, ⟨_, operator⟩ | ⟨isKeyword, _⟩⟩ := isSign_cases proper h
  · exact absurd (List.mem_singleton.mp wanted ▸ operator) other
  · rwa [List.mem_singleton.mp wanted] at isKeyword

/-- A proper token that is accepted as one of two signs is that operator or that keyword. -/
theorem isOp_or_isKeyword_of_isSign {sign word : String} {t : Token} (proper : t.Proper)
    (h : isSign [sign, word] t = true) (noKeyword : sign ∉ Token.keywords)
    (noOperator : word ∉ Token.operators) : t.IsOp sign ∨ t.IsKeyword word := by
  obtain ⟨wanted, found⟩ := isSign_cases proper h
  simp only [List.mem_cons, List.not_mem_nil, or_false] at wanted
  rcases wanted with text | text <;> rw [text] at found
  · exact .inl (found.resolve_right fun keyword => noKeyword keyword.2).1
  · exact .inr (found.resolve_left fun operator => noOperator operator.2).1

/-- The sign that has to come next is there, or its absence is a fault of syntax. -/
theorem expect_meets (wanted : String) (ts : List Token) :
    Meets (fun rest => ∃ t, ts = t :: rest ∧ isSign [wanted] t = true) (expect wanted ts) := by
  unfold expect
  split
  case h_1 rest accepted => exact accept_eq_some accepted
  case h_2 =>
    split
    · trivial
    · trivial

/-- A closing bracket that has to come next is there, or its absence is a fault of syntax. -/
theorem expect_closing_meets (closing : String) (other : closing ∉ Token.keywords)
    {ts : List Token} (proper : AllProper ts) :
    Meets (fun rest => ∃ t, ts = t :: rest ∧ t.IsOp closing) (expect closing ts) :=
  (expect_meets closing ts).imp fun _ ⟨t, found, isSign⟩ =>
    ⟨t, found, isOp_of_isSign (proper t (found ▸ List.mem_cons_self)) isSign other⟩

/-- An entry of the table of comparisons is written with its symbol, and the only keyword of the
table is `in`. -/
theorem of_mem_comparisonSigns {p : String × Comparison} (inside : p ∈ comparisonSigns) :
    p.2.symbol = p.1 ∧ (p.1 ∈ Token.keywords → p = ("in", .member)) := by
  revert p
  decide

/-- What is read as a comparison operator is one of the grammar. -/
theorem isComparison_of_comparison? {ts rest : List Token} {op : Comparison}
    (proper : AllProper ts) (found : comparison? ts = some (op, rest)) :
    ∃ sep, ts = sep ++ rest ∧ IsComparison sep op := by
  cases ts with
  | nil => cases found
  | cons t tail =>
    have first : t.Proper := proper t List.mem_cons_self
    simp only [comparison?.eq_def] at found
    split at found
    case isTrue isNot =>
      -- `not` compares only together with `in`.
      cases tail with
      | nil => cases found
      | cons u tail =>
        simp only at found
        split at found
        case isTrue isIn =>
          cases found
          simp only [Bool.and_eq_true, beq_iff_eq] at isIn
          exact ⟨[t, u], rfl, .notMember (isKeyword_of_isSign first isNot (by decide)) isIn⟩
        case isFalse => cases found
    case isFalse notNot =>
      split at found
      case isFalse => cases found
      case isTrue kind =>
        obtain ⟨op', looked, pair⟩ := Option.map_eq_some_iff.mp found
        cases pair
        obtain ⟨before, after, table, _⟩ := List.lookup_eq_some_iff.mp looked
        have inside : (t.text, op) ∈ comparisonSigns := by simp [table]
        obtain ⟨symbol, onlyIn⟩ := of_mem_comparisonSigns inside
        simp only [Bool.or_eq_true, beq_iff_eq] at kind
        refine ⟨[t], rfl, ?_⟩
        rcases kind with isOp | isKeyword
        · exact .sign (symbol ▸ first.op isOp) ⟨isOp, symbol.symm⟩
        · obtain ⟨text, rfl⟩ := Prod.mk.inj (onlyIn (first.keyword isKeyword))
          exact .member ⟨isKeyword, text⟩

/-! ## Chains -/

/-- A function is **sound** at a level for one amount of fuel. -/
def SoundAt (level : Level) (parse : List Token → Result (Expr × List Token)) : Prop :=
  ∀ ts, AllProper ts → Meets (ReadFrom level [] ts) (parse ts)

namespace Chain

/-- A chain is **grammatical** for a level and the next tighter one: an operand is a chain, and each
operator that it reads is one of the level. -/
structure Grammatical (c : Chain) (level tighter : Level) : Prop where
  /-- One operand is a chain. -/
  single : ∀ {ts e}, Derives tighter ts e → Derives level ts e
  /-- What is read as an operator joins a chain and an operand. -/
  join : ∀ {ts join us}, AllProper ts → c.join? ts = some (join, us) → ∃ sep, ts = sep ++ us ∧
    ∀ {ls l rs r}, Derives level ls l → Derives tighter rs r →
      Derives level (ls ++ sep ++ rs) (join l r)

/-- The rest of a chain is **sound** behind every chain that has been read, for one amount of
fuel. -/
def RestSound (c : Chain) (level : Level) (n : Nat) : Prop :=
  ∀ l before ts, AllProper ts → Derives level before l →
    Meets (ReadFrom level before ts) (c.rest n l ts)

variable {c : Chain} {level tighter : Level} {n : Nat}

/-- A chain is sound when its first operand and its rest are. -/
theorem whole_sound (grammatical : c.Grammatical level tighter)
    (operand : SoundAt tighter (c.operand n)) (rest : c.RestSound level n) :
    SoundAt level (c.whole (n + 1)) := by
  intro ts proper
  rw [c.whole_succ]
  refine (operand ts proper).bind ?_
  rintro ⟨l, us⟩ ⟨used, rfl, derived⟩
  -- The first operand is what has been read when the rest of the chain starts.
  refine (rest l used us proper.right (grammatical.single derived)).imp ?_
  rintro ⟨e, vs⟩ ⟨more, rfl, whole⟩
  exact ⟨used ++ more, by simp, whole⟩

/-- One more operator and operand keep the rest of a chain sound. -/
theorem rest_sound (grammatical : c.Grammatical level tighter)
    (operand : SoundAt tighter (c.operand n)) (rest : c.RestSound level n) :
    c.RestSound level (n + 1) := by
  intro l before ts proper left
  cases found : c.join? ts with
  | none =>
    rw [c.rest_stop n l ts found]
    exact ⟨[], rfl, by simpa using left⟩
  | some p =>
    obtain ⟨join, us⟩ := p
    obtain ⟨sep, rfl, joins⟩ := grammatical.join proper found
    rw [c.rest_join n l _ join us found]
    refine (operand us proper.right).bind ?_
    rintro ⟨r, vs⟩ ⟨used, rfl, right⟩
    -- The operator and the right operand become part of what has been read.
    have joined := rest (join l r) (before ++ sep ++ used) vs proper.right.right (joins left right)
    refine joined.imp ?_
    rintro ⟨e, ws⟩ ⟨more, rfl, whole⟩
    exact ⟨sep ++ (used ++ more), by simp, by simpa using whole⟩

end Chain

/-- Alternatives follow the grammar. -/
theorem alternatives_grammatical : alternatives.Grammatical .or .and where
  single := .ofAnd
  join := by
    intro ts join us proper found
    obtain ⟨rest, accepted, pair⟩ := Option.map_eq_some_iff.mp found
    cases pair
    obtain ⟨t, rfl, isSign⟩ := accept_eq_some accepted
    have sign := isOp_or_isKeyword_of_isSign (proper t List.mem_cons_self) isSign
      (by decide) (by decide)
    refine ⟨[t], rfl, fun left right => ?_⟩
    rw [← List.append_cons]
    exact .or left sign right

/-- Conjunctions follow the grammar. -/
theorem conjunctions_grammatical : conjunctions.Grammatical .and .not where
  single := .ofNot
  join := by
    intro ts join us proper found
    obtain ⟨rest, accepted, pair⟩ := Option.map_eq_some_iff.mp found
    cases pair
    obtain ⟨t, rfl, isSign⟩ := accept_eq_some accepted
    have sign := isOp_or_isKeyword_of_isSign (proper t List.mem_cons_self) isSign
      (by decide) (by decide)
    refine ⟨[t], rfl, fun left right => ?_⟩
    rw [← List.append_cons]
    exact .and left sign right

/-- Comparisons follow the grammar. -/
theorem comparisons_grammatical : comparisons.Grammatical .comparison .unary where
  single := .ofUnary
  join := by
    intro ts join us proper found
    obtain ⟨⟨op, rest⟩, compared, pair⟩ := Option.map_eq_some_iff.mp found
    cases pair
    obtain ⟨sep, rfl, isComparison⟩ := isComparison_of_comparison? proper compared
    exact ⟨sep, rfl, fun left right => .compare left isComparison right⟩

/-! ## Prefixes -/

section Steps

variable {n : Nat}

/-- Negations by the keyword are sound. -/
theorem notExpr_sound (again : SoundAt .not (notExpr n))
    (comparison : SoundAt .comparison (comparisonExpr n)) : SoundAt .not (notExpr (n + 1)) := by
  intro ts proper
  rw [notExpr]
  split
  case h_1 rest accepted =>
    obtain ⟨t, rfl, isSign⟩ := accept_eq_some accepted
    have keyword := isKeyword_of_isSign (proper t List.mem_cons_self) isSign (by decide)
    refine (again rest proper.tail).bind ?_
    rintro ⟨e, us⟩ ⟨used, rfl, derived⟩
    exact ⟨t :: used, rfl, .not keyword derived⟩
  case h_2 =>
    refine (comparison ts proper).imp ?_
    rintro ⟨e, us⟩ ⟨used, rfl, derived⟩
    exact ⟨used, rfl, .ofComparison derived⟩

/-- Signs in front of an operand are sound. -/
theorem unaryExpr_sound (again : SoundAt .unary (unaryExpr n))
    (operand : SoundAt .operand (operandExpr n)) : SoundAt .unary (unaryExpr (n + 1)) := by
  intro ts proper
  rw [unaryExpr]
  split
  case h_1 rest accepted =>
    obtain ⟨t, rfl, isSign⟩ := accept_eq_some accepted
    have sign := isOp_of_isSign (proper t List.mem_cons_self) isSign (by decide)
    refine (again rest proper.tail).bind ?_
    rintro ⟨e, us⟩ ⟨used, rfl, derived⟩
    exact ⟨t :: used, rfl, .bang sign derived⟩
  case h_2 =>
    split
    case h_1 rest accepted =>
      obtain ⟨t, rfl, isSign⟩ := accept_eq_some accepted
      have sign := isOp_of_isSign (proper t List.mem_cons_self) isSign (by decide)
      refine (again rest proper.tail).bind ?_
      rintro ⟨e, us⟩ ⟨used, rfl, derived⟩
      exact ⟨t :: used, rfl, .minus sign derived⟩
    case h_2 =>
      refine (operand ts proper).imp ?_
      rintro ⟨e, us⟩ ⟨used, rfl, derived⟩
      exact ⟨used, rfl, .ofOperand derived⟩

/-! ## Arguments -/

/-- The **pieces read from** `ts` up to the closing bracket: the tokens taken are the pieces between
commas and the bracket, and each piece derives its expression. -/
def ListFrom (closing : String) (ts : List Token) (pieces : List (List Token × Expr))
    (p : List Expr × List Token) : Prop :=
  ∃ inner bracket, ts = inner ++ bracket :: p.2 ∧ bracket.IsOp closing ∧ Commas pieces inner ∧
    (∀ q ∈ pieces, Derives .or q.1 q.2) ∧ p.1 = pieces.map Prod.snd

/-- Lists of arguments are **sound** for one amount of fuel. -/
def ListSound (parse : String → List Token → Result (List Expr × List Token)) : Prop :=
  ∀ closing ∈ [")", "]"], ∀ ts, AllProper ts →
    Meets (fun p => ∃ pieces, ListFrom closing ts pieces p) (parse closing ts)

/-- The arguments behind a first one are **sound** for one amount of fuel: with that one in front
they are a list. -/
def ListRestSound (parse : String → List Token → Result (List Expr × List Token)) : Prop :=
  ∀ closing ∈ [")", "]"], ∀ first ts, AllProper ts → Derives .or first.1 first.2 →
    Meets (fun p => ∃ pieces,
      ListFrom closing (first.1 ++ ts) (first :: pieces) (first.2 :: p.1, p.2)) (parse closing ts)

/-- A closing bracket is no keyword. -/
theorem not_mem_keywords_of_closing {closing : String} (h : closing ∈ [")", "]"]) :
    closing ∉ Token.keywords := by
  revert closing
  decide

/-- From a first argument on, arguments are sound, and there is one. -/
theorem argumentsFrom_sound (first : SoundAt .or (orExpr n))
    (rest : ListRestSound (argumentsRest n)) {closing : String} (ends : closing ∈ [")", "]"])
    {ts : List Token} (proper : AllProper ts) :
    Meets (fun p => ∃ q pieces, ListFrom closing ts (q :: pieces) p)
      (argumentsFrom n closing ts) := by
  refine (first ts proper).bind ?_
  rintro ⟨e, us⟩ ⟨used, rfl, derived⟩
  refine (rest closing ends (used, e) us proper.right derived).bind ?_
  rintro ⟨es, vs⟩ ⟨pieces, list⟩
  exact ⟨(used, e), pieces, list⟩

/-- A list of arguments is sound. -/
theorem arguments_sound (first : SoundAt .or (orExpr n)) (rest : ListRestSound (argumentsRest n)) :
    ListSound (arguments (n + 1)) := by
  intro closing ends ts proper
  rw [arguments_succ]
  split
  case h_1 us accepted =>
    obtain ⟨t, rfl, isSign⟩ := accept_eq_some accepted
    have bracket := isOp_of_isSign (proper t List.mem_cons_self) isSign
      (not_mem_keywords_of_closing ends)
    exact ⟨[], [], t, rfl, bracket, .none, by simp, rfl⟩
  case h_2 =>
    refine (argumentsFrom_sound first rest ends proper).imp ?_
    rintro p ⟨q, pieces, list⟩
    exact ⟨q :: pieces, list⟩

/-- The arguments behind further commas are sound. -/
theorem argumentsRest_sound (next : SoundAt .or (orExpr n))
    (rest : ListRestSound (argumentsRest n)) : ListRestSound (argumentsRest (n + 1)) := by
  rintro closing ends ⟨used, e⟩ ts proper derived
  rw [argumentsRest_succ]
  split
  case h_1 us accepted =>
    -- A comma: the arguments behind it are a list, and the first one goes in front of it.
    obtain ⟨t, rfl, isSign⟩ := accept_eq_some accepted
    have comma := isOp_of_isSign (proper t List.mem_cons_self) isSign (by decide)
    refine (argumentsFrom_sound next rest ends proper.tail).imp ?_
    rintro ⟨es, vs⟩ ⟨q, pieces, inner, bracket, rfl, isClosing, commas, each, rfl⟩
    refine ⟨q :: pieces, used ++ t :: inner, bracket, by simp, isClosing, .more _ q comma commas,
      ?_, rfl⟩
    exact List.forall_mem_cons.mpr ⟨derived, each⟩
  case h_2 =>
    -- No comma: the list ends, and the bracket has to be there.
    refine (expect_closing_meets closing (not_mem_keywords_of_closing ends) proper).bind ?_
    rintro us ⟨bracket, rfl, isClosing⟩
    exact ⟨[], used, bracket, rfl, isClosing, .one (used, e), by simpa using derived, rfl⟩

/-! ## Operands -/

/-- The operand of the built-in test is one name or one text before a closing bracket. -/
theorem definedOperand_sound {t opening : Token} {ts : List Token} (proper : AllProper ts)
    (kind : t.kind = .name) (text : t.text = "defined") (isOpening : opening.IsOp "(") :
    Meets (ReadFrom .operand [t, opening] ts) (definedOperand ts) := by
  cases ts with
  | nil => trivial
  | cons u us =>
    have closes := expect_closing_meets ")" (by decide) proper.tail
    cases operand : u.kind with
    | name =>
      simp only [definedOperand, operand]
      refine closes.bind ?_
      rintro rest ⟨bracket, rfl, isClosing⟩
      exact ⟨[u, bracket], rfl, .definedName kind text isOpening operand isClosing⟩
    | string =>
      simp only [definedOperand, operand]
      refine closes.bind ?_
      rintro rest ⟨bracket, rfl, isClosing⟩
      exact ⟨[u, bracket], rfl, .definedString kind text isOpening operand isClosing⟩
    | _ =>
      simp only [definedOperand, operand]
      trivial

/-- Operands are sound. -/
theorem operandExpr_sound (group : SoundAt .or (orExpr n)) (list : ListSound (arguments n)) :
    SoundAt .operand (operandExpr (n + 1)) := by
  intro ts proper
  cases ts with
  | nil =>
    rw [operandExpr]
    · trivial
    · simp
  | cons t us =>
    have first : t.Proper := proper t List.mem_cons_self
    rw [operandExpr]
    split
    case h_1 kind =>
      -- The only place where the digit limit could stop the parser.
      obtain ⟨v, value⟩ := first.number kind
      rw [value]
      exact ⟨[t], rfl, .number kind value⟩
    case h_2 kind => exact ⟨[t], rfl, .string kind⟩
    case h_3 kind => exact ⟨[t], rfl, .literal kind⟩
    case h_4 kind =>
      -- A name: a variable, the built-in test or a call.
      split
      case h_1 => exact ⟨[t], rfl, .name kind⟩
      case h_2 vs accepted =>
        obtain ⟨opening, rfl, isSign⟩ := accept_eq_some accepted
        have isOpening := isOp_of_isSign (proper.tail opening List.mem_cons_self) isSign (by decide)
        split
        case isTrue text =>
          refine (definedOperand_sound proper.tail.tail kind text isOpening).imp ?_
          rintro ⟨e, ws⟩ ⟨used, rfl, derived⟩
          exact ⟨t :: opening :: used, rfl, derived⟩
        case isFalse notDefined =>
          refine (list ")" (by decide) vs proper.tail.tail).bind ?_
          rintro ⟨es, ws⟩ ⟨pieces, inner, bracket, rfl, isClosing, commas, each, rfl⟩
          exact ⟨t :: opening :: (inner ++ [bracket]), by simp,
            .call kind notDefined isOpening commas each isClosing⟩
    case h_5 kind =>
      -- An operator: only the two opening brackets start an operand.
      split
      case isTrue text =>
        refine (group us proper.tail).bind ?_
        rintro ⟨e, vs⟩ ⟨used, rfl, derived⟩
        refine (expect_closing_meets ")" (by decide) proper.tail.right).bind ?_
        rintro rest ⟨bracket, rfl, isClosing⟩
        exact ⟨t :: (used ++ [bracket]), by simp, .group ⟨kind, text⟩ derived isClosing⟩
      case isFalse =>
        split
        case isTrue text =>
          refine (list "]" (by decide) us proper.tail).bind ?_
          rintro ⟨es, vs⟩ ⟨pieces, inner, bracket, rfl, isClosing, commas, each, rfl⟩
          exact ⟨t :: (inner ++ [bracket]), by simp, .list ⟨kind, text⟩ commas each isClosing⟩
        case isFalse => trivial
    case h_6 => trivial

end Steps

/-! ## All functions together -/

/-- **Soundness** of all the functions for one amount of fuel. -/
structure Sound (n : Nat) : Prop where
  orExpr : SoundAt .or (orExpr n)
  orRest : alternatives.RestSound .or n
  andExpr : SoundAt .and (andExpr n)
  andRest : conjunctions.RestSound .and n
  notExpr : SoundAt .not (notExpr n)
  comparisonExpr : SoundAt .comparison (comparisonExpr n)
  comparisonRest : comparisons.RestSound .comparison n
  unaryExpr : SoundAt .unary (unaryExpr n)
  operandExpr : SoundAt .operand (operandExpr n)
  arguments : ListSound (arguments n)
  argumentsRest : ListRestSound (argumentsRest n)

/-- Without fuel every function stops with a fault of syntax. -/
theorem sound_zero : Sound 0 where
  orExpr _ _ := by rw [Parser.orExpr]; trivial
  orRest _ _ _ _ _ := by rw [alternatives.rest_zero]; trivial
  andExpr _ _ := by rw [Parser.andExpr]; trivial
  andRest _ _ _ _ _ := by rw [conjunctions.rest_zero]; trivial
  notExpr _ _ := by rw [Parser.notExpr]; trivial
  comparisonExpr _ _ := by rw [Parser.comparisonExpr]; trivial
  comparisonRest _ _ _ _ _ := by rw [comparisons.rest_zero]; trivial
  unaryExpr _ _ := by rw [Parser.unaryExpr]; trivial
  operandExpr _ _ := by rw [Parser.operandExpr]; trivial
  arguments _ _ _ _ := by rw [Parser.arguments]; trivial
  argumentsRest _ _ _ _ _ _ := by rw [Parser.argumentsRest]; trivial

/-- One more unit of fuel keeps every function sound. -/
theorem Sound.succ {n : Nat} (h : Sound n) : Sound (n + 1) where
  orExpr := Chain.whole_sound alternatives_grammatical h.andExpr h.orRest
  orRest := Chain.rest_sound alternatives_grammatical h.andExpr h.orRest
  andExpr := Chain.whole_sound conjunctions_grammatical h.notExpr h.andRest
  andRest := Chain.rest_sound conjunctions_grammatical h.notExpr h.andRest
  notExpr := notExpr_sound h.notExpr h.comparisonExpr
  comparisonExpr := Chain.whole_sound comparisons_grammatical h.unaryExpr h.comparisonRest
  comparisonRest := Chain.rest_sound comparisons_grammatical h.unaryExpr h.comparisonRest
  unaryExpr := unaryExpr_sound h.unaryExpr h.operandExpr
  operandExpr := operandExpr_sound h.orExpr h.arguments
  arguments := arguments_sound h.orExpr h.argumentsRest
  argumentsRest := argumentsRest_sound h.orExpr h.argumentsRest

/-- **Every function is sound**, with any amount of fuel. -/
theorem sound (n : Nat) : Sound n := by
  induction n with
  | zero => exact sound_zero
  | succ n ih => exact ih.succ

/-- **Soundness**: what proper tokens are read as is derived from all of them, and every fault is
one of syntax. -/
theorem ofTokens_meets {ts : List Token} (proper : AllProper ts) :
    Meets (Derives .or ts) (ofTokens ts) := by
  unfold ofTokens
  split
  case isTrue => trivial
  case isFalse =>
    have outcome := (sound (fuel ts)).orExpr ts proper
    split
    case h_1 fault failed => rwa [failed] at outcome
    case h_2 e read =>
      -- No token is left, so those taken are all of them.
      rw [read] at outcome
      obtain ⟨used, all, derived⟩ := outcome
      rw [all, List.append_nil]
      exact derived
    case h_3 => trivial

/-- **The parser decides the grammar.** On the tokens of a source text in which no plain integer
exceeds the digit limit, every number has a value, and reading gives an expression exactly when the
tokens derive it. No list of tokens derives two expressions. Tokens that derive none are rejected
with a fault of syntax. -/
theorem ofTokens_eq_ok_iff_derives {source : String} {ts : List Token}
    (scanned : Token.tokenize source = .ok ts)
    (short : ∀ t ∈ ts, t.IsPlainInteger → t.text.length ≤ integerDigitLimit) :
    (∀ t ∈ ts, t.kind = .number → ∃ v, numberValue t = .ok v) ∧
    (∀ e, ofTokens ts = .ok e ↔ Derives .or ts e) ∧
    (∀ us e e', Derives .or us e → Derives .or us e' → e = e') ∧
    ((¬∃ e, Derives .or ts e) → ∃ fault, ofTokens ts = .error fault ∧ fault.IsSyntactic) := by
  have proper := Token.proper_of_tokenize scanned short
  have outcome := ofTokens_meets proper
  refine ⟨fun t inside => (proper t inside).number,
    fun e => ⟨fun read => ?_, fun derived => derived.ofTokens_eq⟩,
    fun us e e' left right => left.unique right, fun none_derived => ?_⟩
  · rwa [read] at outcome
  · cases read : ofTokens ts with
    | ok e =>
      rw [read] at outcome
      exact absurd ⟨e, outcome⟩ none_derived
    | error fault =>
      rw [read] at outcome
      exact ⟨fault, rfl, outcome⟩

/-- The tokens of `not !A == 1 && B not in [2, C]`, with both negations and a negated membership
test. -/
def negations : List Token :=
  [⟨.keyword, "not", 0⟩, ⟨.op, "!", 4⟩, ⟨.name, "A", 5⟩, ⟨.op, "==", 7⟩, ⟨.number, "1", 10⟩,
    ⟨.op, "&&", 12⟩, ⟨.name, "B", 15⟩, ⟨.keyword, "not", 17⟩, ⟨.keyword, "in", 21⟩,
    ⟨.op, "[", 24⟩, ⟨.number, "2", 25⟩, ⟨.op, ",", 26⟩, ⟨.name, "C", 28⟩, ⟨.op, "]", 29⟩]

/-- The sign `!` negates the name alone and the keyword the whole comparison, while the keyword
before `in` is part of the operator. -/
theorem ofTokens_eq_ok_iff_derives_negations :
    Token.tokenize "not !A == 1 && B not in [2, C]" = .ok negations ∧
    Derives .or negations
      (.logical .and (.not (.compare .looseEq (.not (.name "A")) (.literal (.int 1))))
        (.compare .notMember (.name "B") (.list [.literal (.int 2), .name "C"]))) := by
  have tokens : (Token.tokenize "not !A == 1 && B not in [2, C]").toOption = some negations := by
    decide +kernel
  have scanned : Token.tokenize "not !A == 1 && B not in [2, C]" = .ok negations := by
    cases outcome : Token.tokenize "not !A == 1 && B not in [2, C]" with
    | error stray =>
      rw [outcome] at tokens
      cases tokens
    | ok ts =>
      rw [outcome] at tokens
      rw [Option.some.inj tokens]
  have read : ofTokens negations = .ok
      (.logical .and (.not (.compare .looseEq (.not (.name "A")) (.literal (.int 1))))
        (.compare .notMember (.name "B") (.list [.literal (.int 2), .name "C"]))) := rfl
  have lengths : ∀ t ∈ negations, t.text.length ≤ 3 := by decide
  have short : ∀ t ∈ negations, t.IsPlainInteger → t.text.length ≤ integerDigitLimit :=
    fun t inside _ => Nat.le_trans (lengths t inside) (by decide)
  exact ⟨scanned, ((ofTokens_eq_ok_iff_derives scanned short).2.1 _).mp read⟩

end Parser

end LineGate
