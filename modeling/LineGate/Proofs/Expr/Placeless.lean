import LineGate.Proofs.Expr.Descent
import LineGate.Proofs.Expr.Spaced

/-! # Places of tokens do not matter

The tokens of a condition carry their places, and the parser passes these on to its faults. Nothing
else depends on them: tokens with the same lexemes, at whatever places, are read alike
(`Parser.ofTokens_alike`). The outcomes are related by `Parser.Alike`, and a function of the parser
**heeds lexemes only** when it relates what it makes of tokens with the same lexemes
(`Parser.HeedsLexemes`); that all of them do is shown together by induction on the fuel.

Blanks change nothing but places. The lexemes of a source are those of its tokens' texts with one
space between neighbours, and sources with the same lexemes denote the same expression or none
(`Expr.spacing_irrelevant`). -/

namespace LineGate

/-- A fault with its place **forgotten**. -/
def SyntaxFault.unplaced : SyntaxFault → SyntaxFault
  | .stray c _ => .stray c 0
  | .unexpected text _ => .unexpected text 0
  | .mismatch wanted found _ => .mismatch wanted found 0
  | .definedOperand _ => .definedOperand 0
  | fault => fault

namespace Parser

/-! ## Outcomes alike -/

/-- Tokens with the **same lexemes**, one by one; their places may differ. -/
def SameLexemes (ts us : List Token) : Prop := ts.map Token.lexeme = us.map Token.lexeme

/-- Outcomes are **alike** when both are results, related by `R`, or both are faults that differ
in their places at most. -/
inductive Alike {α : Type} (R : α → α → Prop) : Result α → Result α → Prop where
  | ok {a b : α} : R a b → Alike R (.ok a) (.ok b)
  | error {f g : SyntaxFault} : f.unplaced = g.unplaced → Alike R (.error f) (.error g)

/-- Computations are alike, if their second parts are for alike results of the first ones. -/
theorem Alike.bind {α β : Type} {R : α → α → Prop} {S : β → β → Prop} {x y : Result α}
    {f g : α → Result β} (h : Alike R x y) (next : ∀ a b, R a b → Alike S (f a) (g b)) :
    Alike S (x >>= f) (y >>= g) := by
  cases h with
  | ok related => exact next _ _ related
  | error same => exact .error same

/-- Both outcomes are results, or both are faults. -/
theorem Alike.cases {α : Type} {R : α → α → Prop} {x y : Result α} (h : Alike R x y) :
    (∃ a b, x = .ok a ∧ y = .ok b ∧ R a b) ∨
      ∃ f g, x = .error f ∧ y = .error g ∧ f.unplaced = g.unplaced := by
  cases h with
  | ok related => exact .inl ⟨_, _, rfl, rfl, related⟩
  | error same => exact .inr ⟨_, _, rfl, rfl, same⟩

/-- Readings are **alike** when they give the same and leave tokens with the same lexemes. -/
def SameReading {α : Type} (p q : α × List Token) : Prop := p.1 = q.1 ∧ SameLexemes p.2 q.2

/-- A function of the parser **heeds lexemes only**: tokens with the same lexemes are read alike. -/
def HeedsLexemes {α : Type} (parse : List Token → Result (α × List Token)) : Prop :=
  ∀ ts us, SameLexemes ts us → Alike SameReading (parse ts) (parse us)

variable {α : Type} {ts us : List Token} {t u : Token} {n : Nat}

/-- Tokens with the same lexemes come to an end together. -/
theorem SameLexemes.cases (same : SameLexemes ts us) :
    ts = [] ∧ us = [] ∨
      ∃ kind text i j ts' us', ts = ⟨kind, text, i⟩ :: ts' ∧ us = ⟨kind, text, j⟩ :: us' ∧
        SameLexemes ts' us' := by
  cases ts with
  | nil =>
    cases us with
    | nil => exact .inl ⟨rfl, rfl⟩
    | cons u us => cases same
  | cons t ts =>
    cases us with
    | nil => cases same
    | cons u us =>
      obtain ⟨first, others⟩ := List.cons.inj same
      obtain ⟨kind, text, i⟩ := t
      obtain ⟨kind', text', j⟩ := u
      cases first
      exact .inr ⟨kind, text, i, j, ts, us, rfl, rfl, others⟩

/-- A function that fails at once heeds nothing. -/
theorem heedsLexemes_of_error {parse : List Token → Result (α × List Token)} {fault : SyntaxFault}
    (fails : ∀ ts, parse ts = .error fault) : HeedsLexemes parse := by
  intro ts us _
  rw [fails, fails]
  exact .error rfl

/-- What is made of the expression that was read does not concern the tokens left. -/
theorem Alike.map_reading {β : Type} {x y : Result (α × List Token)} (h : Alike SameReading x y)
    (f : α → β) :
    Alike SameReading (x >>= fun p => .ok (f p.1, p.2)) (y >>= fun p => .ok (f p.1, p.2)) := by
  refine h.bind ?_
  rintro ⟨a, ts⟩ ⟨b, us⟩ ⟨rfl, left⟩
  exact .ok ⟨rfl, left⟩

/-- What may come next is there on both sides, or on neither. -/
theorem cases_of_rel {R : α → α → Prop} {x y : Option α} (h : Option.Rel R x y) :
    x = none ∧ y = none ∨ ∃ a b, x = some a ∧ y = some b ∧ R a b := by
  cases h with
  | none => exact .inl ⟨rfl, rfl⟩
  | some related => exact .inr ⟨_, _, rfl, rfl, related⟩

/-! ## Signs -/

/-- Whether a sign comes next depends on its lexeme. -/
theorem accept_rel (texts : List String) (same : SameLexemes ts us) :
    Option.Rel SameLexemes (accept texts ts) (accept texts us) := by
  obtain ⟨rfl, rfl⟩ | ⟨kind, text, i, j, ts, us, rfl, rfl, others⟩ := same.cases
  · exact .none
  · change Option.Rel SameLexemes (if isSign texts ⟨kind, text, 0⟩ then some ts else none)
      (if isSign texts ⟨kind, text, 0⟩ then some us else none)
    cases isSign texts ⟨kind, text, 0⟩ with
    | true => exact .some others
    | false => exact .none

/-- The sign that has to come next is there on both sides, or missing on both. -/
theorem expect_alike (wanted : String) (same : SameLexemes ts us) :
    Alike SameLexemes (expect wanted ts) (expect wanted us) := by
  unfold expect
  obtain ⟨here, there⟩ | ⟨ts', us', here, there, others⟩ :=
    cases_of_rel (accept_rel [wanted] same)
  · rw [here, there]
    obtain ⟨rfl, rfl⟩ | ⟨kind, text, i, j, ts, us, rfl, rfl, -⟩ := same.cases
    · exact .error rfl
    · exact .error rfl
  · rw [here, there]
    exact .ok others

/-- Which comparison comes next depends on lexemes. -/
theorem comparison?_rel (same : SameLexemes ts us) :
    Option.Rel SameReading (comparison? ts) (comparison? us) := by
  obtain ⟨rfl, rfl⟩ | ⟨kind, text, i, j, ts, us, rfl, rfl, others⟩ := same.cases
  · exact .none
  · have sign : isSign ["not"] ⟨kind, text, i⟩ = isSign ["not"] ⟨kind, text, j⟩ := rfl
    simp only [comparison?.eq_def, sign]
    split
    · -- `not` compares if `in` comes next, which depends on the second lexeme.
      obtain ⟨rfl, rfl⟩ | ⟨kind, text, i, j, ts, us, rfl, rfl, behind⟩ := others.cases
      · exact .none
      · simp only
        split
        · exact .some ⟨rfl, behind⟩
        · exact .none
    · split
      · cases comparisonSigns.lookup text with
        | none => exact .none
        | some op => exact .some ⟨rfl, others⟩
      · exact .none

/-! ## Chains of operands -/

namespace Chain

variable {c : Chain}

/-- The operators of a chain depend on lexemes. -/
def JoinsLexemes (c : Chain) : Prop :=
  ∀ ts us, SameLexemes ts us → Option.Rel SameReading (c.join? ts) (c.join? us)

/-- A chain heeds lexemes if its operand and its rest do. -/
theorem heeds_whole (operand : HeedsLexemes (c.operand n))
    (rest : ∀ left, HeedsLexemes (c.rest n left)) : HeedsLexemes (c.whole (n + 1)) := by
  intro ts us same
  rw [c.whole_succ, c.whole_succ]
  refine (operand ts us same).bind ?_
  rintro ⟨left, ts'⟩ ⟨_, us'⟩ ⟨rfl, others⟩
  exact rest left ts' us' others

/-- The rest of a chain heeds lexemes: it stops on both sides, or goes on with an operand on both. -/
theorem heeds_rest (joins : c.JoinsLexemes) (operand : HeedsLexemes (c.operand n))
    (rest : ∀ left, HeedsLexemes (c.rest n left)) (left : Expr) :
    HeedsLexemes (c.rest (n + 1) left) := by
  intro ts us same
  obtain ⟨here, there⟩ | ⟨⟨join, ts'⟩, ⟨_, us'⟩, here, there, rfl, others⟩ :=
    cases_of_rel (joins ts us same)
  · rw [c.rest_stop n left ts here, c.rest_stop n left us there]
    exact .ok ⟨rfl, same⟩
  · rw [c.rest_join n left ts join ts' here, c.rest_join n left us join us' there]
    refine (operand ts' us' others).bind ?_
    rintro ⟨right, vs⟩ ⟨_, ws⟩ ⟨rfl, behind⟩
    exact rest (join left right) vs ws behind

/-- A chain whose operators are single signs joins lexemes. -/
theorem joins_of_accept {texts : List String} {join : Expr → Expr → Expr}
    (signs : ∀ ts, c.join? ts = (accept texts ts).map fun rest => (join, rest)) :
    c.JoinsLexemes := by
  intro ts us same
  rw [signs, signs]
  obtain ⟨here, there⟩ | ⟨ts', us', here, there, others⟩ := cases_of_rel (accept_rel texts same)
  · rw [here, there]
    exact .none
  · rw [here, there]
    exact .some ⟨rfl, others⟩

/-- Alternatives join lexemes. -/
theorem joins_alternatives : alternatives.JoinsLexemes := joins_of_accept fun _ => rfl

/-- Conjunctions join lexemes. -/
theorem joins_conjunctions : conjunctions.JoinsLexemes := joins_of_accept fun _ => rfl

/-- Comparisons join lexemes. -/
theorem joins_comparisons : comparisons.JoinsLexemes := by
  intro ts us same
  change Option.Rel SameReading ((comparison? ts).map fun p => (Expr.compare p.1, p.2))
    ((comparison? us).map fun p => (Expr.compare p.1, p.2))
  obtain ⟨here, there⟩ | ⟨p, q, here, there, op, others⟩ := cases_of_rel (comparison?_rel same)
  · rw [here, there]
    exact .none
  · rw [here, there]
    exact .some ⟨congrArg Expr.compare op, others⟩

end Chain

/-! ## Steps of the other functions -/

/-- Behind a sign that may come next both sides go on in the same way. -/
theorem alike_accept {β : Type} {R : β → β → Prop} (texts : List String) (same : SameLexemes ts us)
    {f g : List Token → Result β} {x y : Result β}
    (taken : ∀ ts us, SameLexemes ts us → Alike R (f ts) (g us)) (left : Alike R x y) :
    Alike R (match accept texts ts with | some ts => f ts | none => x)
      (match accept texts us with | some us => g us | none => y) := by
  obtain ⟨here, there⟩ | ⟨ts', us', here, there, others⟩ := cases_of_rel (accept_rel texts same)
  · rw [here, there]
    exact left
  · rw [here, there]
    exact taken ts' us' others

/-- Negations heed lexemes. -/
theorem heeds_notExpr (operand : HeedsLexemes (notExpr n))
    (comparison : HeedsLexemes (comparisonExpr n)) : HeedsLexemes (notExpr (n + 1)) := by
  intro ts us same
  rw [notExpr, notExpr]
  refine alike_accept ["not"] same (fun ts us same => ?_) (comparison ts us same)
  exact (operand ts us same).map_reading Expr.not

/-- Signs in front of an operand heed lexemes. -/
theorem heeds_unaryExpr (operand : HeedsLexemes (unaryExpr n))
    (bare : HeedsLexemes (operandExpr n)) : HeedsLexemes (unaryExpr (n + 1)) := by
  intro ts us same
  rw [unaryExpr, unaryExpr]
  refine alike_accept ["!"] same (fun ts us same => ?_) ?_
  · exact (operand ts us same).map_reading Expr.not
  · refine alike_accept ["-"] same (fun ts us same => ?_) (bare ts us same)
    exact (operand ts us same).map_reading Expr.negate

/-- From a first argument on, arguments heed lexemes. -/
theorem heeds_argumentsFrom (first : HeedsLexemes (orExpr n)) {closing : String}
    (rest : HeedsLexemes (argumentsRest n closing)) : HeedsLexemes (argumentsFrom n closing) := by
  intro ts us same
  refine (first ts us same).bind ?_
  rintro ⟨e, ts'⟩ ⟨_, us'⟩ ⟨rfl, others⟩
  exact (rest ts' us' others).map_reading (e :: ·)

/-- Arguments heed lexemes. -/
theorem heeds_arguments (first : HeedsLexemes (orExpr n)) {closing : String}
    (rest : HeedsLexemes (argumentsRest n closing)) : HeedsLexemes (arguments (n + 1) closing) := by
  intro ts us same
  rw [arguments_succ, arguments_succ]
  exact alike_accept [closing] same (fun _ _ others => .ok ⟨rfl, others⟩)
    (heeds_argumentsFrom first rest ts us same)

/-- The arguments behind further commas heed lexemes. -/
theorem heeds_argumentsRest (next : HeedsLexemes (orExpr n)) {closing : String}
    (rest : HeedsLexemes (argumentsRest n closing)) :
    HeedsLexemes (argumentsRest (n + 1) closing) := by
  intro ts us same
  rw [argumentsRest_succ, argumentsRest_succ]
  refine alike_accept [","] same (fun ts us same => heeds_argumentsFrom next rest ts us same) ?_
  exact (expect_alike closing same).bind fun _ _ others => .ok ⟨rfl, others⟩

/-- The value of a number depends on its text. -/
theorem numberValue_alike (kind : Token.Kind) (text : String) (i j : Nat) :
    Alike Eq (numberValue ⟨kind, text, i⟩) (numberValue ⟨kind, text, j⟩) := by
  unfold numberValue
  cases Token.hexWidth? text.toList with
  | some _ => exact .ok rfl
  | none =>
    cases Numeral.Decimal.parse? text.toList with
    | none => exact .error rfl
    | some d =>
      simp only
      cases (decimalValue d).mapError SyntaxFault.digits with
      | ok v => exact .ok rfl
      | error fault => exact .error rfl

/-- The operand of the built-in test heeds lexemes. -/
theorem heeds_definedOperand : HeedsLexemes definedOperand := by
  intro ts us same
  obtain ⟨rfl, rfl⟩ | ⟨kind, text, i, j, ts, us, rfl, rfl, others⟩ := same.cases
  · exact .error rfl
  · have closes := expect_alike ")" others
    cases kind with
    | name => exact closes.bind fun _ _ left => .ok ⟨rfl, left⟩
    | string => exact closes.bind fun _ _ left => .ok ⟨rfl, left⟩
    | _ => exact .error rfl

/-- Operands heed lexemes. -/
theorem heeds_operandExpr (group : HeedsLexemes (orExpr n))
    (list : ∀ closing, HeedsLexemes (arguments n closing)) :
    HeedsLexemes (operandExpr (n + 1)) := by
  intro ts us same
  obtain ⟨rfl, rfl⟩ | ⟨kind, text, i, j, ts, us, rfl, rfl, others⟩ := same.cases
  · rw [operandExpr]
    · exact .error rfl
    · simp
  · rw [operandExpr, operandExpr]
    cases kind with
    | number =>
      refine (numberValue_alike .number text i j).bind ?_
      rintro v _ rfl
      exact .ok ⟨rfl, others⟩
    | string => exact .ok ⟨rfl, others⟩
    | literal => exact .ok ⟨rfl, others⟩
    | name =>
      -- A name: a variable, the built-in test or a call.
      simp only
      obtain ⟨here, there⟩ | ⟨ts', us', here, there, behind⟩ :=
        cases_of_rel (accept_rel ["("] others)
      · rw [here, there]
        exact .ok ⟨rfl, others⟩
      · rw [here, there]
        simp only
        split
        · exact heeds_definedOperand ts' us' behind
        · exact (list ")" ts' us' behind).map_reading (Expr.call text)
    | op =>
      simp only
      split
      · refine (group ts us others).bind ?_
        rintro ⟨e, ts'⟩ ⟨_, us'⟩ ⟨rfl, behind⟩
        exact (expect_alike ")" behind).bind fun _ _ left => .ok ⟨rfl, left⟩
      · split
        · exact (list "]" ts us others).map_reading Expr.list
        · exact .error rfl
    | keyword => exact .error rfl

/-! ## All functions together -/

/-- All the functions **heed lexemes only**, for one amount of fuel. -/
structure AllHeedLexemes (n : Nat) : Prop where
  orExpr : HeedsLexemes (orExpr n)
  orRest : ∀ left, HeedsLexemes (orRest n left)
  andExpr : HeedsLexemes (andExpr n)
  andRest : ∀ left, HeedsLexemes (andRest n left)
  notExpr : HeedsLexemes (notExpr n)
  comparisonExpr : HeedsLexemes (comparisonExpr n)
  comparisonRest : ∀ left, HeedsLexemes (comparisonRest n left)
  unaryExpr : HeedsLexemes (unaryExpr n)
  operandExpr : HeedsLexemes (operandExpr n)
  arguments : ∀ closing, HeedsLexemes (arguments n closing)
  argumentsRest : ∀ closing, HeedsLexemes (argumentsRest n closing)

/-- Without fuel every function stops with the same fault. -/
theorem allHeedLexemes_zero : AllHeedLexemes 0 where
  orExpr := heedsLexemes_of_error fun _ => by rw [Parser.orExpr]
  orRest left := heedsLexemes_of_error (alternatives.rest_zero left)
  andExpr := heedsLexemes_of_error fun _ => by rw [Parser.andExpr]
  andRest left := heedsLexemes_of_error (conjunctions.rest_zero left)
  notExpr := heedsLexemes_of_error fun _ => by rw [Parser.notExpr]
  comparisonExpr := heedsLexemes_of_error fun _ => by rw [Parser.comparisonExpr]
  comparisonRest left := heedsLexemes_of_error (comparisons.rest_zero left)
  unaryExpr := heedsLexemes_of_error fun _ => by rw [Parser.unaryExpr]
  operandExpr := heedsLexemes_of_error fun _ => by rw [Parser.operandExpr]
  arguments closing := heedsLexemes_of_error fun _ => by rw [Parser.arguments]
  argumentsRest closing := heedsLexemes_of_error fun _ => by rw [Parser.argumentsRest]

/-- One more unit of fuel makes no function heed more. -/
theorem AllHeedLexemes.succ (h : AllHeedLexemes n) : AllHeedLexemes (n + 1) where
  orExpr := Chain.heeds_whole (c := alternatives) h.andExpr h.orRest
  orRest := Chain.heeds_rest Chain.joins_alternatives h.andExpr h.orRest
  andExpr := Chain.heeds_whole (c := conjunctions) h.notExpr h.andRest
  andRest := Chain.heeds_rest Chain.joins_conjunctions h.notExpr h.andRest
  notExpr := heeds_notExpr h.notExpr h.comparisonExpr
  comparisonExpr := Chain.heeds_whole (c := comparisons) h.unaryExpr h.comparisonRest
  comparisonRest := Chain.heeds_rest Chain.joins_comparisons h.unaryExpr h.comparisonRest
  unaryExpr := heeds_unaryExpr h.unaryExpr h.operandExpr
  operandExpr := heeds_operandExpr h.orExpr h.arguments
  arguments closing := heeds_arguments h.orExpr (h.argumentsRest closing)
  argumentsRest closing := heeds_argumentsRest h.orExpr (h.argumentsRest closing)

/-- **No function heeds more than lexemes**, with any amount of fuel. -/
theorem allHeedLexemes (n : Nat) : AllHeedLexemes n := by
  induction n with
  | zero => exact allHeedLexemes_zero
  | succ n ih => exact ih.succ

/-- **Tokens with the same lexemes denote the same expression**, or both denote none, with faults
that differ in their places at most. -/
theorem ofTokens_alike (same : SameLexemes ts us) : Alike Eq (ofTokens ts) (ofTokens us) := by
  have length : ts.length = us.length := by
    have lengths := congrArg List.length same
    rwa [List.length_map, List.length_map] at lengths
  have outcome := (allHeedLexemes (fuel ts)).orExpr ts us same
  have fuels : fuel us = fuel ts := by rw [fuel, fuel, length]
  have empty : us.isEmpty = ts.isEmpty := by
    obtain ⟨rfl, rfl⟩ | ⟨_, _, _, _, _, _, rfl, rfl, -⟩ := same.cases <;> rfl
  unfold ofTokens
  rw [fuels, empty]
  split
  · exact .error rfl
  · obtain ⟨⟨e, ts'⟩, ⟨_, us'⟩, here, there, rfl, behind⟩ | ⟨f, g, here, there, faults⟩ :=
      outcome.cases
    · rw [here, there]
      -- A token that is left is a fault at its place.
      obtain ⟨rfl, rfl⟩ | ⟨kind, text, i, j, _, _, rfl, rfl, -⟩ := behind.cases
      · exact .ok rfl
      · exact .error rfl
    · rw [here, there]
      exact .error faults

end Parser

namespace Expr

/-! ## Spacing -/

/-- The texts of a source's tokens with one space between neighbours have the same lexemes as the
source. -/
theorem tokenize_intercalate {source : String} {ts : List Token}
    (read : Token.tokenize source = .ok ts) :
    ∃ us, Token.tokenize (" ".intercalate (ts.map Token.text)) = .ok us ∧
      Parser.SameLexemes ts us := by
  have whole : ∀ l ∈ ts.map Token.lexeme, l.Whole := by
    intro l inside
    obtain ⟨t, mem, rfl⟩ := List.mem_map.mp inside
    exact Lexeme.whole_of_standsIn ((Token.tokenize_eq_ok_iff.mp read).stands t mem)
  obtain ⟨us, scanned, same⟩ := Lexeme.scan_spaced whole 0
  refine ⟨us, ?_, same.symm⟩
  have chars : (" ".intercalate (ts.map Token.text)).toList =
      Lexeme.spaced (ts.map Token.lexeme) := by
    rw [String.toList_intercalate, Lexeme.spaced, Separated.join, List.map_map, List.map_map]
    rfl
  rw [Token.tokenize, chars, scanned]

/-- **Spacing does not matter.** The texts of a source's tokens, with one space between neighbours,
are tokens of the same kinds with the same texts. Any two sources whose tokens have the same kinds
and texts denote the same expression, or both denote none; their faults differ at most in the place
that they name. -/
theorem spacing_irrelevant (source : String) (ts : List Token)
    (read : Token.tokenize source = .ok ts) :
    (∃ us, Token.tokenize (" ".intercalate (ts.map Token.text)) = .ok us ∧
      us.map Token.lexeme = ts.map Token.lexeme) ∧
    ∀ source' us, Token.tokenize source' = .ok us → us.map Token.lexeme = ts.map Token.lexeme →
      (∃ e, ofSource source = .ok e ∧ ofSource source' = .ok e) ∨
        ∃ f g, ofSource source = .error f ∧ ofSource source' = .error g ∧
          f.unplaced = g.unplaced := by
  constructor
  · obtain ⟨us, again, same⟩ := tokenize_intercalate read
    exact ⟨us, again, same.symm⟩
  · intro source' us read' same
    have alike : Parser.Alike Eq (ofSource source) (ofSource source') := by
      rw [ofSource, ofSource, read, read']
      exact Parser.ofTokens_alike same.symm
    obtain ⟨e, _, here, there, rfl⟩ | faults := alike.cases
    · exact .inl ⟨e, here, there⟩
    · exact .inr faults

/-- The tokens of `!A==.5`, which has no spaces. -/
def tight : List Token := [⟨.op, "!", 0⟩, ⟨.name, "A", 1⟩, ⟨.op, "==", 2⟩, ⟨.number, ".5", 4⟩]

/-- The sign and the point do not need the spaces, nor are they changed by them. -/
theorem spacing_irrelevant_tight :
    Token.tokenize "!A==.5" = .ok tight ∧
    (∃ us, Token.tokenize "! A == .5" = .ok us ∧ us.map Token.lexeme = tight.map Token.lexeme) ∧
    ∃ e, ofSource "!A==.5" = .ok e ∧ ofSource "! A == .5" = .ok e := by
  have read : Token.tokenize "!A==.5" = .ok tight :=
    eq_ok_of_toOption_eq_some (by decide +kernel)
  have joined : " ".intercalate (tight.map Token.text) = "! A == .5" := by decide
  obtain ⟨respaced, alike⟩ := spacing_irrelevant "!A==.5" tight read
  rw [joined] at respaced
  obtain ⟨us, read', same⟩ := respaced
  refine ⟨read, ⟨us, read', same⟩, ?_⟩
  rcases alike "! A == .5" us read' same with denoted | ⟨f, g, failed, -⟩
  · exact denoted
  · rw [ofSource, read] at failed
    cases failed

end Expr

end LineGate
