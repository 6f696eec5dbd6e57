import LineGate.Proofs.Expr.Spaced
import LineGate.Proofs.Expr.Completeness

/-! # Printing expressions

An expression is printed as its lexemes with a space between neighbours. An operand stands between
brackets only where it binds less tightly than its place requires; the place on the right of a
binary operator requires more than the operator itself (`Expr.lexemes`). Where the language has
several spellings of one thing, a **pen** chooses among them at each place of the tree.

Printing is undone by reading: every printable expression is read back from what any pen writes
(`Expr.parse_print`). The proof writes the rules of the grammar once more, for lexemes in the place
of tokens (`Lexeme.Spells`), and follows the tree with them. -/

namespace LineGate

namespace Grammar

/-- The **rank** of a level: tighter levels rank higher. -/
def Level.rank : Level → Nat
  | .or => 0
  | .and => 1
  | .not => 2
  | .comparison => 3
  | .unary => 4
  | .operand => 5

/-- What is derived at a level is derived at every looser one. -/
theorem Derives.loosen {a b : Level} {ts : List Token} {e : Expr} (h : Derives a ts e)
    (loose : b.rank ≤ a.rank) : Derives b ts e := by
  -- From the tightest level outwards, there is one rule between neighbours.
  have unary (tight : 4 ≤ a.rank) : Derives .unary ts e := by
    cases a with
    | operand => exact .ofOperand h
    | unary => exact h
    | _ => exact absurd tight (by decide)
  have comparison (tight : 3 ≤ a.rank) : Derives .comparison ts e := by
    cases a with
    | comparison => exact h
    | unary | operand => exact .ofUnary (unary (by decide))
    | _ => exact absurd tight (by decide)
  have not (tight : 2 ≤ a.rank) : Derives .not ts e := by
    cases a with
    | not => exact h
    | comparison | unary | operand => exact .ofComparison (comparison (by decide))
    | _ => exact absurd tight (by decide)
  have and (tight : 1 ≤ a.rank) : Derives .and ts e := by
    cases a with
    | and => exact h
    | or => exact absurd tight (by decide)
    | _ => exact .ofNot (not (by decide))
  cases b with
  | or =>
    cases a with
    | or => exact h
    | _ => exact .ofAnd (and (by decide))
  | and => exact and loose
  | not => exact not loose
  | comparison => exact comparison loose
  | unary => exact unary loose
  | operand =>
    cases a with
    | operand => exact h
    | _ => exact absurd loose (by decide)

end Grammar

open Grammar (Level Derives Commas)

/-! ## The printer -/

/-- The lexemes of a connective. -/
def Connective.signs : Connective → List Lexeme
  | .or => [⟨.op, "||"⟩, ⟨.keyword, "or"⟩]
  | .and => [⟨.op, "&&"⟩, ⟨.keyword, "and"⟩]

/-- The words for a truth value. -/
def truthWords : Bool → List String
  | true => ["true", "True"]
  | false => ["false", "False"]

/-- **Spellings**: a choice among the notations that the language has for one thing. -/
structure Spelling where
  /-- The quote around texts. -/
  quote : Char
  /-- The word for the absent value. -/
  null : String
  /-- The words for the truth values. -/
  truth : Bool → String
  /-- The signs of the connectives. -/
  connective : Connective → Lexeme
  /-- There are two quotes. -/
  quote_eq : quote = doubleQuote ∨ quote = singleQuote
  /-- There are three words for the absent value. -/
  null_mem : null ∈ ["null", "undefined", "None"]
  /-- There are two words for each truth value. -/
  truth_mem : ∀ b, truth b ∈ truthWords b
  /-- There are two signs for each connective. -/
  connective_mem : ∀ op, connective op ∈ op.signs

/-- Signs for the connectives, and double quotes. -/
def Spelling.signs : Spelling where
  quote := doubleQuote
  null := "null"
  truth b := if b then "true" else "false"
  connective op := if op = .or then ⟨.op, "||"⟩ else ⟨.op, "&&"⟩
  quote_eq := .inl rfl
  null_mem := by decide
  truth_mem := by decide
  connective_mem op := by cases op <;> decide

/-- Words for the connectives, and single quotes. -/
def Spelling.words : Spelling where
  quote := singleQuote
  null := "None"
  truth b := if b then "True" else "False"
  connective op := if op = .or then ⟨.keyword, "or"⟩ else ⟨.keyword, "and"⟩
  quote_eq := .inr rfl
  null_mem := by decide
  truth_mem := by decide
  connective_mem op := by cases op <;> decide

/-- A **pen** has a spelling for every place of a tree, given by the path from the root. -/
def Pen := List Nat → Spelling

/-- The pen for the operand of the given index. -/
def Pen.child (pen : Pen) (i : Nat) : Pen := fun path => pen (i :: path)

namespace Lexeme

/-- Lexemes between two brackets. -/
def between (opening closing : String) (ls : List Lexeme) : List Lexeme :=
  ⟨.op, opening⟩ :: (ls ++ [⟨.op, closing⟩])

/-- Lexemes between round brackets, if they are needed. -/
def enclosed (needed : Bool) (ls : List Lexeme) : List Lexeme :=
  if needed then between "(" ")" ls else ls

/-- Lists of lexemes with a comma between neighbours. -/
def commas (pieces : List (List Lexeme)) : List Lexeme := [⟨.op, ","⟩].intercalate pieces

end Lexeme

/-- The lexemes of a literal; other values have no notation. -/
def Spelling.literal (s : Spelling) : Value → List Lexeme
  | .null => [⟨.literal, s.null⟩]
  | .bool b => [⟨.literal, s.truth b⟩]
  | .int n => [.number n.toNat]
  | .str t => [.string s.quote t]
  | _ => []

/-- The lexemes of a comparison operator. -/
def Comparison.lexemes : Comparison → List Lexeme
  | .member => [⟨.keyword, "in"⟩]
  | .notMember => [⟨.keyword, "not"⟩, ⟨.keyword, "in"⟩]
  | op => [⟨.op, op.symbol⟩]

/-- The level at which a connective is read. -/
def Connective.level : Connective → Level
  | .or => .or
  | .and => .and

namespace Expr

open Lexeme (between enclosed commas)

/-- **How tightly an expression binds**: the level of its outermost operator. -/
def level : Expr → Level
  | .logical op _ _ => op.level
  | .compare _ _ _ => .comparison
  | .not _ | .negate _ => .unary
  | _ => .operand

/-- Whether an expression binds less tightly than a level. -/
def looserThan (e : Expr) (level : Level) : Bool := e.level.rank < level.rank

/-- Whether an expression binds less tightly than a level, or as tightly. -/
def looserOrAt (e : Expr) (level : Level) : Bool := e.level.rank ≤ level.rank

mutual

/-- **The lexemes of an expression**, as a pen writes them. -/
def lexemes : Pen → Expr → List Lexeme
  | pen, .literal v => (pen []).literal v
  | _, .name n => [⟨.name, n⟩]
  | pen, .defined n => ⟨.name, "defined"⟩ :: between "(" ")" [.string (pen []).quote n]
  | pen, .call n args => ⟨.name, n⟩ :: between "(" ")" (commas (lexemesAll pen 0 args))
  | pen, .list items => between "[" "]" (commas (lexemesAll pen 0 items))
  | pen, .not e => ⟨.op, "!"⟩ :: enclosed (e.looserThan .unary) (lexemes (pen.child 0) e)
  | pen, .negate e => ⟨.op, "-"⟩ :: enclosed (e.looserThan .unary) (lexemes (pen.child 0) e)
  -- Chains associate to the left, so only on the right does the operator's own level need brackets.
  | pen, .logical op l r =>
    enclosed (l.looserThan op.level) (lexemes (pen.child 0) l) ++ (pen []).connective op ::
      enclosed (r.looserOrAt op.level) (lexemes (pen.child 1) r)
  | pen, .compare op l r =>
    enclosed (l.looserThan .comparison) (lexemes (pen.child 0) l) ++ op.lexemes ++
      enclosed (r.looserOrAt .comparison) (lexemes (pen.child 1) r)

/-- The lexemes of each of several expressions, of which the first has the index `i`. -/
def lexemesAll : Pen → Nat → List Expr → List (List Lexeme)
  | _, _, [] => []
  | pen, i, e :: es => lexemes (pen.child i) e :: lexemesAll pen (i + 1) es

end

/-- **Printing**: the lexemes of an expression with a space between neighbours. -/
def print (pen : Pen) (e : Expr) : String := String.ofList (Lexeme.spaced (e.lexemes pen))

/-- **Names of variables and functions**: words that are neither literals nor keywords. -/
structure IsName (n : String) : Prop where
  /-- The name is of the form of names. -/
  word : Lexeme.IsWord n
  /-- The name does not stand for a value. -/
  not_literal : n ∉ Token.literals
  /-- The name is not an operator. -/
  not_keyword : n ∉ Token.keywords

instance (n : String) : Decidable (IsName n) :=
  decidable_of_iff (Lexeme.IsWord n ∧ n ∉ Token.literals ∧ n ∉ Token.keywords)
    ⟨fun ⟨word, notLiteral, notKeyword⟩ => ⟨word, notLiteral, notKeyword⟩,
      fun h => ⟨h.word, h.not_literal, h.not_keyword⟩⟩

/-- **Printable expressions**: their literals have a notation, and their names are names. -/
inductive Printable : Expr → Prop where
  /-- The absent value. -/
  | null : Printable (.literal .null)
  /-- A truth value. -/
  | bool (b : Bool) : Printable (.literal (.bool b))
  /-- Any text. -/
  | str (s : String) : Printable (.literal (.str s))
  /-- A natural number that has not too many digits. -/
  | int (n : Nat) : n.repr.length ≤ integerDigitLimit → Printable (.literal (.int n))
  /-- A variable. -/
  | name {n : String} : IsName n → Printable (.name n)
  /-- The built-in test of any text. -/
  | defined (n : String) : Printable (.defined n)
  /-- A call of another function than the built-in test. -/
  | call {n : String} {args : List Expr} : IsName n → n ≠ "defined" →
      (∀ e ∈ args, Printable e) → Printable (.call n args)
  /-- A list. -/
  | list {items : List Expr} : (∀ e ∈ items, Printable e) → Printable (.list items)
  /-- A negation. -/
  | not {e : Expr} : Printable e → Printable (.not e)
  /-- The negative of a number. -/
  | negate {e : Expr} : Printable e → Printable (.negate e)
  /-- A connective. -/
  | logical (op : Connective) {l r : Expr} :
      Printable l → Printable r → Printable (.logical op l r)
  /-- A comparison. -/
  | compare (op : Comparison) {l r : Expr} :
      Printable l → Printable r → Printable (.compare op l r)

end Expr

/-! ## The rules of the grammar for lexemes -/

section Tokens

variable {t : Token} {text : String}

/-- A token with the lexeme of an operator is that operator. -/
theorem Token.isOp_of_lexeme (same : t.lexeme = ⟨.op, text⟩) : t.IsOp text :=
  ⟨congrArg Lexeme.kind same, congrArg Lexeme.text same⟩

/-- A token with the lexeme of a keyword is that keyword. -/
theorem Token.isKeyword_of_lexeme (same : t.lexeme = ⟨.keyword, text⟩) : t.IsKeyword text :=
  ⟨congrArg Lexeme.kind same, congrArg Lexeme.text same⟩

end Tokens

namespace Lexeme

/-- Lexemes **spell** an expression at a level: they are whole, and tokens with these lexemes derive
it. -/
structure Spells (level : Level) (ls : List Lexeme) (e : Expr) : Prop where
  /-- Each lexeme is whole. -/
  whole : ∀ l ∈ ls, l.Whole
  /-- The tokens with these lexemes derive the expression. -/
  derives {ts : List Token} : ts.map Token.lexeme = ls → Derives level ts e

/-- The keywords are whole. -/
theorem whole_keyword {text : String} (isKeyword : text ∈ Token.keywords) :
    (Lexeme.mk .keyword text).Whole := by
  have kind : Token.nameKind text = .keyword ∧ IsWord text := by
    revert text
    decide
  exact kind.1 ▸ whole_word kind.2

/-- The literals are whole. -/
theorem whole_literal {text : String} (isLiteral : text ∈ Token.literals) :
    (Lexeme.mk .literal text).Whole := by
  have kind : Token.nameKind text = .literal ∧ IsWord text := by
    revert text
    decide
  exact kind.1 ▸ whole_word kind.2

/-- Names are whole. -/
theorem whole_name {n : String} (isName : Expr.IsName n) : (Lexeme.mk .name n).Whole := by
  have kind : Token.nameKind n = .name := by
    simp [Token.nameKind, isName.not_literal, isName.not_keyword]
  exact kind ▸ whole_word isName.word

/-- The signs of a connective are whole. -/
theorem whole_sign {op : Connective} {sign : Lexeme} (isSign : sign ∈ op.signs) : sign.Whole := by
  cases op <;> simp only [Connective.signs, List.mem_cons, List.not_mem_nil, or_false] at isSign
  all_goals
    rcases isSign with rfl | rfl
    · exact whole_op (by decide)
    · exact whole_keyword (by decide)

/-- The lexemes of a comparison operator are whole. -/
theorem whole_comparison (op : Comparison) : ∀ l ∈ op.lexemes, l.Whole := by
  cases op with
  | member => simpa [Comparison.lexemes] using whole_keyword (by decide)
  | notMember =>
    simpa [Comparison.lexemes] using ⟨whole_keyword (by decide), whole_keyword (by decide)⟩
  | order op => cases op <;> simpa [Comparison.lexemes] using whole_op (by decide)
  | _ => simpa [Comparison.lexemes] using whole_op (by decide)

/-- Tokens with the lexemes of a comparison operator are that operator. -/
theorem isComparison_of_lexemes {op : Comparison} {ts : List Token}
    (same : ts.map Token.lexeme = op.lexemes) : Grammar.IsComparison ts op := by
  cases op with
  | member =>
    obtain ⟨t, rfl, isIn⟩ := List.map_eq_singleton_iff.mp same
    exact .member (Token.isKeyword_of_lexeme isIn)
  | notMember =>
    obtain ⟨t, rest, rfl, isNot, same⟩ := List.map_eq_cons_iff.mp same
    obtain ⟨u, rfl, isIn⟩ := List.map_eq_singleton_iff.mp same
    exact .notMember (Token.isKeyword_of_lexeme isNot) (Token.isKeyword_of_lexeme isIn)
  | order op =>
    obtain ⟨t, rfl, isSign⟩ := List.map_eq_singleton_iff.mp same
    exact .sign (by cases op <;> decide) (Token.isOp_of_lexeme isSign)
  | _ =>
    obtain ⟨t, rfl, isSign⟩ := List.map_eq_singleton_iff.mp same
    exact .sign (by decide) (Token.isOp_of_lexeme isSign)

/-- The rule of the grammar for either connective. -/
theorem derives_logical {op : Connective} {t : Token} (isSign : t.lexeme ∈ op.signs) {level : Level}
    {ls rs : List Token} {l r : Expr} (left : Derives op.level ls l) (right : Derives level rs r)
    (tight : op.level.rank < level.rank) :
    Derives op.level (ls ++ t :: rs) (.logical op l r) := by
  cases op <;> simp only [Connective.signs, List.mem_cons, List.not_mem_nil, or_false] at isSign
  case or =>
    exact .or left (isSign.imp Token.isOp_of_lexeme Token.isKeyword_of_lexeme) (right.loosen tight)
  case and =>
    exact .and left (isSign.imp Token.isOp_of_lexeme Token.isKeyword_of_lexeme) (right.loosen tight)

/-- One lexeme spells what a token with it derives. -/
theorem spells_singleton {level : Level} {l : Lexeme} {e : Expr} (whole : l.Whole)
    (derives : ∀ {t : Token}, t.lexeme = l → Derives level [t] e) : Spells level [l] e := by
  refine ⟨by simpa using whole, fun {ts} same => ?_⟩
  obtain ⟨t, rfl, isLexeme⟩ := List.map_eq_singleton_iff.mp same
  exact derives isLexeme

namespace Spells

variable {level : Level} {ls rs : List Lexeme} {e l r : Expr}

/-- What is spelled at a level is spelled at every looser one. -/
theorem loosen {required : Level} (h : Spells level ls e) (loose : required.rank ≤ level.rank) :
    Spells required ls e :=
  ⟨h.whole, fun same => (h.derives same).loosen loose⟩

/-- Lexemes between brackets are whole if the inner ones are. -/
theorem whole_between {opening closing : String} (isOpening : opening ∈ Token.operators)
    (isClosing : closing ∈ Token.operators) (inner : ∀ l ∈ ls, l.Whole) :
    ∀ l ∈ between opening closing ls, l.Whole := by
  intro l inside
  simp only [between, List.mem_cons, List.mem_append, List.not_mem_nil, or_false] at inside
  rcases inside with rfl | inside | rfl
  · exact whole_op isOpening
  · exact inner l inside
  · exact whole_op isClosing

/-- Tokens with lexemes between brackets start and end with a bracket. -/
theorem tokens_of_between {opening closing : String} {ts : List Token}
    (same : ts.map Token.lexeme = between opening closing ls) :
    ∃ t inner u, ts = t :: (inner ++ [u]) ∧ t.IsOp opening ∧ inner.map Token.lexeme = ls ∧
      u.IsOp closing := by
  obtain ⟨t, rest, rfl, isOpening, same⟩ := List.map_eq_cons_iff.mp same
  obtain ⟨inner, last, rfl, sameInner, atEnd⟩ := List.map_eq_append_iff.mp same
  obtain ⟨u, rfl, isClosing⟩ := List.map_eq_singleton_iff.mp atEnd
  exact ⟨t, inner, u, rfl, Token.isOp_of_lexeme isOpening, sameInner,
    Token.isOp_of_lexeme isClosing⟩

/-- Round brackets make an operand. -/
theorem group (h : Spells .or ls e) : Spells .operand (between "(" ")" ls) e := by
  refine ⟨whole_between (by decide) (by decide) h.whole, fun {ts} same => ?_⟩
  obtain ⟨t, inner, u, rfl, isOpening, same, isClosing⟩ := tokens_of_between same
  exact .group isOpening (h.derives same) isClosing

/-- Brackets around what is too loose bring an operand to the level that its place requires. -/
theorem enclosed (h : Spells e.level ls e) (required : Level) :
    Spells required (Lexeme.enclosed (e.looserThan required) ls) e := by
  cases loose : e.looserThan required with
  | true => exact (h.loosen (Nat.zero_le _)).group.loosen (by cases required <;> decide)
  | false => exact h.loosen (by simpa [Expr.looserThan] using loose)

/-- Brackets around what is not tighter than an operator bring an operand above it. -/
theorem enclosed_tighter (h : Spells e.level ls e) (bound : Level) (notTightest : bound ≠ .operand) :
    ∃ level, bound.rank < level.rank ∧
      Spells level (Lexeme.enclosed (e.looserOrAt bound) ls) e := by
  cases loose : e.looserOrAt bound with
  | true =>
    refine ⟨.operand, ?_, (h.loosen (Nat.zero_le _)).group⟩
    cases bound with
    | operand => exact absurd rfl notTightest
    | _ => decide
  | false => exact ⟨e.level, by simpa [Expr.looserOrAt] using loose, h⟩

/-- A sign in front of a signed operand. -/
theorem sign {text : String} {e' : Expr} (h : Spells .unary ls e) (isOp : text ∈ Token.operators)
    (rule : ∀ {t : Token} {ts : List Token}, t.IsOp text → Derives .unary ts e →
      Derives .unary (t :: ts) e') :
    Spells .unary (⟨.op, text⟩ :: ls) e' := by
  refine ⟨List.forall_mem_cons.mpr ⟨whole_op isOp, h.whole⟩, fun {ts} same => ?_⟩
  obtain ⟨t, rest, rfl, isSign, same⟩ := List.map_eq_cons_iff.mp same
  exact rule (Token.isOp_of_lexeme isSign) (h.derives same)

/-- Two operands with an operator between them. -/
theorem binary {left right : Level} {sep : List Lexeme} {e' : Expr} (hl : Spells left ls l)
    (hr : Spells right rs r) (whole : ∀ l ∈ sep, l.Whole)
    (rule : ∀ {ts ls rs : List Token}, ts.map Token.lexeme = sep → Derives left ls l →
      Derives right rs r → Derives level (ls ++ ts ++ rs) e') :
    Spells level (ls ++ sep ++ rs) e' := by
  constructor
  · simp only [List.mem_append]
    rintro m ((inside | inside) | inside)
    · exact hl.whole m inside
    · exact whole m inside
    · exact hr.whole m inside
  · intro ts same
    obtain ⟨front, back, rfl, same, sameRight⟩ := List.map_eq_append_iff.mp same
    obtain ⟨first, middle, rfl, sameLeft, sameSep⟩ := List.map_eq_append_iff.mp same
    exact rule sameSep (hl.derives sameLeft) (hr.derives sameRight)

/-- A connective joins a chain of its own level with a tighter operand. -/
theorem logical {op : Connective} {sign : Lexeme} (isSign : sign ∈ op.signs)
    (hl : Spells op.level ls l) (hr : Spells level rs r) (tight : op.level.rank < level.rank) :
    Spells op.level (ls ++ sign :: rs) (.logical op l r) := by
  rw [List.append_cons]
  refine binary hl hr (by simpa using whole_sign isSign) fun same left right => ?_
  obtain ⟨t, rfl, rfl⟩ := List.map_eq_singleton_iff.mp same
  rw [← List.append_cons]
  exact derives_logical isSign left right tight

/-- A comparison joins a chain of comparisons with a tighter operand. -/
theorem compare (op : Comparison) (hl : Spells .comparison ls l) (hr : Spells level rs r)
    (tight : Level.comparison.rank < level.rank) :
    Spells .comparison (ls ++ op.lexemes ++ rs) (.compare op l r) :=
  binary hl (hr.loosen tight : Spells .unary rs r) (whole_comparison op)
    fun same left right => .compare left (isComparison_of_lexemes same) right

/-! ## Pieces between commas -/

/-- A single piece stands alone. -/
theorem commas_singleton (piece : List Lexeme) : commas [piece] = piece := by
  simp [commas, List.intercalate]

/-- A comma stands behind a piece that is not the last one. -/
theorem commas_cons (piece piece' : List Lexeme) (pieces : List (List Lexeme)) :
    commas (piece :: piece' :: pieces) = piece ++ ⟨.op, ","⟩ :: commas (piece' :: pieces) := by
  simp [commas, List.intercalate]

/-- Lexemes of pieces between commas are whole. -/
theorem whole_commas {pieces : List (List Lexeme)} {es : List Expr}
    (h : List.Forall₂ (Spells .or) pieces es) : ∀ l ∈ commas pieces, l.Whole := by
  induction h with
  | nil => nofun
  | @cons piece e pieces es first others ih =>
    cases pieces with
    | nil =>
      rw [commas_singleton]
      exact first.whole
    | cons piece' pieces =>
      rw [commas_cons]
      simp only [List.mem_append, List.mem_cons]
      rintro l (inside | rfl | inside)
      · exact first.whole l inside
      · exact whole_op (by decide)
      · exact ih l inside

/-- Tokens with the lexemes of pieces between commas are pieces between commas. -/
theorem tokens_of_commas {pieces : List (List Lexeme)} {es : List Expr}
    (h : List.Forall₂ (Spells .or) pieces es) {ts : List Token}
    (same : ts.map Token.lexeme = commas pieces) :
    ∃ ps, Commas ps ts ∧ ps.map Prod.snd = es ∧ ∀ p ∈ ps, Derives .or p.1 p.2 := by
  induction h generalizing ts with
  | nil =>
    obtain rfl := List.map_eq_nil_iff.mp same
    exact ⟨[], .none, rfl, nofun⟩
  | @cons piece e pieces es first others ih =>
    cases others with
    | nil =>
      rw [commas_singleton] at same
      exact ⟨[(ts, e)], .one _, rfl, by simpa using first.derives same⟩
    | cons second others =>
      rw [commas_cons] at same
      obtain ⟨front, back, rfl, sameFront, sameBack⟩ := List.map_eq_append_iff.mp same
      obtain ⟨comma, rest, rfl, isComma, sameRest⟩ := List.map_eq_cons_iff.mp sameBack
      obtain ⟨ps, between, exprs, derived⟩ := ih sameRest
      cases ps with
      | nil => cases exprs
      | cons p ps =>
        refine ⟨(front, e) :: p :: ps, .more _ _ (Token.isOp_of_lexeme isComma) between, ?_, ?_⟩
        · rw [List.map_cons, exprs]
        · exact List.forall_mem_cons.mpr ⟨first.derives sameFront, derived⟩

/-- A call. -/
theorem call {n : String} {pieces : List (List Lexeme)} {es : List Expr} (isName : Expr.IsName n)
    (notDefined : n ≠ "defined") (h : List.Forall₂ (Spells .or) pieces es) :
    Spells .operand (⟨.name, n⟩ :: between "(" ")" (commas pieces)) (.call n es) := by
  refine ⟨List.forall_mem_cons.mpr ⟨whole_name isName,
    whole_between (by decide) (by decide) (whole_commas h)⟩, fun {ts} same => ?_⟩
  obtain ⟨t, rest, rfl, isFunction, same⟩ := List.map_eq_cons_iff.mp same
  obtain ⟨opening, inner, closing, rfl, isOpening, same, isClosing⟩ := tokens_of_between same
  obtain ⟨ps, between, rfl, derived⟩ := tokens_of_commas h same
  obtain rfl : t.text = n := congrArg Lexeme.text isFunction
  exact .call (congrArg Lexeme.kind isFunction) notDefined isOpening between derived isClosing

/-- A list. -/
theorem list {pieces : List (List Lexeme)} {es : List Expr}
    (h : List.Forall₂ (Spells .or) pieces es) :
    Spells .operand (between "[" "]" (commas pieces)) (.list es) := by
  refine ⟨whole_between (by decide) (by decide) (whole_commas h), fun {ts} same => ?_⟩
  obtain ⟨opening, inner, closing, rfl, isOpening, same, isClosing⟩ := tokens_of_between same
  obtain ⟨ps, between, rfl, derived⟩ := tokens_of_commas h same
  exact .list isOpening between derived isClosing

/-- The built-in test of a quoted text. -/
theorem defined {q : Char} (isQuote : q = doubleQuote ∨ q = singleQuote) (n : String) :
    Spells .operand (⟨.name, "defined"⟩ :: between "(" ")" [.string q n]) (.defined n) := by
  have word : Expr.IsName "defined" := ⟨by decide, by decide, by decide⟩
  refine ⟨List.forall_mem_cons.mpr ⟨whole_name word, whole_between (by decide) (by decide)
    (by simpa using whole_string isQuote n)⟩, fun {ts} same => ?_⟩
  obtain ⟨t, rest, rfl, isTest, same⟩ := List.map_eq_cons_iff.mp same
  obtain ⟨opening, inner, closing, rfl, isOpening, same, isClosing⟩ := tokens_of_between same
  obtain ⟨u, rfl, isString⟩ := List.map_eq_singleton_iff.mp same
  obtain rfl : Parser.stringValue u.text = n := stringValue_string isQuote isString
  exact .definedString (congrArg Lexeme.kind isTest) (congrArg Lexeme.text isTest) isOpening
    (congrArg Lexeme.kind isString) isClosing

end Spells

end Lexeme

/-! ## Reading what was printed -/

namespace Expr

open Lexeme (Spells)

/-- A word for a value spells it. -/
theorem spells_word {text : String} {v : Value} (isLiteral : text ∈ Token.literals)
    (value : Parser.literalValue text = v) : Spells .operand [⟨.literal, text⟩] (.literal v) := by
  refine Lexeme.spells_singleton (Lexeme.whole_literal isLiteral) fun {t} isLexeme => ?_
  obtain rfl : t.text = text := congrArg Lexeme.text isLexeme
  exact value ▸ .literal (congrArg Lexeme.kind isLexeme)

/-- Several expressions are spelled one by one. -/
theorem forall₂_lexemesAll {es : List Expr}
    (each : ∀ e ∈ es, ∀ pen : Pen, Spells e.level (e.lexemes pen) e) (pen : Pen) (i : Nat) :
    List.Forall₂ (Spells .or) (lexemesAll pen i es) es := by
  induction es generalizing i with
  | nil => exact .nil
  | cons e es ih =>
    obtain ⟨first, others⟩ := List.forall_mem_cons.mp each
    exact .cons ((first _).loosen (Nat.zero_le _)) (ih others (i + 1))

/-- **The printed lexemes spell the expression**, whatever pen wrote them. -/
theorem Printable.spells {e : Expr} (h : e.Printable) (pen : Pen) :
    Spells e.level (e.lexemes pen) e := by
  -- Along the tree; each case is the rule of the grammar for the outermost operator.
  induction h generalizing pen with
  | null =>
    have word := (pen []).null_mem
    simp only [List.mem_cons, List.not_mem_nil, or_false] at word
    rw [lexemes, Spelling.literal]
    rcases word with eq | eq | eq <;> rw [eq] <;> exact spells_word (by decide) rfl
  | bool b =>
    have word := (pen []).truth_mem b
    rw [lexemes, Spelling.literal]
    cases b <;> simp only [truthWords, List.mem_cons, List.not_mem_nil, or_false] at word <;>
    rcases word with eq | eq <;> rw [eq] <;> exact spells_word (by decide) rfl
  | str s =>
    rw [lexemes, Spelling.literal]
    have isQuote := (pen []).quote_eq
    refine Lexeme.spells_singleton (Lexeme.whole_string isQuote s) fun {t} isString => ?_
    obtain rfl : Parser.stringValue t.text = s := Lexeme.stringValue_string isQuote isString
    exact .string (congrArg Lexeme.kind isString)
  | int n short =>
    rw [lexemes, Spelling.literal]
    refine Lexeme.spells_singleton (Lexeme.whole_number _) fun {t} isNumber => ?_
    exact .number (congrArg Lexeme.kind isNumber) (Lexeme.numberValue_number short isNumber)
  | @name n isName =>
    rw [lexemes]
    refine Lexeme.spells_singleton (Lexeme.whole_name isName) fun {t} isVariable => ?_
    obtain rfl : t.text = n := congrArg Lexeme.text isVariable
    exact .name (congrArg Lexeme.kind isVariable)
  | defined n =>
    rw [lexemes]
    exact .defined (pen []).quote_eq n
  | call isName notDefined _ ih =>
    rw [lexemes]
    exact .call isName notDefined (forall₂_lexemesAll ih pen 0)
  | list _ ih =>
    rw [lexemes]
    exact .list (forall₂_lexemesAll ih pen 0)
  | not _ ih =>
    rw [lexemes]
    exact ((ih _).enclosed .unary).sign (by decide) .bang
  | negate _ ih =>
    rw [lexemes]
    exact ((ih _).enclosed .unary).sign (by decide) .minus
  | logical op _ _ left right =>
    rw [lexemes]
    obtain ⟨_, tight, right⟩ :=
      (right (pen.child 1)).enclosed_tighter op.level (by cases op <;> decide)
    exact .logical ((pen []).connective_mem op) ((left _).enclosed op.level) right tight
  | compare op _ _ left right =>
    rw [lexemes]
    obtain ⟨_, tight, right⟩ := (right (pen.child 1)).enclosed_tighter .comparison (by decide)
    exact .compare op ((left _).enclosed .comparison) right tight

/-- **Reading undoes printing**: a printable expression is read back from what a pen writes. -/
theorem parse_print {e : Expr} (h : e.Printable) (pen : Pen) : Expr.parse (e.print pen) = .ok e := by
  have spells : Spells .or (e.lexemes pen) e := (h.spells pen).loosen (Nat.zero_le _)
  obtain ⟨ts, same, read⟩ := Lexeme.parse_spaced spells.whole
  rw [print, read]
  exact (spells.derives same).ofTokens_eq

/-- An expression with operators of every level, and a text with both quotes in it. -/
def sample : Expr :=
  .logical .and
    (.logical .or (.not (.compare .looseEq (.name "level") (.literal .null)))
      (.call "match" [.literal (.str "it's \\ \"so\""), .list [.negate (.literal (.int 10))]]))
    (.compare .notMember (.literal (.bool true)) (.compare .member (.defined "a b") (.name "$x")))

/-- The sample is printable, and it is read back from the text of a pen that changes its spelling
with the depth. -/
theorem parse_print_sample :
    sample.Printable ∧
    Expr.parse ("( ! ( level == null ) or match ( 'it\\'s \\\\ \"so\"' , [ - 10 ] ) ) && " ++
      "true not in ( defined ( 'a b' ) in $x )") = .ok sample := by
  have args : ∀ e ∈ [Expr.literal (.str "it's \\ \"so\""), .list [.negate (.literal (.int 10))]],
      e.Printable := by
    refine List.forall_mem_cons.mpr ⟨.str _, List.forall_mem_singleton.mpr (.list ?_)⟩
    exact List.forall_mem_singleton.mpr (.negate (.int 10 (by decide)))
  have printable : sample.Printable :=
    .logical _
      (.logical _ (.not (.compare _ (.name (by decide)) .null)) (.call (by decide) (by decide) args))
      (.compare _ (.bool true) (.compare _ (.defined _) (.name (by decide))))
  have text : sample.print (fun path => if path.length % 2 = 0 then .signs else .words) =
      "( ! ( level == null ) or match ( 'it\\'s \\\\ \"so\"' , [ - 10 ] ) ) && " ++
        "true not in ( defined ( 'a b' ) in $x )" := by decide
  exact ⟨printable, text ▸ parse_print printable _⟩

end Expr

end LineGate
