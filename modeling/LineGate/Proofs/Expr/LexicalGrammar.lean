import LineGate.Proofs.Number.Numeral
import LineGate.Proofs.Text.Class
import LineGate.Text.Quoted

/-! # The lexical grammar of conditions

What a lexeme may look like, said without reference to how one is found: there are four **forms**,
and each is a set of texts (`Lexical.Matches`). Lexemes of different forms start with different
characters, and none of them starts with a blank.

A lexeme is found at the front of a text exactly when some text of the grammar stands there, and
what is found is the **longest** one (`lexeme?_eq_some_iff`, `lexeme?_eq_none_iff`). Since the forms
are tried one after the other and each function for a width decides on its own, this is a fact
about all of them: each takes a longest text of its form, and no two forms compete. -/

namespace LineGate

namespace Lexical

/-! ## Forms -/

/-- The **forms** of lexemes. -/
inductive Form where
  | number
  | string
  | name
  | op
  deriving DecidableEq, Repr

/-- **The kind of token** that a lexeme gives. A text in the form of a name is a literal or a keyword
if it is one as a whole, and a name otherwise. -/
inductive Form.Gives : Form → String → Token.Kind → Prop where
  | number {text : String} : Gives .number text .number
  | string {text : String} : Gives .string text .string
  | literal {text : String} : text ∈ Token.literals → Gives .name text .literal
  | keyword {text : String} : text ∈ Token.keywords → Gives .name text .keyword
  | name {text : String} :
      text ∉ Token.literals → text ∉ Token.keywords → Gives .name text .name
  | op {text : String} : Gives .op text .op

/-- The text **between two quotes** `q`: the quote itself occurs only behind a backslash, and every
backslash takes the next character with it, which is no line feed. -/
inductive Quoted (q : Char) : List Char → Prop where
  | nil : Quoted q []
  | plain {c : Char} {cs : List Char} : c ≠ q → c ≠ '\\' → Quoted q cs → Quoted q (c :: cs)
  | escaped {c : Char} {cs : List Char} : c ≠ '\n' → Quoted q cs → Quoted q ('\\' :: c :: cs)

/-- **The lexical grammar**: the texts of each form. -/
inductive Matches : Form → List Char → Prop where
  /-- A hexadecimal numeral. -/
  | hex {x : Char} {digits : List Char} : x = 'x' ∨ x = 'X' → digits ≠ [] →
      (∀ c ∈ digits, Numeral.isHexDigit c = true) → Matches .number ('0' :: x :: digits)
  /-- A decimal numeral, with an optional fraction and an optional exponent. -/
  | decimal {d : Numeral.Decimal} : d.WellFormed → Matches .number d.text
  /-- A text between two quotes of the same kind. -/
  | string {q : Char} {body : List Char} : q = doubleQuote ∨ q = singleQuote → Quoted q body →
      Matches .string (q :: (body ++ [q]))
  /-- A name. -/
  | name {c : Char} {rest : List Char} : Token.isNameStart c = true →
      (∀ d ∈ rest, Token.isNameRest d = true) → Matches .name (c :: rest)
  /-- An operator. -/
  | op {sign : String} : sign ∈ Token.operators → Matches .op sign.toList

/-- The kind of token, computed. -/
def Form.kind : Form → String → Token.Kind
  | .number, _ => .number
  | .string, _ => .string
  | .name, text => Token.nameKind text
  | .op, _ => .op

/-- **The kind of a lexeme** is the one that its form gives: no literal is a keyword. -/
theorem gives_iff {form : Form} {text : String} {kind : Token.Kind} :
    form.Gives text kind ↔ kind = form.kind text := by
  have apart : ∀ keyword ∈ Token.keywords, keyword ∉ Token.literals := by decide
  constructor
  · intro gives
    cases gives with
    | literal isLiteral => simp [Form.kind, Token.nameKind, isLiteral]
    | keyword isKeyword => simp [Form.kind, Token.nameKind, isKeyword, apart text isKeyword]
    | name noLiteral noKeyword => simp [Form.kind, Token.nameKind, noLiteral, noKeyword]
    | _ => rfl
  · rintro rfl
    cases form with
    | number => exact .number
    | string => exact .string
    | op => exact .op
    | name =>
      by_cases isLiteral : text ∈ Token.literals
      · simpa [Form.kind, Token.nameKind, isLiteral] using Form.Gives.literal isLiteral
      · by_cases isKeyword : text ∈ Token.keywords
        · simpa [Form.kind, Token.nameKind, isLiteral, isKeyword] using
            Form.Gives.keyword isKeyword
        · simpa [Form.kind, Token.nameKind, isLiteral, isKeyword] using
            Form.Gives.name isLiteral isKeyword

/-! ## First characters -/

/-- The characters that lexemes of a form **start with**. -/
def Form.Starts : Form → Char → Prop
  | .number, c => isDecimal c = true ∨ c = '.'
  | .string, c => c = doubleQuote ∨ c = singleQuote
  | .name, c => Token.isNameStart c = true
  | .op, c => c ∈ Token.operators.filterMap fun sign => sign.toList.head?

/-- **A lexeme starts** with a character of its form. -/
theorem Matches.starts {form : Form} {cs : List Char} (found : Matches form cs) :
    ∃ c rest, cs = c :: rest ∧ form.Starts c := by
  cases found with
  | hex _ _ _ => exact ⟨_, _, rfl, .inl (by decide)⟩
  | string isQuote _ => exact ⟨_, _, rfl, isQuote⟩
  | name start _ => exact ⟨_, _, rfl, start⟩
  | @op sign isOp =>
    have nonempty : ∀ sign ∈ Token.operators, sign.toList ≠ [] := by decide
    obtain ⟨c, rest, eq⟩ := List.exists_cons_of_ne_nil (nonempty sign isOp)
    exact ⟨c, rest, eq, List.mem_filterMap.mpr ⟨sign, isOp, by rw [eq, List.head?_cons]⟩⟩
  | decimal wf => exact wf.exists_head

/-- The form of the lexemes that a character may start. -/
def Form.of (c : Char) : Form :=
  if isDecimal c = true ∨ c = '.' then .number
  else if c = doubleQuote ∨ c = singleQuote then .string
  else if Token.isNameStart c = true then .name
  else .op

/-- **No two forms compete**: the first character of a lexeme tells its form. -/
theorem Form.Starts.eq_of {form : Form} {c : Char} (h : form.Starts c) : form = Form.of c := by
  cases form with
  | number => exact (if_pos h).symm
  | string => rcases h with rfl | rfl <;> decide
  | name =>
    have start : Token.isNameStart c = true := h
    have noNumber : ¬(isDecimal c = true ∨ c = '.') := by
      rintro (digit | rfl)
      · rw [isDecimal_of_isNameStart start] at digit
        cases digit
      · cases start
    have noQuote : ¬(c = doubleQuote ∨ c = singleQuote) := by
      rintro (rfl | rfl) <;> cases start
    rw [Form.of, if_neg noNumber, if_neg noQuote, if_pos start]
  | op =>
    have signs : (Token.operators.filterMap fun sign => sign.toList.head?).all
        (fun c => decide (Form.op = Form.of c)) = true := by
      decide
    exact of_decide_eq_true (List.all_eq_true.mp signs c h)

/-- No lexeme starts with a blank. -/
theorem Form.Starts.visible {form : Form} {c : Char} (h : form.Starts c) : isBlank c = false := by
  cases form with
  | number =>
    rcases h with digit | rfl
    · exact isBlank_of_isDecimal digit
    · decide
  | string => rcases h with rfl | rfl <;> decide
  | name => exact isBlank_of_isNameStart h
  | op =>
    have signs : (Token.operators.filterMap fun sign => sign.toList.head?).all
        (fun c => !isBlank c) = true := by
      decide
    simpa using List.all_eq_true.mp signs c h

/-- **No blank stands in a lexeme** that is not a quoted text. -/
theorem Matches.visible {form : Form} {cs : List Char} (found : Matches form cs)
    (unquoted : form ≠ .string) {c : Char} (inside : c ∈ cs) : isBlank c = false := by
  cases found with
  | hex letter _ digits =>
    rcases List.mem_cons.mp inside with rfl | inside
    · decide
    · rcases List.mem_cons.mp inside with rfl | inside
      · rcases letter with rfl | rfl <;> decide
      · exact isBlank_of_isHexDigit (digits c inside)
  | decimal wf =>
    rcases wf.of_mem_text inside with digit | sign
    · exact isBlank_of_isDecimal digit
    · have signs : (['.', 'e', 'E', '+', '-'].all fun c => !isBlank c) = true := by decide
      simpa using List.all_eq_true.mp signs c sign
  | string => exact absurd rfl unquoted
  | name start letters =>
    rcases List.mem_cons.mp inside with rfl | inside
    · exact isBlank_of_isNameStart start
    · exact isBlank_of_isNameRest (letters c inside)
  | @op sign isOp =>
    have signs : ∀ sign ∈ Token.operators, (sign.toList.all fun c => !isBlank c) = true := by
      decide
    simpa using List.all_eq_true.mp (signs sign isOp) c inside

/-! ## Widths

The functions that give the width of a lexeme are sound and complete for the grammar, each for its
form: what a width cuts off is in the grammar, and where a text of the grammar stands, a width is
found that is not less. -/

/-- The width of the lexeme of a form at the front of a text. -/
def Form.width? : Form → List Char → Option Nat
  | .number => Token.numberWidth?
  | .string => Token.stringWidth?
  | .name => Token.nameWidth?
  | .op => Token.opWidth?

variable {cs : List Char} {n : Nat}

/-- A hexadecimal numeral is cut off with all its digits. -/
theorem hexWidth?_eq_some (found : Token.hexWidth? cs = some n) :
    ∃ x rest, cs = '0' :: x :: rest ∧ (x = 'x' ∨ x = 'X') ∧
      rest.takeWhile Numeral.isHexDigit ≠ [] ∧
      n = (rest.takeWhile Numeral.isHexDigit).length + 2 := by
  unfold Token.hexWidth? at found
  split at found
  case h_2 => cases found
  case h_1 x rest =>
    simp only at found
    split at found
    case isFalse => cases found
    case isTrue isHex =>
      cases found
      exact ⟨x, rest, rfl, isHex.1, isHex.2, Nat.add_comm _ _⟩

/-- A hexadecimal numeral is cut off, perhaps with more digits behind it. -/
theorem hexWidth?_append {x : Char} {digits : List Char} (letter : x = 'x' ∨ x = 'X')
    (nonempty : digits ≠ []) (all : ∀ c ∈ digits, Numeral.isHexDigit c = true)
    (rest : List Char) :
    Token.hexWidth? ('0' :: x :: (digits ++ rest)) =
      some (2 + (digits ++ rest.takeWhile Numeral.isHexDigit).length) := by
  have taken : (digits ++ rest).takeWhile Numeral.isHexDigit =
      digits ++ rest.takeWhile Numeral.isHexDigit := List.takeWhile_append_of_pos all
  simp [Token.hexWidth?, taken, letter, nonempty]

/-- **No decimal numeral is a hexadecimal one**: it has no letter but that of an exponent. -/
theorem hexWidth?_text {d : Numeral.Decimal} (wf : d.WellFormed) :
    Token.hexWidth? d.text = none := by
  cases isHex : Token.hexWidth? d.text with
  | none => rfl
  | some width =>
    obtain ⟨x, rest, chars, letter, -⟩ := hexWidth?_eq_some isHex
    have inside := wf.of_mem_text (c := x) (by simp [chars])
    rcases letter with rfl | rfl <;> exact absurd inside (by decide)

/-- What is cut off as a number is one. -/
theorem matches_of_numberWidth? (found : Token.numberWidth? cs = some n) :
    ∃ front rest, cs = front ++ rest ∧ front.length = n ∧ Matches .number front := by
  unfold Token.numberWidth? at found
  split at found
  case h_1 width isHex =>
    cases found
    obtain ⟨x, rest, rfl, letter, nonempty, rfl⟩ := hexWidth?_eq_some isHex
    refine ⟨'0' :: x :: rest.takeWhile Numeral.isHexDigit, rest.dropWhile Numeral.isHexDigit, ?_,
      rfl, .hex letter nonempty fun c inside => Numeral.of_mem_takeWhile inside⟩
    simp
  case h_2 =>
    obtain ⟨⟨d, rest⟩, isDecimal, rfl⟩ := Option.map_eq_some_iff.mp found
    obtain ⟨wf, rfl⟩ := Numeral.Decimal.read_eq_some isDecimal
    exact ⟨d.text, rest, rfl, by simp, .decimal wf⟩

/-- A number is cut off, perhaps with more of the text behind it. -/
theorem exists_numberWidth? {front : List Char} (found : Matches .number front)
    (rest : List Char) : ∃ n, Token.numberWidth? (front ++ rest) = some n ∧ front.length ≤ n := by
  cases found with
  | @hex x digits letter nonempty all =>
    have width := hexWidth?_append letter nonempty all rest
    refine ⟨_, by rw [List.cons_append, List.cons_append, Token.numberWidth?, width], ?_⟩
    simp only [List.length_cons, List.length_append]
    omega
  | @decimal d wf =>
    unfold Token.numberWidth?
    cases isHex : Token.hexWidth? (d.text ++ rest) with
    | some width =>
      -- The letter of a hexadecimal numeral stands in no decimal one, which so ends before it.
      obtain ⟨x, more, split, letter, -, rfl⟩ := hexWidth?_eq_some isHex
      refine ⟨_, rfl, ?_⟩
      have short : d.text.length ≤ 1 := by
        cases chars : d.text with
        | nil => simp
        | cons c text =>
          cases text with
          | nil => simp
          | cons c' text =>
            rw [chars] at split
            cases split
            have inside := wf.of_mem_text (c := x) (by simp [chars])
            rcases letter with rfl | rfl <;> exact absurd inside (by decide)
      omega
    | none =>
      obtain ⟨d', rest', read, le⟩ := wf.exists_read_append rest
      refine ⟨(d.text ++ rest).length - rest'.length, by rw [read]; rfl, ?_⟩
      rw [List.length_append]
      omega

/-- The text before the closing quote is cut off together with it. -/
theorem quoted_of_closingWidth? {q : Char} (found : Token.closingWidth? q cs = some n) :
    ∃ body rest, cs = body ++ q :: rest ∧ body.length + 1 = n ∧ Quoted q body := by
  fun_induction Token.closingWidth? q cs generalizing n with
  | case1 => cases found
  | case2 => cases found
  | case3 c rest noFeed ih =>
    obtain ⟨width, isClosing, rfl⟩ := Option.map_eq_some_iff.mp found
    obtain ⟨body, behind, rfl, rfl, quoted⟩ := ih isClosing
    exact ⟨'\\' :: c :: body, behind, rfl, rfl, .escaped noFeed quoted⟩
  | case4 rest =>
    cases found
    exact ⟨[], rest, rfl, rfl, .nil⟩
  | case5 => cases found
  | case6 c rest other noQuote noBackslash ih =>
    obtain ⟨width, isClosing, rfl⟩ := Option.map_eq_some_iff.mp found
    obtain ⟨body, behind, rfl, rfl, quoted⟩ := ih isClosing
    exact ⟨c :: body, behind, rfl, rfl, .plain noQuote noBackslash quoted⟩

/-- The closing quote is the first one that no backslash takes with it. -/
theorem Quoted.closingWidth? {q : Char} {body : List Char} (quoted : Quoted q body)
    (noBackslash : q ≠ '\\') (rest : List Char) :
    Token.closingWidth? q (body ++ q :: rest) = some (body.length + 1) := by
  induction quoted with
  | nil => simp [Token.closingWidth?, noBackslash]
  | plain noQuote other _ ih => simp [Token.closingWidth?, noQuote, other, ih]
  | escaped noFeed _ ih => simp [Token.closingWidth?, noFeed, ih]

/-- A quote is no backslash. -/
theorem ne_backslash_of_isQuote {q : Char} (isQuote : q = doubleQuote ∨ q = singleQuote) :
    q ≠ '\\' := by
  rcases isQuote with rfl | rfl <;> decide

/-- What is cut off as a quoted text is one. -/
theorem matches_of_stringWidth? (found : Token.stringWidth? cs = some n) :
    ∃ front rest, cs = front ++ rest ∧ front.length = n ∧ Matches .string front := by
  cases cs with
  | nil => cases found
  | cons q cs =>
    rw [Token.stringWidth?] at found
    split at found
    case isFalse => cases found
    case isTrue isQuote =>
      obtain ⟨width, isClosing, rfl⟩ := Option.map_eq_some_iff.mp found
      obtain ⟨body, rest, rfl, rfl, quoted⟩ := quoted_of_closingWidth? isClosing
      exact ⟨q :: (body ++ [q]), rest, by simp, by simp, .string isQuote quoted⟩

/-- A quoted text is cut off. -/
theorem exists_stringWidth? {front : List Char} (found : Matches .string front)
    (rest : List Char) : Token.stringWidth? (front ++ rest) = some front.length := by
  cases found with
  | @string q body isQuote quoted =>
    have closing := quoted.closingWidth? (ne_backslash_of_isQuote isQuote) rest
    have quote : q = '\x22' ∨ q = '\x27' := isQuote
    simp [Token.stringWidth?, quote, closing]

/-- What is cut off as a name is one. -/
theorem matches_of_nameWidth? (found : Token.nameWidth? cs = some n) :
    ∃ front rest, cs = front ++ rest ∧ front.length = n ∧ Matches .name front := by
  cases cs with
  | nil => cases found
  | cons c cs =>
    rw [Token.nameWidth?] at found
    split at found
    case isFalse => cases found
    case isTrue start =>
      cases found
      refine ⟨c :: cs.takeWhile Token.isNameRest, cs.dropWhile Token.isNameRest, by simp,
        Nat.add_comm _ _, .name start fun d inside => Numeral.of_mem_takeWhile inside⟩

/-- A name is cut off, perhaps with more of the text behind it. -/
theorem exists_nameWidth? {front : List Char} (found : Matches .name front)
    (rest : List Char) : ∃ n, Token.nameWidth? (front ++ rest) = some n ∧ front.length ≤ n := by
  cases found with
  | @name c letters start all =>
    refine ⟨_, by rw [List.cons_append, Token.nameWidth?, if_pos start], ?_⟩
    rw [List.takeWhile_append_of_pos all, List.length_append, List.length_cons]
    omega

/-- What is cut off as an operator is one. -/
theorem matches_of_opWidth? (found : Token.opWidth? cs = some n) :
    ∃ front rest, cs = front ++ rest ∧ front.length = n ∧ Matches .op front := by
  obtain ⟨sign, first, rfl⟩ := Option.map_eq_some_iff.mp found
  have isOp : sign ∈ Token.operators := List.mem_of_find?_eq_some first
  have matched : sign.toList.isPrefixOf cs = true := by simpa using List.find?_some first
  obtain ⟨rest, rfl⟩ := List.isPrefixOf_iff_prefix.mp matched
  exact ⟨sign.toList, rest, rfl, String.length_toList, .op isOp⟩

/-- An operator is cut off, or a longer one: the longer ones come first in the list. -/
theorem exists_opWidth? {front : List Char} (found : Matches .op front)
    (rest : List Char) : ∃ n, Token.opWidth? (front ++ rest) = some n ∧ front.length ≤ n := by
  have descending : Token.operators.Pairwise fun a b => b.length ≤ a.length := by decide
  cases found with
  | @op sign isOp =>
    have here : sign.toList.isPrefixOf (sign.toList ++ rest) = true :=
      List.isPrefixOf_iff_prefix.mpr (List.prefix_append _ _)
    cases first : Token.operators.find? fun op => op.toList.isPrefixOf (sign.toList ++ rest) with
    | none => exact absurd here (by simpa using List.find?_eq_none.mp first sign isOp)
    | some op =>
      refine ⟨op.length, by rw [Token.opWidth?, first]; rfl, ?_⟩
      obtain ⟨-, earlier, later, split, passed⟩ := List.find?_eq_some_iff_append.mp first
      rw [split] at isOp descending
      rw [String.length_toList]
      rcases List.mem_append.mp isOp with before | behind
      · have not_here := passed sign before
        rw [here] at not_here
        cases not_here
      · rcases List.mem_cons.mp behind with rfl | behind
        · exact Nat.le_refl _
        · have tail := (List.pairwise_append.mp descending).2.1
          exact (List.pairwise_cons.mp tail).1 sign behind

/-- **Soundness of widths.** -/
theorem Form.matches_of_width? {form : Form} (found : form.width? cs = some n) :
    ∃ front rest, cs = front ++ rest ∧ front.length = n ∧ Matches form front := by
  cases form with
  | number => exact matches_of_numberWidth? found
  | string => exact matches_of_stringWidth? found
  | name => exact matches_of_nameWidth? found
  | op => exact matches_of_opWidth? found

/-- **Completeness of widths.** -/
theorem Matches.exists_width? {form : Form} {front : List Char} (found : Matches form front)
    (rest : List Char) : ∃ n, form.width? (front ++ rest) = some n ∧ front.length ≤ n := by
  cases form with
  | number => exact exists_numberWidth? found rest
  | string => exact ⟨_, exists_stringWidth? found rest, Nat.le_refl _⟩
  | name => exact exists_nameWidth? found rest
  | op => exact exists_opWidth? found rest

/-! ## Longest lexemes -/

/-- **The longest lexeme** at the front of a text: its first `n` characters are of the given form,
and no text of the grammar that stands at the front, of whichever form, is longer. -/
structure Longest (form : Form) (cs : List Char) (n : Nat) : Prop where
  /-- The lexeme lies within the text. -/
  within : n ≤ cs.length
  /-- It is of the form. -/
  found : Matches form (cs.take n)
  /-- None is longer. -/
  longest : ∀ other front, front <+: cs → Matches other front → front.length ≤ n

/-- Texts of the grammar at the front of the same text are of the same form. -/
theorem form_eq_of_prefix {form other : Form} {front front' : List Char}
    (at_front : front <+: cs) (at_front' : front' <+: cs) (found : Matches form front)
    (found' : Matches other front') : form = other := by
  obtain ⟨c, more, rfl, starts⟩ := found.starts
  obtain ⟨c', more', rfl, starts'⟩ := found'.starts
  obtain ⟨rest, rfl⟩ := at_front
  obtain ⟨rest', eq⟩ := at_front'
  cases (List.cons.inj eq).1
  exact starts.eq_of.trans starts'.eq_of.symm

/-- **Widths are those of longest lexemes.** -/
theorem width?_eq_some_iff {form : Form} : form.width? cs = some n ↔ Longest form cs n := by
  constructor
  · intro found
    obtain ⟨front, rest, rfl, rfl, isForm⟩ := form.matches_of_width? found
    refine ⟨by simp, by simpa using isForm, fun other front' at_front found' => ?_⟩
    cases form_eq_of_prefix (List.prefix_append front rest) at_front isForm found'
    obtain ⟨rest', split⟩ := at_front
    obtain ⟨n', width, le⟩ := found'.exists_width? rest'
    rw [split, found] at width
    exact (Option.some.inj width) ▸ le
  · intro longest
    obtain ⟨n', width, le⟩ := longest.found.exists_width? (cs.drop n)
    rw [List.take_append_drop] at width
    rw [List.length_take, Nat.min_eq_left longest.within] at le
    obtain ⟨front, rest, split, length, isForm⟩ := form.matches_of_width? width
    have ge := longest.longest form front ⟨rest, split.symm⟩ isForm
    rw [width, Nat.le_antisymm le (length ▸ ge)]

/-! ## What is found -/

/-- The ways in which a lexeme gets its kind and its width, one for each kind of lexeme. -/
theorem lexeme?_cases {kind : Token.Kind} (found : Token.lexeme? cs = some (some kind, n)) :
    kind = .number ∧ Token.numberWidth? cs = some n ∨
    kind = .string ∧ Token.stringWidth? cs = some n ∨
    kind = Token.nameKind (String.ofList (cs.take n)) ∧ Token.nameWidth? cs = some n ∨
    kind = .op ∧ Token.opWidth? cs = some n := by
  simp only [Token.lexeme?] at found
  split at found
  · cases found
  · split at found
    · cases found
      exact .inl ⟨rfl, ‹_›⟩
    · split at found
      · cases found
        exact .inr (.inl ⟨rfl, ‹_›⟩)
      · split at found
        · cases found
          exact .inr (.inr (.inl ⟨rfl, ‹_›⟩))
        · obtain ⟨w, isOp, pair⟩ := Option.map_eq_some_iff.mp found
          cases pair
          exact .inr (.inr (.inr ⟨rfl, isOp⟩))

/-- Blanks are passed, as no lexeme of a kind. -/
theorem lexeme?_blank {c : Char} (blank : isBlank c = true) (rest : List Char) :
    Token.lexeme? (c :: rest) = some (none, (rest.takeWhile isBlank).length + 1) := by
  rw [Token.lexeme?, List.takeWhile_cons_of_pos blank, List.length_cons]
  rfl

/-- Only blanks are passed without a kind. -/
theorem isBlank_of_lexeme? {c : Char} {rest : List Char}
    (found : Token.lexeme? (c :: rest) = some (none, n)) : isBlank c = true := by
  cases blank : isBlank c with
  | true => rfl
  | false =>
    simp only [Token.lexeme?, takeWhile_isBlank_cons blank, List.length_nil, ne_eq,
      not_true_eq_false, if_false] at found
    split at found
    · cases found
    · split at found
      · cases found
      · split at found
        · cases found
        · obtain ⟨_, -, pair⟩ := Option.map_eq_some_iff.mp found
          cases pair

/-- Where a character stands that may start a lexeme of a form, only this form counts. -/
theorem lexeme?_of_starts {form : Form} {c : Char} (starts : form.Starts c) (rest : List Char) :
    Token.lexeme? (c :: rest) = (form.width? (c :: rest)).map fun n =>
      (some (form.kind (String.ofList ((c :: rest).take n))), n) := by
  have others (other : Form) (ne : form ≠ other) : other.width? (c :: rest) = none := by
    cases width : other.width? (c :: rest) with
    | none => rfl
    | some n =>
      -- A lexeme of another form would start with the same character.
      obtain ⟨front, behind, split, -, isOther⟩ := other.matches_of_width? width
      obtain ⟨c', more, rfl, starts'⟩ := isOther.starts
      cases (List.cons.inj split).1
      exact absurd (starts.eq_of.trans starts'.eq_of.symm) ne
  have noBlank := takeWhile_isBlank_cons starts.visible rest
  have number : form ≠ .number → Token.numberWidth? (c :: rest) = none := others .number
  have string : form ≠ .string → Token.stringWidth? (c :: rest) = none := others .string
  have name : form ≠ .name → Token.nameWidth? (c :: rest) = none := others .name
  have op : form ≠ .op → Token.opWidth? (c :: rest) = none := others .op
  simp only [Token.lexeme?, noBlank, List.length_nil, ne_eq, not_true_eq_false, if_false]
  cases form with
  | number =>
    rw [string nofun, name nofun, op nofun]
    change _ = (Token.numberWidth? (c :: rest)).map _
    cases Token.numberWidth? (c :: rest) <;> rfl
  | string =>
    rw [number nofun, name nofun, op nofun]
    change _ = (Token.stringWidth? (c :: rest)).map _
    cases Token.stringWidth? (c :: rest) <;> rfl
  | name =>
    rw [number nofun, string nofun, op nofun]
    change _ = (Token.nameWidth? (c :: rest)).map _
    cases Token.nameWidth? (c :: rest) <;> rfl
  | op =>
    rw [number nofun, string nofun, name nofun]
    rfl

/-- **A lexeme is found exactly when it is the longest one** at the front of the text, with the kind
that its form gives. -/
theorem lexeme?_eq_some_iff {kind : Token.Kind} :
    Token.lexeme? cs = some (some kind, n) ↔
      ∃ form, Longest form cs n ∧ form.Gives (String.ofList (cs.take n)) kind := by
  constructor
  · intro found
    obtain ⟨rfl, width⟩ | ⟨rfl, width⟩ | ⟨isName, width⟩ | ⟨rfl, width⟩ := lexeme?_cases found
    · exact ⟨.number, width?_eq_some_iff.mp width, .number⟩
    · exact ⟨.string, width?_eq_some_iff.mp width, .string⟩
    · exact ⟨.name, width?_eq_some_iff.mp width, gives_iff.mpr isName⟩
    · exact ⟨.op, width?_eq_some_iff.mp width, .op⟩
  · rintro ⟨form, longest, gives⟩
    obtain ⟨c, rest, front, starts⟩ := longest.found.starts
    obtain ⟨rest', rfl⟩ : ∃ rest', cs = c :: rest' := by
      have split := List.take_append_drop n cs
      rw [front] at split
      exact ⟨_, split.symm⟩
    rw [lexeme?_of_starts starts, width?_eq_some_iff.mpr longest, gives_iff.mp gives]
    rfl

/-- **A stray character**: no lexeme is found exactly where there is no blank and no text of the
grammar. -/
theorem lexeme?_eq_none_iff {c : Char} {rest : List Char} :
    Token.lexeme? (c :: rest) = none ↔
      isBlank c = false ∧ ∀ form front, front <+: c :: rest → ¬Matches form front := by
  constructor
  · intro stray
    refine ⟨?_, fun form front at_front found => ?_⟩
    · apply Bool.eq_false_iff.mpr
      intro blank
      rw [lexeme?_blank blank] at stray
      cases stray
    · obtain ⟨behind, split⟩ := at_front
      obtain ⟨n, width, -⟩ := found.exists_width? behind
      obtain ⟨c', more, rfl, starts⟩ := found.starts
      cases (List.cons.inj split).1
      rw [lexeme?_of_starts starts, ← split, width] at stray
      cases stray
  · rintro ⟨visible, nothing⟩
    cases found : Token.lexeme? (c :: rest) with
    | none => rfl
    | some lexeme =>
      obtain ⟨kind | kind, n⟩ := lexeme
      · rw [isBlank_of_lexeme? found] at visible
        cases visible
      · obtain ⟨form, longest, -⟩ := lexeme?_eq_some_iff.mp found
        exact absurd longest.found (nothing form _ (List.take_prefix n _))

end Lexical

end LineGate
