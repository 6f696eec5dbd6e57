import Mathlib.Data.List.Basic
import Mathlib.Tactic.SplitIfs
import LineGate.Proofs.Expr.Lexing
import LineGate.Text.Separated

/-! # Lexemes between spaces

A lexeme is **whole** when it is the one that is found at the front of its own text, whatever stands
behind it after a space (`Lexeme.Whole`). Every text of the lexical grammar is whole
(`Lexeme.whole_of_matches`): no blank stands in a lexeme, so none goes on behind the space, apart from
the quoted texts, which end at their closing quote. Whole lexemes that are joined with one space
between neighbours are the tokens of the joined text (`Lexeme.scan_spaced`), so a condition of that
form is read from its lexemes alone (`Lexeme.parse_spaced`).

Integers and quoted texts carry values: the digits of a number are read as that number
(`Lexeme.numberValue_number`), and a text that is quoted with an escape in front of every backslash
and every quote of its own kind is read as that text (`Lexeme.stringValue_string`). -/

namespace LineGate

open Lexical (Form Matches Quoted)

/-! ## Whole lexemes -/

/-- **Lexemes**: a kind of token with a text of that kind. -/
structure Lexeme where
  kind : Token.Kind
  text : String
  deriving DecidableEq, Repr

/-- The lexeme of a token, its place left out. -/
def Token.lexeme (t : Token) : Lexeme := ⟨t.kind, t.text⟩

/-- A text is **parted** from what stands before it: it is empty or starts with a space. -/
inductive Parted : List Char → Prop where
  | nothing : Parted []
  | space (more : List Char) : Parted (' ' :: more)

namespace Lexeme

/-- **Whole lexemes**: each is found at the front of its text, if what follows is parted from it,
and it does not end with a blank. -/
structure Whole (l : Lexeme) : Prop where
  /-- The lexeme is found, with its kind and all of its text. -/
  found {rest : List Char} : Parted rest →
    Token.lexeme? (l.text.toList ++ rest) = some (some l.kind, l.text.length)
  /-- The last character is not blank. -/
  last : ∀ c ∈ l.text.toList.getLast?, isBlank c = false

/-- A whole lexeme has a first character, which is not blank. -/
theorem Whole.first {l : Lexeme} (whole : l.Whole) :
    ∃ c rest, l.text.toList = c :: rest ∧ isBlank c = false := by
  have found := whole.found .nothing
  rw [List.append_nil] at found
  cases chars : l.text.toList with
  | nil =>
    rw [chars] at found
    cases found
  | cons c rest =>
    refine ⟨c, rest, rfl, ?_⟩
    by_contra blank
    rw [chars, Lexical.lexeme?_blank (eq_true_of_ne_false blank)] at found
    cases found

/-- **A lexeme ends where its text is parted** from what follows. -/
theorem width?_parted {form : Form} {cs rest : List Char} (found : Matches form cs)
    (parted : Parted rest) : form.width? (cs ++ rest) = some cs.length := by
  by_cases quoted : form = .string
  · subst quoted
    exact Lexical.exists_stringWidth? found rest
  · obtain ⟨n, width, le⟩ := found.exists_width? rest
    obtain ⟨front, behind, split, length, isForm⟩ := form.matches_of_width? width
    suffices n ≤ cs.length by rw [width, Nat.le_antisymm this le]
    cases parted with
    | nothing =>
      have lengths := congrArg List.length split
      simp only [List.length_append, List.length_nil] at lengths
      omega
    | space more =>
      -- A longer lexeme would take the space with it.
      by_contra longer
      have space : (front ++ behind)[cs.length]? = some ' ' := by
        rw [← split, List.getElem?_append_right (Nat.le_refl _), Nat.sub_self]
        rfl
      rw [List.getElem?_append_left (by omega)] at space
      have visible := isForm.visible quoted (List.mem_of_getElem? space)
      cases visible

/-- **Every text of the lexical grammar is whole**, with the kind that its form gives. -/
theorem whole_of_matches {form : Form} {l : Lexeme} (found : Matches form l.text.toList)
    (gives : form.Gives l.text l.kind) : l.Whole := by
  constructor
  · intro rest parted
    have width := width?_parted found parted
    rw [Lexical.width?_eq_some_iff, String.length_toList] at width
    refine Lexical.lexeme?_eq_some_iff.mpr ⟨form, width, ?_⟩
    rwa [← String.length_toList, List.take_left, String.ofList_toList]
  · intro c last
    by_cases quoted : form = .string
    · subst quoted
      cases chars : l.text.toList with
      | nil =>
        rw [chars] at last
        cases last
      | cons q body =>
        rw [chars] at found last
        cases found with
        | string isQuote =>
          rw [← List.cons_append, List.getLast?_concat] at last
          cases last
          rcases isQuote with rfl | rfl <;> decide
    · exact found.visible quoted (List.mem_of_getLast? last)

/-- The tokens of a source have whole lexemes. -/
theorem whole_of_standsIn {source : List Char} {t : Token} (standing : t.StandsIn source) :
    t.lexeme.Whole := by
  obtain ⟨form, longest, gives⟩ := standing.longest
  have found := longest.found
  rw [standing.slice] at found
  exact whole_of_matches found gives

/-! ## Operators and words -/

/-- **Operators are whole.** -/
theorem whole_op {text : String} (isOp : text ∈ Token.operators) : (Lexeme.mk .op text).Whole :=
  whole_of_matches (.op isOp) .op

/-- A text **is a word** when it has the form of a name from its first to its last character. -/
def IsWord (text : String) : Prop := Token.nameWidth? text.toList = some text.length

instance (text : String) : Decidable (IsWord text) := inferInstanceAs (Decidable (_ = _))

/-- A word is a name of the lexical grammar. -/
theorem IsWord.matches {text : String} (isWord : IsWord text) : Matches .name text.toList := by
  obtain ⟨front, rest, split, length, isName⟩ := Lexical.matches_of_nameWidth? isWord
  have lengths := congrArg List.length split
  rw [List.length_append, length, String.length_toList] at lengths
  have nothing : rest = [] := List.eq_nil_of_length_eq_zero (by omega)
  rwa [split, nothing, List.append_nil]

/-- **Words are whole**, with the kind that their text gives them. -/
theorem whole_word {text : String} (isWord : IsWord text) :
    (Lexeme.mk (Token.nameKind text) text).Whole :=
  whole_of_matches isWord.matches (Lexical.gives_iff.mpr rfl)

/-! ## Numbers -/

/-- The lexeme of a number in decimal digits. -/
def number (n : Nat) : Lexeme := ⟨.number, n.repr⟩

/-- **Numbers are whole.** -/
theorem whole_number (n : Nat) : (number n).Whole := by
  have wf := Numeral.Decimal.wellFormed_toDigits n
  have found : Matches .number (number n).text.toList := by
    have found := Matches.decimal wf
    rwa [Numeral.Decimal.text_plain, ← String.toList_ofList (l := Nat.toDigits 10 n)] at found
  exact whole_of_matches found .number

/-- **A number has its own value**, if it has no more digits than are allowed. -/
theorem numberValue_number {n : Nat} (short : n.repr.length ≤ integerDigitLimit) {t : Token}
    (isNumber : t.lexeme = number n) : Parser.numberValue t = .ok (.int n) := by
  have text : t.text = n.repr := congrArg Lexeme.text isNumber
  have chars : t.text.toList = Nat.toDigits 10 n := by rw [text, Nat.repr, String.toList_ofList]
  have bound : ¬integerDigitLimit < (Nat.toDigits 10 n).length := by
    rwa [← chars, text, String.length_toList, Nat.not_lt]
  have integer : (Numeral.Decimal.plain (Nat.toDigits 10 n)).integer = .ok n := by
    rw [Numeral.Decimal.integer, Numeral.Decimal.plain, if_neg bound, Numeral.natural_toDigits]
  rw [Token.numberValue_of_digits (chars ▸ fun c => Numeral.isDecimal_of_mem_toDigits)
    (chars ▸ Nat.toDigits_ne_nil), chars, Parser.decimalValue, integer]
  rfl

/-! ## Quoted texts -/

/-- A backslash stands in front of a backslash and of the quote; other characters stand as they are. -/
def escape (q c : Char) : List Char := if c = q ∨ c = '\\' then ['\\', c] else [c]

/-- The lexeme of a text between two quotes `q`. -/
def string (q : Char) (s : String) : Lexeme :=
  ⟨.string, String.ofList (q :: (s.toList.flatMap (escape q) ++ [q]))⟩

section Quotes

variable {q : Char} (isQuote : q = doubleQuote ∨ q = singleQuote)
include isQuote

/-- An escaped text stands between quotes. -/
theorem quoted_escape (cs : List Char) : Quoted q (cs.flatMap (escape q)) := by
  have noFeed : q ≠ '\n' := by rcases isQuote with rfl | rfl <;> decide
  induction cs with
  | nil => exact .nil
  | cons c cs ih =>
    rw [List.flatMap_cons]
    by_cases escaped : c = q ∨ c = '\\'
    · have stays : c ≠ '\n' := by
        rintro rfl
        rcases escaped with rfl | other
        · exact noFeed rfl
        · cases other
      rw [escape, if_pos escaped]
      exact .escaped stays ih
    · obtain ⟨noQuote, noBackslash⟩ := not_or.mp escaped
      rw [escape, if_neg escaped]
      exact .plain noQuote noBackslash ih

/-- An escaped text is read as the text. -/
theorem unescape_escape (cs : List Char) : Parser.unescape (cs.flatMap (escape q)) = cs := by
  have same : Parser.unescapeChar q = q := by rcases isQuote with rfl | rfl <;> rfl
  induction cs with
  | nil => rfl
  | cons c cs ih =>
    rw [List.flatMap_cons]
    by_cases escaped : c = q ∨ c = '\\'
    · have itself : Parser.unescapeChar c = c := by
        rcases escaped with rfl | rfl
        · exact same
        · rfl
      rw [escape, if_pos escaped]
      simp [Parser.unescape, itself, ih]
    · rw [escape, if_neg escaped]
      obtain ⟨_, noBackslash⟩ := not_or.mp escaped
      simp [Parser.unescape, noBackslash, ih]

/-- **Quoted texts are whole**, whatever characters they hold. -/
theorem whole_string (s : String) : (string q s).Whole := by
  have found : Matches .string (string q s).text.toList := by
    rw [string, String.toList_ofList]
    exact .string isQuote (quoted_escape isQuote s.toList)
  exact whole_of_matches found .string

/-- **A quoted text has the text as its value.** -/
theorem stringValue_string {s : String} {t : Token} (isString : t.lexeme = string q s) :
    Parser.stringValue t.text = s := by
  have text : t.text = (string q s).text := congrArg Lexeme.text isString
  rw [text, Parser.stringValue, string, String.toList_ofList, List.drop_one, List.tail_cons,
    List.dropLast_concat, unescape_escape isQuote, String.ofList_toList]

end Quotes

/-! ## Joined lexemes -/

/-- **Lexemes between spaces**: their texts, with one space between neighbours. -/
def spaced (ls : List Lexeme) : List Char := Separated.join ' ' (ls.map fun l => l.text.toList)

/-- A single lexeme stands alone. -/
theorem spaced_singleton (l : Lexeme) : spaced [l] = l.text.toList := by
  simp [spaced, Separated.join, List.intercalate]

/-- A space stands behind a lexeme that is not the last one. -/
theorem spaced_cons (l l' : Lexeme) (ls : List Lexeme) :
    spaced (l :: l' :: ls) = l.text.toList ++ ' ' :: spaced (l' :: ls) := by
  simp [spaced, Separated.join, List.intercalate]

/-- The first character of a joined text is that of its first lexeme. -/
theorem spaced_head {l : Lexeme} (whole : l.Whole) (ls : List Lexeme) :
    ∃ c rest, spaced (l :: ls) = c :: rest ∧ isBlank c = false := by
  obtain ⟨c, rest, chars, visible⟩ := whole.first
  cases ls with
  | nil => exact ⟨c, rest, by rw [spaced_singleton, chars], visible⟩
  | cons l' ls => exact ⟨c, _, by rw [spaced_cons, chars, List.cons_append], visible⟩

/-- The last character of a joined text is that of its last lexeme. -/
theorem spaced_last {ls : List Lexeme} (whole : ∀ l ∈ ls, l.Whole) :
    ∀ c ∈ (spaced ls).getLast?, isBlank c = false := by
  induction ls with
  | nil => nofun
  | cons l ls ih =>
    cases ls with
    | nil =>
      rw [spaced_singleton]
      exact (whole l List.mem_cons_self).last
    | cons l' ls =>
      have others : ∀ m ∈ l' :: ls, m.Whole := fun m inside =>
        whole m (List.mem_cons_of_mem l inside)
      obtain ⟨c, rest, chars, _⟩ := spaced_head (others l' List.mem_cons_self) ls
      -- The text behind the space is not empty, so the last character is there.
      have last : (spaced (l :: l' :: ls)).getLast? = (spaced (l' :: ls)).getLast? := by
        rw [spaced_cons, chars, List.getLast?_append_of_ne_nil _ (List.cons_ne_nil _ _),
          List.getLast?_cons_cons]
      rw [last]
      exact ih others

/-- A whole lexeme is the first token, and what is parted from it gives the others. -/
theorem scan_whole {l : Lexeme} (whole : l.Whole) {rest : List Char} (parted : Parted rest)
    {pos : Nat} {ts : List Token} (others : Token.scan (pos + l.text.length) rest = .ok ts) :
    Token.scan pos (l.text.toList ++ rest) = .ok (⟨l.kind, l.text, pos⟩ :: ts) := by
  rw [Token.scan_token (whole.found parted), ← String.length_toList, List.drop_left,
    List.take_left, String.length_toList, others, String.ofList_toList]
  rfl

/-- A whole lexeme is the first token, and what stands behind a space after it gives the others. -/
theorem scan_whole_space {l : Lexeme} (whole : l.Whole) {rest : List Char} {pos : Nat}
    {ts : List Token} (others : Token.scan (pos + l.text.length + 1) rest = .ok ts) :
    Token.scan pos (l.text.toList ++ ' ' :: rest) = .ok (⟨l.kind, l.text, pos⟩ :: ts) :=
  scan_whole whole (.space rest) (by rw [Token.scan_blank (by decide), others])

/-- **Whole lexemes between spaces are the tokens** of their joined text. -/
theorem scan_spaced {ls : List Lexeme} (whole : ∀ l ∈ ls, l.Whole) (pos : Nat) :
    ∃ ts, Token.scan pos (spaced ls) = .ok ts ∧ ts.map Token.lexeme = ls := by
  -- Along the lexemes; each one is parted from the next by the space in front of that.
  induction ls generalizing pos with
  | nil => exact ⟨[], by rw [spaced, List.map_nil]; exact Token.scan.eq_1 pos, rfl⟩
  | cons l ls ih =>
    have first := whole l List.mem_cons_self
    have others : ∀ m ∈ ls, m.Whole := fun m inside => whole m (List.mem_cons_of_mem l inside)
    cases ls with
    | nil =>
      have scanned := scan_whole first .nothing (Token.scan.eq_1 (pos + l.text.length))
      rw [List.append_nil] at scanned
      exact ⟨_, by rw [spaced_singleton]; exact scanned, rfl⟩
    | cons l' ls =>
      obtain ⟨ts, scanned, same⟩ := ih others (pos + l.text.length + 1)
      refine ⟨⟨l.kind, l.text, pos⟩ :: ts, ?_, ?_⟩
      · rw [spaced_cons]
        exact scan_whole_space first scanned
      · rw [List.map_cons, same]
        rfl

/-- A joined text has no blanks at its ends. -/
theorem trim_spaced {ls : List Lexeme} (whole : ∀ l ∈ ls, l.Whole) :
    trim (spaced ls) = spaced ls := by
  refine trim_eq_self ?_ (spaced_last whole)
  cases ls with
  | nil => nofun
  | cons l ls =>
    obtain ⟨c, rest, chars, visible⟩ := spaced_head (whole l List.mem_cons_self) ls
    rw [chars]
    rintro _ ⟨⟩
    exact visible

/-- A condition without blanks at its ends is read from its tokens. -/
theorem parse_of_scan {cs : List Char} {ts : List Token} (trimmed_eq : trim cs = cs)
    (scanned : Token.scan 0 cs = .ok ts) :
    Expr.parse (String.ofList cs) = Parser.ofTokens ts := by
  have tokens : Token.tokenize (String.ofList cs) = .ok ts := by
    rw [Token.tokenize, String.toList_ofList, scanned]
  rw [Expr.parse, trimmed, String.toList_ofList, trimmed_eq, Expr.ofSource, tokens]

/-- **A condition of whole lexemes between spaces** is read from these lexemes alone. -/
theorem parse_spaced {ls : List Lexeme} (whole : ∀ l ∈ ls, l.Whole) :
    ∃ ts : List Token, ts.map Token.lexeme = ls ∧
      Expr.parse (String.ofList (spaced ls)) = Parser.ofTokens ts := by
  obtain ⟨ts, scanned, same⟩ := scan_spaced whole 0
  exact ⟨ts, same, parse_of_scan (trim_spaced whole) scanned⟩

end Lexeme

end LineGate
