import LineGate.Proofs.Command.Bindings
import LineGate.Proofs.Expr.Soundness

/-! # Definitions that conditions refer to

A defined name is an identifier of any script, while conditions have a lexical form of their own for
names and keep some words for themselves. An identifier is therefore read as one token or not at all
(`eq_singleton_of_tokenize`). It is a variable exactly if it has that form and is none of those words
(`parse_eq_name_iff`), and then the condition has the value of the last definition
(`reference_of_collect`). -/

namespace LineGate

open Grammar (Level Derives)
open Lexical (Form Matches)

/-! ## Identifiers as tokens -/

section Tokens

variable {c : Char} {k : String} {ts : List Token}

/-- **Other characters of identifiers** start no lexeme: all but the digits and the letters that names
start with. -/
theorem lexeme?_eq_none_of_inIdentifier (h : inIdentifier c = true) (noDigit : isDecimal c = false)
    (noStart : Token.isNameStart c = false) (rest : List Char) :
    Token.lexeme? (c :: rest) = none := by
  refine Lexical.lexeme?_eq_none_iff.mpr ⟨isBlank_of_inIdentifier h, fun form front at_front found => ?_⟩
  obtain ⟨c', more, rfl, starts⟩ := found.starts
  obtain ⟨behind, split⟩ := at_front
  cases (List.cons.inj split).1
  cases form with
  | number =>
    rcases starts with digit | rfl
    · rw [noDigit] at digit
      cases digit
    · exact absurd h (by decide +kernel)
  | string => rcases starts with rfl | rfl <;> exact absurd h (by decide +kernel)
  | name =>
    rw [show Token.isNameStart _ = true from starts] at noStart
    cases noStart
  | op =>
    have signs : (Token.operators.filterMap fun sign => sign.toList.head?).all
        (fun c => !inIdentifier c) = true := by
      decide
    have outside := List.all_eq_true.mp signs c starts
    rw [h] at outside
    cases outside

/-- What is left of an identifier behind a name starts no lexeme. -/
theorem lexeme?_eq_none_behind {rest more : List Char} (inside : ∀ d ∈ rest, inIdentifier d = true)
    (left : rest.dropWhile Token.isNameRest = c :: more) : Token.lexeme? (c :: more) = none := by
  have notName : Token.isNameRest c = false := by
    simpa [left] using List.head?_dropWhile_not Token.isNameRest rest
  have mem : c ∈ rest := by
    apply (List.dropWhile_suffix Token.isNameRest).subset
    rw [left]
    exact List.mem_cons_self
  -- Digits and letters that names start with would have belonged to the name.
  apply lexeme?_eq_none_of_inIdentifier (inside c mem)
  · by_contra digit
    simp [isNameRest_of_isDecimal (by simpa using digit)] at notName
  · by_contra start
    simp [isNameRest_of_isNameStart (by simpa using start)] at notName

/-- **An identifier is one token** of conditions, or it cannot be read. -/
theorem eq_singleton_of_tokenize (identifier : isIdentifier k.toList = true)
    (scanned : Token.tokenize k = .ok ts) :
    Matches .name k.toList ∧ ts = [⟨Token.nameKind k, k, 0⟩] := by
  have inside {d : Char} (mem : d ∈ k.toList) : inIdentifier d = true :=
    inIdentifier_of_mem identifier mem
  have spelled : String.ofList k.toList = k := String.ofList_toList
  unfold Token.tokenize at scanned
  generalize k.toList = cs at identifier scanned inside spelled
  cases cs with
  | nil => cases identifier
  | cons c rest =>
    have noDigit := isDecimal_of_identifierStart ((Bool.and_eq_true _ _).mp identifier).1
    by_cases start : Token.isNameStart c = true
    · have starts : Form.Starts .name c := start
      have width := Lexical.lexeme?_of_starts starts rest
      rw [show Form.width? .name (c :: rest) = some (1 + (rest.takeWhile Token.isNameRest).length)
        from if_pos start, Option.map_some] at width
      have behind : (c :: rest).drop (1 + (rest.takeWhile Token.isNameRest).length) =
          rest.dropWhile Token.isNameRest := by
        rw [Nat.add_comm, List.drop_succ_cons, drop_length_takeWhile]
      rw [Token.scan_token width, behind] at scanned
      -- The token takes as many characters as it can. If one is left, it is stray.
      cases left : rest.dropWhile Token.isNameRest with
      | nil =>
        have all : ∀ d ∈ rest, Token.isNameRest d = true := List.dropWhile_eq_nil_iff.mp left
        have whole : (c :: rest).take (1 + (rest.takeWhile Token.isNameRest).length) = c :: rest := by
          rw [List.takeWhile_eq_self_iff.mpr all]
          simp [Nat.add_comm]
        rw [left, whole, spelled, Token.scan] at scanned
        cases scanned
        exact ⟨.name start all, rfl⟩
      | cons d more =>
        have stray := lexeme?_eq_none_behind (fun d mem => inside (List.mem_cons_of_mem _ mem)) left
        rw [left, Token.scan_stray stray] at scanned
        cases scanned
    · have stray := lexeme?_eq_none_of_inIdentifier (inside List.mem_cons_self) noDigit
        (by simpa using start) rest
      rw [Token.scan_stray stray] at scanned
      cases scanned

end Tokens

/-! ## Reading an identifier -/

/-- The texts that have the form of a name as a whole are the names of the lexical grammar. -/
theorem Lexeme.isWord_of_matches {text : String} (found : Matches .name text.toList) :
    Lexeme.IsWord text := by
  unfold Lexeme.IsWord
  generalize chars : text.toList = cs at found
  cases found with
  | @name c rest start inner =>
    have length := congrArg List.length chars
    rw [String.length_toList, List.length_cons] at length
    rw [Token.nameWidth?, if_pos start, List.takeWhile_eq_self_iff.mpr inner, length, Nat.add_comm]

/-- An expression that is a variable has a token for its name. -/
theorem exists_name_of_derives {level : Level} {ts : List Token} {n : String}
    (h : Derives level ts (.name n)) : ∃ t ∈ ts, t.kind = .name ∧ t.text = n := by
  generalize same : Expr.name n = e at h
  induction h with
  | ofAnd _ ih | ofNot _ ih | ofComparison _ ih | ofUnary _ ih | ofOperand _ ih => exact ih same
  | name kind =>
    cases same
    exact ⟨_, List.mem_singleton_self _, kind, rfl⟩
  | group _ _ _ ih =>
    obtain ⟨t, inside, found⟩ := ih same
    exact ⟨t, by simp [inside], found⟩
  | _ => cases same

/-- A text in the form of a name is no number. -/
theorem nameKind_ne_number (text : String) : Token.nameKind text ≠ .number := by
  unfold Token.nameKind
  split
  · nofun
  · split <;> nofun

/-- An identifier is not trimmed. -/
theorem trimmed_identifier {k : String} (identifier : isIdentifier k.toList = true) :
    trimmed k = k := by
  have visible {c : Char} (inside : c ∈ k.toList) : isBlank c = false :=
    isBlank_of_inIdentifier (inIdentifier_of_mem identifier inside)
  have same : trim k.toList = k.toList :=
    trim_eq_self (fun c first => visible (List.mem_of_mem_head? first))
      (fun c last => visible (List.mem_of_mem_getLast? last))
  rw [trimmed, same, String.ofList_toList]

/-- **An identifier is a variable** of conditions exactly if it has the form of a name there and is
neither a literal nor a keyword. -/
theorem parse_eq_name_iff {k : String} (identifier : isIdentifier k.toList = true) :
    Expr.parse k = .ok (.name k) ↔
      Matches .name k.toList ∧ k ∉ Token.literals ∧ k ∉ Token.keywords := by
  constructor
  · intro read
    rw [Expr.parse, trimmed_identifier identifier, Expr.ofSource] at read
    cases scanned : Token.tokenize k with
    | error stray =>
      rw [scanned] at read
      cases read
    | ok ts =>
      rw [scanned] at read
      obtain ⟨found, rfl⟩ := eq_singleton_of_tokenize identifier scanned
      have proper : Parser.AllProper [⟨Token.nameKind k, k, 0⟩] := by
        refine Token.proper_of_tokenize scanned fun t inside plain => ?_
        cases List.mem_singleton.mp inside
        exact absurd plain.1 (nameKind_ne_number k)
      have derived := Parser.ofTokens_meets proper
      dsimp only at read
      rw [read] at derived
      obtain ⟨t, inside, kind, -⟩ := exists_name_of_derives derived
      cases List.mem_singleton.mp inside
      -- The kind of the token tells that the text is none of the words.
      have gives : Form.Gives .name k .name := Lexical.gives_iff.mpr kind.symm
      cases gives with
      | name notLiteral notKeyword => exact ⟨found, notLiteral, notKeyword⟩
  · rintro ⟨found, notLiteral, notKeyword⟩
    have isName : Expr.IsName k := ⟨Lexeme.isWord_of_matches found, notLiteral, notKeyword⟩
    have printed : Expr.print (fun _ => .signs) (.name k) = k := by
      simp [Expr.print, Expr.lexemes, Lexeme.spaced_singleton]
    have read := Expr.parse_print (.name isName) fun _ => .signs
    rwa [printed] at read

/-! ## Referring to a definition -/

namespace Define

/-- A defined name that is one of the words of conditions: it is read as a literal there, whatever it is
bound to. -/
theorem defined_word_not_read :
    Names "true=0" "true" ∧ collect [] [] ["true=0"] = .ok ([("true", .int 0)], []) ∧
      Expr.parse "true" = .ok (.literal (.bool true)) ∧ Expr.parse "true" ≠ .ok (.name "true") ∧
      (Condition.holds ⟨fun _ _ state => (.error (.other "" ""), state)⟩ [("true", .int 0)] "true"
        none ()).1 = .ok true := by
  have read : Expr.parse "true" = .ok (.literal (.bool true)) :=
    Expr.parse_print (.bool true) fun _ => .signs
  refine ⟨⟨by decide, some "0", cutItem_eq_iff.mp rfl⟩, rfl, read, ?_, ?_⟩
  · rw [read]
    nofun
  · rw [Condition.holds, read]
    rfl

/-- **Conditions refer to definitions.** Let some items be collected, and one of them name a variable.
As a condition the name is that variable exactly if it has the form of a name there and is neither a
literal nor a keyword. The variable has the value that the last item to name it defines, and then it
depends on that value whether the condition holds. -/
theorem reference_of_collect {env env' : Environment} {bad : List BadItem} {items : List String}
    (collected : collect env [] items = .ok (env', bad)) {item k : String} (inside : item ∈ items)
    (names : Names item k) :
    (Expr.parse k = .ok (.name k) ↔
      Matches .name k.toList ∧ k ∉ Token.literals ∧ k ∉ Token.keywords) ∧
    ∃ v, LastDefines items k v ∧ ∀ {σ : Type} (fns : Functions σ) (state : σ),
      ((Expr.name k).eval fns env').run state = (.ok v, state) ∧
      (Expr.parse k = .ok (.name k) → ∀ line,
        Condition.holds fns env' k line state = (.ok v.truthy, state)) := by
  refine ⟨parse_eq_name_iff names.1, ?_⟩
  have short := short_of_collect collected
  obtain ⟨v, last⟩ := exists_lastDefines short ⟨item, inside, names⟩
  rw [collect_of_short short] at collected
  cases collected
  have found : (laid env items).find? k = some v := (find?_laid short).mpr (.inl last)
  refine ⟨v, last, fun fns state => ?_⟩
  have run : ((Expr.name k).eval fns (laid env items)).run state = (.ok v, state) := by
    rw [Expr.eval, Eval.variableValue, found]
    rfl
  refine ⟨run, fun read line => ?_⟩
  rw [Condition.holds, read]
  dsimp only
  rw [run]

/-- A variable that is defined twice. -/
theorem reference_of_collect_twice :
    collect [] [] ["A=1", " A =x=y"] = .ok ([("A", .str "x=y")], []) ∧
      "A=1" ∈ ["A=1", " A =x=y"] ∧ Names "A=1" "A" ∧ Expr.parse "A" = .ok (.name "A") ∧
      Condition.holds ⟨fun _ _ state => (.error (.other "" ""), state)⟩ [("A", .str "x=y")] "A"
        none () = (.ok true, ()) := by
  have collected : collect [] [] ["A=1", " A =x=y"] = .ok ([("A", .str "x=y")], []) := rfl
  have inside : "A=1" ∈ ["A=1", " A =x=y"] := List.mem_cons_self
  have names : Names "A=1" "A" := ⟨by decide, some "1", cutItem_eq_iff.mp rfl⟩
  obtain ⟨variable_iff, v, -, value⟩ := reference_of_collect collected inside names
  have read := variable_iff.mpr ⟨.name (by decide) nofun, by decide, by decide⟩
  obtain ⟨run, condition⟩ := value ⟨fun _ _ state => (.error (.other "" ""), state)⟩ ()
  cases run
  exact ⟨collected, inside, names, read, condition read none⟩

end Define

end LineGate
