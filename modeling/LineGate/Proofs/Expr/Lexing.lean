import LineGate.Proofs.Computed
import LineGate.Proofs.Expr.Lexeme

/-! # Lexings of a source text

A **lexing** of a source (`Lexing`) says of some tokens, without reference to how they were found,
that they are all there is between two places: they stand there in ascending order and apart from
each other, each is the longest text of the lexical grammar at its place, and everything between them
is blank.

A source has at most one lexing up to a place, and the tokens that are found are the lexing of the
whole source, or else the source has a lexing up to a place where nothing of the grammar stands
(`tokenize_lossless`). Reading goes through a lexing token by token and blank by blank
(`Lexing.scan_eq`), and what it has read so far is one (`lexing_of_scan`). -/

namespace LineGate

open Lexical (Form Matches Longest)

namespace Token

/-- The place behind a token. -/
def stop (t : Token) : Nat := t.pos + t.text.length

/-- A token **stands in** a source. -/
structure StandsIn (source : List Char) (t : Token) : Prop where
  /-- It has at least one character. -/
  nonempty : t.text ≠ ""
  /-- Its text is the piece of the source at its place. -/
  slice : (source.drop t.pos).take t.text.length = t.text.toList
  /-- Nothing of the lexical grammar at its place is longer, and its kind is that of its form. -/
  longest : ∃ form : Form, Longest form (source.drop t.pos) t.text.length ∧ form.Gives t.text t.kind

/-- A **lexing** of a source from place `start` to place `stop`. -/
structure Lexing (source : List Char) (start stop : Nat) (ts : List Token) : Prop where
  /-- The tokens stand one behind the other. -/
  apart : ts.Pairwise fun t u => t.stop ≤ u.pos
  /-- They lie between the two places. -/
  inside : ∀ t ∈ ts, start ≤ t.pos ∧ t.stop ≤ stop
  /-- Each is a longest lexeme. -/
  stands : ∀ t ∈ ts, t.StandsIn source
  /-- What lies outside of them is blank. -/
  blanks : ∀ i c, start ≤ i → i < stop → source[i]? = some c →
    (∀ t ∈ ts, i < t.pos ∨ t.stop ≤ i) → isBlank c = true

variable {source : List Char} {start stop : Nat} {t : Token} {ts : List Token}

/-- A token ends behind its place. -/
theorem StandsIn.lt_stop (h : t.StandsIn source) : t.pos < t.stop := by
  have pos : t.text.length ≠ 0 := fun zero => h.nonempty (String.length_eq_zero_iff.mp zero)
  unfold Token.stop
  omega

/-- A token is what is found at its place. -/
theorem StandsIn.lexeme? (h : t.StandsIn source) :
    Token.lexeme? (source.drop t.pos) = some (some t.kind, t.text.length) := by
  obtain ⟨form, longest, gives⟩ := h.longest
  refine Lexical.lexeme?_eq_some_iff.mpr ⟨form, longest, ?_⟩
  rwa [h.slice, String.ofList_toList]

/-- What is found at a place is a token that stands there. -/
theorem standsIn_of_lexeme? {kind : Kind} {n : Nat}
    (found : Token.lexeme? (source.drop start) = some (some kind, n)) :
    StandsIn source ⟨kind, String.ofList ((source.drop start).take n), start⟩ ∧
      (String.ofList ((source.drop start).take n)).length = n := by
  obtain ⟨form, longest, gives⟩ := Lexical.lexeme?_eq_some_iff.mp found
  have length : (String.ofList ((source.drop start).take n)).length = n := by
    rw [← String.length_toList, String.toList_ofList, List.length_take,
      Nat.min_eq_left longest.within]
  obtain ⟨c, rest, front, -⟩ := longest.found.starts
  refine ⟨⟨?_, ?_, form, ?_, gives⟩, length⟩
  · intro empty
    have chars := congrArg String.toList empty
    rw [String.toList_ofList, front] at chars
    cases chars
  · simp only [length, String.toList_ofList]
  · simp only [length]
    exact longest

/-- The first character of a token is not blank. -/
theorem StandsIn.visible (h : t.StandsIn source) :
    ∃ c, source[t.pos]? = some c ∧ isBlank c = false := by
  obtain ⟨form, longest, -⟩ := h.longest
  obtain ⟨c, rest, front, starts⟩ := longest.found.starts
  refine ⟨c, ?_, starts.visible⟩
  have first : ((source.drop t.pos).take t.text.length)[0]? = some c := by rw [front]; rfl
  rw [List.getElem?_take_of_lt, List.getElem?_drop] at first
  · exact first
  · have lt := h.lt_stop
    unfold Token.stop at lt
    omega

/-! ## Steps of reading -/

/-- A blank is passed over. -/
theorem scan_blank {c : Char} (blank : isBlank c = true) (pos : Nat) (rest : List Char) :
    scan pos (c :: rest) = scan (pos + 1) rest := by
  have skip (pos : Nat) (rest : List Char) {c : Char} (blank : isBlank c = true) :
      scan pos (c :: rest) =
        scan (pos + ((rest.takeWhile isBlank).length + 1)) (rest.dropWhile isBlank) := by
    rw [scan, Lexical.lexeme?_blank blank]
    simp only [Nat.add_sub_cancel, drop_length_takeWhile isBlank rest]
    split <;> simp_all
  rw [skip pos rest blank]
  cases rest with
  | nil => rfl
  | cons d rest =>
    by_cases more : isBlank d = true
    · -- The run of blanks goes on, and is passed over as a whole either way.
      rw [skip (pos + 1) rest more, List.takeWhile_cons_of_pos more,
        List.dropWhile_cons_of_pos more, List.length_cons]
      congr 1
      omega
    · rw [List.takeWhile_cons_of_neg more, List.dropWhile_cons_of_neg more]
      rfl

/-- A lexeme of a kind is the next token. -/
theorem scan_token {cs : List Char} {kind : Kind} {n : Nat}
    (found : Token.lexeme? cs = some (some kind, n)) (pos : Nat) :
    scan pos cs = (scan (pos + n) (cs.drop n)).map
      (⟨kind, String.ofList (cs.take n), pos⟩ :: ·) := by
  obtain ⟨form, longest, -⟩ := Lexical.lexeme?_eq_some_iff.mp found
  obtain ⟨c, more, front, -⟩ := longest.found.starts
  cases cs with
  | nil => simp at front
  | cons c rest =>
    cases n with
    | zero => simp at front
    | succ n =>
      rw [scan, found]
      simp only [Nat.add_sub_cancel, List.drop_succ_cons]
      cases scan (pos + (n + 1)) (rest.drop n) <;> rfl

/-- Where no lexeme is found reading stops. -/
theorem scan_stray {c : Char} {rest : List Char} (stray : Token.lexeme? (c :: rest) = none)
    (pos : Nat) : scan pos (c :: rest) = .error ⟨c, pos⟩ := by
  rw [scan, stray]

/-- A character is **stray** at a place of a source: it is not blank, and no text of the lexical
grammar stands there. -/
structure StrayIn (source : List Char) (stray : Stray) : Prop where
  /-- It stands at its place. -/
  found : source[stray.pos]? = some stray.char
  /-- It is not blank. -/
  visible : isBlank stray.char = false
  /-- No lexeme of any form starts there. -/
  nothing : ∀ form front, front <+: source.drop stray.pos → ¬Matches form front

/-- What is left at a place within a source starts with the character there. -/
theorem drop_eq_cons {c : Char} {i : Nat} (at_place : source[i]? = some c) :
    source.drop i = c :: source.drop (i + 1) := by
  obtain ⟨lt, rfl⟩ := List.getElem?_eq_some_iff.mp at_place
  exact List.drop_eq_getElem_cons lt

/-- Reading stops at a stray character. -/
theorem StrayIn.scan_eq {stray : Stray} (h : StrayIn source stray) :
    scan stray.pos (source.drop stray.pos) = .error stray := by
  have nothing := h.nothing
  rw [drop_eq_cons h.found] at nothing ⊢
  exact scan_stray (Lexical.lexeme?_eq_none_iff.mpr ⟨h.visible, nothing⟩) _

/-- Reading takes a token that stands at its place. -/
theorem StandsIn.scan_eq (h : t.StandsIn source) :
    scan t.pos (source.drop t.pos) = (scan t.stop (source.drop t.stop)).map (t :: ·) := by
  rw [scan_token h.lexeme?, h.slice, String.ofList_toList, List.drop_drop]
  rfl

/-- A token that stands in a source ends within it. -/
theorem StandsIn.stop_le (h : t.StandsIn source) : t.stop ≤ source.length := by
  obtain ⟨form, longest, -⟩ := h.longest
  have within := longest.within
  have lt := h.lt_stop
  rw [List.length_drop] at within
  unfold Token.stop at lt ⊢
  omega

/-- **One step of reading**: at each place of a source there is a blank, a token or a stray
character. -/
theorem blank_or_token_or_stray {c : Char} {i : Nat} (at_place : source[i]? = some c) :
    isBlank c = true ∨ (∃ t : Token, t.StandsIn source ∧ t.pos = i) ∨ StrayIn source ⟨c, i⟩ := by
  have front := drop_eq_cons at_place
  cases found : Token.lexeme? (source.drop i) with
  | none =>
    rw [front] at found
    obtain ⟨visible, nothing⟩ := Lexical.lexeme?_eq_none_iff.mp found
    refine .inr (.inr ⟨at_place, visible, ?_⟩)
    rw [← front] at nothing
    exact nothing
  | some lexeme =>
    obtain ⟨kind, n⟩ := lexeme
    cases kind with
    | none =>
      rw [front] at found
      exact .inl (Lexical.isBlank_of_lexeme? found)
    | some kind => exact .inr (.inl ⟨_, (standsIn_of_lexeme? found).1, rfl⟩)

/-! ## Lexings, place by place -/

/-- There is nothing from a place to itself. -/
theorem lexing_nil (source : List Char) (start : Nat) : Lexing source start start [] where
  apart := .nil
  inside := by simp
  stands := by simp
  blanks := by
    intro i c le lt
    omega

/-- From a place to itself there are no tokens. -/
theorem Lexing.eq_nil (h : Lexing source start start ts) : ts = [] := by
  cases ts with
  | nil => rfl
  | cons t ts =>
    have inside := h.inside t (List.mem_cons_self ..)
    have lt := (h.stands t (List.mem_cons_self ..)).lt_stop
    omega

/-- **A blank** belongs to no token. -/
theorem lexing_blank_iff {c : Char} (at_place : source[start]? = some c)
    (blank : isBlank c = true) :
    Lexing source start stop ts ↔ Lexing source (start + 1) stop ts := by
  constructor
  · rintro ⟨apart, inside, stands, blanks⟩
    refine ⟨apart, fun t mem => ⟨?_, (inside t mem).2⟩, stands, fun i c le => blanks i c (by omega)⟩
    -- A token does not start at the blank.
    have le := (inside t mem).1
    have ne : t.pos ≠ start := by
      intro here
      obtain ⟨c', first, visible⟩ := (stands t mem).visible
      rw [here, at_place] at first
      cases first
      rw [blank] at visible
      cases visible
    omega
  · rintro ⟨apart, inside, stands, blanks⟩
    refine ⟨apart, fun t mem => ⟨by have := (inside t mem).1; omega, (inside t mem).2⟩, stands, ?_⟩
    intro i c' le lt at_i outside
    by_cases here : i = start
    · subst here
      rw [at_place] at at_i
      cases at_i
      exact blank
    · exact blanks i c' (by omega) lt at_i outside

/-- **A token** is followed by a lexing of what stands behind it. -/
theorem lexing_cons_iff (standing : t.StandsIn source) (le : t.stop ≤ stop) :
    Lexing source t.pos stop (t :: ts) ↔ Lexing source t.stop stop ts := by
  have lt := standing.lt_stop
  constructor
  · rintro ⟨apart, inside, stands, blanks⟩
    obtain ⟨first, apart⟩ := List.pairwise_cons.mp apart
    refine ⟨apart, fun u mem => ⟨first u mem, (inside u (.tail _ mem)).2⟩,
      fun u mem => stands u (.tail _ mem), fun i c le' lt' at_i outside => ?_⟩
    refine blanks i c (by omega) lt' at_i fun u mem => ?_
    rcases List.mem_cons.mp mem with rfl | mem
    · exact .inr le'
    · exact outside u mem
  · rintro ⟨apart, inside, stands, blanks⟩
    constructor
    · exact List.pairwise_cons.mpr ⟨fun u mem => (inside u mem).1, apart⟩
    · intro u mem
      rcases List.mem_cons.mp mem with rfl | mem
      · exact ⟨Nat.le_refl _, le⟩
      · have := (inside u mem).1
        exact ⟨by omega, (inside u mem).2⟩
    · intro u mem
      rcases List.mem_cons.mp mem with rfl | mem
      · exact standing
      · exact stands u mem
    · intro i c le' lt' at_i outside
      have behind := outside t (List.mem_cons_self ..)
      exact blanks i c (by omega) lt' at_i fun u mem => outside u (.tail _ mem)

/-- A character that is not blank is that of a token, which comes first. -/
theorem Lexing.eq_cons {c : Char} (h : Lexing source start stop ts) (lt : start < stop)
    (at_place : source[start]? = some c) (visible : isBlank c = false) :
    ∃ t us, ts = t :: us ∧ t.pos = start := by
  -- Some token covers the place, as the character would be blank otherwise.
  have covered : ∃ t ∈ ts, t.pos ≤ start ∧ start < t.stop := by
    apply Classical.byContradiction
    intro none
    have blank := h.blanks start c (Nat.le_refl _) lt at_place fun t mem => by
      by_cases before : start < t.pos
      · exact .inl before
      · exact .inr (Nat.not_lt.mp fun lt => none ⟨t, mem, Nat.not_lt.mp before, lt⟩)
    rw [visible] at blank
    cases blank
  obtain ⟨t, mem, le, _⟩ := covered
  cases ts with
  | nil => cases mem
  | cons u us =>
    have here := (h.inside u (List.mem_cons_self ..)).1
    have nonempty := (h.stands u (List.mem_cons_self ..)).lt_stop
    refine ⟨u, us, rfl, ?_⟩
    rcases List.mem_cons.mp mem with rfl | mem
    · omega
    · have apart := (List.pairwise_cons.mp h.apart).1 t mem
      omega

/-! ## Reading and lexings -/

/-- **Reading goes through a lexing.** What is read between the two places of a lexing are its
tokens. By induction on the distance of the places: a step either passes over a blank, or takes the
first token. -/
theorem Lexing.scan_eq {start : Nat} {ts : List Token} (h : Lexing source start stop ts)
    (le : start ≤ stop) (within : stop ≤ source.length) :
    scan start (source.drop start) = (scan stop (source.drop stop)).map (ts ++ ·) := by
  by_cases eq : start = stop
  · subst eq
    rw [h.eq_nil]
    cases scan start (source.drop start) <;> rfl
  · have at_place : source[start]? = some source[start] := List.getElem?_eq_getElem (by omega)
    cases blank : isBlank source[start] with
    | true =>
      rw [drop_eq_cons at_place, scan_blank blank]
      exact ((lexing_blank_iff at_place blank).mp h).scan_eq (by omega) within
    | false =>
      obtain ⟨t, us, rfl, rfl⟩ := h.eq_cons (by omega) at_place blank
      have standing := h.stands t (List.mem_cons_self ..)
      have lt := standing.lt_stop
      have inside := (h.inside t (List.mem_cons_self ..)).2
      rw [standing.scan_eq, ((lexing_cons_iff standing inside).mp h).scan_eq inside within]
      cases scan stop (source.drop stop) <;> rfl
termination_by stop - start

/-- **What is read is a lexing**: of all that is left, or of what comes before the first stray
character. -/
theorem lexing_of_scan (source : List Char) (start : Nat) (within : start ≤ source.length) :
    (∃ ts, scan start (source.drop start) = .ok ts ∧ Lexing source start source.length ts) ∨
      ∃ stray ts, scan start (source.drop start) = .error stray ∧ start ≤ stray.pos ∧
        StrayIn source stray ∧ Lexing source start stray.pos ts := by
  by_cases eq : start = source.length
  · subst eq
    exact .inl ⟨[], by rw [List.drop_length, scan], lexing_nil _ _⟩
  · have at_place : source[start]? = some source[start] := List.getElem?_eq_getElem (by omega)
    rcases blank_or_token_or_stray at_place with blank | ⟨t, standing, rfl⟩ | stray
    · rw [drop_eq_cons at_place, scan_blank blank]
      rcases lexing_of_scan source (start + 1) (by omega) with
        ⟨ts, read, lexing⟩ | ⟨stray, ts, read, le, strays, lexing⟩
      · exact .inl ⟨ts, read, (lexing_blank_iff at_place blank).mpr lexing⟩
      · exact .inr ⟨stray, ts, read, by omega, strays,
          (lexing_blank_iff at_place blank).mpr lexing⟩
    · have lt := standing.lt_stop
      rw [standing.scan_eq]
      rcases lexing_of_scan source t.stop standing.stop_le with
        ⟨ts, read, lexing⟩ | ⟨stray, ts, read, le, strays, lexing⟩
      · exact .inl ⟨t :: ts, by rw [read]; rfl, (lexing_cons_iff standing standing.stop_le).mpr lexing⟩
      · exact .inr ⟨stray, t :: ts, by rw [read]; rfl, by omega, strays,
          (lexing_cons_iff standing le).mpr lexing⟩
    · exact .inr ⟨_, [], stray.scan_eq, Nat.le_refl _, stray, lexing_nil _ _⟩
termination_by source.length - start

/-- **The tokens of a source are its lexing.** -/
theorem tokenize_eq_ok_iff {source : String} {ts : List Token} :
    tokenize source = .ok ts ↔ Lexing source.toList 0 source.length ts := by
  have whole : tokenize source = scan 0 (source.toList.drop 0) := rfl
  have length : source.length = source.toList.length := String.length_toList.symm
  rw [whole, length]
  constructor
  · intro read
    rcases lexing_of_scan source.toList 0 (Nat.zero_le _) with
      ⟨us, read', lexing⟩ | ⟨stray, _, read', -⟩
    · rw [read] at read'
      cases read'
      exact lexing
    · rw [read] at read'
      cases read'
  · intro lexing
    rw [lexing.scan_eq (Nat.zero_le _) (Nat.le_refl _), List.drop_length, scan]
    exact congrArg Except.ok (List.append_nil ts)

/-- **Reading fails exactly at the stray character** behind a lexing. -/
theorem tokenize_eq_error_iff {source : String} {stray : Stray} :
    tokenize source = .error stray ↔
      StrayIn source.toList stray ∧ ∃ ts, Lexing source.toList 0 stray.pos ts := by
  have whole : tokenize source = scan 0 (source.toList.drop 0) := rfl
  rw [whole]
  constructor
  · intro read
    rcases lexing_of_scan source.toList 0 (Nat.zero_le _) with
      ⟨us, read', -⟩ | ⟨stray', ts, read', -, strays, lexing⟩
    · rw [read] at read'
      cases read'
    · rw [read] at read'
      cases read'
      exact ⟨strays, ts, lexing⟩
  · rintro ⟨strays, ts, lexing⟩
    obtain ⟨lt, -⟩ := List.getElem?_eq_some_iff.mp strays.found
    rw [lexing.scan_eq (Nat.zero_le _) (Nat.le_of_lt lt), strays.scan_eq]
    rfl

/-- The tokens of a lexing stand at strictly increasing places. -/
theorem Lexing.pairwise_pos_lt (h : Lexing source start stop ts) :
    ts.Pairwise fun t u => t.pos < u.pos := by
  refine h.apart.imp_of_mem fun {t u} mem _ le => ?_
  exact Nat.lt_of_lt_of_le (h.stands t mem).lt_stop le

/-! ## Lossless tokens -/

/-- A stray character is a fault of the source, whose message counts its place from one. -/
theorem ofSource_of_stray {source : String} {stray : Stray}
    (read : tokenize source = .error stray) :
    Expr.ofSource source = .error (.stray stray.char stray.pos) := by
  rw [Expr.ofSource, read]

/-- **Tokens lose nothing of their source.** The tokens that are read are the lexing of the whole
source, and they stand at strictly increasing places. Reading fails exactly when the source has a
lexing up to a stray character, and it is this character that the fault and its message name, with
the place counted from one. A number that is read has a value, unless it is a plain integer beyond
the digit limit. -/
theorem tokenize_lossless (source : String) :
    (∀ ts, tokenize source = .ok ts ↔ Lexing source.toList 0 source.length ts) ∧
    (∀ ts, tokenize source = .ok ts → ts.Pairwise fun t u => t.pos < u.pos) ∧
    (∀ stray, tokenize source = .error stray ↔
      StrayIn source.toList stray ∧ ∃ ts, Lexing source.toList 0 stray.pos ts) ∧
    (∀ stray, tokenize source = .error stray →
      ∃ fault, Expr.ofSource source = .error fault ∧
        fault.message source = "unexpected character " ++ quoted (String.singleton stray.char) ++
          (" at column " ++ toString (stray.pos + 1) ++ " in " ++ quoted source)) ∧
    (∀ ts, tokenize source = .ok ts → ∀ t ∈ ts, t.kind = .number →
      ((∃ v, Parser.numberValue t = .ok v) ↔
        ¬(t.IsPlainInteger ∧ integerDigitLimit < t.text.length))) := by
  refine ⟨fun ts => tokenize_eq_ok_iff, fun ts read => ?_, fun stray => tokenize_eq_error_iff,
    fun stray read => ⟨_, ofSource_of_stray read, rfl⟩, fun ts read t mem kind => ?_⟩
  · exact (tokenize_eq_ok_iff.mp read).pairwise_pos_lt
  · exact (isLexeme_of_scan read mem).numberValue_ok_iff kind

/-- The two points belong to two numbers, as the longest text of the grammar at the first digit ends
behind the first point. -/
theorem tokenize_lossless_points :
    tokenize "1..5" = .ok [⟨.number, "1.", 0⟩, ⟨.number, ".5", 2⟩] ∧
    Lexing "1..5".toList 0 4 [⟨.number, "1.", 0⟩, ⟨.number, ".5", 2⟩] ∧
    ∃ v, Parser.numberValue ⟨.number, ".5", 2⟩ = .ok v := by
  have read : tokenize "1..5" = .ok [⟨.number, "1.", 0⟩, ⟨.number, ".5", 2⟩] :=
    eq_ok_of_toOption_eq_some (by decide +kernel)
  obtain ⟨lexing, -, -, -, numbers⟩ := tokenize_lossless "1..5"
  refine ⟨read, (lexing _).mp read, ?_⟩
  have short : ¬integerDigitLimit < (".5" : String).length := by decide
  exact (numbers _ read ⟨.number, ".5", 2⟩ (by simp) rfl).mpr fun both => short both.2

end Token

end LineGate
