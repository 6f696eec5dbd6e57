import Mathlib.Data.List.DropRight
import LineGate.Directive
import LineGate.Proofs.Pattern.Repetition

/-! # The standard directive patterns

The two default patterns differ in the number of slashes only. What they make of a line can be said
without any search for a match (`find?_standard`): the directive starts at the first place with the
slashes, blanks and a hash sign; its word reaches from there to the next blank, its expression is the
rest of the line without the blanks at both ends, and the match goes on to the end of the line.

The reading is put together from the end of the pattern to its start: first the blanks that close a
line (`run_closing`), then the expression (`run_tail`), the word (`run_body`) and the marker
(`run_hash`, `run_regex`). -/

namespace LineGate

namespace Standard

open Pattern

/-! ## The patterns -/

/-- The blanks at the end of a line. -/
def closing : Regex := .seq (.rep blanks 0 none true) (.assert .ending)

/-- The text of an expression. -/
def value : Regex := .group (some 2) (.rep .any 0 none false)

/-- An expression behind blanks, if there is one. -/
def argument : Regex :=
  .rep (.group none (.seq (.rep blanks 1 none true) value)) 0 (some 1) true

/-- What stands behind the hash sign: a word and an expression. -/
def body : Regex := .seq (.group (some 1) (.rep .any 0 none false)) (.seq argument closing)

/-- **The standard pattern** with a given number of slashes. -/
def regex : Nat → Regex
  | 0 => .seq (.rep blanks 0 none true) (.seq (.char '#') body)
  | slashes + 1 => .seq (.char '/') (regex slashes)

/-- The number of slashes of a default pattern. -/
def slashes (requireTriple : Bool) : Nat := if requireTriple then 3 else 2

/-- **A pattern that names no characters** is the same with every glossary. -/
theorem compile_of_names {source : String} (unnamed : Piece.names (Piece.ofChars source.toList) = [])
    (glossary : Glossary) : Pattern.compile glossary source = Pattern.compile .empty source := by
  rw [Pattern.compile, Pattern.compile]
  simp only [Glossary.named, unnamed, List.filterMap_nil]

/-- **A pattern that is compiled** is told by its parts. -/
theorem compile_eq_ok {source : String} {p : Pattern}
    (unnamed : Piece.names (Piece.ofChars source.toList) = [])
    (compiled : (Pattern.compile .empty source).toOption.map
      (fun p => (p.source, p.regex, p.names)) = some (p.source, p.regex, p.names))
    (glossary : Glossary) : Pattern.compile glossary source = .ok p := by
  rw [compile_of_names unnamed]
  cases parsed : Pattern.compile .empty source with
  | error fault =>
    rw [parsed] at compiled
    cases compiled
  | ok q =>
    rw [parsed] at compiled
    simp only [Except.toOption, Option.map_some, Option.some.injEq, Prod.mk.injEq] at compiled
    obtain ⟨source_eq, regex_eq, names_eq⟩ := compiled
    cases p
    cases q
    cases source_eq
    cases regex_eq
    cases names_eq
    rfl

/-- **The default patterns are standard patterns.** -/
theorem compilePattern_default (glossary : Glossary) (requireTriple : Bool) :
    Directive.compilePattern glossary (Directive.defaultPattern requireTriple) =
      .ok ⟨Directive.defaultPattern requireTriple, regex (slashes requireTriple),
        [("expression", 2), ("token", 1)]⟩ := by
  have unnamed : Piece.names (Piece.ofChars (Directive.defaultPattern requireTriple).toList) = [] := by
    cases requireTriple <;> decide +kernel
  have compiled : (Pattern.compile .empty (Directive.defaultPattern requireTriple)).toOption.map
      (fun p => (p.source, p.regex, p.names)) =
        some (Directive.defaultPattern requireTriple, regex (slashes requireTriple),
          [("expression", 2), ("token", 1)]) := by
    cases requireTriple <;> decide +kernel
  rw [Directive.compilePattern, compile_eq_ok (p := ⟨_, _, _⟩) unnamed compiled]
  rfl

/-! ## The end of a line -/

section Line

variable {rest : List Char} (position : Nat) (before : List Char)
variable (spans : List (Nat × Nat × Nat))

/-- The end of a line without line feeds is where nothing is left. -/
theorem run_ending (h : '\n' ∉ rest) :
    (Regex.assert .ending).run ⟨position, before, rest, spans⟩ some =
      if rest = [] then some ⟨position, before, rest, spans⟩ else none := by
  have feed : rest ≠ ['\n'] := by
    intro eq
    simp [eq] at h
  simp [Regex.run, Assertion.holds, feed]

/-- All blanks are passed on the way to the end of a line. -/
theorem run_closing (h : '\n' ∉ rest) :
    ∃ b, closing.run ⟨position, before, rest, spans⟩ some =
      if rest.all isBlank then some ⟨position + rest.length, b, [], spans⟩ else none := by
  have fails (n : Nat) (b : List Char) (c : Char) (more : List Char) (suffix : c :: more <:+ rest)
      (_ : isBlank c = true) : (Regex.assert .ending).run ⟨n, b, c :: more, spans⟩ some = none := by
    rw [run_ending n b spans fun mem => h (suffix.mem mem), if_neg (List.cons_ne_nil c more)]
  obtain ⟨b, eq⟩ := further_greedy_of_fails (k := fun t => (Regex.assert .ending).run t some)
    (Nat.le_succ rest.length) fails
  have left : '\n' ∉ rest.dropWhile isBlank := fun mem => h ((List.dropWhile_suffix _).mem mem)
  refine ⟨b, ?_⟩
  change (Regex.rep blanks 0 none true).run _ _ = _
  rw [run_rep, run_blanks]
  refine eq.trans ?_
  rw [run_ending _ b spans left]
  by_cases blank : rest.all isBlank = true
  · have each := List.all_eq_true.mp blank
    rw [if_pos (List.dropWhile_eq_nil_iff.mpr each), if_pos blank, List.takeWhile_eq_self_iff.mpr each,
      List.dropWhile_eq_nil_iff.mpr each]
  · have some_left (nil : rest.dropWhile isBlank = []) : False :=
      blank (List.all_eq_true.mpr (List.dropWhile_eq_nil_iff.mp nil))
    rw [if_neg some_left, if_neg blank]

/-! ## Expressions -/

/-- **The text of an expression** reaches to the last character of the line that is not blank. -/
theorem run_value (h : '\n' ∉ rest) :
    ∃ b, value.run ⟨position, before, rest, spans⟩ (fun t => closing.run t some) =
      some ⟨position + rest.length, b, [],
        (2, position, position + (rest.rdropWhile isBlank).length) :: spans⟩ := by
  let recorded (t : Cursor) : Option Cursor := closing.run (t.record (some 2) position) some
  have split : rest.rdropWhile isBlank ++ rest.rtakeWhile isBlank = rest :=
    List.rdropWhile_append_rtakeWhile
  have behind : '\n' ∉ rest.rtakeWhile isBlank := fun mem => h ((List.rtakeWhile_suffix _ _).mem mem)
  have ends (b : List Char) :
      ∃ b', recorded ⟨position + (rest.rdropWhile isBlank).length, b, rest.rtakeWhile isBlank, spans⟩ =
        some ⟨position + rest.length, b', [],
          (2, position, position + (rest.rdropWhile isBlank).length) :: spans⟩ := by
    obtain ⟨b', eq⟩ := run_closing (position + (rest.rdropWhile isBlank).length) b
      ((2, position, position + (rest.rdropWhile isBlank).length) :: spans) behind
    refine ⟨b', eq.trans ?_⟩
    have blank : (rest.rtakeWhile isBlank).all isBlank = true :=
      List.all_eq_true.mpr fun c mem => List.mem_rtakeWhile_imp mem
    rw [if_pos blank, Nat.add_assoc, ← List.length_append, split]
  -- Before the last character that is not blank there is more to come than blanks.
  have fails (b : List Char) (passed : List Char) (c : Char) (left : List Char)
      (eq : rest.rdropWhile isBlank = passed ++ c :: left) :
      recorded ⟨position + passed.length, b, c :: left ++ rest.rtakeWhile isBlank, spans⟩ = none := by
    have ne : rest.rdropWhile isBlank ≠ [] := by simp [eq]
    have last : (rest.rdropWhile isBlank).getLast ne ∈ c :: left := by
      simp only [eq, List.getLast_append_of_ne_nil _ (List.cons_ne_nil c left), List.getLast_mem]
    have feed : '\n' ∉ c :: left ++ rest.rtakeWhile isBlank := by
      intro mem
      rw [← split, eq, List.append_assoc] at h
      exact h (List.mem_append_right passed mem)
    obtain ⟨b', none⟩ := run_closing (position + passed.length) b
      ((2, position, position + passed.length) :: spans) feed
    refine none.trans (if_neg fun blank => ?_)
    exact List.rdropWhile_last_not isBlank rest ne
      (List.all_eq_true.mp blank _ (List.mem_append_left _ last))
  have any : ∀ c ∈ rest.rdropWhile isBlank, (c != '\n') = true := by
    intro c mem
    simp only [bne_iff_ne, ne_eq]
    rintro rfl
    exact h ((List.rdropWhile_prefix isBlank rest).mem mem)
  obtain ⟨b, eq⟩ := further_lazy (k := recorded) (rest.rdropWhile isBlank)
    (rest.rtakeWhile isBlank) (Nat.le_succ_of_le (List.rdropWhile_prefix isBlank rest).length_le) any
    fails fun b => Option.isSome_iff_exists.mpr ⟨_, (ends b).choose_spec⟩
  obtain ⟨b', end_eq⟩ := ends b
  refine ⟨b', ?_⟩
  change (Regex.rep .any 0 none false).run _ recorded = _
  rw [run_rep, run_any]
  rw [split] at eq
  exact eq.trans end_eq

/-- The span of an expression, if there is one in what stands behind a word. -/
def argumentSpan (position : Nat) (behind : List Char) : List (Nat × Nat × Nat) :=
  if behind = [] then []
  else
    let start := position + (behind.takeWhile isBlank).length
    [(2, start, start + (trim behind).length)]

/-- What follows a word. -/
def tail : Continuation := fun t => argument.run t fun u => closing.run u some

/-- An expression behind blanks is matched if it can be, else the line has to end. -/
theorem tail_eq (s : Cursor) :
    tail s =
      orElse
        (single isBlank s fun t => further (single isBlank) true (t.rest.length + 1) none t fun u =>
          value.run u fun v => closing.run v some)
        fun _ => closing.run s some := by
  unfold tail argument
  rw [run_optional, ← run_blanks]
  rfl

/-- A word does not end before a character that is not blank. -/
theorem tail_of_not_blank {c : Char} (h : '\n' ∉ c :: rest) (dark : isBlank c = false) :
    tail ⟨position, before, c :: rest, spans⟩ = none := by
  obtain ⟨b, eq⟩ := run_closing position before spans h
  rw [if_neg (by simp [dark])] at eq
  rw [tail_eq, single_cons, if_neg (by simp [dark]), eq]
  rfl

/-- **The expression behind a word** is the rest of the line without the blanks at both ends. -/
theorem run_tail (h : '\n' ∉ rest) (blank : ∀ c ∈ rest.head?, isBlank c = true) :
    ∃ b, tail ⟨position, before, rest, spans⟩ =
      some ⟨position + rest.length, b, [], argumentSpan position rest ++ spans⟩ := by
  cases rest with
  | nil => exact ⟨before, rfl⟩
  | cons c rest =>
    have holds : isBlank c = true := blank c rfl
    have left : '\n' ∉ rest.dropWhile isBlank := fun mem =>
      h (List.mem_cons_of_mem c ((List.dropWhile_suffix _).mem mem))
    obtain ⟨b, eq⟩ := further_greedy_of_ends (k := fun u => value.run u fun v => closing.run v some)
      (Nat.le_succ rest.length) fun b => Option.isSome_iff_exists.mpr
        ⟨_, (run_value (position + 1 + (rest.takeWhile isBlank).length) b spans left).choose_spec⟩
    obtain ⟨b', found⟩ := run_value (position + 1 + (rest.takeWhile isBlank).length) b spans left
    refine ⟨b', ?_⟩
    have taken : (c :: rest).takeWhile isBlank = c :: rest.takeWhile isBlank :=
      List.takeWhile_cons_of_pos holds
    have trimmed : (rest.dropWhile isBlank).rdropWhile isBlank = trim (c :: rest) := by
      have start : trimStart (c :: rest) = rest.dropWhile isBlank := List.dropWhile_cons_of_pos holds
      rw [trim, start]
      rfl
    have length : (rest.takeWhile isBlank).length + (rest.dropWhile isBlank).length = rest.length := by
      rw [← List.length_append, List.takeWhile_append_dropWhile]
    have stop : position + 1 + (rest.takeWhile isBlank).length + (rest.dropWhile isBlank).length =
        position + (c :: rest).length := by
      rw [List.length_cons]
      omega
    have start : position + 1 + (rest.takeWhile isBlank).length =
        position + ((c :: rest).takeWhile isBlank).length := by
      rw [taken, List.length_cons]
      omega
    rw [tail_eq, single_cons, if_pos holds, eq.trans found, stop, start, trimmed, argumentSpan,
      if_neg (List.cons_ne_nil c rest)]
    rfl

/-! ## Words -/

/-- Whether a character can stand in a word. -/
def isDark (c : Char) : Bool := !isBlank c

/-- The word at the start of a text. -/
def wordOf (text : List Char) : List Char := text.takeWhile isDark

/-- The expression behind the word at the start of a text. -/
def expressionOf (text : List Char) : List Char := trim (text.dropWhile isDark)

/-- The spans of a word and of the expression behind it, the latest first. -/
def spansOf (position : Nat) (text : List Char) : List (Nat × Nat × Nat) :=
  argumentSpan (position + (wordOf text).length) (text.dropWhile isDark) ++
    [(1, position, position + (wordOf text).length)]

/-- **A word and an expression** are found behind every hash sign. -/
theorem run_body (h : '\n' ∉ rest) :
    ∃ b, body.run ⟨position, before, rest, []⟩ some =
      some ⟨position + rest.length, b, [], spansOf position rest⟩ := by
  let recorded (t : Cursor) : Option Cursor := tail (t.record (some 1) position)
  have split : wordOf rest ++ rest.dropWhile isDark = rest := List.takeWhile_append_dropWhile
  have behind : '\n' ∉ rest.dropWhile isDark := fun mem => h ((List.dropWhile_suffix _).mem mem)
  have blank : ∀ c ∈ (rest.dropWhile isDark).head?, isBlank c = true := by
    intro c mem
    have dark := List.head?_dropWhile_not isDark rest
    rw [Option.mem_def.mp mem] at dark
    simpa [isDark] using dark
  have ends (b : List Char) :
      ∃ b', recorded ⟨position + (wordOf rest).length, b, rest.dropWhile isDark, []⟩ =
        some ⟨position + rest.length, b', [], spansOf position rest⟩ := by
    obtain ⟨b', eq⟩ := run_tail (position + (wordOf rest).length) b
      [(1, position, position + (wordOf rest).length)] behind blank
    refine ⟨b', eq.trans ?_⟩
    rw [Nat.add_assoc, ← List.length_append, split]
    rfl
  have fails (b : List Char) (passed : List Char) (c : Char) (left : List Char)
      (eq : wordOf rest = passed ++ c :: left) :
      recorded ⟨position + passed.length, b, c :: left ++ rest.dropWhile isDark, []⟩ = none := by
    have dark : isDark c = true := by
      refine List.mem_takeWhile_imp (l := rest) ?_
      rw [wordOf] at eq
      simp [eq]
    have feed : '\n' ∉ c :: (left ++ rest.dropWhile isDark) := by
      intro mem
      rw [← split, eq, List.append_assoc] at h
      exact h (List.mem_append_right passed mem)
    exact tail_of_not_blank (position + passed.length) b _ feed (by simpa [isDark] using dark)
  have any : ∀ c ∈ wordOf rest, (c != '\n') = true := by
    intro c mem
    simp only [bne_iff_ne, ne_eq]
    rintro rfl
    exact h ((List.takeWhile_prefix isDark).mem mem)
  obtain ⟨b, eq⟩ := further_lazy (k := recorded) (wordOf rest) (rest.dropWhile isDark)
    (Nat.le_succ_of_le (List.takeWhile_prefix isDark).length_le) any fails
    fun b => Option.isSome_iff_exists.mpr ⟨_, (ends b).choose_spec⟩
  obtain ⟨b', end_eq⟩ := ends b
  refine ⟨b', ?_⟩
  change (Regex.rep .any 0 none false).run _ recorded = _
  rw [run_rep, run_any]
  rw [split] at eq
  exact eq.trans end_eq

/-! ## Markers -/

/-- **What stands behind a marker** at the start of a text: slashes, blanks and a hash sign. -/
def behind? : Nat → List Char → Option (List Char)
  | 0, text => match text.dropWhile isBlank with
    | '#' :: rest => some rest
    | _ => none
  | slashes + 1, '/' :: text => behind? slashes text
  | _ + 1, _ => none

/-- What stands behind a marker is the end of the text. -/
theorem suffix_of_behind? {n : Nat} {text : List Char} (found : behind? n text = some rest) :
    rest <:+ text := by
  fun_induction behind? n text with
  | case1 text rest' eq =>
    obtain rfl := Option.some.inj found
    exact (List.suffix_cons '#' rest').trans (eq ▸ List.dropWhile_suffix isBlank)
  | case2 => cases found
  | case3 n text ih => exact (ih found).trans (List.suffix_cons '/' text)
  | case4 => cases found

/-- Blanks and a hash sign, and what is read behind them. -/
theorem run_hash {text : List Char} (h : '\n' ∉ text) :
    ∃ b, (regex 0).run ⟨position, before, text, []⟩ some =
      (behind? 0 text).map fun rest => ⟨position + text.length, b, [],
        spansOf (position + (text.length - rest.length)) rest⟩ := by
  let hash (t : Cursor) : Option Cursor := single (· == '#') t fun u => body.run u some
  have fails (n : Nat) (b : List Char) (c : Char) (more : List Char) (_ : c :: more <:+ text)
      (blank : isBlank c = true) : hash ⟨n, b, c :: more, []⟩ = none := by
    have other : (c == '#') = false := by
      rw [beq_eq_false_iff_ne]
      rintro rfl
      exact absurd blank (by decide)
    simp only [hash, single_cons, other, Bool.false_eq_true, if_false]
  obtain ⟨b, eq⟩ := further_greedy_of_fails (k := hash) (Nat.le_succ text.length) fails
  have split : (text.takeWhile isBlank).length + (text.dropWhile isBlank).length = text.length := by
    rw [← List.length_append, List.takeWhile_append_dropWhile]
  have run_eq : (regex 0).run ⟨position, before, text, []⟩ some =
      hash ⟨position + (text.takeWhile isBlank).length, b, text.dropWhile isBlank, []⟩ := by
    refine Eq.trans ?_ eq
    change (Regex.rep blanks 0 none true).run _ _ = _
    rw [run_rep, run_blanks]
    rfl
  have left : '\n' ∉ text.dropWhile isBlank := fun mem => h ((List.dropWhile_suffix _).mem mem)
  rw [run_eq, behind?]
  split
  · rename_i rest behind
    rw [behind, List.length_cons] at split
    rw [behind] at left ⊢
    have feed : '\n' ∉ rest := fun mem => left (List.mem_cons_of_mem '#' mem)
    obtain ⟨b', found⟩ := run_body (position + (text.takeWhile isBlank).length + 1) ('#' :: b) feed
    refine ⟨b', ?_⟩
    have start : position + (text.length - rest.length) =
        position + (text.takeWhile isBlank).length + 1 := by omega
    have stop : position + (text.takeWhile isBlank).length + 1 + rest.length =
        position + text.length := by omega
    rw [stop] at found
    rw [Option.map_some, start, ← found]
    rfl
  · rename_i other
    refine ⟨[], ?_⟩
    cases rest : text.dropWhile isBlank with
    | nil => rfl
    | cons c more =>
      have ne : (c == '#') = false := by
        rw [beq_eq_false_iff_ne]
        rintro rfl
        exact other more rest
      simp only [hash, single_cons, ne, Bool.false_eq_true, if_false, Option.map_none]

/-- **A standard pattern matches at a marker**, and takes the whole rest of the line. -/
theorem run_regex (n : Nat) {text : List Char} (h : '\n' ∉ text) :
    ∃ b, (regex n).run ⟨position, before, text, []⟩ some =
      (behind? n text).map fun rest => ⟨position + text.length, b, [],
        spansOf (position + (text.length - rest.length)) rest⟩ := by
  induction n generalizing position before text with
  | zero => exact run_hash position before h
  | succ n ih =>
    have run_eq (s : Cursor) : (regex (n + 1)).run s some =
        single (· == '/') s fun t => (regex n).run t some := by
      rw [← run_char]
      rfl
    rw [run_eq]
    cases text with
    | nil => exact ⟨[], rfl⟩
    | cons c text =>
      by_cases slash : c = '/'
      · subst slash
        obtain ⟨b, eq⟩ := ih (position + 1) ('/' :: before) fun mem => h (List.mem_cons_of_mem _ mem)
        refine ⟨b, ?_⟩
        rw [single_cons, if_pos (beq_self_eq_true '/'), eq, behind?]
        cases found : behind? n text with
        | none => rfl
        | some rest =>
          have le := (suffix_of_behind? found).length_le
          have start : position + 1 + (text.length - rest.length) =
              position + (('/' :: text).length - rest.length) := by
            rw [List.length_cons]
            omega
          have stop : position + 1 + text.length = position + ('/' :: text).length := by
            rw [List.length_cons]
            omega
          simp only [Option.map_some, start, stop]
      · refine ⟨[], ?_⟩
        have none_eq : behind? (n + 1) (c :: text) = none := by
          rw [behind?]
          rintro _ eq
          exact slash (List.cons.inj eq).1
        rw [single_cons, if_neg (by simpa using slash), none_eq]
        rfl

/-! ## Lines -/

/-- **The first marker** of a line: its place, and what stands behind it. -/
def marked? (n : Nat) : List Char → Option (Nat × List Char)
  | [] => none
  | c :: text => match behind? n (c :: text) with
    | some rest => some (0, rest)
    | none => (marked? n text).map fun (i, rest) => (i + 1, rest)

/-- There is no marker without characters. -/
theorem behind?_nil (n : Nat) : behind? n [] = none := by
  cases n <;> rfl

/-- What stands behind the first marker is the end of the line. -/
theorem suffix_of_marked? {n i : Nat} {text : List Char} (found : marked? n text = some (i, rest)) :
    rest <:+ text := by
  induction text generalizing i with
  | nil => cases found
  | cons c text ih =>
    rw [marked?] at found
    split at found
    · rename_i rest' here
      obtain ⟨rfl, rfl⟩ := Prod.mk.inj (Option.some.inj found)
      exact suffix_of_behind? here
    · obtain ⟨⟨j, rest'⟩, later, eq⟩ := Option.map_eq_some_iff.mp found
      obtain ⟨-, rfl⟩ := Prod.mk.inj eq
      exact (ih later).trans (List.suffix_cons c text)

/-- **A search finds the first marker.** -/
theorem searchFrom_regex (n : Nat) {text : List Char} (h : '\n' ∉ text) :
    ∃ b, (regex n).searchFrom position before text =
      (marked? n text).map fun (i, rest) => (position + i, ⟨position + text.length, b, [],
        spansOf (position + (text.length - rest.length)) rest⟩) := by
  induction text generalizing position before with
  | nil =>
    obtain ⟨b, eq⟩ := run_regex position before n h
    refine ⟨b, ?_⟩
    rw [Regex.searchFrom, eq, behind?_nil]
    rfl
  | cons c text ih =>
    obtain ⟨b, eq⟩ := run_regex position before n h
    rw [Regex.searchFrom, eq, marked?]
    cases here : behind? n (c :: text) with
    | some rest => exact ⟨b, rfl⟩
    | none =>
      obtain ⟨b', later⟩ := ih (position + 1) (c :: before) fun mem => h (List.mem_cons_of_mem _ mem)
      refine ⟨b', later.trans ?_⟩
      cases found : marked? n text with
      | none => rfl
      | some place =>
        obtain ⟨i, rest⟩ := place
        have le := (suffix_of_marked? found).length_le
        have column : position + 1 + i = position + (i + 1) := by omega
        have start : position + 1 + (text.length - rest.length) =
            position + ((c :: text).length - rest.length) := by
          rw [List.length_cons]
          omega
        have stop : position + 1 + text.length = position + (c :: text).length := by
          rw [List.length_cons]
          omega
        simp only [Option.map_some, column, start, stop]

end Line

/-- Whatever lies in the rest of a text lies in the text, further down. -/
theorem slice_of_suffix {text rest : List Char} (suffix : rest <:+ text) (i n : Nat) :
    slice text (text.length - rest.length + i) (text.length - rest.length + i + n) =
      (rest.drop i).take n := by
  obtain ⟨front, rfl⟩ := suffix
  have start : (front ++ rest).length - rest.length = front.length := by
    rw [List.length_append, Nat.add_sub_cancel]
  rw [slice, start, Nat.add_sub_cancel_left, List.drop_append, Nat.add_sub_cancel_left,
    List.drop_eq_nil_of_le (Nat.le_add_right _ _), List.nil_append]

/-- The blanks in front of an expression, the expression, and the blanks behind it. -/
theorem take_trim (text : List Char) :
    (text.drop (text.takeWhile isBlank).length).take (trim text).length = trim text := by
  have front : text.drop (text.takeWhile isBlank).length = trimStart text := by
    have dropped : (text.takeWhile isBlank ++ text.dropWhile isBlank).drop
        (text.takeWhile isBlank).length = text.dropWhile isBlank := List.drop_left
    rwa [List.takeWhile_append_dropWhile] at dropped
  rw [front]
  exact List.prefix_iff_eq_take.mp (List.rdropWhile_prefix isBlank (trimStart text)) |>.symm

/-- The span of the word. -/
theorem lookup_word (position : Nat) (text : List Char) :
    (spansOf position text).lookup 1 = some (position, position + (wordOf text).length) := by
  unfold spansOf argumentSpan
  split <;> rfl

/-- The span of the expression. -/
theorem lookup_expression (position : Nat) (text : List Char) :
    (spansOf position text).lookup 2 =
      if text.dropWhile isDark = [] then none
      else
        let start := position + ((wordOf text).length +
          ((text.dropWhile isDark).takeWhile isBlank).length)
        some (start, start + (expressionOf text).length) := by
  unfold spansOf argumentSpan
  split
  · rfl
  · rw [← Nat.add_assoc]
    rfl

section Groups

variable {p : Pattern} (names : p.names = [("expression", 2), ("token", 1)]) {text rest : List Char}
variable (suffix : rest <:+ text) (column stop : Nat)
include names suffix

/-- What the group of the word matched. -/
theorem groupText?_word :
    p.groupText? text ⟨column, stop, spansOf (text.length - rest.length) rest⟩ "token" =
      some (wordOf rest) := by
  have sliced := slice_of_suffix suffix 0 (wordOf rest).length
  have word : rest.take (wordOf rest).length = wordOf rest :=
    (List.prefix_iff_eq_take.mp (List.takeWhile_prefix isDark)).symm
  rw [List.drop_zero, Nat.add_zero, word] at sliced
  have index : p.names.lookup "token" = some 1 := by
    rw [names]
    rfl
  simp only [Pattern.groupText?, index, lookup_word, sliced, Option.bind_eq_bind, Option.bind_some,
    Option.pure_def]

/-- What the group of the expression matched; if it did not take part there is no expression. -/
theorem groupText?_expression :
    (p.groupText? text ⟨column, stop, spansOf (text.length - rest.length) rest⟩ "expression").getD
      [] = expressionOf rest := by
  have index : p.names.lookup "expression" = some 2 := by
    rw [names]
    rfl
  simp only [Pattern.groupText?, index, lookup_expression, Option.bind_eq_bind, Option.bind_some]
  by_cases finished : rest.dropWhile isDark = []
  · rw [if_pos finished, expressionOf, finished]
    rfl
  · have behind : rest.drop (wordOf rest).length = rest.dropWhile isDark := by
      have dropped : (wordOf rest ++ rest.dropWhile isDark).drop (wordOf rest).length =
          rest.dropWhile isDark := List.drop_left
      rwa [wordOf, List.takeWhile_append_dropWhile] at dropped
    have sliced := slice_of_suffix suffix
      ((wordOf rest).length + ((rest.dropWhile isDark).takeWhile isBlank).length)
      (expressionOf rest).length
    rw [← List.drop_drop, behind, expressionOf, take_trim] at sliced
    rw [if_neg finished]
    exact sliced

end Groups

variable {p : Pattern} {n : Nat}

/-- **The directive on a line** under a standard pattern: the word behind the first marker, if it is
a directive word, with the expression behind it. -/
def find? (n : Nat) (line : List Char) : Option Directive := do
  let (column, rest) ← marked? n line
  let word := String.ofList (wordOf rest)
  let kind ← Directive.words.lookup word
  return ⟨word, kind, String.ofList (expressionOf rest), column, line.length - column⟩

/-- **The reading of a line** under a standard pattern. -/
theorem find?_standard (tree : p.regex = regex n) (names : p.names = [("expression", 2), ("token", 1)])
    {line : String} (h : '\n' ∉ line.toList) : Directive.find? p line = find? n line.toList := by
  obtain ⟨b, eq⟩ := searchFrom_regex 0 [] n h
  unfold Directive.find? Pattern.search? find?
  rw [tree, eq]
  cases found : marked? n line.toList with
  | none => rfl
  | some place =>
    obtain ⟨column, rest⟩ := place
    have suffix := suffix_of_marked? found
    simp only [Option.map_some, Option.bind_eq_bind, Option.bind_some, Directive.ofMatch?,
      Nat.zero_add, groupText?_word names suffix, groupText?_expression names suffix]

/-! ## A blank at the end -/

section Blank

variable {c : Char} (blank : isBlank c = true) (text : List Char)
include blank

/-- A blank at the end stays behind what follows the first blanks. -/
theorem dropWhile_append_blank :
    (text ++ [c]).dropWhile isBlank =
      if text.dropWhile isBlank = [] then [] else text.dropWhile isBlank ++ [c] := by
  rw [List.dropWhile_append]
  by_cases nil : text.dropWhile isBlank = []
  · simp [nil, blank]
  · simp [nil]

/-- A blank at the end is trimmed. -/
theorem trim_append_blank : trim (text ++ [c]) = trim text := by
  change ((text ++ [c]).dropWhile isBlank).rdropWhile isBlank =
    (text.dropWhile isBlank).rdropWhile isBlank
  rw [dropWhile_append_blank blank]
  split
  · rename_i nil
    rw [nil]
  · exact List.rdropWhile_concat_pos isBlank _ c blank

/-- A blank at the end is not part of a word. -/
theorem wordOf_append_blank : wordOf (text ++ [c]) = wordOf text := by
  have ends : [c].takeWhile isDark = [] := by simp [isDark, blank]
  unfold wordOf
  rw [List.takeWhile_append, ends, List.append_nil, ite_eq_right_iff]
  intro length
  exact ((List.takeWhile_prefix isDark).eq_of_length length).symm

/-- A blank at the end is not part of an expression. -/
theorem expressionOf_append_blank : expressionOf (text ++ [c]) = expressionOf text := by
  have ends : (text ++ [c]).dropWhile isDark = text.dropWhile isDark ++ [c] := by
    rw [List.dropWhile_append]
    by_cases nil : text.dropWhile isDark = []
    · simp [nil, isDark, blank]
    · simp [nil]
  rw [expressionOf, ends, trim_append_blank blank]
  rfl

/-- A blank at the end is not part of a marker. -/
theorem behind?_append_blank (n : Nat) :
    behind? n (text ++ [c]) = (behind? n text).map (· ++ [c]) := by
  induction n generalizing text with
  | zero =>
    rw [behind?, behind?, dropWhile_append_blank blank]
    cases text.dropWhile isBlank with
    | nil => rfl
    | cons d rest =>
      rw [if_neg (List.cons_ne_nil d rest), List.cons_append]
      by_cases hash : d = '#'
      · subst hash
        rfl
      · split
        · rename_i eq
          exact absurd (List.cons.inj eq).1 hash
        · split
          · rename_i eq
            exact absurd (List.cons.inj eq).1 hash
          · rfl
  | succ n ih =>
    cases text with
    | nil =>
      rw [List.nil_append, behind?_nil, behind?]
      · rfl
      · intro rest eq
        obtain ⟨rfl, -⟩ := List.cons.inj eq
        exact absurd blank (by decide)
    | cons d text =>
      by_cases slash : d = '/'
      · subst slash
        exact ih text
      · rw [List.cons_append, behind?, behind?]
        · rfl
        · intro rest eq
          exact slash (List.cons.inj eq).1
        · intro rest eq
          exact slash (List.cons.inj eq).1

/-- A blank at the end does not move the first marker. -/
theorem marked?_append_blank (n : Nat) :
    marked? n (text ++ [c]) = (marked? n text).map fun (i, rest) => (i, rest ++ [c]) := by
  induction text with
  | nil =>
    have none := behind?_append_blank blank [] n
    rw [List.nil_append, behind?_nil, Option.map_none] at none
    rw [List.nil_append, marked?, marked?, none]
    rfl
  | cons d text ih =>
    have here := behind?_append_blank blank (d :: text) n
    rw [List.cons_append] at here
    rw [List.cons_append, marked?, marked?, here, ih]
    cases behind? n (d :: text) with
    | some rest => rfl
    | none => cases marked? n text <;> rfl

end Blank

/-- A marker starts within its line. -/
theorem lt_length_of_marked? {i : Nat} {text rest : List Char}
    (found : marked? n text = some (i, rest)) : i < text.length := by
  induction text generalizing i rest with
  | nil => cases found
  | cons c text ih =>
    rw [marked?] at found
    split at found
    · obtain ⟨rfl, -⟩ := Prod.mk.inj (Option.some.inj found)
      exact Nat.succ_pos _
    · obtain ⟨⟨j, rest'⟩, later, eq⟩ := Option.map_eq_some_iff.mp found
      obtain ⟨rfl, -⟩ := Prod.mk.inj eq
      exact Nat.succ_lt_succ (ih later)

end Standard

/-- The same directive on a line with one more character. -/
def Directive.longer (d : Directive) : Directive := { d with length := d.length + 1 }

/-- **A blank at the end of a line** makes a directive longer, and nothing else: it is part neither of
the word nor of the expression. -/
theorem Standard.find?_append_blank {c : Char} (blank : isBlank c = true) (n : Nat)
    (line : List Char) : find? n (line ++ [c]) = (find? n line).map Directive.longer := by
  unfold find?
  rw [marked?_append_blank blank]
  cases found : marked? n line with
  | none => rfl
  | some place =>
    obtain ⟨column, rest⟩ := place
    have lt := lt_length_of_marked? found
    have length : (line ++ [c]).length - column = line.length - column + 1 := by
      rw [List.length_append, List.length_singleton]
      omega
    simp only [Option.map_some, Option.bind_eq_bind, Option.bind_some, wordOf_append_blank blank,
      expressionOf_append_blank blank, length]
    cases Directive.words.lookup (String.ofList (wordOf rest)) <;> rfl

end LineGate
