import LineGate.Proofs.Directive.Standard

/-! # The first marker of a line

A **marker** is a run of slashes, any blanks and a hash sign. Which directive a line holds under a
default pattern depends on its first marker alone, and can be said without patterns: the word goes
from the hash sign to the next blank, the expression is what is left of the line without the blanks
at both ends, and the directive ends with the line (`find?_default`). In particular a first marker
with a word that is no directive word hides every marker behind it.

The recursions `behind?` and `marked?`, through which a search was read in the first place, are
tied to the places of a line by `behind?_eq_some_iff` and `marked?_eq_some_iff`. -/

namespace LineGate

namespace Standard

/-! ## Markers -/

/-- A text **starts with a marker** of `n` slashes, and goes on with `rest`. -/
def IsMarker (n : Nat) (text rest : List Char) : Prop :=
  ∃ gap : List Char, (∀ c ∈ gap, isBlank c = true) ∧
    text = List.replicate n '/' ++ gap ++ '#' :: rest

/-- The **first marker** of a line stands at `column`, and the line goes on with `rest`: there is no
marker at an earlier place. -/
def FirstMarker (n : Nat) (line : List Char) (column : Nat) (rest : List Char) : Prop :=
  IsMarker n (line.drop column) rest ∧
    ∀ earlier < column, ∀ behind, ¬IsMarker n (line.drop earlier) behind

variable {n : Nat} {text rest : List Char}

/-- A marker without slashes is a hash sign behind blanks. -/
theorem isMarker_zero : IsMarker 0 text rest ↔ text.dropWhile isBlank = '#' :: rest := by
  have dark : isBlank '#' = false := by decide
  constructor
  · rintro ⟨gap, blank, rfl⟩
    rw [List.replicate_zero, List.nil_append, List.dropWhile_append_of_pos blank,
      List.dropWhile_cons_of_neg (by simp [dark])]
  · intro left
    refine ⟨text.takeWhile isBlank, fun c mem => List.mem_takeWhile_imp mem, ?_⟩
    rw [List.replicate_zero, List.nil_append, ← left, List.takeWhile_append_dropWhile]

/-- One more slash is the first character of a marker. -/
theorem isMarker_succ {c : Char} :
    IsMarker (n + 1) (c :: text) rest ↔ c = '/' ∧ IsMarker n text rest := by
  simp only [IsMarker, List.replicate_succ, List.cons_append, List.cons.injEq]
  constructor
  · rintro ⟨gap, blank, rfl, rfl⟩
    exact ⟨rfl, gap, blank, rfl⟩
  · rintro ⟨rfl, gap, blank, rfl⟩
    exact ⟨gap, blank, rfl, rfl⟩

/-- There is no marker without characters. -/
theorem not_isMarker_nil : ¬IsMarker n [] rest := by
  rintro ⟨gap, -, eq⟩
  simp at eq

/-- **Markers at the front of a text** are found. -/
theorem behind?_eq_some_iff : behind? n text = some rest ↔ IsMarker n text rest := by
  induction n generalizing text with
  | zero =>
    rw [behind?, isMarker_zero]
    split
    · rename_i more left
      simp [left]
    · rename_i other
      simpa using other rest
  | succ n ih =>
    cases text with
    | nil => simp [behind?_nil, not_isMarker_nil]
    | cons c text =>
      rw [isMarker_succ, ← ih]
      by_cases slash : c = '/'
      · subst slash
        simp [behind?]
      · simp [behind?, slash]

/-! ## Lines -/

/-- A line whose front is a marker has its first marker there. -/
theorem firstMarker_zero {line : List Char} :
    FirstMarker n line 0 rest ↔ IsMarker n line rest := by
  simp [FirstMarker]

/-- Behind a character the first marker is found one place further on, unless the character starts
one itself. -/
theorem firstMarker_succ {c : Char} {column : Nat} :
    FirstMarker n (c :: text) (column + 1) rest ↔
      (∀ behind, ¬IsMarker n (c :: text) behind) ∧ FirstMarker n text column rest := by
  simp only [FirstMarker, List.drop_succ_cons]
  constructor
  · rintro ⟨here, none⟩
    refine ⟨none 0 (Nat.succ_pos column), here, fun earlier lt => ?_⟩
    exact none (earlier + 1) (Nat.succ_lt_succ lt)
  · rintro ⟨front, here, none⟩
    refine ⟨here, fun earlier lt => ?_⟩
    cases earlier with
    | zero => exact front
    | succ earlier => exact none earlier (Nat.lt_of_succ_lt_succ lt)

/-- **The first marker of a line** is found. -/
theorem marked?_eq_some_iff {column : Nat} :
    marked? n text = some (column, rest) ↔ FirstMarker n text column rest := by
  induction text generalizing column with
  | nil => simp [marked?, FirstMarker, not_isMarker_nil]
  | cons c text ih =>
    rw [marked?]
    cases front : behind? n (c :: text) with
    | some more =>
      have here := behind?_eq_some_iff.mp front
      cases column with
      | zero => simp [firstMarker_zero, ← behind?_eq_some_iff, front]
      | succ column => simpa [firstMarker_succ] using fun none => absurd here (none more)
    | none =>
      have nowhere (behind : List Char) : ¬IsMarker n (c :: text) behind := by
        simp [← behind?_eq_some_iff, front]
      cases column with
      | zero => simp [firstMarker_zero, nowhere]
      | succ column => simp [firstMarker_succ, nowhere, ← ih]

/-- Without a marker at any place nothing is found. -/
theorem marked?_eq_none (nowhere : ∀ column behind, ¬IsMarker n (text.drop column) behind) :
    marked? n text = none := by
  cases found : marked? n text with
  | none => rfl
  | some place =>
    obtain ⟨column, rest⟩ := place
    exact absurd (marked?_eq_some_iff.mp found).1 (nowhere column rest)

/-- A directive that is found takes the rest of its line. -/
theorem column_add_length_of_find? {line : List Char} {d : Directive} (found : find? n line = some d) :
    d.column + d.length = line.length := by
  simp only [find?, Option.bind_eq_bind, Option.bind_eq_some_iff] at found
  obtain ⟨⟨column, rest⟩, marked, kind, -, eq⟩ := found
  have lt := lt_length_of_marked? marked
  cases eq
  change column + (line.length - column) = line.length
  omega

/-- **What stands behind the first marker** makes the directive of a line. -/
theorem find?_of_firstMarker {line : List Char} {column : Nat} (first : FirstMarker n line column rest) :
    find? n line = (Directive.words.lookup (String.ofList (wordOf rest))).map fun kind =>
      ⟨String.ofList (wordOf rest), kind, String.ofList (expressionOf rest), column,
        line.length - column⟩ := by
  rw [find?, marked?_eq_some_iff.mpr first, Option.map_eq_bind]
  rfl

/-- **The directive of a line** under a default pattern, for every line without line feeds. There is
none unless the line has a marker: three slashes, or two under the relaxed pattern, then any blanks
and a hash sign. If the first marker stands at `column` and `rest` is what follows it, the word is
the run of characters at the start of `rest` that are not blank. If that is a directive word, the
expression is what follows it without the blanks at both ends, and the directive reaches from
`column` to the end of the line. If it is not, there is no directive, whatever `rest` holds. -/
theorem find?_default (glossary : Pattern.Glossary) (requireTriple : Bool) :
    ∃ p, Directive.compilePattern glossary (Directive.defaultPattern requireTriple) = .ok p ∧
      ∀ line : String, '\n' ∉ line.toList →
        ((∀ column rest, ¬IsMarker (slashes requireTriple) (line.toList.drop column) rest) →
          Directive.find? p line = none) ∧
        (∀ column rest, FirstMarker (slashes requireTriple) line.toList column rest →
          let word := rest.takeWhile fun c => !isBlank c
          let expression := trim (rest.dropWhile fun c => !isBlank c)
          Directive.find? p line = (Directive.words.lookup (String.ofList word)).map fun kind =>
            ⟨String.ofList word, kind, String.ofList expression, column, line.length - column⟩) ∧
        ∀ d, Directive.find? p line = some d → d.column + d.length = line.length := by
  refine ⟨_, compilePattern_default glossary requireTriple, fun line h => ?_⟩
  rw [find?_standard rfl rfl h]
  refine ⟨fun nowhere => ?_, fun column rest first => ?_, fun d found => ?_⟩
  · rw [find?, marked?_eq_none nowhere]
    rfl
  · rw [find?_of_firstMarker first, String.length_toList]
    rfl
  · rw [← String.length_toList]
    exact column_add_length_of_find? found

/-- A first marker with a word of its own hides the `if` behind it. -/
theorem find?_default_hidden :
    ∃ p, Directive.compilePattern .empty (Directive.defaultPattern true) = .ok p ∧
      Directive.find? p "x ///#region ///#if A" = none := by
  obtain ⟨p, compiled, reading⟩ := find?_default .empty true
  refine ⟨p, compiled, ?_⟩
  have line : '\n' ∉ "x ///#region ///#if A".toList := by decide
  have first : FirstMarker 3 "x ///#region ///#if A".toList 2 "region ///#if A".toList :=
    marked?_eq_some_iff.mp (by decide)
  exact (reading "x ///#region ///#if A" line).2.1 2 _ first

end Standard

end LineGate
