import LineGate.Proofs.Document.Relevance
import LineGate.Proofs.Document.Sections

/-! # Blanked texts

Where hidden lines are blanked, a text is left in which no line opens a block (`still_renderLines`).
Inside of a section every directive is blanked, and a blanked line consists of spaces and a carriage
return, so that no directive word can be read in it. Outside of the sections no line opened a block to
begin with.

A text in which no line opens a block is **still**: it goes through as it is, and nothing is asked for
on the way (`format_of_still`). So what was blanked once stays as it is, whatever the variables are and
however lines would be neutralised (`format_format_blank`).

All that this takes of a recogniser is that the word of a directive is a piece of its line
(`Directive.Reads`). Patterns are such recognisers, whatever they match, and so the same holds of gates
(`Gate.format_of_blanked`). -/

namespace LineGate

/-! ## Words of directives -/

/-- **Recognisers that read**: the word of a directive is a directive word, and a piece of the line
that the directive is found on. -/
def Directive.Reads (directive? : String → Option Directive) : Prop :=
  ∀ line d, directive? line = some d → (d.word, d.kind) ∈ words ∧ d.word.toList <:+: line.toList

/-- A piece of a text is found in the text. -/
theorem Pattern.slice_infix (text : List Char) (start stop : Nat) : slice text start stop <:+: text :=
  (List.take_prefix _ _).isInfix.trans (List.drop_suffix _ _).isInfix

/-- **A pattern reads directives off lines**, whatever it matches. -/
theorem Directive.reads_find? (p : Pattern) : Reads (find? p) := by
  intro line d found
  simp only [find?, ofMatch?, Option.bind_eq_bind, Option.bind_eq_some_iff, Option.pure_def,
    Option.some.injEq] at found
  obtain ⟨m, -, chars, token, kind, known, rfl⟩ := found
  simp only [Pattern.groupText?, Option.bind_eq_bind, Option.bind_eq_some_iff, Option.pure_def,
    Option.some.injEq] at token
  obtain ⟨index, -, ⟨start, stop⟩, -, rfl⟩ := token
  constructor
  · obtain ⟨before, behind, split, -⟩ := List.lookup_eq_some_iff.mp known
    rw [split]
    simp
  · rw [String.toList_ofList]
    exact Pattern.slice_infix line.toList start stop

/-- Every directive word has a character that a blanked line has not. -/
theorem Directive.exists_mem_word : ∀ w ∈ words, ∃ c ∈ w.1.toList, c ≠ ' ' ∧ c ≠ '\r' := by
  have visible : ∀ w ∈ words, (w.1.toList.any fun c => c ≠ ' ' && c ≠ '\r') = true := by decide
  intro w inside
  simpa using List.any_eq_true.mp (visible w inside)

namespace Style

/-- A blanked line has no characters but spaces and a carriage return. -/
theorem mem_blankLine {cs : List Char} {c : Char} (h : c ∈ blankLine cs) : c = ' ' ∨ c = '\r' := by
  unfold blankLine spaces at h
  split at h
  · rcases List.mem_append.mp h with space | final
    · exact .inl (List.eq_of_mem_replicate space)
    · exact .inr (List.mem_singleton.mp final)
  · exact .inl (List.eq_of_mem_replicate h)

/-- The characters of a blanked line. -/
theorem toList_blank_render (line : String) : (blank.render line).toList = blankLine line.toList :=
  String.toList_ofList

/-- **No directive is found on a blanked line.** -/
theorem directive?_blank_render {directive? : String → Option Directive}
    (reads : Directive.Reads directive?) (line : String) : directive? (blank.render line) = none := by
  refine Option.eq_none_iff_forall_not_mem.mpr fun d found => ?_
  obtain ⟨word, piece⟩ := reads _ d found
  obtain ⟨c, inside, space, final⟩ := Directive.exists_mem_word _ word
  have blanked : c ∈ blankLine line.toList := by
    rw [← toList_blank_render]
    exact piece.subset inside
  rcases mem_blankLine blanked with eq | eq
  · exact space eq
  · exact final eq

end Style

namespace Document

open Block

variable {σ : Type}

/-! ## Still texts -/

/-- **Still lines**: none of them opens a block. -/
def Still (directive? : String → Option Directive) (lines : List String) : Prop :=
  ∀ line ∈ lines, opens directive? line = false

/-- A scan of still lines hides nothing. -/
theorem scan_of_still {directive? : String → Option Directive} {lines : List String}
    (still : Still directive? lines) (evaluate : Evaluator σ) (index : Nat) :
    scan directive? evaluate index lines = pure [] := by
  induction lines generalizing index with
  | nil => rw [scan]
  | cons line rest ih =>
    have closed : ¬ opens directive? line = true := by
      simp [still line List.mem_cons_self]
    rw [scan, if_neg closed]
    exact ih (fun other mem => still other (List.mem_cons_of_mem line mem)) (index + 1)

/-- Where nothing is hidden, lines are rendered as they are. -/
theorem renderLines_nil (style : Style) (lines : List String) : renderLines style [] lines = lines := by
  refine List.ext_getElem? fun i => ?_
  cases at_i : lines[i]? with
  | none =>
    have le : lines.length ≤ i := List.getElem?_eq_none_iff.mp at_i
    exact List.getElem?_eq_none (by rw [length_renderLines]; exact le)
  | some line =>
    rw [getElem?_renderLines style [] at_i, if_neg List.not_mem_nil]

/-- **A still text is left alone**, and no condition is asked for. -/
theorem format_of_still {directive? : String → Option Directive} {text : String}
    (still : Still directive? (linesOf text)) (evaluate : Evaluator σ) (style : Style)
    (file : Option String) (state : σ) :
    format directive? evaluate style file text state =
      (.ok ⟨text, [], [], (linesOf text).length⟩, { state }) := by
  have walked : (scan directive? evaluate 0 (linesOf text)).run { state } = (.ok [], { state }) := by
    rw [scan_of_still still]
    rfl
  unfold format
  dsimp only
  rw [walked]
  dsimp only
  rw [renderLines_nil, textOf_linesOf]
  rfl

/-! ## Blanked texts are still -/

section Blanked

variable {directive? : String → Option Directive} {evaluate : Evaluator σ} {lines : List String}
variable {index : Nat} {state final : σ} {sections : List Section}

/-- **Outside of the sections** no line opens a block. -/
theorem Sections.closed (h : Sections directive? evaluate lines index state sections final) {i : Nat}
    (ge : index ≤ i) (outside : ∀ s ∈ sections, ¬ s.Covers i) :
    lines[i]?.any (opens directive?) = false := by
  induction h with
  | nil none => exact none i ge
  | @cons index state next final s sections first ends parsed rest ih =>
    have apart : ¬ s.Covers i := outside s List.mem_cons_self
    by_cases before : i < s.start
    · exact first.before i ge before
    · have behind : s.block.stop + 1 ≤ i := by
        unfold Section.Covers at apart
        omega
      exact ih behind fun t mem => outside t (List.mem_cons_of_mem s mem)

/-- **The lines of a blanked text are still.** -/
theorem still_renderLines (reads : Directive.Reads directive?)
    (found : Sections directive? evaluate lines 0 state sections final) :
    Still directive? (renderLines .blank (sections.flatMap (·.block.hidden)) lines) := by
  intro line mem
  obtain ⟨i, out_i⟩ := List.mem_iff_getElem?.mp mem
  have lt : i < lines.length := by
    rw [← length_renderLines .blank (sections.flatMap (·.block.hidden))]
    exact (List.getElem?_eq_some_iff.mp out_i).1
  obtain ⟨original, at_i⟩ : ∃ original, lines[i]? = some original :=
    ⟨_, List.getElem?_eq_getElem lt⟩
  rw [getElem?_renderLines _ _ at_i, Option.some.injEq] at out_i
  subst out_i
  by_cases hidden : i ∈ sections.flatMap (·.block.hidden)
  · rw [if_pos hidden, opens, Style.directive?_blank_render reads]
    rfl
  · rw [if_neg hidden]
    by_cases outside : ∀ s ∈ sections, ¬ s.Covers i
    · -- The line stays as it is, and it did not open a block.
      have closed := found.closed (Nat.zero_le i) outside
      rw [at_i] at closed
      exact closed
    · -- A directive in a section would be hidden.
      obtain ⟨s, hs, covers⟩ : ∃ s ∈ sections, s.Covers i := by simpa using outside
      cases directive : directive? original with
      | some d =>
        have is_some : (directive? original).isSome = true := by rw [directive]; rfl
        have inside := (found.sound s hs).2.hides.directives i original covers.1 covers.2 at_i is_some
        exact absurd ((found.mem_hidden hs covers).mpr inside) hidden
      | none =>
        rw [opens, directive]
        rfl

/-- Lines that are rendered by blanking are the lines of the processed text. -/
theorem linesOf_renderLines_blank (hidden : List Nat) (text : String) :
    linesOf (textOf (renderLines .blank hidden (linesOf text))) =
      renderLines .blank hidden (linesOf text) := by
  refine linesOf_textOf ?_ ?_
  · refine List.ne_nil_of_length_pos ?_
    rw [length_renderLines]
    exact List.length_pos_iff.mpr (linesOf_ne_nil text)
  · intro line mem
    obtain ⟨⟨original, i⟩, in_text, rfl⟩ := List.mem_map.mp mem
    have clean : '\n' ∉ original.toList :=
      not_mem_of_mem_linesOf (List.fst_mem_of_mem_zipIdx in_text)
    dsimp only
    split
    · intro feed
      rw [Style.toList_blank_render] at feed
      rcases Style.mem_blankLine feed with eq | eq <;> exact absurd eq (by decide)
    · exact clean

/-- **What was blanked is left alone.** Let a text be let through, with a recogniser of which no more is
known than that it reads, and let its hidden lines be blanked. Then no line of the processed text opens
a block. It is let through as it is with any evaluator and in any style: there are no warnings, and no
condition is asked for. -/
theorem format_format_blank (reads : Directive.Reads directive?) (evaluate : Evaluator σ)
    (file : Option String) (text : String) (state : σ) {f : Formatted} {progress : Progress σ}
    (passed : format directive? evaluate .blank file text state = (.ok f, progress)) :
    Still directive? (linesOf f.text) ∧
    ∀ {τ : Type} (evaluate' : Evaluator τ) (style : Style) (file' : Option String) (state' : τ),
      format directive? evaluate' style file' f.text state' =
        (.ok ⟨f.text, [], [], (linesOf f.text).length⟩, { state := state' }) := by
  obtain ⟨sections, found, -, text_eq, -⟩ := sections_of_format file text state passed
  have still : Still directive? (linesOf f.text) := by
    rw [text_eq, linesOf_renderLines_blank]
    exact still_renderLines reads found
  exact ⟨still, fun evaluate' style file' state' =>
    format_of_still still evaluate' style file' state'⟩

end Blanked

end Document

/-! ## Gates -/

namespace Gate

open Document

variable {σ τ : Type}

/-- **A still text goes through a gate as it is**: it has no warnings, nothing is recorded, no
condition is asked for and no function is called. -/
theorem format_of_still (g : Gate τ) {text : String} (still : Still g.directive? (linesOf text))
    (file : Option String) (state : τ) :
    g.format file text state = ⟨.ok ⟨text, [], [], (linesOf text).length⟩, [], state⟩ ∧
      g.conditions file text state = [] ∧ g.calls file text state = [] := by
  have outcome_eq : g.outcome file text state =
      (.ok ⟨text, [], [], (linesOf text).length⟩, { state }) :=
    Document.format_of_still still g.evaluator g.style file state
  have recorded : (g.withFunctions g.functions.recorded).outcome file text (state, []) =
      (.ok ⟨text, [], [], (linesOf text).length⟩, { state := (state, []) }) :=
    Document.format_of_still still _ g.style file (state, [])
  refine ⟨?_, ?_, ?_⟩
  · rw [format_eq_outcome, outcome_eq]
    rfl
  · rw [conditions, outcome_eq]
    rfl
  · rw [calls, format_eq_outcome, recorded]

/-- **What was blanked is still**: no line of it opens a block. -/
theorem still_of_blanked (g : Gate σ) (blanks : g.style = .blank) (file : Option String)
    (text : String) (state : σ) {f : Formatted}
    (passed : (g.format file text state).result = .ok f) :
    Still g.directive? (linesOf f.text) := by
  rcases outcome : g.outcome file text state with ⟨r | f', progress⟩
  · rw [format_eq_outcome, outcome] at passed
    cases passed
  · rw [format_eq_outcome, outcome] at passed
    obtain rfl := Except.ok.inj passed
    rw [Gate.outcome, blanks] at outcome
    exact (format_format_blank (Directive.reads_find? g.pattern) g.evaluator file text state
      outcome).1

/-- **What was blanked is left alone.** Let a gate that blanks hidden lines let a text through. Then
no line of the processed text opens a block under the pattern of the gate. Any gate with this pattern
lets the processed text through as it is, in whatever style, with whatever functions and variables:
there are no warnings, nothing is recorded, no condition is asked for and no function is called. In
particular, blanking twice is blanking once. -/
theorem format_of_blanked (g : Gate σ) (blanks : g.style = .blank) (file : Option String)
    (text : String) (state : σ) (f : Formatted)
    (passed : (g.format file text state).result = .ok f) :
    (∀ line ∈ linesOf f.text, Block.opens g.directive? line = false) ∧
    (∀ (τ : Type) (g' : Gate τ) (file' : Option String) (state' : τ), g'.pattern = g.pattern →
      g'.format file' f.text state' =
        ⟨.ok ⟨f.text, [], [], (linesOf f.text).length⟩, [], state'⟩ ∧
      g'.conditions file' f.text state' = [] ∧ g'.calls file' f.text state' = []) ∧
    ∀ state', ∃ again, (g.format file f.text state').result = .ok again ∧ again.text = f.text := by
  have still : Still g.directive? (linesOf f.text) := g.still_of_blanked blanks file text state passed
  refine ⟨still, ?_, ?_⟩
  · intro τ g' file' state' same
    have still' : Still g'.directive? (linesOf f.text) := by
      rw [directive?, same]
      exact still
    exact g'.format_of_still still' file' state'
  · intro state'
    obtain ⟨format_eq, -, -⟩ := g.format_of_still still file state'
    exact ⟨_, congrArg Passage.result format_eq, rfl⟩

/-- A text with a block in it, blanked and then sent through a gate that would comment lines out. -/
theorem format_of_blanked_sample :
    sample.style = .blank ∧
      ∃ f, (sample.format none sampleText ()).result = .ok f ∧ f.hidden = [0, 2, 3, 4, 5, 6, 7] ∧
        ({ sample with style := .comment "//", «variables» := [] }.format none f.text ()).result =
          .ok ⟨f.text, [], [], (linesOf f.text).length⟩ := by
  obtain ⟨-, again, -⟩ := format_of_blanked sample rfl none sampleText () _ format_sample
  refine ⟨rfl, _, format_sample, rfl, ?_⟩
  rw [(again Unit { sample with style := .comment "//", «variables» := [] } none () rfl).1]

end Gate

end LineGate
