import LineGate.Proofs.Block.Events
import LineGate.Proofs.Block.Hidden
import LineGate.Proofs.Document.Projection
import LineGate.Proofs.Text.Lines

/-! # The sections of a text

A text that is processed falls into **sections**, the blocks that are found one after the other, and
the lines between them. The sections are settled by nesting: each one starts at the first opening line
behind the section before it and ends where its block ends, and behind the last one no line opens a
block any more.

The processed text is put together line by line. A line of no section stays as it is, whatever
directive it holds; in a section the directives and the hidden lines are neutralised. The warnings are
those of the sections, in the order of their lines. -/

namespace LineGate

variable {σ : Type}

namespace Document

open Block

/-! ## Sections -/

/-- **Sections**: the line that opens a block, the block, and the events of the walk through it. -/
structure Section where
  start : Nat
  block : Block
  events : Array Event

/-- The lines of a section. -/
def Section.Covers (s : Section) (i : Nat) : Prop := s.start ≤ i ∧ i ≤ s.block.stop

/-- **The first opening line** from line `index` on. -/
structure FirstOpening (directive? : String → Option Directive) (lines : List String)
    (index start : Nat) : Prop where
  le : index ≤ start
  opening : lines[start]?.any (opens directive?) = true
  before : ∀ i, index ≤ i → i < start → lines[i]?.any (opens directive?) = false

/-- **The sections of a text** from line `index` on, with the state of the evaluator before and after
them. -/
inductive Sections (directive? : String → Option Directive) (evaluate : Evaluator σ)
    (lines : List String) : Nat → σ → List Section → σ → Prop where
  /-- No line opens a block any more. -/
  | nil {index : Nat} {state : σ}
      (none : ∀ i, index ≤ i → lines[i]?.any (opens directive?) = false) :
      Sections directive? evaluate lines index state [] state
  /-- The next section starts at the first opening line and ends with its block. -/
  | cons {index : Nat} {state next final : σ} {s : Section} {sections : List Section}
      (first : FirstOpening directive? lines index s.start)
      (ends : EndsAt directive? lines s.start s.block.stop)
      (parsed : parse directive? evaluate lines s.start false state = (.ok s.block, ⟨next, s.events⟩))
      (rest : Sections directive? evaluate lines (s.block.stop + 1) next sections final) :
      Sections directive? evaluate lines index state (s :: sections) final

section Scan

variable {directive? : String → Option Directive} {evaluate : Evaluator σ} {lines : List String}
variable {index : Nat} {state final : σ} {sections : List Section}

/-- A line that opens no block can be passed over. -/
theorem Sections.skip (closed : lines[index]?.any (opens directive?) = false)
    (h : Sections directive? evaluate lines (index + 1) state sections final) :
    Sections directive? evaluate lines index state sections final := by
  have at_or_behind {i : Nat} (le : index ≤ i) : i = index ∨ index + 1 ≤ i := by omega
  cases h with
  | nil none =>
    refine .nil fun i le => ?_
    rcases at_or_behind le with rfl | behind
    · exact closed
    · exact none i behind
  | cons first ends parsed rest =>
    refine .cons ⟨Nat.le_of_succ_le first.le, first.opening, fun i le lt => ?_⟩ ends parsed rest
    rcases at_or_behind le with rfl | behind
    · exact closed
    · exact first.before i behind lt

/-- **A scan finds the sections**: if it succeeds, the hidden lines and the events are those of the
sections. -/
theorem scan_sections (index : Nat) (rest : List String) (h : rest = lines.drop index)
    (p q : Progress σ) (hidden : List Nat)
    (scanned : (scan directive? evaluate index rest).run p = (.ok hidden, q)) :
    ∃ sections, Sections directive? evaluate lines index p.state sections q.state ∧
      hidden = sections.flatMap (·.block.hidden) ∧
      q.events.toList = p.events.toList ++ sections.flatMap (·.events.toList) := by
  fun_induction scan directive? evaluate index rest generalizing p q hidden with
  | case1 index =>
    cases scanned
    refine ⟨[], .nil fun i le => ?_, rfl, (List.append_nil _).symm⟩
    rw [List.getElem?_eq_none (Nat.le_trans (List.drop_eq_nil_iff.mp h.symm) le)]
    rfl
  | case2 index line rest ho ih =>
    obtain ⟨at_index, tail⟩ := tail_of_drop_eq h
    have opening : lines[index]?.any (opens directive?) = true := by
      rw [at_index]
      exact ho
    -- The walk through the block does not depend on the events before it.
    rw [Walk.run_bind, run_appends directive? evaluate _ _ p, h] at scanned
    have parse_eq := parse_of_opens directive? evaluate at_index ho false p.state
    rcases walked : (run directive? evaluate (lines.drop index) (Machine.start index false)).run
      { state := p.state } with ⟨r | block, ⟨next, events⟩⟩
    · rw [walked] at scanned
      cases scanned
    · rw [walked] at scanned parse_eq
      have ends := endsAt_of_parse_ok at_index ho parse_eq
      have le := ends.start_le
      have behind : rest.drop (block.stop - index) = lines.drop (block.stop + 1) := by
        rw [tail, List.drop_drop, show index + 1 + (block.stop - index) = block.stop + 1 by omega]
      dsimp only at scanned
      rw [Walk.run_bind] at scanned
      rcases later : (scan directive? evaluate (block.stop + 1)
        (rest.drop (block.stop - index))).run ⟨next, p.events ++ events⟩ with ⟨r | more, q'⟩
      · rw [later] at scanned
        cases scanned
      · rw [later] at scanned
        cases scanned
        obtain ⟨sections, found, hidden_eq, events_eq⟩ := ih block behind _ _ _ later
        refine ⟨⟨index, block, events⟩ :: sections,
          .cons ⟨Nat.le_refl _, opening, fun i le lt => absurd lt (Nat.not_lt.mpr le)⟩ ends parse_eq
            found, ?_, ?_⟩
        · rw [hidden_eq, List.flatMap_cons]
        · rw [events_eq, Array.toList_append, List.append_assoc, List.flatMap_cons]
  | case3 index line rest ho ih =>
    obtain ⟨at_index, tail⟩ := tail_of_drop_eq h
    obtain ⟨sections, found, eqs⟩ := ih tail _ _ _ scanned
    refine ⟨sections, found.skip ?_, eqs⟩
    rw [at_index]
    exact Bool.eq_false_iff.mpr ho

/-! ## What a section does -/

/-- A parsed block hides some of its lines, and its events are a chronicle of them. -/
theorem hides_and_chronicle {start : Nat} {block : Block} {progress : Progress σ}
    (opening : lines[start]?.any (opens directive?) = true)
    (parsed : parse directive? evaluate lines start false state = (.ok block, progress)) :
    Hides directive? lines start block ∧
      Chronicle directive? lines block.stop start progress.events.toList := by
  obtain ⟨line, at_start, ho⟩ := (Option.any_eq_true _ _).mp opening
  rw [parse_of_opens directive? evaluate at_start ho] at parsed
  have returns : (run directive? evaluate (lines.drop start) (Machine.start start false)).Returns
      (Hides directive? lines start) := run_hides at_start ho false
  have tells : (run directive? evaluate (lines.drop start) (Machine.start start false)).Tells
      (Chronicled directive? lines start) := run_chronicle evaluate (Machine.start start false) _ rfl
  have hides := returns { state }
  obtain ⟨told, events_eq, stop, -, chronicle, stops⟩ := tells { state }
  generalize (run directive? evaluate (lines.drop start) (Machine.start start false)).run
    { state } = outcome at parsed hides events_eq stops
  obtain ⟨r | block', progress'⟩ := outcome
  · cases parsed
  · cases parsed
    refine ⟨hides block rfl, ?_⟩
    rw [stops block rfl, events_eq]
    exact chronicle

/-- What each section is: it starts at an opening line, hides lines of its own, and has events of its
own. -/
structure Section.Sound (directive? : String → Option Directive) (lines : List String)
    (s : Section) : Prop where
  hides : Hides directive? lines s.start s.block
  chronicle : Chronicle directive? lines s.block.stop s.start s.events.toList

/-- The sections of a text are sound, and none starts before line `index`. -/
theorem Sections.sound (h : Sections directive? evaluate lines index state sections final) :
    ∀ s ∈ sections, index ≤ s.start ∧ s.Sound directive? lines := by
  induction h with
  | nil => simp
  | cons first ends parsed rest ih =>
    intro t ht
    rcases List.mem_cons.mp ht with rfl | ht
    · obtain ⟨hides, chronicle⟩ := hides_and_chronicle first.opening parsed
      exact ⟨first.le, hides, chronicle⟩
    · obtain ⟨le, sound⟩ := ih t ht
      have := first.le
      have := ends.start_le
      exact ⟨by omega, sound⟩

/-- **Sections are disjoint and ascend.** -/
theorem Sections.pairwise (h : Sections directive? evaluate lines index state sections final) :
    sections.Pairwise fun s t => s.block.stop < t.start := by
  induction h with
  | nil => exact .nil
  | cons first ends parsed rest ih =>
    exact .cons (fun t ht => (rest.sound t ht).1) ih

/-- A line belongs to one section only. -/
theorem Sections.eq_of_covers (h : Sections directive? evaluate lines index state sections final)
    {s t : Section} (hs : s ∈ sections) (ht : t ∈ sections) {i : Nat} (si : s.Covers i)
    (ti : t.Covers i) : s = t := by
  induction h with
  | nil => cases hs
  | cons first ends parsed rest ih =>
    rcases List.mem_cons.mp hs with rfl | hs' <;> rcases List.mem_cons.mp ht with rfl | ht'
    · rfl
    · have := (rest.sound t ht').1
      exact absurd si.2 (by have := ti.1; omega)
    · have := (rest.sound s hs').1
      exact absurd ti.2 (by have := si.1; omega)
    · exact ih hs' ht'

/-- The events of all sections are a chronicle of the text. -/
theorem Sections.chronicle (h : Sections directive? evaluate lines index state sections final) :
    Chronicle directive? lines lines.length index (sections.flatMap (·.events.toList)) := by
  induction h with
  | nil => exact .nil
  | cons first ends parsed rest ih =>
    obtain ⟨-, told⟩ := hides_and_chronicle first.opening parsed
    have lt := ends.lt_length
    have le := ends.start_le
    have first_le := first.le
    rw [List.flatMap_cons]
    exact (told.widen first_le (Nat.le_refl _)).append ih (by omega) (by omega) (by omega)

/-- Inside a section, the hidden lines of the text are those of the section. -/
theorem Sections.mem_hidden (h : Sections directive? evaluate lines index state sections final)
    {s : Section} (hs : s ∈ sections) {i : Nat} (covers : s.Covers i) :
    i ∈ sections.flatMap (·.block.hidden) ↔ i ∈ s.block.hidden := by
  rw [List.mem_flatMap]
  constructor
  · rintro ⟨t, ht, mem⟩
    rwa [h.eq_of_covers hs ht covers ((h.sound t ht).2.hides.bounds i mem)]
  · intro mem
    exact ⟨s, hs, mem⟩

/-- Outside of the sections no line is hidden. -/
theorem Sections.not_mem_hidden (h : Sections directive? evaluate lines index state sections final)
    {i : Nat} (outside : ∀ s ∈ sections, ¬ s.Covers i) :
    i ∉ sections.flatMap (·.block.hidden) := by
  intro mem
  obtain ⟨s, hs, mem⟩ := List.mem_flatMap.mp mem
  exact outside s hs ((h.sound s hs).2.hides.bounds i mem)

end Scan

/-! ## Warnings -/

section Warnings

variable {directive? : String → Option Directive} {lines : List String} {start stop : Nat}
variable {events : List Event} {w : Diagnostic}

/-- **Warnings of lines**: the warning that the warning directive on line `i` gives. -/
def WarningAt (directive? : String → Option Directive) (lines : List String) (file : Option String)
    (i : Nat) (w : Diagnostic) : Prop :=
  ∃ line d, lines[i]? = some line ∧ directive? line = some d ∧ d.kind = .warning ∧
    w = (Block.warning d i line).withFile file

/-- The warning of an event is given by the directive on its line. -/
theorem warningAt_of_at {e : Event} {i : Nat} (at_i : e.At directive? lines i)
    (file : Option String) (mem : w ∈ warnings file [e]) : WarningAt directive? lines file i w := by
  cases at_i with
  | included => simp [warnings] at mem
  | evaluated => simp [warnings] at mem
  | @warned _ line d at_i found kind =>
    exact ⟨line, d, at_i, found, kind, by simpa [warnings] using mem⟩

/-- The warnings in a chronicle are given by warning directives on its lines. -/
theorem warningAt_of_mem (h : Chronicle directive? lines stop start events) (file : Option String)
    (mem : w ∈ warnings file events) :
    ∃ i, start ≤ i ∧ i < stop ∧ WarningAt directive? lines file i w := by
  obtain ⟨e, told, given⟩ := List.mem_filterMap.mp mem
  obtain ⟨i, le, lt, at_i⟩ := h.at_of_mem told
  exact ⟨i, le, lt, warningAt_of_at at_i file (List.mem_filterMap.mpr ⟨e, by simp, given⟩)⟩

/-- **The warnings in a chronicle** come in the order of their lines. -/
theorem pairwise_warnings (h : Chronicle directive? lines stop start events)
    (file : Option String) : (warnings file events).Pairwise fun w w' => w.line < w'.line := by
  refine List.pairwise_filterMap.mpr (h.pairwise.imp ?_)
  rintro e e' ⟨i, j, lt, at_i, at_j⟩ w given w' given'
  obtain ⟨_, _, -, -, -, rfl⟩ :=
    warningAt_of_at at_i file (List.mem_filterMap.mpr ⟨e, by simp, given⟩)
  obtain ⟨_, _, -, -, -, rfl⟩ :=
    warningAt_of_at at_j file (List.mem_filterMap.mpr ⟨e', by simp, given'⟩)
  change (i : Int) + 1 < (j : Int) + 1
  omega

/-- The warnings of all sections are those of each. -/
theorem warnings_flatMap (file : Option String) (sections : List Section) :
    warnings file (sections.flatMap (·.events.toList)) =
      sections.flatMap fun s => warnings file s.events.toList :=
  List.filterMap_flatMap

end Warnings

/-! ## Rendering -/

/-- A rendered text has the same number of lines. -/
theorem length_renderLines (style : Style) (hidden : List Nat) (lines : List String) :
    (renderLines style hidden lines).length = lines.length := by
  rw [renderLines, List.length_map, List.length_zipIdx]

/-- **Each line is rendered on its own.** -/
theorem getElem?_renderLines (style : Style) (hidden : List Nat) {lines : List String} {i : Nat}
    {line : String} (h : lines[i]? = some line) :
    (renderLines style hidden lines)[i]? =
      some (if i ∈ hidden then style.render line else line) := by
  rw [renderLines, List.getElem?_map, List.getElem?_zipIdx, h]
  simp only [Option.map_some, Nat.zero_add, List.contains_iff_mem]

end Document

namespace Style

/-- **Blanked lines**: a line of the same length with a carriage return where the line ends with one,
and spaces elsewhere. -/
def Blanks (line blanked : String) : Prop :=
  blanked.length = line.length ∧
    ∀ i, i < line.length → blanked.toList[i]? =
      some (if i + 1 = line.length ∧ line.toList[i]? = some '\r' then '\r' else ' ')

/-- Blanking a line keeps its length. -/
theorem length_blankLine (line : List Char) : (blankLine line).length = line.length := by
  unfold blankLine
  split
  · rename_i ending
    have pos : 0 < line.length := List.length_pos_iff.mpr fun eq => by
      rw [eq] at ending
      cases ending
    rw [spaces, List.length_append, List.length_replicate, List.length_singleton]
    omega
  · rw [spaces, List.length_replicate]

/-- The characters of a blanked line. -/
theorem getElem?_blankLine (cs : List Char) {i : Nat} (h : i < cs.length) :
    (blankLine cs)[i]? =
      some (if i + 1 = cs.length ∧ cs[i]? = some '\r' then '\r' else ' ') := by
  have last : cs.getLast? = cs[cs.length - 1]? := List.getLast?_eq_getElem?
  unfold blankLine spaces
  by_cases final : i + 1 = cs.length
  · have eq : cs.length - 1 = i := by omega
    rw [last, eq]
    by_cases ending : cs[i]? = some '\r'
    · rw [if_pos ending, if_pos ⟨final, ending⟩, List.getElem?_append_right (by simp)]
      simp
    · rw [if_neg ending, if_neg (fun both => ending both.2), List.getElem?_replicate, if_pos h]
  · have inner : i < cs.length - 1 := by omega
    have space : ¬ (i + 1 = cs.length ∧ cs[i]? = some '\r') := fun both => final both.1
    rw [if_neg space]
    split
    · rw [List.getElem?_append_left (by simpa using inner), List.getElem?_replicate, if_pos inner]
    · rw [List.getElem?_replicate, if_pos h]

/-- **Blanking a line** gives a blanked line. -/
theorem blanks_render (line : String) : Blanks line (blank.render line) := by
  have chars : (blank.render line).toList = blankLine line.toList := String.toList_ofList
  refine ⟨?_, fun i lt => ?_⟩
  · rw [← String.length_toList, chars, length_blankLine, String.length_toList]
  · rw [← String.length_toList] at lt ⊢
    rw [chars, getElem?_blankLine line.toList lt]

end Style

/-! ## Processed texts -/

open Document

/-- **Texts rendered by their sections**: `out` are the lines of the processed text `f`. -/
structure Rendered (g : Gate σ) (file : Option String) (text : String) (sections : List Section)
    (out : List String) (f : Formatted) : Prop where
  text_eq : f.text = textOf out
  length_eq : out.length = (linesOf text).length
  /-- Lines of no section stay as they are. -/
  outside : ∀ i line, (linesOf text)[i]? = some line → (∀ s ∈ sections, ¬ s.Covers i) →
    out[i]? = some line
  /-- Directives in a section are neutralised. -/
  directive : ∀ s ∈ sections, ∀ i line, s.Covers i → (linesOf text)[i]? = some line →
    (g.directive? line).isSome = true → out[i]? = some (g.style.render line)
  /-- Of the other lines of a section, the hidden ones are neutralised. -/
  other : ∀ s ∈ sections, ∀ i line, s.Covers i → (linesOf text)[i]? = some line →
    g.directive? line = none →
      out[i]? = some (if i ∈ s.block.hidden then g.style.render line else line)
  /-- The warnings are those of the sections. -/
  warnings_eq : f.warnings = sections.flatMap fun s => warnings file s.events.toList
  /-- They come in the order of their lines. -/
  ascending : f.warnings.Pairwise fun w w' => w.line < w'.line
  /-- Each of them is given by a warning directive in its section. -/
  given : ∀ s ∈ sections, ∀ w ∈ warnings file s.events.toList,
    ∃ i, s.Covers i ∧ WarningAt g.directive? (linesOf text) file i w

/-- **The sections of a text that is let through** make up the result and the events. -/
theorem Document.sections_of_format {directive? : String → Option Directive}
    {evaluate : Evaluator σ} {style : Style} (file : Option String) (text : String) (state : σ)
    {f : Formatted} {progress : Progress σ}
    (h : format directive? evaluate style file text state = (.ok f, progress)) :
    ∃ sections, Sections directive? evaluate (linesOf text) 0 state sections progress.state ∧
      progress.events.toList = sections.flatMap (·.events.toList) ∧
      f.text = textOf (renderLines style (sections.flatMap (·.block.hidden)) (linesOf text)) ∧
      f.warnings = warnings file progress.events.toList ∧
      f.hidden = sections.flatMap (·.block.hidden) := by
  unfold format at h
  dsimp only at h
  rcases scanned : (scan directive? evaluate 0 (linesOf text)).run { state } with ⟨r | hidden, q⟩
  · rw [scanned] at h
    cases (Prod.mk.inj h).1
  · rw [scanned] at h
    obtain ⟨f_eq, rfl⟩ := Prod.mk.inj h
    obtain rfl := Except.ok.inj f_eq
    obtain ⟨sections, found, rfl, events_eq⟩ := scan_sections 0 (linesOf text) rfl _ _ _ scanned
    exact ⟨sections, found, events_eq, rfl, rfl, rfl⟩

/-- A text that is let through is rendered by its sections. -/
theorem Gate.rendered_of_outcome (g : Gate σ) (file : Option String) (text : String) (state : σ)
    {f : Formatted} {progress : Progress σ}
    (h : g.outcome file text state = (.ok f, progress)) :
    ∃ sections, Sections g.directive? g.evaluator (linesOf text) 0 state sections progress.state ∧
      Rendered g file text sections
        (renderLines g.style (sections.flatMap (·.block.hidden)) (linesOf text)) f := by
  obtain ⟨sections, found, told, text_eq, warnings_eq, -⟩ := sections_of_format file text state h
  rw [told] at warnings_eq
  -- What is left is to read the hidden lines and the events section by section.
  refine ⟨sections, found, text_eq, length_renderLines _ _ _, ?_, ?_, ?_, ?_, ?_, ?_⟩
  · intro i line at_i outside
    rw [getElem?_renderLines _ _ at_i, if_neg (found.not_mem_hidden outside)]
  · intro s hs i line covers at_i directive
    have mem := (found.sound s hs).2.hides.directives i line covers.1 covers.2 at_i directive
    rw [getElem?_renderLines _ _ at_i, if_pos ((found.mem_hidden hs covers).mpr mem)]
  · intro s hs i line covers at_i _
    rw [getElem?_renderLines _ _ at_i]
    simp only [found.mem_hidden hs covers]
  · rw [warnings_eq, warnings_flatMap]
  · rw [warnings_eq]
    exact pairwise_warnings found.chronicle file
  · intro s hs w mem
    obtain ⟨i, ge, lt, given⟩ := warningAt_of_mem (found.sound s hs).2.chronicle file mem
    exact ⟨i, ⟨ge, Nat.le_of_lt lt⟩, given⟩

/-- The result for a text that is let through is made of its rendered lines. -/
theorem Gate.text_of_outcome (g : Gate σ) (file : Option String) (text : String) (state : σ)
    {f : Formatted} (passed : (g.outcome file text state).1 = .ok f) :
    f.text = textOf (renderLines g.style f.hidden (linesOf text)) ∧
      f.lineCount = (linesOf text).length := by
  unfold outcome Document.format at passed
  dsimp only at passed
  rcases scanned : (scan g.directive? g.evaluator 0 (linesOf text)).run { state } with
    ⟨r | hidden, q⟩
  · rw [scanned] at passed
    cases passed
  · rw [scanned] at passed
    obtain rfl := Except.ok.inj passed
    exact ⟨rfl, rfl⟩

/-- **Where a text comes from** does not matter for what becomes of it. -/
theorem Gate.text_of_file (g : Gate σ) {file : Option String} {text : String} {state : σ}
    {f : Formatted} (passed : (g.format file text state).result = .ok f) (file' : Option String) :
    ∃ f', (g.format file' text state).result = .ok f' ∧ f'.text = f.text := by
  rw [format_eq_outcome, outcome, Document.format] at passed ⊢
  dsimp only at passed ⊢
  rcases scanned : (scan g.directive? g.evaluator 0 (linesOf text)).run { state } with
    ⟨r | hidden, q⟩
  · rw [scanned] at passed
    cases passed
  · rw [scanned] at passed
    obtain rfl := Except.ok.inj passed
    exact ⟨_, rfl, rfl⟩

/-- Blanking keeps the length of every line. -/
theorem map_length_renderLines (hidden : List Nat) (lines : List String) :
    lines.map String.length = (renderLines .blank hidden lines).map String.length := by
  refine List.ext_getElem? fun i => ?_
  rw [List.getElem?_map, List.getElem?_map]
  cases at_i : lines[i]? with
  | none =>
    have le : lines.length ≤ i := List.getElem?_eq_none_iff.mp at_i
    rw [List.getElem?_eq_none (by rw [length_renderLines]; exact le)]
  | some line =>
    rw [getElem?_renderLines _ _ at_i, Option.map_some, Option.map_some]
    split
    · rw [(Style.blanks_render line).1]
    · rfl

/-- **Nothing moves**: the processed text has the length of the text, and each line of it begins where
the line of the text does. -/
structure InPlace (text : String) (out : List String) (f : Formatted) : Prop where
  length_eq : f.text.length = text.length
  offset_eq : ∀ i line line', (linesOf text)[i]? = some line → out[i]? = some line' →
    line.toList <+: text.toList.drop (offset (linesOf text) i) ∧
      line'.toList <+: f.text.toList.drop (offset (linesOf text) i)

/-- Lines of the same lengths stay in place. -/
theorem inPlace_of_lengths {text : String} {out : List String} {f : Formatted}
    (text_eq : f.text = textOf out)
    (lengths : (linesOf text).map String.length = out.map String.length) : InPlace text out f := by
  refine ⟨?_, fun i line line' at_i out_i => ⟨?_, ?_⟩⟩
  · rw [text_eq, ← length_textOf_congr lengths, textOf_linesOf]
  · have begins := prefix_drop_offset at_i
    rwa [textOf_linesOf] at begins
  · rw [text_eq, offset_congr lengths]
    exact prefix_drop_offset out_i

/-- **What a gate makes of a text that it lets through.** The text has sections, disjoint and in
ascending order: each one from the first opening line behind the section before it to the line that
closes its block, until no line opens a block any more. The processed text has a line for each line of
the text. Lines of no section stay as they are; in a section the directives are neutralised, and of
the other lines those that its block hides. The warnings are those of the sections in the order of
their lines.

A line is neutralised by putting the marker in front of it, or by blanking all of it but a final
carriage return. In the latter case nothing moves. -/
theorem Gate.format_sections (g : Gate σ) (file : Option String) (text : String) (state : σ)
    (f : Formatted) (passed : (g.format file text state).result = .ok f) :
    ∃ sections out,
      Sections g.directive? g.evaluator (linesOf text) 0 state sections
        (g.format file text state).state ∧
      sections.Pairwise (fun s t => s.block.stop < t.start) ∧
      Rendered g file text sections out f ∧
      (∀ marker, g.style = .comment marker → ∀ line, g.style.render line = marker ++ line) ∧
      (g.style = .blank →
        (∀ line, Style.Blanks line (g.style.render line)) ∧ InPlace text out f) := by
  rcases outcome : g.outcome file text state with ⟨r | f', progress⟩
  · rw [format_eq_outcome, outcome] at passed
    cases passed
  · rw [format_eq_outcome, outcome] at passed ⊢
    cases passed
    obtain ⟨sections, found, rendered⟩ := g.rendered_of_outcome file text state outcome
    refine ⟨sections, _, found, found.pairwise, rendered, ?_, ?_⟩
    · intro marker style line
      rw [style]
      rfl
    · intro style
      refine ⟨fun line => style ▸ Style.blanks_render line, inPlace_of_lengths rendered.text_eq ?_⟩
      rw [style]
      exact map_length_renderLines _ _

/-- A text with one section, behind which a closing line stays as it is. -/
theorem Gate.format_sections_sample :
    ∃ f, (sample.format none sampleText ()).result = .ok f ∧ f.hidden = [0, 2, 3, 4, 5, 6, 7] ∧
      ∃ sections out,
        Sections sample.directive? sample.evaluator (linesOf sampleText) 0 () sections () ∧
        Rendered sample none sampleText sections out f ∧ f.text.length = sampleText.length := by
  obtain ⟨sections, out, found, -, rendered, -, blanked⟩ :=
    format_sections sample none sampleText () _ format_sample
  exact ⟨_, format_sample, rfl, sections, out, found, rendered, (blanked rfl).2.length_eq⟩

end LineGate
