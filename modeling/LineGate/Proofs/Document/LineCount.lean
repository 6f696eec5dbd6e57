import LineGate.Proofs.Document.Marked
import LineGate.Proofs.Document.Sections

/-! # The number of lines

A text with `n` line feeds has `n + 1` lines, and a gate renders each of them on its own. The number of
lines is therefore kept as long as a rendered line is one line, and that is up to the marker: every
hidden line gains the line feeds of the marker in front of it (`Gate.format_lineFeeds`). A blanked line
gains none.

There is one gap. Settings take any marker, and with a line feed in it every hidden line becomes
several (`Gate.format_adds_lines`). -/

namespace LineGate

variable {σ : Type}

/-! ## Line feeds -/

/-- **The number of line feeds** in a text. -/
def lineFeeds (text : String) : Nat := text.toList.count '\n'

/-- Texts without line feeds. -/
theorem lineFeeds_eq_zero {text : String} : lineFeeds text = 0 ↔ '\n' ∉ text.toList :=
  List.count_eq_zero

/-- The line feeds of two texts. -/
@[simp] theorem lineFeeds_append (a b : String) : lineFeeds (a ++ b) = lineFeeds a + lineFeeds b := by
  simp [lineFeeds, String.toList_append]

/-- Joining parts adds a separator between neighbours. -/
theorem Separated.count_join (sep : Char) {parts : List (List Char)} (h : parts ≠ []) :
    (join sep parts).count sep + 1 = (parts.map (List.count sep)).sum + parts.length := by
  induction parts with
  | nil => exact absurd rfl h
  | cons part rest ih =>
    by_cases last : rest = []
    · simp [last, join_singleton]
    · have more := ih last
      rw [join_cons sep last, List.count_append, List.count_cons_self, List.map_cons, List.sum_cons,
        List.length_cons]
      omega

/-- **The line feeds of a text** are those between its lines, and those in them. -/
theorem lineFeeds_textOf {lines : List String} (h : lines ≠ []) :
    lineFeeds (textOf lines) + 1 = (lines.map lineFeeds).sum + lines.length := by
  have parts : lines.map String.toList ≠ [] := by simpa using h
  have counted := Separated.count_join '\n' parts
  rw [List.map_map, List.length_map] at counted
  rw [lineFeeds, toList_textOf]
  exact counted

/-- A line of a text has no line feeds. -/
theorem lineFeeds_of_mem_linesOf {text line : String} (h : line ∈ linesOf text) :
    lineFeeds line = 0 :=
  lineFeeds_eq_zero.mpr (not_mem_of_mem_linesOf h)

/-- **A text has one line more than line feeds.** -/
theorem length_linesOf (text : String) : (linesOf text).length = lineFeeds text + 1 := by
  have none_inside : ((linesOf text).map lineFeeds).sum = 0 := by
    rw [List.map_eq_replicate_iff.mpr fun line => lineFeeds_of_mem_linesOf, List.sum_replicate_nat,
      Nat.mul_zero]
  have counted := lineFeeds_textOf (linesOf_ne_nil text)
  rw [textOf_linesOf, none_inside] at counted
  omega

/-! ## Rendered lines -/

/-- **The line feeds that a hidden line gains**. -/
def Style.feeds : Style → Nat
  | .comment marker => lineFeeds marker
  | .blank => 0

/-- A hidden line gains the line feeds of the marker; a blanked line has none. -/
theorem Style.lineFeeds_render (style : Style) {line : String} (clean : lineFeeds line = 0) :
    lineFeeds (style.render line) = style.feeds := by
  cases style with
  | comment marker => simp [Style.render, Style.feeds, clean]
  | blank =>
    rw [Style.feeds, lineFeeds_eq_zero]
    intro inside
    rw [Style.render, String.toList_ofList] at inside
    -- A blanked line has spaces and carriage returns only.
    unfold blankLine spaces at inside
    split at inside
    · simp at inside
    · simp at inside

namespace Document

/-- The line feeds of rendered lines: each hidden one has those of the style. -/
theorem sum_lineFeeds_render (style : Style) (hidden : List Nat) {lines : List String}
    (clean : ∀ line ∈ lines, lineFeeds line = 0) (start : Nat) :
    (((lines.zipIdx start).map fun (line, i) =>
        if hidden.contains i then style.render line else line).map lineFeeds).sum =
      (List.range' start lines.length).countP (fun i => decide (i ∈ hidden)) * style.feeds := by
  induction lines generalizing start with
  | nil => simp
  | cons line rest ih =>
    have later := ih (fun other mem => clean other (List.mem_cons_of_mem line mem)) (start + 1)
    have first : lineFeeds line = 0 := clean line List.mem_cons_self
    rw [List.zipIdx_cons, List.map_cons, List.map_cons, List.sum_cons, later, List.length_cons,
      List.range'_succ, List.countP_cons, Nat.add_mul, Nat.add_comm]
    by_cases mem : start ∈ hidden
    · simp [mem, style.lineFeeds_render first]
    · simp [mem, first]

/-- Distinct indices below a bound are counted among all of them. -/
theorem countP_range_mem {hidden : List Nat} {n : Nat} (nodup : hidden.Nodup)
    (bounds : ∀ i ∈ hidden, i < n) :
    (List.range' 0 n).countP (fun i => decide (i ∈ hidden)) = hidden.length := by
  rw [List.countP_eq_length_filter, ← List.range_eq_range']
  refine List.Perm.length_eq ((List.perm_ext_iff_of_nodup ?_ nodup).mpr fun i => ?_)
  · exact List.nodup_range.filter _
  · simp only [List.mem_filter, List.mem_range, decide_eq_true_eq]
    exact ⟨fun both => both.2, fun mem => ⟨bounds i mem, mem⟩⟩

/-! ## Hidden lines -/

section Hidden

variable {directive? : String → Option Directive} {evaluate : Evaluator σ} {lines : List String}
variable {index : Nat} {state final : σ} {sections : List Section}

/-- **The hidden lines of all sections** ascend. -/
theorem Sections.pairwise_hidden
    (h : Sections directive? evaluate lines index state sections final) :
    (sections.flatMap (·.block.hidden)).Pairwise (· < ·) := by
  rw [List.pairwise_flatMap]
  constructor
  · intro s hs
    exact (h.sound s hs).2.hides.ascending
  · -- The lines of a section are behind those of the sections before it.
    refine List.Pairwise.imp_of_mem ?_ h.pairwise
    intro s t hs ht apart i hi j hj
    have low := (h.sound s hs).2.hides.bounds i hi
    have high := (h.sound t ht).2.hides.bounds j hj
    omega

/-- The hidden lines of a section are lines of the text. -/
theorem Sections.lt_of_mem_hidden
    (h : Sections directive? evaluate lines index state sections final) :
    ∀ i ∈ sections.flatMap (·.block.hidden), i < lines.length := by
  intro i mem
  obtain ⟨s, hs, hi⟩ := List.mem_flatMap.mp mem
  have hides := (h.sound s hs).2.hides
  have := (hides.bounds i hi).2
  have := hides.ends.lt_length
  omega

end Hidden

end Document

open Document

/-- **The hidden lines of a text** are some of its lines in ascending order. -/
theorem Gate.hidden_of_outcome (g : Gate σ) (file : Option String) (text : String) (state : σ)
    {f : Formatted} (passed : (g.outcome file text state).1 = .ok f) :
    f.hidden.Pairwise (· < ·) ∧ ∀ i ∈ f.hidden, i < (linesOf text).length := by
  unfold outcome Document.format at passed
  dsimp only at passed
  rcases scanned : (scan g.directive? g.evaluator 0 (linesOf text)).run { state } with
    ⟨r | hidden, q⟩
  · rw [scanned] at passed
    cases passed
  · rw [scanned] at passed
    obtain rfl := Except.ok.inj passed
    obtain ⟨sections, found, rfl, -⟩ := scan_sections 0 (linesOf text) rfl _ _ _ scanned
    exact ⟨found.pairwise_hidden, found.lt_of_mem_hidden⟩

/-- The line feeds of a processed text, by those that a hidden line gains. -/
theorem Gate.lineFeeds_of_outcome (g : Gate σ) (file : Option String) (text : String) (state : σ)
    {f : Formatted} (passed : (g.outcome file text state).1 = .ok f) :
    lineFeeds f.text = lineFeeds text + f.hidden.length * g.style.feeds := by
  obtain ⟨text_eq, -⟩ := g.text_of_outcome file text state passed
  obtain ⟨ascending, bounds⟩ := g.hidden_of_outcome file text state passed
  have lines_eq := length_linesOf text
  have rendered_length := length_renderLines g.style f.hidden (linesOf text)
  have nonempty : renderLines g.style f.hidden (linesOf text) ≠ [] := by
    refine List.ne_nil_of_length_pos ?_
    omega
  have gained : ((renderLines g.style f.hidden (linesOf text)).map lineFeeds).sum =
      f.hidden.length * g.style.feeds := by
    rw [renderLines, sum_lineFeeds_render g.style f.hidden
      (fun line mem => lineFeeds_of_mem_linesOf mem) 0,
      countP_range_mem (ascending.imp Nat.ne_of_lt) bounds]
  have counted := lineFeeds_textOf nonempty
  rw [← text_eq, gained, rendered_length] at counted
  omega

/-- A gate neutralises lines as the settings say that it is built from. -/
theorem Gate.style_of_build {glossary : Pattern.Glossary} {s : Settings}
    {functions : Functions σ} {environ : List (String × String)} {logger : String} {g : Gate σ}
    (built : (Gate.build glossary s functions environ logger).1 = .ok g) : g.style = s.style := by
  unfold Gate.build at built
  split at built
  · cases built
  · rw [← Except.ok.inj built]

/-- **The number of lines is kept** by every gate that blanks hidden lines or whose marker has no line
feed. In general, each hidden line adds the line feeds of the marker, so that the number of lines
changes as soon as a line is hidden behind a marker with a line feed. -/
theorem Gate.format_lineFeeds {glossary : Pattern.Glossary} {s : Settings}
    {functions : Functions σ} {environ : List (String × String)} {logger : String} {g : Gate σ}
    (built : (Gate.build glossary s functions environ logger).1 = .ok g) (file : Option String)
    (text : String) (state : σ) {f : Formatted}
    (passed : (g.format file text state).result = .ok f) :
    lineFeeds f.text = lineFeeds text + f.hidden.length * s.style.feeds ∧
      (lineFeeds f.text = lineFeeds text ↔
        s.fillWithSpaces = true ∨ '\n' ∉ s.commentMarker.toList ∨ f.hidden = []) := by
  have counted : lineFeeds f.text = lineFeeds text + f.hidden.length * s.style.feeds := by
    rw [← style_of_build built]
    exact g.lineFeeds_of_outcome file text state passed
  refine ⟨counted, ?_⟩
  -- Nothing is gained if no line is hidden, or if a hidden line gains nothing.
  have kept : lineFeeds f.text = lineFeeds text ↔ f.hidden = [] ∨ s.style.feeds = 0 := by
    rw [counted, Nat.add_eq_left, Nat.mul_eq_zero, List.length_eq_zero_iff]
  have gains : s.style.feeds = 0 ↔ s.fillWithSpaces = true ∨ '\n' ∉ s.commentMarker.toList := by
    by_cases fill : s.fillWithSpaces = true
    · simp [Settings.style, Style.feeds, fill]
    · simp [Settings.style, Style.feeds, fill, lineFeeds_eq_zero]
  rw [kept, gains, or_comm, or_assoc]

/-! ## A marker with a line feed -/

/-- A text with a block that is kept. -/
def keptBlock : String := "///#if true\nx\n///#endif"

namespace Gate

/-- A condition that is written out is decided as it reads. -/
theorem evaluator_literal (marker : String) (kept : Bool) (line : Nat) :
    (marked marker).evaluator (if kept then "true" else "false") line () = (.ok kept, ()) := by
  change Condition.evaluator ⟨fun _ _ s => (.ok .null, s)⟩ [] _ line () = _
  cases kept <;> exact Condition.evaluator_eq_ok (by decide +kernel) line

/-- **A block with one line between its directives** hides the directives, and hides the line if its
condition is false. -/
theorem scan_block (marker : String) (kept : Bool) (index : Nat) {first line last : String}
    {d e : Directive} (opening : (marked marker).directive? first = some d)
    (opens : d.kind = .opening) (condition : d.expression = if kept then "true" else "false")
    (content : (marked marker).directive? line = none)
    (closing : (marked marker).directive? last = some e) (closes : e.kind = .closing) :
    (Document.scan (marked marker).directive? (marked marker).evaluator index
      [first, line, last]).run { state := () } =
      (.ok (if kept then [index, index + 2] else [index, index + 1, index + 2]),
        ⟨(), if kept then #[.evaluated "true" index true, .included (index + 1)]
          else #[.evaluated "false" index false]⟩) := by
  have opened : d.kind == .opening := by rw [opens]; rfl
  have answer := evaluator_literal marker kept index
  have behind : index + 1 + 1 - index = 2 := by omega
  have apart : index ≠ index + 1 + 1 := by omega
  cases kept <;>
    simp only [Bool.false_eq_true, if_false, if_true] at condition answer ⊢ <;>
    simp [Document.scan, Block.opens, opening, opened, condition,
      Block.run_start _ _ _ _ _ opening opens, Block.run_content _ _ _ _ content,
      Block.run_closing _ _ _ _ closing closes, Machine.withTop, Machine.advance, Machine.hide,
      Frame.active, Frame.decided, Walk.run_bind, Walk.run_ask, answer, behind,
      apart] <;>
    rfl

/-- **A line between the two directives of a block** that is kept stays, and the directives are
hidden. -/
theorem format_block (marker : String) (file : Option String) {first line last text : String}
    {d e : Directive} (lines : linesOf text = [first, line, last])
    (opening : (marked marker).directive? first = some d) (opens : d.kind = .opening)
    (condition : d.expression = "true") (content : (marked marker).directive? line = none)
    (closing : (marked marker).directive? last = some e) (closes : e.kind = .closing) :
    ((marked marker).format file text ()).result =
      .ok ⟨textOf (renderLines (.comment marker) [0, 2] [first, line, last]), [], [0, 2], 3⟩ := by
  rw [format_eq_outcome, outcome, Document.format, lines,
    scan_block marker true 0 opening opens condition content closing closes]
  rfl

/-- It hides the two directives of the text. -/
theorem format_keptBlock (marker : String) :
    ((marked marker).format none keptBlock ()).result =
      .ok ⟨textOf (renderLines (.comment marker) [0, 2] ["///#if true", "x", "///#endif"]), [],
        [0, 2], 3⟩ := by
  have lines : linesOf keptBlock = ["///#if true", "x", "///#endif"] := by decide
  obtain ⟨opening, content, closing⟩ :
      (marked marker).directive? "///#if true" = some ⟨"if", .opening, "true", 0, 11⟩ ∧
      (marked marker).directive? "x" = none ∧
      (marked marker).directive? "///#endif" = some ⟨"endif", .closing, "", 0, 9⟩ := by
    rw [directive?_marked]
    decide
  exact format_block marker none lines opening rfl rfl content closing rfl

/-- A usual marker keeps the number of lines. -/
theorem format_lineFeeds_usual :
    ∃ f, ((marked "#").format none keptBlock ()).result = .ok f ∧ f.hidden = [0, 2] ∧
      lineFeeds f.text = lineFeeds keptBlock := by
  have kept :=
    (format_lineFeeds (build_marking .empty "#") none keptBlock () (format_keptBlock "#")).2
  exact ⟨_, format_keptBlock "#", rfl, kept.mpr (.inr (.inl (by decide)))⟩

/-- **A marker with a line feed adds lines**: two of three lines are hidden, and the processed text has
five lines. -/
theorem format_adds_lines :
    (build .empty (marking "//\n") (marked "//\n").functions [] Log.baseLogger).1 =
        .ok (marked "//\n") ∧
      ∃ f, ((marked "//\n").format none keptBlock ()).result = .ok f ∧
        f.text = "//\n///#if true\nx\n//\n///#endif" ∧
        lineFeeds keptBlock = 2 ∧ lineFeeds f.text = 4 := by
  refine ⟨build_marking .empty "//\n", _, format_keptBlock "//\n", ?_, ?_, ?_⟩ <;> decide

end Gate

end LineGate
