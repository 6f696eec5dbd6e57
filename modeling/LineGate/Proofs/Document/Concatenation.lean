import LineGate.Proofs.Block.Shift
import LineGate.Proofs.Document.Rejection
import LineGate.Proofs.Document.Sections

/-! # Texts one after the other

Two texts with a line feed between them are processed as each on its own, the second one further down.
What makes this true is that blocks are local: the walk through a block depends neither on what comes
behind its end (`Block.run_append`) nor on where it starts (`Block.run_shifts`), and between blocks
nothing is remembered but the state of the supplied functions, which **stateless** functions do not
look at. -/

namespace LineGate

variable {σ : Type}

namespace Document

open Block

section Scan

variable (directive? : String → Option Directive) {evaluate : Evaluator σ}

/-! ## Scans -/

/-- **A scan is shifted with its first line.** -/
theorem scan_shifts (uniform : evaluate.Uniform) (k index : Nat) (lines : List String) :
    Walk.Shifts k (List.map (· + k)) (scan directive? evaluate index lines)
      (scan directive? evaluate (index + k) lines) := by
  fun_induction scan directive? evaluate index lines with
  | case1 index =>
    rw [scan]
    exact Walk.shifts_pure _
  | case2 index line rest ho ih =>
    rw [scan, if_pos ho]
    refine (run_shifts directive? uniform k (line :: rest) (Machine.start index false)).bind
      fun block => ?_
    have behind : (block.shift k).stop + 1 = block.stop + 1 + k := Nat.add_right_comm _ _ _
    have skipped : (block.shift k).stop - (index + k) = block.stop - index :=
      Nat.add_sub_add_right _ _ _
    rw [behind, skipped]
    refine (ih block).bind fun later => ?_
    have hidden : (block.shift k).hidden ++ later.map (· + k) =
        (block.hidden ++ later).map (· + k) := List.map_append.symm
    rw [hidden]
    exact Walk.shifts_pure _
  | case3 index line rest ho ih =>
    rw [scan, if_neg ho, Nat.add_right_comm]
    exact ih

/-- A scan only adds events. -/
theorem scan_appends (index : Nat) (lines : List String) :
    (scan directive? evaluate index lines).Appends :=
  scan_related (Walk.congruence_appends evaluate) directive? index lines

/-- **A scan of more lines** goes on behind the first ones, unless these end inside a block or are
rejected. -/
theorem scan_append {lines : List String} (more : List String) (index : Nat) (rest : List String)
    (h : rest = lines.drop index) (p : Progress σ)
    (settled : Settled ((scan directive? evaluate index rest).run p).1) :
    (scan directive? evaluate index (rest ++ more)).run p =
      (do
        let hidden ← scan directive? evaluate index rest
        let later ← scan directive? evaluate (index + rest.length) more
        return hidden ++ later : Walk σ (List Nat)).run p := by
  fun_induction scan directive? evaluate index rest generalizing p with
  | case1 index =>
    simp only [pure_bind, List.nil_append, List.length_nil, Nat.add_zero, bind_pure]
  | case2 index line rest ho ih =>
    obtain ⟨at_index, tail⟩ := tail_of_drop_eq h
    have walked := run_append directive? evaluate more (line :: rest) (Machine.start index false) p
      (Walk.settled_of_bind settled)
    rw [List.cons_append] at walked
    rw [Walk.run_bind] at settled
    rw [List.cons_append, scan, if_pos ho, bind_assoc, Walk.run_bind, Walk.run_bind, walked]
    have returns : (run directive? evaluate (line :: rest) (Machine.start index false)).Returns
        (Hides directive? lines index) := by
      rw [h]
      exact run_hides at_index ho false
    have hides := returns p
    generalize (run directive? evaluate (line :: rest) (Machine.start index false)).run p =
      outcome at hides settled ⊢
    obtain ⟨r | block, q⟩ := outcome
    · rfl
    · -- The block ends among the first lines, so the others stay together behind it.
      obtain ⟨ends, -, -, -⟩ := hides block rfl
      have le := ends.start_le
      have length_eq : (line :: rest).length = lines.length - index := by
        rw [h, List.length_drop]
      have lt := ends.lt_length
      rw [List.length_cons] at length_eq
      have behind : rest.drop (block.stop - index) = lines.drop (block.stop + 1) := by
        rw [tail, List.drop_drop, show index + 1 + (block.stop - index) = block.stop + 1 by omega]
      have reached : block.stop + 1 + (rest.drop (block.stop - index)).length =
          index + (line :: rest).length := by
        rw [List.length_drop, List.length_cons]
        omega
      have later := ih block behind q (Walk.settled_of_bind settled)
      dsimp only
      rw [List.drop_append_of_le_length (by omega), Walk.run_bind, later, ← Walk.run_bind, reached]
      simp only [bind_assoc, pure_bind, List.append_assoc]
  | case3 index line rest ho ih =>
    obtain ⟨-, tail⟩ := tail_of_drop_eq h
    rw [List.cons_append, scan, if_neg ho, ih tail p settled, List.length_cons,
      show index + (rest.length + 1) = index + 1 + rest.length by omega]

end Scan

/-! ## Results -/

/-- The hidden lines that a scan returns are lines of the text. -/
theorem scan_lt_length (directive? : String → Option Directive) (evaluate : Evaluator σ)
    (lines : List String) :
    (scan directive? evaluate 0 lines).Returns fun hidden => ∀ i ∈ hidden, i < lines.length := by
  intro p hidden returned
  obtain ⟨sections, found, rfl, -⟩ :=
    scan_sections 0 lines rfl p _ hidden (Prod.ext returned rfl)
  intro i hi
  obtain ⟨s, hs, mem⟩ := List.mem_flatMap.mp hi
  obtain ⟨-, hides, -⟩ := found.sound s hs
  exact Nat.lt_of_le_of_lt (hides.bounds i mem).2 hides.ends.lt_length

/-- Lines one after the other are rendered one after the other. -/
theorem renderLines_append (style : Style) {hidden : List Nat} (later : List Nat)
    {lines : List String} (more : List String) (h : ∀ i ∈ hidden, i < lines.length) :
    renderLines style (hidden ++ later.map (· + lines.length)) (lines ++ more) =
      renderLines style hidden lines ++ renderLines style later more := by
  refine List.ext_getElem? fun i => ?_
  by_cases lt : i < lines.length
  · have at_i := List.getElem?_eq_getElem lt
    -- None of the later lines is meant.
    have mem : i ∈ hidden ++ later.map (· + lines.length) ↔ i ∈ hidden := by
      simp only [List.mem_append, List.mem_map, or_iff_left_iff_imp]
      rintro ⟨j, -, eq⟩
      omega
    rw [List.getElem?_append_left (by rwa [length_renderLines]), getElem?_renderLines _ _ at_i,
      getElem?_renderLines _ _ (by rwa [List.getElem?_append_left lt])]
    simp only [mem]
  · have ge : lines.length ≤ i := Nat.le_of_not_lt lt
    have mem : i ∈ hidden ++ later.map (· + lines.length) ↔ i - lines.length ∈ later := by
      simp only [List.mem_append, List.mem_map]
      constructor
      · rintro (mem | ⟨j, mem, eq⟩)
        · exact absurd (h i mem) lt
        · rwa [← eq, Nat.add_sub_cancel]
      · intro mem
        exact .inr ⟨_, mem, Nat.sub_add_cancel ge⟩
    rw [List.getElem?_append_right (by rwa [length_renderLines]), length_renderLines]
    cases at_i : more[i - lines.length]? with
    | none =>
      have le : more.length ≤ i - lines.length := List.getElem?_eq_none_iff.mp at_i
      rw [List.getElem?_eq_none (by rw [length_renderLines, List.length_append]; omega),
        List.getElem?_eq_none (by rw [length_renderLines]; exact le)]
    | some line =>
      rw [getElem?_renderLines _ _ at_i,
        getElem?_renderLines _ _ (by rwa [List.getElem?_append_right ge])]
      simp only [mem]

/-- Warnings of events one after the other. -/
theorem warnings_append (file : Option String) (events more : List Event) :
    warnings file (events ++ more) = warnings file events ++ warnings file more :=
  List.filterMap_append

/-- Warnings of shifted events. -/
theorem warnings_shift (file : Option String) (k : Nat) (events : List Event) :
    warnings file (events.map (·.shift k)) = (warnings file events).map (·.shift k) := by
  induction events with
  | nil => rfl
  | cons e events ih =>
    cases e with
    | included => exact ih
    | evaluated => exact ih
    | warned d => exact congrArg (_ :: ·) ih

section Locate

variable (directive? : String → Option Directive) (file : Option String) {lines : List String}
variable (more : List String) {i : Nat} {line : String}

/-- The place of a line that is there. -/
theorem locate_of_getElem? (h : lines[i]? = some line) :
    locate directive? lines file (some i) =
      ⟨i + 1, line, (directive? line).map (·.column), (directive? line).map (·.length), file⟩ := by
  unfold locate
  simp [h]

/-- Lines at the end do not move a place. -/
theorem locate_append_left (h : lines[i]? = some line) :
    locate directive? (lines ++ more) file (some i) = locate directive? lines file (some i) := by
  obtain ⟨lt, -⟩ := List.getElem?_eq_some_iff.mp h
  have at_i : (lines ++ more)[i]? = some line := by rwa [List.getElem?_append_left lt]
  rw [locate_of_getElem? directive? file at_i, locate_of_getElem? directive? file h]

/-- Lines in front move a place down. -/
theorem locate_append_right (h : lines[i]? = some line) :
    locate directive? (more ++ lines) file (some (i + more.length)) =
      (locate directive? lines file (some i)).shift more.length := by
  have at_i : (more ++ lines)[i + more.length]? = some line := by
    rwa [List.getElem?_append_right (Nat.le_add_left _ _), Nat.add_sub_cancel]
  have moved := locate_of_getElem? directive? file at_i
  rw [Int.natCast_add] at moved
  rw [moved, locate_of_getElem? directive? file h, Location.shift, Int.add_right_comm]

variable {r : Rejection} (line_eq : r.line = some (i : Int))
include line_eq

/-- Lines at the end do not move a rejection. -/
theorem located_append_left (h : lines[i]? = some line) :
    located directive? (lines ++ more) file r = located directive? lines file r := by
  rw [located, located, line_eq, locate_append_left directive? file more h]

/-- Lines in front move a rejection down. -/
theorem located_append_right (h : lines[i]? = some line) :
    located directive? (more ++ lines) file (r.shift more.length) =
      (located directive? lines file r).shift more.length := by
  have moved : (r.shift more.length).line = some (i + more.length : Int) := by
    rw [Rejection.shift, line_eq]
    rfl
  have place : locate directive? (more ++ lines) file (r.shift more.length).line =
      (locate directive? lines file r.line).shift more.length := by
    rw [moved, line_eq, locate_append_right directive? file more h]
  rw [located, place]
  rfl

end Locate

end Document

/-- **The results of two texts** one after the other. -/
def Formatted.append (f f' : Formatted) : Formatted where
  text := f.text ++ "\n" ++ f'.text
  warnings := f.warnings ++ f'.warnings.map (·.shift f.lineCount)
  hidden := f.hidden ++ f'.hidden.map (· + f.lineCount)
  lineCount := f.lineCount + f'.lineCount

namespace Document

variable (directive? : String → Option Directive) (fns : Functions Unit) (env : Environment)
variable {lines : List String} (more : List String) {p : Progress Unit}

/-- A scan is rejected for one of the lines. -/
theorem scan_error_line {r : Rejection}
    (h : ((scan directive? (Condition.evaluator fns env) 0 lines).run p).1 = .error r) :
    ∃ (i : Nat) (line : String), r.line = some (i : Int) ∧ lines[i]? = some line := by
  obtain ⟨start, verdict⟩ := scan_verdict 0 lines rfl p r h
  obtain ⟨i, line, d, blamed⟩ := verdict.for_line
  exact ⟨i, line, blamed.line_eq, blamed.line_text⟩

/-- **The scan of two texts**, of which the first is let through: that of the second one comes behind
it, further down. -/
theorem scan_append_of_ok {hidden : List Nat} {p : Progress Unit}
    (h : (scan directive? (Condition.evaluator fns env) 0 lines).run { state := () } =
      (.ok hidden, p)) :
    (scan directive? (Condition.evaluator fns env) 0 (lines ++ more)).run { state := () } =
      match (scan directive? (Condition.evaluator fns env) 0 more).run { state := () } with
      | (.ok later, q) =>
        (.ok (hidden ++ later.map (· + lines.length)),
          ⟨(), p.events ++ q.events.map (·.shift lines.length)⟩)
      | (.error r, q) =>
        (.error (r.shift lines.length),
          ⟨(), p.events ++ q.events.map (·.shift lines.length)⟩) := by
  have settled : Settled ((scan directive? (Condition.evaluator fns env) 0 lines).run
      { state := () }).1 := by
    intro r eq
    rw [h] at eq
    cases eq
  -- The second scan starts further down and behind the events of the first; neither matters to it.
  have shifted := scan_shifts directive? (Condition.evaluator_uniform fns env) lines.length 0 more
    { state := () }
  rw [Progress.shift_start] at shifted
  rw [scan_append directive? more 0 lines rfl _ settled, Walk.run_bind, h]
  dsimp only
  rw [Walk.run_bind, scan_appends directive? _ more p, shifted]
  rcases (scan directive? (Condition.evaluator fns env) 0 more).run { state := () } with
    ⟨r | later, q⟩ <;> rfl

end Document

namespace Gate

open Document

/-- **Two texts, of which the first is let through**: the outcome of the second one decides. -/
theorem outcome_append_of_ok (g : Gate Unit) (file : Option String) (a b : String) {f : Formatted}
    (passed : (g.outcome file a ()).1 = .ok f) :
    f.lineCount = (linesOf a).length ∧
      (g.outcome file (a ++ "\n" ++ b) ()).1 =
        ((g.outcome file b ()).1.map f.append).mapError (·.shift (linesOf a).length) := by
  unfold outcome Document.format at passed ⊢
  dsimp only at passed ⊢
  rw [linesOf_append]
  have bounds := scan_lt_length g.directive? g.evaluator (linesOf a) { state := () }
  rcases scanned : (scan g.directive? g.evaluator 0 (linesOf a)).run { state := () } with
    ⟨r | hidden, p⟩
  · rw [scanned] at passed
    cases passed
  · rw [scanned] at passed bounds
    obtain rfl := Except.ok.inj passed
    refine ⟨rfl, ?_⟩
    -- The scan of both texts is decided by that of the second, and so is what is made of it.
    rw [evaluator, scan_append_of_ok g.directive? g.functions g.variables (linesOf b) scanned]
    rcases later : (scan g.directive? (Condition.evaluator g.functions g.variables) 0
      (linesOf b)).run { state := () } with ⟨r | more, q⟩
    · obtain ⟨i, line, line_eq, at_i⟩ := scan_error_line g.directive? g.functions g.variables
        (congrArg Prod.fst later)
      exact congrArg Except.error
        (located_append_right g.directive? file (linesOf a) line_eq at_i)
    · refine congrArg Except.ok ?_
      have ne (hidden : List Nat) (text : String) :
          renderLines g.style hidden (linesOf text) ≠ [] := by
        refine List.ne_nil_of_length_pos ?_
        rw [length_renderLines]
        exact List.length_pos_iff.mpr (linesOf_ne_nil text)
      rw [renderLines_append g.style more (linesOf b) (bounds hidden rfl),
        textOf_append (ne _ _) (ne _ _), Array.toList_append, Array.toList_map, warnings_append,
        warnings_shift, List.length_append]
      rfl

/-- **Two texts, of which the first is rejected** for something else than a block that it does not
close: the second one does not matter. -/
theorem outcome_append_of_error (g : Gate Unit) (file : Option String) (a b : String)
    {r : Rejection} (rejected : (g.outcome file a ()).1 = .error r) (kind : r.kind ≠ .unterminated) :
    (g.outcome file (a ++ "\n" ++ b) ()).1 = .error r := by
  unfold outcome Document.format at rejected ⊢
  dsimp only at rejected ⊢
  rw [linesOf_append]
  rcases scanned : (scan g.directive? g.evaluator 0 (linesOf a)).run { state := () } with
    ⟨r' | hidden, p⟩
  · rw [scanned] at rejected
    cases rejected
    obtain ⟨i, line, line_eq, at_i⟩ := scan_error_line g.directive? g.functions g.variables
      (congrArg Prod.fst scanned)
    have settled : Settled ((scan g.directive? g.evaluator 0 (linesOf a)).run { state := () }).1 := by
      intro r eq
      rw [scanned] at eq
      cases eq
      exact kind
    rw [scan_append g.directive? (linesOf b) 0 (linesOf a) rfl _ settled, Walk.run_bind, scanned]
    exact congrArg Except.error (located_append_left g.directive? file (linesOf b) line_eq at_i)
  · rw [scanned] at rejected
    cases rejected

/-- What comes out of a gate with stateless functions does not depend on a state. -/
theorem result_eq_atRest {g : Gate σ} (stateless : g.functions.Stateless) (file : Option String)
    (text : String) (state start : σ) :
    (g.format file text state).result =
      ((g.withFunctions (g.functions.atRest start)).outcome file text ()).1 := by
  have projected := g.outcome_withFunctions (stateless.projects start) file text state
  exact (congrArg Prod.fst projected).symm

/-- **Texts one after the other** are processed as each on its own, if no function looks at its state.

Say the first text is let through. Then both together are let through exactly if the second one is,
and the result is made of both results, with the warnings of the second one further down by the number
of lines of the first. If the second one is rejected, then both together are rejected in the same way,
for the same kind of thing and the same condition, that number of lines further down.

If the first text is rejected, and not because it ends inside of a block, then both together are
rejected just so, whatever the second text is. -/
theorem format_append (g : Gate σ) (stateless : g.functions.Stateless) (file : Option String)
    (a b : String) (s₁ s₂ s₃ : σ) :
    (∀ f, (g.format file a s₁).result = .ok f →
      f.lineCount = (linesOf a).length ∧
      ((∃ both, (g.format file (a ++ "\n" ++ b) s₃).result = .ok both) ↔
        ∃ f', (g.format file b s₂).result = .ok f') ∧
      (∀ f', (g.format file b s₂).result = .ok f' →
        (g.format file (a ++ "\n" ++ b) s₃).result = .ok (f.append f')) ∧
      ∀ r, (g.format file b s₂).result = .error r →
        (g.format file (a ++ "\n" ++ b) s₃).result = .error (r.shift (linesOf a).length) ∧
        (r.shift (linesOf a).length).kind = r.kind ∧
        (r.shift (linesOf a).length).line = r.line.map (· + ((linesOf a).length : Int)) ∧
        (r.kind ≠ .unterminated → (r.shift (linesOf a).length).message = r.message)) ∧
    ∀ r, (g.format file a s₁).result = .error r → r.kind ≠ .unterminated →
      (g.format file (a ++ "\n" ++ b) s₃).result = .error r := by
  -- With the functions at rest there is one state only.
  rw [result_eq_atRest stateless file a s₁ s₁, result_eq_atRest stateless file b s₂ s₁,
    result_eq_atRest stateless file (a ++ "\n" ++ b) s₃ s₁]
  generalize g.withFunctions (g.functions.atRest s₁) = g'
  refine ⟨fun f passed => ?_, fun r rejected kind => ?_⟩
  · obtain ⟨count, both⟩ := g'.outcome_append_of_ok file a b passed
    rw [both]
    refine ⟨count, ?_, ?_, ?_⟩
    · cases (g'.outcome file b ()).1 with
      | ok f' => exact ⟨fun _ => ⟨f', rfl⟩, fun _ => ⟨f.append f', rfl⟩⟩
      | error r =>
        constructor
        · rintro ⟨_, eq⟩
          cases eq
        · rintro ⟨_, eq⟩
          cases eq
    · intro f' passed'
      rw [passed']
      rfl
    · intro r rejected
      rw [rejected]
      exact ⟨rfl, rfl, rfl, r.message_shift (linesOf a).length⟩
  · exact g'.outcome_append_of_error file a b rejected kind

/-- The same text twice: the second warning comes nine lines behind the first. -/
theorem format_append_sample :
    sample.functions.Stateless ∧
      ∃ f, (sample.format none (sampleText ++ "\n" ++ sampleText) ()).result = .ok f ∧
        f.warnings.map (·.line) = [3, 12] ∧ f.lineCount = 18 := by
  have stateless : sample.functions.Stateless := fun _ _ _ _ => rfl
  obtain ⟨-, -, both, -⟩ := (format_append sample stateless none sampleText sampleText () () ()).1 _
    format_sample
  exact ⟨stateless, _, both _ format_sample, rfl, rfl⟩

end Gate

end LineGate
