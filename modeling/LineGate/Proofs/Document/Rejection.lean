import LineGate.Preprocessor
import LineGate.Proofs.Block.Extent

/-! # Rejected texts

Whatever goes wrong on the way through a text, in reading a condition, evaluating it, calling a
supplied function, at an error directive or at the end of the text, the text is rejected for one
directive. The rejection names the line it is on, and its location is the place of the directive
(`Document.format_error`). The preprocessor turns it into the one error of the text. -/

namespace LineGate

variable {σ : Type}

/-- **What a rejection may hold against a directive**: a condition that cannot be evaluated, the
message of an error directive, or a block that is not closed. -/
def Rejection.Blames (r : Rejection) (d : Directive) : Prop :=
  match r.kind with
  | .expression text => (d.kind = .opening ∨ d.kind = .elseIf) ∧ text = d.expression
  | .directive => d.kind = .error ∧ r.message = d.expression
  | .unterminated => d.kind = .opening
  | .general => False

/-- **Rejections for a line**: line `i` of the lines has the text `text` with the directive `d`, and
the rejection is about it. -/
structure Rejection.For (directive? : String → Option Directive) (lines : List String)
    (r : Rejection) (i : Nat) (text : String) (d : Directive) : Prop where
  line_text : lines[i]? = some text
  found : directive? text = some d
  line_eq : r.line = some (i : Int)
  blames : r.Blames d

/-! ## Conditions -/

/-- The evaluator of conditions rejects nothing but the condition, on its line. -/
theorem Condition.evaluator_error {fns : Functions σ} {env : Environment} {condition : String}
    {line : Nat} {state : σ} {r : Rejection}
    (h : (evaluator fns env condition line state).1 = .error r) :
    r.kind = .expression condition ∧ r.line = some (line : Int) := by
  unfold evaluator holds at h
  split at h
  · cases h
    exact ⟨rfl, rfl⟩
  · split at h
    · cases h
    · cases h
      exact ⟨rfl, rfl⟩

namespace Block

variable {directive? : String → Option Directive} {fns : Functions σ} {env : Environment}
variable {lines : List String} {r : Rejection}

/-- What is raised on the way is raised for a line. -/
theorem Raised.for_line (h : Raised directive? (Condition.evaluator fns env) 0 lines r) :
    ∃ i text d, r.For directive? lines i text d := by
  cases h with
  | @condition n text d state r at_n found kind answer =>
    obtain ⟨kind_eq, line_eq⟩ := Condition.evaluator_error answer
    rw [Nat.zero_add] at line_eq
    refine ⟨n, text, d, at_n, found, line_eq, ?_⟩
    rw [Rejection.Blames, kind_eq]
    exact ⟨kind, rfl⟩
  | @directive n text d at_n found kind =>
    rw [Nat.zero_add]
    exact ⟨n, text, d, at_n, found, rfl, kind, rfl⟩

/-- A verdict that rejects the text rejects it for a line. -/
theorem Verdict.for_line {start : Nat}
    (h : Verdict directive? (Condition.evaluator fns env) lines start (.error r)) :
    ∃ i text d, r.For directive? lines i text d := by
  cases h with
  | raised raised => exact raised.for_line
  | @unterminated u _ last =>
    obtain ⟨text, at_u, ho⟩ := (Option.any_eq_true _ _).mp last.opening
    obtain ⟨d, found, kind⟩ := (opens_iff directive?).mp ho
    exact ⟨u, text, d, at_u, found, rfl, kind⟩

end Block

namespace Document

open Block

section Scan

variable {directive? : String → Option Directive} {evaluate : Evaluator σ} {lines : List String}

/-- **A text is rejected for one of its blocks**: if a scan of its lines from some line on rejects
it, this is the verdict on a block. -/
theorem scan_verdict (index : Nat) (rest : List String) (h : rest = lines.drop index) :
    Walk.Yields (scan directive? evaluate index rest)
      (fun result => ∀ r, result = .error r →
        ∃ start, Verdict directive? evaluate lines start (.error r)) := by
  -- Along the scan: at each line it is at the end, at a block or at a line of no block.
  fun_induction scan directive? evaluate index rest with
  | case1 index =>
    refine Walk.yields_pure ?_
    intro r eq
    cases eq
  | case2 index line rest ho ih =>
    obtain ⟨at_index, tail⟩ := tail_of_drop_eq h
    rw [h]
    refine Walk.yields_bind (run_verdict at_index ho false) ?_ ?_
    · -- A block that was closed ends at its line or later, so the scan goes on behind it.
      intro block verdict
      cases verdict with
      | closed ends =>
        have le := ends.start_le
        have next : rest.drop (block.stop - index) = lines.drop (block.stop + 1) := by
          rw [tail, List.drop_drop, show index + 1 + (block.stop - index) = block.stop + 1 by omega]
        refine Walk.yields_bind (ih block next) ?_ ?_
        · intro later _
          refine Walk.yields_pure ?_
          intro r eq
          cases eq
        · intro r rejected r' eq
          cases eq
          exact rejected r rfl
    · intro r verdict r' eq
      cases eq
      exact ⟨index, verdict⟩
  | case3 index line rest ho ih => exact ih (tail_of_drop_eq h).2

end Scan

variable {directive? : String → Option Directive} {lines : List String}

/-- The place of a rejection for a line is the place of the directive on it. -/
theorem locate_of_for {r : Rejection} {i : Nat} {text : String} {d : Directive}
    (h : r.For directive? lines i text d) (file : Option String) :
    locate directive? lines file r.line =
      ⟨i + 1, text, some d.column, some d.length, file⟩ := by
  rw [h.line_eq, locate]
  simp [h.line_text, h.found]

/-- **The rejection of a text is located** at the directive it is for. -/
theorem format_error {fns : Functions σ} {env : Environment} {style : Style}
    {file : Option String} {text : String} {state : σ} {r : Rejection} {progress : Progress σ}
    (h : format directive? (Condition.evaluator fns env) style file text state =
      (.error r, progress)) :
    ∃ i line d, r.For directive? (linesOf text) i line d ∧
      r.location = some ⟨i + 1, line, some d.column, some d.length, file⟩ := by
  have verdict : ∀ r, ((scan directive? (Condition.evaluator fns env) 0 (linesOf text)).run
      { state }).1 = .error r → ∃ start, Verdict directive? (Condition.evaluator fns env)
        (linesOf text) start (.error r) :=
    scan_verdict 0 (linesOf text) rfl { state }
  unfold format at h
  dsimp only at h
  generalize (scan directive? (Condition.evaluator fns env) 0 (linesOf text)).run { state } =
    outcome at h verdict
  obtain ⟨rejection | hidden, progress'⟩ := outcome
  · -- Locating the rejection looks its line up once more and finds the same directive.
    obtain ⟨start, verdict⟩ := verdict rejection rfl
    obtain ⟨i, line, d, blamed⟩ := verdict.for_line
    cases h
    refine ⟨i, line, d, ⟨blamed.line_text, blamed.found, blamed.line_eq, blamed.blames⟩, ?_⟩
    rw [located, locate_of_for blamed]
  · cases h

end Document

/-- **Rejected at a directive**: `r` is for the directive `d` on line `i`, and located there. -/
structure Rejection.At (directive? : String → Option Directive) (lines : List String)
    (file : Option String) (r : Rejection) (i : Nat) (line : String) (d : Directive) : Prop
    extends r.For directive? lines i line d where
  location : r.location = some ⟨i + 1, line, some d.column, some d.length, file⟩

/-- A gate lets a text pass or rejects it at a directive. -/
theorem Gate.format_ok_or_rejected (g : Gate σ) (file : Option String) (text : String) (state : σ) :
    (∃ f, (g.format file text state).result = .ok f) ∨
      ∃ r i line d, (g.format file text state).result = .error r ∧
        r.At g.directive? (linesOf text) file i line d := by
  rcases h : Document.format g.directive? g.evaluator g.style file text state with
    ⟨r | f, progress⟩
  · obtain ⟨i, line, d, blamed, location⟩ := Document.format_error h
    refine Or.inr ⟨r, i, line, d, ?_, blamed, location⟩
    simp only [Gate.format, h]
  · refine Or.inl ⟨f, ?_⟩
    simp only [Gate.format, h]

/-- What a processed text gives. -/
theorem LoadResult.of_ok (loader : String) (f : Formatted) :
    (⟨loader, .ok f⟩ : LoadResult).contents? = some f.text ∧
      (⟨loader, .ok f⟩ : LoadResult).warnings = f.warnings ∧
      (⟨loader, .ok f⟩ : LoadResult).errors = [] :=
  ⟨rfl, rfl, rfl⟩

/-- What an error in place of a processed text gives. -/
theorem LoadResult.of_error (loader : String) (d : Diagnostic) :
    (⟨loader, .error d⟩ : LoadResult).contents? = none ∧
      (⟨loader, .error d⟩ : LoadResult).warnings = [] ∧
      (⟨loader, .error d⟩ : LoadResult).errors = [d] :=
  ⟨rfl, rfl, rfl⟩

/-- Processing a text packs what the gate made of it. -/
theorem Preprocessor.process_result {ε : Type} (p : Preprocessor σ) (text path : String)
    (state : σ) :
    (p.process text path state : Loading σ ε).result =
      .ok ⟨loaderOf (Path.ofString path), (p.gate.format (some path) text state).result.mapError
        fun r => r.toDiagnostic.withFile (some path)⟩ := by
  cases passed : (p.gate.format (some path) text state).result with
  | ok f =>
    simp only [process, passed]
    rfl
  | error r =>
    simp only [process, passed]
    rfl

/-- **Texts are rejected at directives, and at nothing else.** Sending any text through any gate,
with any supplied functions behind it, gives a result or a rejection of one of three kinds: for a
condition, for an error directive, or for a block that is not closed. The line of the rejection is a
line of the text with a directive of the fitting kind, and its location is exactly the place of that
directive. So a preprocessor never fails on a text: it gives the formatted text and no error, or no
text, no warning and the one error that the rejection amounts to. -/
theorem rejected_at_directive (p : Preprocessor σ) (text path : String) (state : σ) :
    (∀ file : Option String,
      (∃ f, (p.gate.format file text state).result = .ok f) ∨
        ∃ r i line d, (p.gate.format file text state).result = .error r ∧
          r.At p.gate.directive? (linesOf text) file i line d) ∧
    ∀ ε : Type, ∃ load,
      (p.process text path state : Loading σ ε).result = .ok load ∧
      load.loader = Preprocessor.loaderOf (Path.ofString path) ∧
      ((∃ f, (p.gate.format (some path) text state).result = .ok f ∧
          load.contents? = some f.text ∧ load.warnings = f.warnings ∧ load.errors = []) ∨
        ∃ r i line d, (p.gate.format (some path) text state).result = .error r ∧
          r.At p.gate.directive? (linesOf text) (some path) i line d ∧
          load.contents? = none ∧ load.warnings = [] ∧
          load.errors = [⟨.error, r.message, i + 1, some d.column, some d.length, line,
            some path⟩]) := by
  refine ⟨fun file => p.gate.format_ok_or_rejected file text state, ?_⟩
  intro ε
  refine ⟨_, p.process_result text path state, ?_, ?_⟩
  · simp only
  rcases p.gate.format_ok_or_rejected (some path) text state with
    ⟨f, ok⟩ | ⟨r, i, line, d, rejected, blamed⟩
  · rw [ok]
    exact .inl ⟨f, rfl, LoadResult.of_ok _ f⟩
  · have diagnostic : r.toDiagnostic.withFile (some path) =
        ⟨.error, r.message, i + 1, some d.column, some d.length, line, some path⟩ := by
      simp only [Rejection.toDiagnostic, blamed.location, Diagnostic.withFile]
    rw [rejected]
    refine .inr ⟨r, i, line, d, rfl, blamed, ?_⟩
    rw [← diagnostic]
    exact LoadResult.of_error _ _

end LineGate
