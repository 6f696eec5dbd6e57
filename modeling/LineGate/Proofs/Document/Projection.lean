import LineGate.Proofs.Block.Congruence
import LineGate.Proofs.Computed
import LineGate.Settings

/-! # Projection of states

Supplied functions keep a state, and nothing else in the processing of a text looks into it. So if
the states of some functions are mapped to states of others, and the answers agree along the map,
the same holds for everything that is made of the functions: for the value of an expression, for
conditions, for walks, and for texts (`Document.format_projects`).

Two maps are of use. Forgetting a record of the calls shows that functions may **record** their
calls without any other effect, which is how the calls of a text are spoken about (`Gate.calls`).
Forgetting the state altogether shows that **stateless** functions, whose answers do not depend on
the state, can be replaced by functions without one (`Functions.atRest`). -/

namespace LineGate

variable {σ' σ α β : Type}

/-! ## Functions -/

/-- **Projection of functions** along a map of their states: the answers are the same, and so are the
states as far as the map shows them. -/
def Functions.Projects (f : σ' → σ) (fns' : Functions σ') (fns : Functions σ) : Prop :=
  ∀ identity args state,
    fns.call identity args (f state) =
      ((fns'.call identity args state).1, f (fns'.call identity args state).2)

/-- **Calls** of supplied functions: which one, and the arguments. -/
structure Call where
  identity : Nat
  args : List Value

/-- **Functions that record their calls**, the latest last. -/
def Functions.recorded (fns : Functions σ) : Functions (σ × List Call) where
  call identity args state :=
    let (result, next) := fns.call identity args state.1
    (result, (next, state.2 ++ [⟨identity, args⟩]))

/-- Forgetting the record gives the original functions. -/
theorem Functions.recorded_projects (fns : Functions σ) : Projects Prod.fst fns.recorded fns :=
  fun _ _ _ => rfl

/-- **Stateless functions**: their answers do not depend on the state, though they may change it. -/
def Functions.Stateless (fns : Functions σ) : Prop :=
  ∀ identity args state state',
    (fns.call identity args state).1 = (fns.call identity args state').1

/-- Functions that always answer as the given ones do in one state. -/
def Functions.atRest (fns : Functions σ) (state : σ) : Functions Unit where
  call identity args _ := ((fns.call identity args state).1, ())

/-- Stateless functions need no state. -/
theorem Functions.Stateless.projects {fns : Functions σ} (h : fns.Stateless) (state : σ) :
    Projects (fun _ => ()) fns (fns.atRest state) := by
  intro identity args state'
  rw [h identity args state' state]
  rfl

/-! ## Expressions -/

namespace Eval

/-- Projection of an evaluation. -/
def Projects (f : σ' → σ) (w' : Eval σ' α) (w : Eval σ α) : Prop :=
  ∀ state, w.run (f state) = ((w'.run state).1, f (w'.run state).2)

variable {f : σ' → σ}

/-- A value projects onto itself. -/
theorem projects_pure (a : α) : Projects f (pure a) (pure a) := fun _ => rfl

/-- A fault projects onto itself. -/
theorem projects_throw (fault : EvalFault) :
    Projects f (throw fault : Eval σ' α) (throw fault) := fun _ => rfl

/-- An evaluation in two parts goes on with its second part where the first one ended. -/
theorem run_bind (w : Eval σ α) (k : α → Eval σ β) (state : σ) :
    (w >>= k).run state =
      match w.run state with
      | (.ok a, next) => (k a).run next
      | (.error fault, next) => (.error fault, next) := by
  change (ExceptT.bindCont k (w.run state).1 : StateM σ _) (w.run state).2 = _
  rcases w.run state with ⟨_ | _, next⟩ <;> rfl

/-- Evaluations in two parts are projected part by part. -/
theorem Projects.bind {w' : Eval σ' α} {w : Eval σ α} {k' : α → Eval σ' β} {k : α → Eval σ β}
    (h : Projects f w' w) (hk : ∀ a, Projects f (k' a) (k a)) :
    Projects f (w' >>= k') (w >>= k) := by
  intro state
  rw [run_bind, run_bind, h state]
  rcases w'.run state with ⟨fault | a, next⟩
  · rfl
  · exact hk a next

/-- Operations on values do not touch the state. -/
theorem projects_ofValue (result : Except ValueFault α) :
    Projects f (ofValue result : Eval σ' α) (ofValue result) := by
  cases result with
  | ok a => exact projects_pure a
  | error fault => exact projects_throw _

/-- Looking up a variable does not touch the state. -/
theorem projects_variableValue (env : Environment) (name : String) :
    Projects f (variableValue env name) (variableValue env name) := by
  unfold variableValue
  split
  · exact projects_pure _
  · exact projects_throw _

/-- Looking up a function does not touch the state. -/
theorem projects_functionIdentity (env : Environment) (name : String) :
    Projects f (functionIdentity env name) (functionIdentity env name) := by
  refine (projects_variableValue env name).bind fun v => ?_
  split
  · exact projects_pure _
  · exact projects_throw _

/-- What a call comes to when the function has answered. -/
def answered : Except FunctionFailure Value → Eval σ Value
  | .ok v => pure v
  | .error failure => throw (.function failure)

/-- A call gives the answer of the function, and passes on its state either way. -/
theorem run_call (fns : Functions σ) (identity : Nat) (args : List Value) (state : σ) :
    (call fns identity args).run state =
      ((fns.call identity args state).1.mapError .function,
        (fns.call identity args state).2) := by
  change (answered (fns.call identity args state).1).run (fns.call identity args state).2 = _
  cases (fns.call identity args state).1 <;> rfl

/-- A call projects as the functions do. -/
theorem projects_call {fns' : Functions σ'} {fns : Functions σ} (h : fns'.Projects f fns)
    (identity : Nat) (args : List Value) :
    Projects f (call fns' identity args) (call fns identity args) := by
  intro state
  rw [run_call, run_call, h identity args state]

end Eval

namespace Expr

variable {f : σ' → σ} {fns' : Functions σ'} {fns : Functions σ}

mutual

/-- **The value of an expression** projects as the functions do. -/
theorem eval_projects (h : fns'.Projects f fns) (env : Environment) :
    ∀ e : Expr, (e.eval fns' env).Projects f (e.eval fns env)
  | .literal v => by
    rw [eval, eval]
    exact Eval.projects_pure v
  | .name n => by
    rw [eval, eval]
    exact Eval.projects_variableValue env n
  | .defined n => by
    rw [eval, eval]
    exact Eval.projects_pure _
  | .call n args => by
    rw [eval, eval]
    refine (Eval.projects_functionIdentity env n).bind fun identity => ?_
    exact (evalAll_projects h env args).bind fun values => Eval.projects_call h identity values
  | .list items => by
    rw [eval, eval]
    exact (evalAll_projects h env items).bind fun values => Eval.projects_pure _
  | .not e => by
    rw [eval, eval]
    exact (eval_projects h env e).bind fun v => Eval.projects_pure _
  | .negate e => by
    rw [eval, eval]
    exact (eval_projects h env e).bind fun v => Eval.projects_ofValue _
  | .logical .and l r => by
    rw [eval, eval]
    refine (eval_projects h env l).bind fun v => ?_
    split
    · exact eval_projects h env r
    · exact Eval.projects_pure v
  | .logical .or l r => by
    rw [eval, eval]
    refine (eval_projects h env l).bind fun v => ?_
    split
    · exact Eval.projects_pure v
    · exact eval_projects h env r
  | .compare op l r => by
    rw [eval, eval]
    refine (eval_projects h env l).bind fun a => ?_
    refine (eval_projects h env r).bind fun b => ?_
    exact (Eval.projects_ofValue _).bind fun result => Eval.projects_pure _

/-- The values of several expressions project as the functions do. -/
theorem evalAll_projects (h : fns'.Projects f fns) (env : Environment) :
    ∀ es : List Expr, (evalAll fns' env es).Projects f (evalAll fns env es)
  | [] => by
    rw [evalAll, evalAll]
    exact Eval.projects_pure []
  | e :: es => by
    rw [evalAll, evalAll]
    refine (eval_projects h env e).bind fun v => ?_
    exact (evalAll_projects h env es).bind fun vs => Eval.projects_pure _

end

end Expr

/-! ## Walks -/

/-- Projection of an evaluator. -/
def Evaluator.Projects (f : σ' → σ) (evaluate' : Evaluator σ') (evaluate : Evaluator σ) : Prop :=
  ∀ condition line state,
    evaluate condition line (f state) =
      ((evaluate' condition line state).1, f (evaluate' condition line state).2)

/-- The evaluator of conditions projects as the functions do. -/
theorem Condition.evaluator_projects {f : σ' → σ} {fns' : Functions σ'} {fns : Functions σ}
    (h : fns'.Projects f fns) (env : Environment) :
    (evaluator fns' env).Projects f (evaluator fns env) := by
  intro condition line state
  unfold evaluator holds
  cases Expr.parse condition with
  | error fault => rfl
  | ok e =>
    simp only [e.eval_projects h env state]
    rcases (e.eval fns' env).run state with ⟨fault | v, next⟩ <;> rfl

/-- The progress of a walk with its state mapped. -/
def Progress.project (f : σ' → σ) (p : Progress σ') : Progress σ := ⟨f p.state, p.events⟩

namespace Walk

/-- Projection of a walk: the result and the events are the same. -/
def Projects (f : σ' → σ) (w' : Walk σ' α) (w : Walk σ α) : Prop :=
  ∀ p, w.run (p.project f) = ((w'.run p).1, (w'.run p).2.project f)

variable {f : σ' → σ}

/-- A value projects onto itself. -/
theorem projects_pure (a : α) : Projects f (pure a) (pure a) := fun _ => rfl

/-- A rejection projects onto itself. -/
theorem projects_throw (r : Rejection) : Projects f (throw r : Walk σ' α) (throw r) := fun _ => rfl

/-- Recording an event does not touch the state. -/
theorem projects_emit (e : Event) : Projects f (emit e) (emit e) := fun _ => rfl

/-- Walks in two parts are projected part by part. -/
theorem Projects.bind {w' : Walk σ' α} {w : Walk σ α} {k' : α → Walk σ' β} {k : α → Walk σ β}
    (h : Projects f w' w) (hk : ∀ a, Projects f (k' a) (k a)) :
    Projects f (w' >>= k') (w >>= k) := by
  intro p
  rw [run_bind, run_bind, h p]
  rcases w'.run p with ⟨r | a, next⟩
  · rfl
  · exact hk a next

/-- A question projects as the evaluator does. -/
theorem projects_ask {evaluate' : Evaluator σ'} {evaluate : Evaluator σ}
    (h : evaluate'.Projects f evaluate) (condition : String) (line : Nat) :
    Projects f (ask evaluate' condition line) (ask evaluate condition line) := by
  intro p
  have asked : evaluate condition line (p.project f).state = _ := h condition line p.state
  rw [run_ask, run_ask, asked]
  rcases evaluate' condition line p.state with ⟨r | result, next⟩ <;> rfl

/-- Projection is a congruence. -/
theorem congruence_projects {evaluate' : Evaluator σ'} {evaluate : Evaluator σ}
    (h : evaluate'.Projects f evaluate) : Congruence (Projects f) evaluate' evaluate where
  of_pure a := projects_pure a
  of_throw r := projects_throw r
  of_emit e _ := projects_emit e
  of_ask condition line := projects_ask h condition line
  of_bind h hk := h.bind hk

end Walk

section Texts

variable {f : σ' → σ} {evaluate' : Evaluator σ'} {evaluate : Evaluator σ}
variable (directive? : String → Option Directive)

/-- **A text** has the same result and the same events with an evaluator and with its projection. -/
theorem Document.format_projects (h : evaluate'.Projects f evaluate) (style : Style)
    (file : Option String) (text : String) (state : σ') :
    format directive? evaluate style file text (f state) =
      ((format directive? evaluate' style file text state).1,
        (format directive? evaluate' style file text state).2.project f) := by
  have scanned := scan_related (Walk.congruence_projects h) directive? 0 (linesOf text) { state }
  change (scan directive? evaluate 0 (linesOf text)).run { state := f state } = _ at scanned
  unfold format
  dsimp only
  rw [scanned]
  rcases (scan directive? evaluate' 0 (linesOf text)).run { state } with ⟨r | hidden, p⟩ <;> rfl

end Texts

/-! ## Gates -/

namespace Gate

/-- The same gate with other functions. -/
def withFunctions (g : Gate σ') (fns : Functions σ) : Gate σ where
  pattern := g.pattern
  functions := fns
  «variables» := g.variables
  style := g.style
  verbose := g.verbose
  logger := g.logger

/-- **The outcome of a text** at a gate: the result, and the progress of the walk through it. -/
def outcome (g : Gate σ) (file : Option String) (text : String) (state : σ) :
    Except Rejection Formatted × Progress σ :=
  Document.format g.directive? g.evaluator g.style file text state

/-- What a gate makes of a text can be read off the outcome. -/
theorem format_eq_outcome (g : Gate σ) (file : Option String) (text : String) (state : σ) :
    g.format file text state =
      ⟨(g.outcome file text state).1,
        g.records file (g.outcome file text state).2.events.toList (g.outcome file text state).1,
        (g.outcome file text state).2.state⟩ :=
  rfl

/-- A text has the same outcome with the functions of a gate and with a projection of them. -/
theorem outcome_withFunctions {f : σ' → σ} (g : Gate σ') {fns : Functions σ}
    (h : g.functions.Projects f fns) (file : Option String) (text : String) (state : σ') :
    (g.withFunctions fns).outcome file text (f state) =
      ((g.outcome file text state).1, (g.outcome file text state).2.project f) :=
  Document.format_projects g.directive? (Condition.evaluator_projects h g.variables) g.style file
    text state

/-- **The calls of a text** on its way through a gate, in their order. -/
def calls (g : Gate σ) (file : Option String) (text : String) (state : σ) : List Call :=
  ((g.withFunctions g.functions.recorded).format file text (state, [])).state.2

/-! ## A gate and a text -/

/-- A gate with one variable that blanks hidden lines. A directive is a line that starts with a
directive word. -/
def sample : Gate Unit where
  pattern :=
    { source := "(?P<token>[a-z]+) *(?P<expression>.*)"
      regex := .seq (.group (some 1) (.rep (.set false [.range 'a'.toNat 'z'.toNat]) 1 none true))
        (.seq (.rep (.char ' ') 0 none true) (.group (some 2) (.rep .any 0 none true)))
      names := [("token", 1), ("expression", 2)] }
  functions := ⟨fun _ _ state => (.ok .null, state)⟩
  «variables» := [("A", .bool true)]
  style := .blank
  verbose := false
  logger := "gate"

/-- A text with a warning in the selected branch, a nested block in another one, and a closing line
that closes nothing. -/
def sampleText : String := "if A\nx\nwarn W\nelif B\nif C\ny\nendif\nendif\nendif"

/-- The lines of the text. -/
theorem linesOf_sampleText :
    linesOf sampleText =
      ["if A", "x", "warn W", "elif B", "if C", "y", "endif", "endif", "endif"] := by
  decide

/-- Its walk asks for one condition only, and gives one warning. -/
theorem scan_sample :
    (Document.scan sample.directive? sample.evaluator 0 (linesOf sampleText)).run { state := () } =
      (.ok [0, 2, 3, 4, 5, 6, 7], ⟨(), #[.evaluated "A" 0 true, .included 1,
        .warned (Block.warning ⟨"warn", .warning, "W", 0, 6⟩ 2 "warn W")]⟩) := by
  obtain ⟨first, content, warn, branch, inner, nested, closing⟩ :
      sample.directive? "if A" = some ⟨"if", .opening, "A", 0, 4⟩ ∧
      sample.directive? "x" = none ∧
      sample.directive? "warn W" = some ⟨"warn", .warning, "W", 0, 6⟩ ∧
      sample.directive? "elif B" = some ⟨"elif", .elseIf, "B", 0, 6⟩ ∧
      sample.directive? "if C" = some ⟨"if", .opening, "C", 0, 4⟩ ∧
      sample.directive? "y" = none ∧
      sample.directive? "endif" = some ⟨"endif", .closing, "", 0, 5⟩ := by
    decide
  have answer : sample.evaluator "A" 0 () = (.ok true, ()) := by
    change Condition.evaluator ⟨fun _ _ s => (.ok .null, s)⟩ [("A", .bool true)] "A" 0 () = _
    exact Condition.evaluator_eq_ok (by decide +kernel) 0
  simp [linesOf_sampleText, Document.scan, Block.opens, first, closing,
    Block.run_start _ _ _ _ _ first rfl, Block.run_content _ _ _ _ content,
    Block.run_warning _ _ _ _ warn rfl, Block.run_elseIf _ _ _ _ branch rfl,
    Block.run_opening _ _ _ _ _ inner rfl, Block.run_content _ _ _ _ nested,
    Block.run_closing _ _ _ _ closing rfl, Machine.withTop, Machine.inside, Machine.outside,
    Machine.advance, Machine.hide, Frame.active, Frame.decided, Frame.skipped, Walk.run_bind,
    Walk.run_ask, Walk.run_emit, answer]
  rfl

/-- It is let through with most of its lines hidden. -/
theorem format_sample :
    (sample.format none sampleText ()).result =
      .ok ⟨textOf (Document.renderLines .blank [0, 2, 3, 4, 5, 6, 7] (linesOf sampleText)),
        [Block.warning ⟨"warn", .warning, "W", 0, 6⟩ 2 "warn W"], [0, 2, 3, 4, 5, 6, 7], 9⟩ := by
  have count : (linesOf sampleText).length = 9 := congrArg List.length linesOf_sampleText
  rw [format_eq_outcome, outcome, Document.format, scan_sample, count]
  rfl

end Gate

end LineGate
