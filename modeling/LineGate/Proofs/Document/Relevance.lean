import LineGate.Proofs.Block.Events
import LineGate.Proofs.Document.Projection
import LineGate.Proofs.Document.Rejection
import LineGate.Proofs.Expr.Names

/-! # The variables that matter to a text

Of all the variables in an environment, a text can depend on those only that occur in a condition
which is asked for on the way through it. The conditions of inactive branches, of the blocks inside
of them and of branches behind the selected one are not asked for, and so their variables have no
say.

The argument compares two walks that differ in their evaluator. As long as the evaluators agree on
the conditions that the first walk asks for, the second walk makes the same moves, meets the same
conditions, and ends in the same way (`Walk.congruence_sameIf`, `Document.format_sameIf`). -/

namespace LineGate

variable {σ : Type}

/-! ## Conditions that are asked for -/

/-- The condition that an event is about. -/
def Event.condition? : Event → Option String
  | .evaluated condition _ _ => some condition
  | _ => none

/-- The condition that a rejection is about. -/
def Rejection.condition? (r : Rejection) : Option String :=
  match r.kind with
  | .expression text => some text
  | _ => none

/-- **The conditions that were asked for**: those that were decided, as the events tell, and the one
that could not be, if the text is rejected for it. -/
def conditionsAsked {α : Type} (result : Except Rejection α) (events : List Event) : List String :=
  events.filterMap Event.condition? ++
    match result with
    | .ok _ => []
    | .error r => r.condition?.toList

/-- Evaluators that name the condition they reject. -/
def Evaluator.Names (evaluate : Evaluator σ) : Prop :=
  ∀ (condition : String) (line : Nat) (state : σ) (r : Rejection),
    (evaluate condition line state).1 = .error r → r.condition? = some condition

namespace Walk

variable {α β : Type}

/-- **Walks that are the same as far as they ask**: if everything that the first walk asks for is
agreed upon, the second walk does what the first one does. -/
structure SameIf (agreed : String → Prop) (w w' : Walk σ α) : Prop where
  /-- What was asked for earlier stays on record. -/
  appends : w.Appends
  same : ∀ p, (∀ c ∈ conditionsAsked (w.run p).1 (w.run p).2.events.toList, agreed c) →
    w'.run p = w.run p

variable {agreed : String → Prop}

/-- A walk is the same as itself. -/
theorem Appends.sameIf {w : Walk σ α} (h : w.Appends) : SameIf agreed w w :=
  ⟨h, fun _ _ => rfl⟩

/-- A question gets the same answer from evaluators that agree on it. -/
theorem sameIf_ask {evaluate evaluate' : Evaluator σ} (names : evaluate.Names)
    (agree : ∀ c, agreed c → evaluate' c = evaluate c) (condition : String) (line : Nat) :
    SameIf agreed (ask evaluate condition line) (ask evaluate' condition line) := by
  refine ⟨appends_ask evaluate condition line, fun p asked => ?_⟩
  -- Whether it is answered or rejected, the question is one of those that were asked.
  have mem : condition ∈ conditionsAsked ((ask evaluate condition line).run p).1
      ((ask evaluate condition line).run p).2.events.toList := by
    rw [run_ask]
    rcases answer : evaluate condition line p.state with ⟨r | result, state⟩
    · have named := names condition line p.state r (by rw [answer])
      simp [conditionsAsked, named]
    · simp [conditionsAsked, Event.condition?]
  rw [run_ask, run_ask, agree condition (asked condition mem)]

/-- Walks in two parts are the same if both parts are. -/
theorem SameIf.bind {w w' : Walk σ α} {k k' : α → Walk σ β} (h : SameIf agreed w w')
    (hk : ∀ a, SameIf agreed (k a) (k' a)) : SameIf agreed (w >>= k) (w' >>= k') := by
  refine ⟨h.appends.bind fun a => (hk a).appends, fun p asked => ?_⟩
  rw [run_bind] at asked
  rw [run_bind, run_bind]
  have first := h.same p
  rcases result : w.run p with ⟨r | a, q⟩
  · rw [result] at asked first
    rw [first asked]
  · rw [result] at asked first
    -- What the first part asks for is still on record when the second part is over.
    obtain ⟨told, extended⟩ := (hk a).appends.prefix_events q
    have earlier : ∀ c ∈ conditionsAsked (.ok a : Except Rejection α) q.events.toList, agreed c := by
      intro c hc
      refine asked c ?_
      simp only [conditionsAsked, List.append_nil] at hc
      rw [conditionsAsked.eq_def, ← extended, List.filterMap_append, List.append_assoc]
      exact List.mem_append_left _ hc
    rw [first earlier]
    exact (hk a).same q asked

/-- To be the same as far as the first walk asks is a congruence. -/
theorem congruence_sameIf {evaluate evaluate' : Evaluator σ} (names : evaluate.Names)
    (agree : ∀ c, agreed c → evaluate' c = evaluate c) :
    Congruence (SameIf agreed) evaluate evaluate' where
  of_pure a := (appends_pure a).sameIf
  of_throw r := (appends_throw r).sameIf
  of_emit e _ := (appends_emit e).sameIf
  of_ask condition line := sameIf_ask names agree condition line
  of_bind h hk := h.bind hk

end Walk

section Walks

variable {agreed : String → Prop} {evaluate evaluate' : Evaluator σ}
variable (directive? : String → Option Directive)

/-- **A text depends on the conditions that it asks for alone.** -/
theorem Document.format_sameIf (names : evaluate.Names)
    (agree : ∀ c, agreed c → evaluate' c = evaluate c) (style : Style) (file : Option String)
    (text : String) (state : σ)
    (asked : ∀ c ∈ conditionsAsked (format directive? evaluate style file text state).1
      (format directive? evaluate style file text state).2.events.toList, agreed c) :
    format directive? evaluate' style file text state =
      format directive? evaluate style file text state := by
  have same :=
    (scan_related (Walk.congruence_sameIf names agree) directive? 0 (linesOf text)).same { state }
  unfold format at asked ⊢
  dsimp only at asked ⊢
  rcases scanned : (scan directive? evaluate 0 (linesOf text)).run { state } with ⟨r | hidden, p⟩
  · rw [scanned] at same asked
    rw [same asked]
  · rw [scanned] at same asked
    rw [same asked]

end Walks

/-! ## Names that matter -/

/-- The evaluator of conditions names the condition it rejects. -/
theorem Condition.evaluator_names (fns : Functions σ) (env : Environment) :
    (evaluator fns env).Names := by
  intro condition line state r h
  rw [Rejection.condition?, (evaluator_error h).1]

namespace Gate

variable (g : Gate σ) (file : Option String) (text : String) (state : σ) {env : Environment}

/-- The same gate with other variables. -/
def withVariables (env : Environment) : Gate σ := { g with «variables» := env }

/-- **The conditions of a text** that are asked for on its way through a gate. -/
def conditions : List String :=
  conditionsAsked (g.outcome file text state).1 (g.outcome file text state).2.events.toList

/-- **The names that a text uses** on its way through a gate: those in the conditions that are asked
for. -/
def namesUsed : List String := (g.conditions file text state).flatMap Condition.names

/-- Functions that record their calls are asked the same conditions. -/
theorem conditions_recorded :
    (g.withFunctions g.functions.recorded).conditions file text (state, []) =
      g.conditions file text state := by
  have projected : g.outcome file text state = _ :=
    (g.withFunctions g.functions.recorded).outcome_withFunctions g.functions.recorded_projects file
      text (state, [])
  rw [conditions, conditions, projected]
  rfl

variable {g file text state}

/-- **Variables that agree on the names that a text uses** make no difference to its outcome. -/
theorem outcome_withVariables
    (agree : Environment.AgreeOn (g.namesUsed file text state) g.variables env) :
    (g.withVariables env).outcome file text state = g.outcome file text state := by
  have asked : ∀ c ∈ g.conditions file text state,
      Environment.AgreeOn (Condition.names c) g.variables env := by
    intro c hc n hn
    exact agree n (List.mem_flatMap.mpr ⟨c, hc, hn⟩)
  refine Document.format_sameIf g.directive? (Condition.evaluator_names _ _) ?_ _ _ _ _ asked
  intro c same
  exact (Condition.evaluator_congr g.functions same).symm

/-- Nor do they make one to anything else that comes out of the gate. -/
theorem format_withVariables
    (agree : Environment.AgreeOn (g.namesUsed file text state) g.variables env) :
    (g.withVariables env).format file text state = g.format file text state := by
  rw [format_eq_outcome, format_eq_outcome, outcome_withVariables agree]
  rfl

/-- Nor to the calls of supplied functions. -/
theorem calls_withVariables
    (agree : Environment.AgreeOn (g.namesUsed file text state) g.variables env) :
    (g.withVariables env).calls file text state = g.calls file text state := by
  -- The gate that records the calls uses the same names.
  have recorded : Environment.AgreeOn
      ((g.withFunctions g.functions.recorded).namesUsed file text (state, []))
      (g.withFunctions g.functions.recorded).variables env := by
    rw [namesUsed, conditions_recorded]
    exact agree
  exact congrArg (·.state.2) (format_withVariables recorded)

/-- Binding a name that a text does not use leaves the names that it uses alone. -/
theorem agreeOn_bind {names : List String} {name : String} (unused : name ∉ names)
    (env : Environment) (value : Value) :
    Environment.AgreeOn names env (env.bind name value) := by
  intro n hn
  have other : name ≠ n := fun eq => unused (eq ▸ hn)
  rw [Environment.find?_bind, if_neg other]

/-- **Only the names that a text uses matter.** Variables that agree with those of a gate on the
names in the conditions that are asked for, in what is bound and in the values, let the same come out
of the gate: the same processed text with the same warnings or the same rejection at the same place,
the same records and the same state of the supplied functions. The same conditions are asked for, and
the same functions are called with the same arguments.

In particular, a name that occurs in no such condition may be bound to anything. What is not shown
asks for no condition: neither a body outside of the active branch, with all the blocks in it, nor
the branches behind the selected one. -/
theorem format_depends_on_namesUsed (g : Gate σ) (file : Option String) (text : String)
    (state : σ) :
    (∀ env, Environment.AgreeOn (g.namesUsed file text state) g.variables env →
      (g.withVariables env).format file text state = g.format file text state ∧
      (g.withVariables env).conditions file text state = g.conditions file text state ∧
      (g.withVariables env).calls file text state = g.calls file text state) ∧
    (∀ name value, name ∉ g.namesUsed file text state →
      (g.withVariables (g.variables.bind name value)).format file text state =
        g.format file text state) ∧
    (∀ body : Block.Body, body.run g.evaluator false = pure (body.lines.map Prod.fst)) ∧
    ∀ (live : Bool) (rest : Block.Chain),
      rest.run g.evaluator live true = pure (rest.lines.map Prod.fst) := by
  refine ⟨?_, ?_, Block.Body.run_false g.evaluator, Block.Chain.run_selected g.evaluator⟩
  · intro env agree
    refine ⟨format_withVariables agree, ?_, calls_withVariables agree⟩
    rw [conditions, conditions, outcome_withVariables agree]
  · intro name value unused
    exact format_withVariables (agreeOn_bind unused g.variables value)

/-- A text with conditions on three names, of which it uses the first: the second belongs to a branch
behind the selected one, and the third to a block inside of that branch. -/
theorem format_depends_on_namesUsed_sample :
    sample.namesUsed none sampleText () = ["A"] ∧
      ∀ value,
        Environment.AgreeOn ["A"] sample.variables [("C", value), ("A", .bool true)] ∧
        (sample.withVariables [("C", value), ("A", .bool true)]).format none sampleText () =
          sample.format none sampleText () := by
  have names : Condition.names "A" = ["A"] := by decide +kernel
  have used : sample.namesUsed none sampleText () = ["A"] := by
    rw [namesUsed, conditions, outcome, Document.format, scan_sample]
    exact congrArg (· ++ []) names
  refine ⟨used, ?_⟩
  intro value
  have agree : Environment.AgreeOn ["A"] sample.variables [("C", value), ("A", .bool true)] := by
    intro n hn
    rw [List.mem_singleton.mp hn]
    rfl
  rw [← used] at agree ⊢
  exact ⟨agree, ((format_depends_on_namesUsed sample none sampleText ()).1 _ agree).1⟩

end Gate

end LineGate
