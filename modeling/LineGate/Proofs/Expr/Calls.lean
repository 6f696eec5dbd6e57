import LineGate.Proofs.Document.Projection
import LineGate.Proofs.Expr.CallSites

/-! # The order of calls

The calls that the evaluation of an expression makes (`Expr.calls`) are those that functions which
record their calls have recorded in the end. Which call node each of them comes from does not show
in the record. It shows in an evaluation with functions that are told the site of the node they are
called from (`Expr.evalAt`); apart from that it is the same evaluation (`Expr.evalAt_projects`), and
its record, of **firings**, is the one of calls with a site and an answer for each
(`Expr.run_attributed`).

How the firings of an evaluation lie in the post-order of the call sites is its **course**
(`Course`). Courses compose: an evaluation in two parts follows the sites of the first part and then
those of the second (`Eval.Follows.bind`), and an evaluation follows the sites of its expression
(`Expr.evalAt_follows`). -/

namespace LineGate

variable {σ' σ α β : Type}

/-! ## Calls -/

/-- **The calls of an evaluation**, in their order. -/
def Expr.calls (fns : Functions σ) (env : Environment) (e : Expr) (state : σ) : List Call :=
  ((e.eval fns.recorded env).run (state, [])).2.2

/-- Recording goes on behind what is recorded already. -/
theorem Functions.recorded_behind (fns : Functions σ) (log : List Call) :
    Functions.Projects (fun s => (s.1, log ++ s.2)) fns.recorded fns.recorded := by
  intro identity args state
  simp [recorded, List.append_assoc]

namespace Expr

variable {fns : Functions σ} {env : Environment}

/-- **An evaluation with a record** has the same result, the same state at the end, and the calls
behind what was recorded before. -/
theorem run_recorded (fns : Functions σ) (env : Environment) (e : Expr) (state : σ)
    (log : List Call) :
    (e.eval fns.recorded env).run (state, log) =
      (((e.eval fns env).run state).1, ((e.eval fns env).run state).2,
        log ++ e.calls fns env state) := by
  have behind := e.eval_projects (fns.recorded_behind log) env (state, [])
  have forgotten := e.eval_projects fns.recorded_projects env (state, [])
  rw [List.append_nil] at behind
  rw [behind, forgotten]
  rfl

/-- A connective makes the calls of its left operand, and then those of the evaluation that its
value selects. -/
theorem calls_of_left {e l : Expr} {v : Value} {state next : σ}
    (left : (l.eval fns env).run state = (.ok v, next)) {k : Value → Eval (σ × List Call) Value}
    (split : e.eval fns.recorded env = l.eval fns.recorded env >>= k) :
    e.calls fns env state = ((k v).run (next, l.calls fns env state)).2.2 := by
  have run := run_recorded fns env l state []
  rw [left, List.nil_append] at run
  rw [calls, split, Eval.run_bind, run]

/-- **A conjunction** makes the calls of its right operand only if the left one is true. -/
theorem calls_and {l r : Expr} {v : Value} {state next : σ}
    (left : (l.eval fns env).run state = (.ok v, next)) :
    (logical .and l r).calls fns env state =
      l.calls fns env state ++ if v.truthy then r.calls fns env next else [] := by
  rw [calls_of_left left (by rw [eval])]
  split
  · rw [run_recorded]
  · exact (List.append_nil _).symm

/-- **An alternative** makes the calls of its right operand only if the left one is false. -/
theorem calls_or {l r : Expr} {v : Value} {state next : σ}
    (left : (l.eval fns env).run state = (.ok v, next)) :
    (logical .or l r).calls fns env state =
      l.calls fns env state ++ if v.truthy then [] else r.calls fns env next := by
  rw [calls_of_left left (by rw [eval])]
  split
  · exact (List.append_nil _).symm
  · rw [run_recorded]

end Expr

/-! ## Functions of names -/

namespace Eval

variable {env : Environment}

/-- Nothing comes behind a fault. -/
theorem throw_bind (fault : EvalFault) (k : α → Eval σ β) :
    (throw fault >>= k : Eval σ β) = throw fault :=
  rfl

/-- A name that is bound to a function stands for it. -/
theorem functionIdentity_of_bound {name : String} {identity : Nat}
    (bound : env.find? name = some (.function identity)) :
    (functionIdentity env name : Eval σ Nat) = pure identity := by
  rw [functionIdentity, variableValue, bound]
  rfl

/-- A name that is not bound, or to no function, is a fault. -/
theorem functionIdentity_of_not_bound {name : String}
    (other : ∀ identity, env.find? name ≠ some (.function identity)) :
    ∃ fault, ∀ τ : Type, (functionIdentity env name : Eval τ Nat) = throw fault := by
  simp only [functionIdentity, variableValue]
  cases found : env.find? name with
  | none => exact ⟨_, fun _ => rfl⟩
  | some v =>
    cases v with
    | function identity => exact absurd found (other identity)
    | _ => exact ⟨_, fun _ => rfl⟩

end Eval

/-- **A call of what is no function** makes no call at all, not even of those in its arguments. -/
theorem Expr.calls_of_not_bound {fns : Functions σ} {env : Environment} {name : String}
    (other : ∀ identity, env.find? name ≠ some (.function identity)) (args : List Expr)
    (state : σ) : (call name args).calls fns env state = [] := by
  obtain ⟨fault, failed⟩ := Eval.functionIdentity_of_not_bound other
  rw [calls, eval, failed, Eval.throw_bind]
  rfl

/-! ## Firings -/

/-- A **firing**: the call site, the call that it made, and the function's answer. -/
structure Firing where
  site : CallSite
  call : Call
  answer : Except FunctionFailure Value

/-- **Functions that record their firings**, the latest last. -/
def Functions.attributed (fns : Functions σ) (site : CallSite) : Functions (σ × List Firing) where
  call identity args state :=
    let (answer, next) := fns.call identity args state.1
    (answer, (next, state.2 ++ [⟨site, ⟨identity, args⟩, answer⟩]))

/-- Forgetting the sites and the answers gives the functions that record their calls. -/
theorem Functions.attributed_projects (fns : Functions σ) (site : CallSite) :
    Projects (fun s => (s.1, s.2.map Firing.call)) (fns.attributed site) fns.recorded := by
  intro identity args state
  simp [recorded, attributed]

namespace Expr

mutual

/-- **The value of an expression** at the given path, with functions that are told the site which
they are called from. -/
def evalAt (fns : CallSite → Functions σ) (env : Environment) : List Nat → Expr → Eval σ Value
  | _, .literal v => pure v
  | _, .name n => Eval.variableValue env n
  | _, .defined n => pure (.bool (env.binds n))
  | path, .call n args => do
    let identity ← Eval.functionIdentity env n
    let values ← evalFrom fns env path 0 args
    Eval.call (fns ⟨path, n⟩) identity values
  | path, .list items => do
    let values ← evalFrom fns env path 0 items
    pure (.list values)
  | path, .not e => do
    let v ← evalAt fns env (path ++ [0]) e
    pure (.bool (!v.truthy))
  | path, .negate e => do
    let v ← evalAt fns env (path ++ [0]) e
    Eval.ofValue v.negate
  | path, .logical .and l r => do
    let v ← evalAt fns env (path ++ [0]) l
    if v.truthy then evalAt fns env (path ++ [1]) r else pure v
  | path, .logical .or l r => do
    let v ← evalAt fns env (path ++ [0]) l
    if v.truthy then pure v else evalAt fns env (path ++ [1]) r
  | path, .compare op l r => do
    let a ← evalAt fns env (path ++ [0]) l
    let b ← evalAt fns env (path ++ [1]) r
    let result ← Eval.ofValue (op.apply a b)
    pure (.bool result)

/-- The values of parts from left to right, the first of which has the number `i`. -/
def evalFrom (fns : CallSite → Functions σ) (env : Environment) :
    List Nat → Nat → List Expr → Eval σ (List Value)
  | _, _, [] => pure []
  | path, i, e :: es => do
    let v ← evalAt fns env (path ++ [i]) e
    let vs ← evalFrom fns env path (i + 1) es
    pure (v :: vs)

end

section Projection

variable {f : σ' → σ} {fns' : CallSite → Functions σ'} {fns : Functions σ}

mutual

/-- **Telling the sites changes nothing else**: if the functions at every site project onto others,
so does the evaluation. -/
theorem evalAt_projects (h : ∀ site, (fns' site).Projects f fns) (env : Environment) :
    ∀ (path : List Nat) (e : Expr), (evalAt fns' env path e).Projects f (e.eval fns env)
  | _, .literal v => by
    rw [evalAt, eval]
    exact Eval.projects_pure v
  | _, .name n => by
    rw [evalAt, eval]
    exact Eval.projects_variableValue env n
  | _, .defined n => by
    rw [evalAt, eval]
    exact Eval.projects_pure _
  | path, .call n args => by
    rw [evalAt, eval]
    refine (Eval.projects_functionIdentity env n).bind fun identity => ?_
    exact (evalFrom_projects h env path 0 args).bind fun values =>
      Eval.projects_call (h ⟨path, n⟩) identity values
  | path, .list items => by
    rw [evalAt, eval]
    exact (evalFrom_projects h env path 0 items).bind fun values => Eval.projects_pure _
  | path, .not e => by
    rw [evalAt, eval]
    exact (evalAt_projects h env _ e).bind fun v => Eval.projects_pure _
  | path, .negate e => by
    rw [evalAt, eval]
    exact (evalAt_projects h env _ e).bind fun v => Eval.projects_ofValue _
  | path, .logical .and l r => by
    rw [evalAt, eval]
    refine (evalAt_projects h env _ l).bind fun v => ?_
    split
    · exact evalAt_projects h env _ r
    · exact Eval.projects_pure v
  | path, .logical .or l r => by
    rw [evalAt, eval]
    refine (evalAt_projects h env _ l).bind fun v => ?_
    split
    · exact Eval.projects_pure v
    · exact evalAt_projects h env _ r
  | path, .compare op l r => by
    rw [evalAt, eval]
    refine (evalAt_projects h env _ l).bind fun a => ?_
    refine (evalAt_projects h env _ r).bind fun b => ?_
    exact (Eval.projects_ofValue _).bind fun result => Eval.projects_pure _

/-- The values of parts project as the functions do. -/
theorem evalFrom_projects (h : ∀ site, (fns' site).Projects f fns) (env : Environment) :
    ∀ (path : List Nat) (i : Nat) (es : List Expr),
      (evalFrom fns' env path i es).Projects f (evalAll fns env es)
  | _, _, [] => by
    rw [evalFrom, evalAll]
    exact Eval.projects_pure []
  | path, i, e :: es => by
    rw [evalFrom, evalAll]
    refine (evalAt_projects h env _ e).bind fun v => ?_
    exact (evalFrom_projects h env path (i + 1) es).bind fun vs => Eval.projects_pure _

end

end Projection

/-- **The firings of an evaluation**, in their order. -/
def firings (fns : Functions σ) (env : Environment) (e : Expr) (state : σ) : List Firing :=
  ((e.evalAt fns.attributed env []).run (state, [])).2.2

variable {fns : Functions σ} {env : Environment}

/-- **Firings are calls**: an evaluation that records its firings has the result of the evaluation, and
its calls. -/
theorem run_attributed (fns : Functions σ) (env : Environment) (e : Expr) (state : σ) :
    ((evalAt fns.attributed env [] e).run (state, [])).1 = ((e.eval fns env).run state).1 ∧
      (e.firings fns env state).map Firing.call = e.calls fns env state := by
  have told := evalAt_projects fns.attributed_projects env [] e (state, [])
  rw [List.map_nil, run_recorded, List.nil_append] at told
  obtain ⟨result, ended⟩ := Prod.mk.inj told
  exact ⟨result.symm, (Prod.mk.inj ended).2.symm⟩

end Expr

/-! ## Courses -/

/-- A function **returned** when it was fired. -/
def Firing.Returned (f : Firing) : Prop := ∃ v, f.answer = .ok v

/-- The **course** of an evaluation with the given outcome, among the sites of its calls in
post-order. The condition `whole` tells whether it has to fire all of them. -/
structure Course (env : Environment) (sites : List CallSite) (whole : Prop) (fired : List Firing)
    (outcome : Except EvalFault α) : Prop where
  /-- The sites fire in order, and each once at most. -/
  ordered : (fired.map Firing.site).Sublist sites
  /-- A site fires the function that its name is bound to. -/
  bound : ∀ f ∈ fired, env.find? f.site.name = some (.function f.call.identity)
  /-- The functions return, or the last one fails, and with it the evaluation. -/
  halted : (∀ f ∈ fired, f.Returned) ∨
    ∃ before f failure, fired = before ++ [f] ∧ (∀ g ∈ before, g.Returned) ∧
      f.answer = .error failure ∧ outcome = .error (.function failure)
  /-- If it has to, an evaluation that gives a value fires all sites. -/
  complete : whole → ∀ a, outcome = .ok a → fired.map Firing.site = sites

/-- Nothing is fired where that is all there is to fire, or where not all of it has to be. -/
theorem Course.nothing {env : Environment} {sites : List CallSite} {whole : Prop}
    {outcome : Except EvalFault α} (left_out : whole → ∀ a, outcome = .ok a → sites = []) :
    Course env sites whole [] outcome where
  ordered := List.nil_sublist sites
  bound _ inside := (List.not_mem_nil inside).elim
  halted := .inl fun _ inside => (List.not_mem_nil inside).elim
  complete holds a outcome := (left_out holds a outcome).symm

namespace Eval

variable {env : Environment} {sites sites' : List CallSite} {whole whole' : Prop}

/-- A value leaves the state as it is. -/
theorem run_pure (a : α) (state : σ) : (pure a : Eval σ α).run state = (.ok a, state) := rfl

/-- So does a fault. -/
theorem run_throw (fault : EvalFault) (state : σ) :
    (throw fault : Eval σ α).run state = (.error fault, state) := rfl

/-- An evaluation **follows** some sites if it has a course among them, from every state on. -/
def Follows (env : Environment) (sites : List CallSite) (whole : Prop)
    (w : Eval (σ × List Firing) α) : Prop :=
  ∀ state log, ∃ fired, (w.run (state, log)).2.2 = log ++ fired ∧
    Course env sites whole fired (w.run (state, log)).1

/-- A value fires nothing, which is all there is to fire. -/
theorem follows_pure (a : α) : Follows env [] whole (pure a : Eval (σ × List Firing) α) := by
  intro state log
  rw [run_pure]
  exact ⟨[], (List.append_nil log).symm, .nothing fun _ _ _ => rfl⟩

/-- A value may leave out sites, if not all of them have to fire. -/
theorem follows_pure_skip (a : α) :
    Follows env sites False (pure a : Eval (σ × List Firing) α) := by
  intro state log
  rw [run_pure]
  exact ⟨[], (List.append_nil log).symm, .nothing False.elim⟩

/-- A fault leaves out whatever there is to fire. -/
theorem follows_throw (fault : EvalFault) :
    Follows env sites whole (throw fault : Eval (σ × List Firing) α) := by
  intro state log
  rw [run_throw]
  exact ⟨[], (List.append_nil log).symm, .nothing fun _ _ => nofun⟩

/-- An evaluation that fires all sites under a condition does so under a stronger one. -/
theorem Follows.of_imp {w : Eval (σ × List Firing) α} (h : Follows env sites whole w)
    (stronger : whole' → whole) : Follows env sites whole' w := by
  intro state log
  obtain ⟨fired, logged, course⟩ := h state log
  exact ⟨fired, logged, course.ordered, course.bound, course.halted,
    fun holds => course.complete (stronger holds)⟩

/-- **Evaluations in two parts** follow the sites of the first part and then those of the second. If
the first part fails, the sites of the second one are left out. -/
theorem Follows.bind {w : Eval (σ × List Firing) α} {k : α → Eval (σ × List Firing) β}
    (h : Follows env sites whole w) (hk : ∀ a, Follows env sites' whole (k a)) :
    Follows env (sites ++ sites') whole (w >>= k) := by
  intro state log
  obtain ⟨fired, logged, course⟩ := h state log
  rw [run_bind]
  rcases run : w.run (state, log) with ⟨fault | a, next, log'⟩
  · rw [run] at logged course
    refine ⟨fired, logged, ?_, course.bound, ?_, fun _ => nofun⟩
    · exact course.ordered.trans (List.sublist_append_left sites sites')
    · refine course.halted.imp_right ?_
      rintro ⟨before, f, failure, last, returned, failed, outcome⟩
      exact ⟨before, f, failure, last, returned, failed, by cases outcome; rfl⟩
  · rw [run] at logged course
    obtain ⟨fired', logged', course'⟩ := hk a next log'
    obtain rfl : log' = log ++ fired := logged
    -- The first part gave a value, so all its functions returned.
    have returned : ∀ f ∈ fired, f.Returned := by
      rcases course.halted with returned | ⟨_, _, _, -, -, -, outcome⟩
      · exact returned
      · cases outcome
    refine ⟨fired ++ fired', by rw [logged', List.append_assoc], ?_, ?_, ?_, ?_⟩
    · rw [List.map_append]
      exact course.ordered.append course'.ordered
    · intro f inside
      rcases List.mem_append.mp inside with inside | inside
      · exact course.bound f inside
      · exact course'.bound f inside
    · rcases course'.halted with returned' | ⟨before, f, failure, rfl, returned', halted⟩
      · exact .inl fun f inside => (List.mem_append.mp inside).elim (returned f) (returned' f)
      · refine .inr ⟨fired ++ before, f, failure, by rw [List.append_assoc], ?_, halted⟩
        exact fun g inside => (List.mem_append.mp inside).elim (returned g) (returned' g)
    · intro holds b outcome
      rw [List.map_append, course.complete holds a rfl, course'.complete holds b outcome]

/-- Looking up a variable fires nothing. -/
theorem follows_variableValue (name : String) :
    Follows env [] whole (variableValue env name : Eval (σ × List Firing) Value) := by
  unfold variableValue
  split
  · exact follows_pure _
  · exact follows_throw _

/-- Operations on values fire nothing. -/
theorem follows_ofValue (result : Except ValueFault α) :
    Follows env [] whole (ofValue result : Eval (σ × List Firing) α) := by
  cases result with
  | ok a => exact follows_pure a
  | error fault => exact follows_throw _

/-- **A call** of a function fires its site. -/
theorem follows_call {fns : Functions σ} {site : CallSite} {identity : Nat}
    (bound : env.find? site.name = some (.function identity)) (args : List Value) :
    Follows env [site] whole (call (fns.attributed site) identity args) := by
  intro state log
  rw [run_call]
  refine ⟨[⟨site, ⟨identity, args⟩, (fns.call identity args state).1⟩], rfl, .refl _, ?_, ?_,
    fun _ _ _ => rfl⟩
  · intro f inside
    cases List.mem_singleton.mp inside
    exact bound
  · have answer : ((fns.attributed site).call identity args (state, log)).1 =
        (fns.call identity args state).1 := rfl
    rw [answer]
    cases (fns.call identity args state).1 with
    | ok v =>
      refine .inl fun f inside => ?_
      cases List.mem_singleton.mp inside
      exact ⟨v, rfl⟩
    | error failure =>
      exact .inr ⟨[], _, failure, rfl, fun _ inside => (List.not_mem_nil inside).elim, rfl, rfl⟩

end Eval

namespace Expr

mutual

/-- **An evaluation follows the call sites** of its expression, and it fires all of them if the
expression is straight. -/
theorem evalAt_follows (fns : Functions σ) (env : Environment) :
    ∀ (path : List Nat) (e : Expr),
      (evalAt fns.attributed env path e).Follows env (sitesAt path e) e.Straight
  | _, .literal v => by
    rw [evalAt, sitesAt]
    exact Eval.follows_pure v
  | _, .name n => by
    rw [evalAt, sitesAt]
    exact Eval.follows_variableValue n
  | _, .defined n => by
    rw [evalAt, sitesAt]
    exact Eval.follows_pure _
  | path, .call n args => by
    rw [evalAt, sitesAt]
    by_cases found : ∃ identity, env.find? n = some (.function identity)
    · obtain ⟨identity, bound⟩ := found
      rw [Eval.functionIdentity_of_bound bound, pure_bind]
      have list := (evalFrom_follows fns env path 0 args).of_imp fun straight : (call n args).Straight =>
        fun _ => straight.part
      exact list.bind fun values => Eval.follows_call bound values
    · -- Without a function the arguments are not evaluated.
      obtain ⟨fault, failed⟩ := Eval.functionIdentity_of_not_bound
        fun identity bound => found ⟨identity, bound⟩
      rw [failed, Eval.throw_bind]
      exact Eval.follows_throw fault
  | path, .list items => by
    rw [evalAt, sitesAt, ← List.append_nil (sitesFrom path 0 items)]
    have all := (evalFrom_follows fns env path 0 items).of_imp fun straight : (list items).Straight =>
      fun _ => straight.part
    exact all.bind fun values => Eval.follows_pure _
  | path, .not e => by
    rw [evalAt, sitesAt, ← List.append_nil (sitesAt _ e)]
    have operand := (evalAt_follows fns env (path ++ [0]) e).of_imp fun straight : (not e).Straight =>
      straight.part List.mem_cons_self
    exact operand.bind fun v => Eval.follows_pure _
  | path, .negate e => by
    rw [evalAt, sitesAt, ← List.append_nil (sitesAt _ e)]
    have operand := (evalAt_follows fns env (path ++ [0]) e).of_imp fun straight : (negate e).Straight =>
      straight.part List.mem_cons_self
    exact operand.bind fun v => Eval.follows_ofValue _
  | path, .logical .and l r => by
    rw [evalAt, sitesAt]
    refine Eval.Follows.of_imp ?_ not_straight_logical
    refine ((evalAt_follows fns env (path ++ [0]) l).of_imp False.elim).bind fun v => ?_
    split
    · exact (evalAt_follows fns env (path ++ [1]) r).of_imp False.elim
    · exact Eval.follows_pure_skip v
  | path, .logical .or l r => by
    rw [evalAt, sitesAt]
    refine Eval.Follows.of_imp ?_ not_straight_logical
    refine ((evalAt_follows fns env (path ++ [0]) l).of_imp False.elim).bind fun v => ?_
    split
    · exact Eval.follows_pure_skip v
    · exact (evalAt_follows fns env (path ++ [1]) r).of_imp False.elim
  | path, .compare op l r => by
    rw [evalAt, sitesAt, ← List.append_nil (sitesAt _ r)]
    have left := (evalAt_follows fns env (path ++ [0]) l).of_imp
      fun straight : (compare op l r).Straight => straight.part List.mem_cons_self
    have right := (evalAt_follows fns env (path ++ [1]) r).of_imp
      fun straight : (compare op l r).Straight =>
        straight.part (List.mem_cons_of_mem _ List.mem_cons_self)
    refine left.bind fun a => right.bind fun b => ?_
    exact (Eval.follows_ofValue _).bind fun result => Eval.follows_pure _

/-- The evaluation of parts from left to right follows their sites. -/
theorem evalFrom_follows (fns : Functions σ) (env : Environment) :
    ∀ (path : List Nat) (i : Nat) (es : List Expr),
      (evalFrom fns.attributed env path i es).Follows env (sitesFrom path i es)
        (∀ part ∈ es, part.Straight)
  | _, _, [] => by
    rw [evalFrom, sitesFrom]
    exact Eval.follows_pure []
  | path, i, e :: es => by
    rw [evalFrom, sitesFrom, ← List.append_nil (sitesFrom path (i + 1) es)]
    have first := (evalAt_follows fns env (path ++ [i]) e).of_imp
      fun straight : ∀ part ∈ e :: es, part.Straight => straight e List.mem_cons_self
    have others := (evalFrom_follows fns env path (i + 1) es).of_imp
      fun straight : ∀ part ∈ e :: es, part.Straight =>
        fun part inside => straight part (List.mem_cons_of_mem e inside)
    exact first.bind fun v => others.bind fun vs => Eval.follows_pure _

end

/-- **The order of calls.** The calls of an evaluation, with functions that may keep a state, answer
anything and fail, are fired at call sites of the expression. Their course is a sublist of these
sites in post-order, in which no site occurs twice; no call comes behind one that fails; and a
straight expression that has a value fires all its sites.

A connective whose left operand has a value makes the calls of that operand, and those of the right
one behind them if the value does not decide. A call of a name that is not bound to a function makes
no calls. -/
theorem calls_in_order (fns : Functions σ) (env : Environment) (e : Expr) (state : σ) :
    (e.firings fns env state).map Firing.call = e.calls fns env state ∧
    Course env e.callSites e.Straight (e.firings fns env state) ((e.eval fns env).run state).1 ∧
    ((e.firings fns env state).map Firing.site).Nodup ∧
    (∀ l r v next, (l.eval fns env).run state = (.ok v, next) →
      (logical .and l r).calls fns env state =
        l.calls fns env state ++ (if v.truthy then r.calls fns env next else []) ∧
      (logical .or l r).calls fns env state =
        l.calls fns env state ++ (if v.truthy then [] else r.calls fns env next)) ∧
    ∀ name args, (∀ identity, env.find? name ≠ some (.function identity)) →
      (call name args).calls fns env state = [] := by
  obtain ⟨result, calls⟩ := run_attributed fns env e state
  obtain ⟨fired, logged, course⟩ := evalAt_follows fns env [] e state []
  rw [List.nil_append] at logged
  obtain rfl : e.firings fns env state = fired := logged
  rw [result] at course
  exact ⟨calls, course, e.nodup_callSites.sublist course.ordered,
    fun l r v next left => ⟨calls_and left, calls_or left⟩,
    fun name args other => calls_of_not_bound other args state⟩

/-- Functions of which one always fails. -/
def oneFailing : Functions Unit where
  call identity _ state :=
    (if identity = 2 then .error (.other "error" "failed") else .ok .null, state)

/-- The function of the second argument fails, so the call that the arguments are passed to is left
out. -/
theorem calls_in_order_failing :
    let e := call "f" [call "g" [], not (call "h" [])]
    let env : Environment := [("f", .function 0), ("g", .function 1), ("h", .function 2)]
    e.calls oneFailing env () = [⟨1, []⟩, ⟨2, []⟩] ∧
      ((e.eval oneFailing env).run ()).1 = .error (.function (.other "error" "failed")) ∧
      ((e.firings oneFailing env ()).map Firing.site).Sublist
        [⟨[0], "g"⟩, ⟨[1, 0], "h"⟩, ⟨[], "f"⟩] := by
  intro e env
  obtain ⟨-, course, -⟩ := calls_in_order oneFailing env e ()
  exact ⟨rfl, rfl, course.ordered⟩

/-- The first function decides, so the second one is not called. -/
example :
    (logical .or (call "f" []) (call "g" [])).calls ⟨fun _ _ s => (.ok (.bool true), s)⟩
      [("f", .function 0), ("g", .function 1)] () = [⟨0, []⟩] := by
  rfl

end Expr

end LineGate
