import LineGate.Condition

/-! # The names in a condition

The value of an expression depends on the environment only through the **names** that occur in it:
its variables, the functions it calls, and the names it asks about. Two environments that agree on
them, in what is bound and in the values, give the same value, the same faults and the same calls of
supplied functions (`Expr.eval_congr`), and so they decide a condition alike
(`Condition.evaluator_congr`). -/

namespace LineGate

/-- **Agreement** of two environments on some names: each of them is bound to the same value in
both, or in neither. -/
def Environment.AgreeOn (names : List String) (env env' : Environment) : Prop :=
  ∀ n ∈ names, env.find? n = env'.find? n

namespace Environment.AgreeOn

variable {names more : List String} {env env' : Environment}

/-- Environments that agree on two lists of names agree on the first. -/
theorem left (h : AgreeOn (names ++ more) env env') : AgreeOn names env env' :=
  fun n hn => h n (List.mem_append_left more hn)

/-- Environments that agree on two lists of names agree on the second. -/
theorem right (h : AgreeOn (names ++ more) env env') : AgreeOn more env env' :=
  fun n hn => h n (List.mem_append_right names hn)

end Environment.AgreeOn

namespace Expr

open Environment (AgreeOn)

mutual

/-- **The names of an expression**, each as often as it occurs. -/
def names : Expr → List String
  | .literal _ => []
  | .name n => [n]
  | .defined n => [n]
  | .call n args => n :: namesAll args
  | .list items => namesAll items
  | .not e => e.names
  | .negate e => e.names
  | .logical _ l r => l.names ++ r.names
  | .compare _ l r => l.names ++ r.names

/-- The names of several expressions. -/
def namesAll : List Expr → List String
  | [] => []
  | e :: es => e.names ++ namesAll es

end

variable {σ : Type} (fns : Functions σ) {env env' : Environment}

/-- A variable has the same value in environments that agree on it. -/
theorem variableValue_congr {n : String} (same : env.find? n = env'.find? n) :
    (Eval.variableValue env n : Eval σ Value) = Eval.variableValue env' n := by
  unfold Eval.variableValue
  rw [same]

mutual

/-- **The value of an expression depends on its names alone.** -/
theorem eval_congr : ∀ e : Expr, AgreeOn e.names env env' → e.eval fns env = e.eval fns env'
  | .literal v, _ => by
    rw [eval, eval]
  | .name n, agree => by
    rw [eval, eval, variableValue_congr (agree n (List.mem_singleton_self n))]
  | .defined n, agree => by
    have same := agree n (List.mem_singleton_self n)
    rw [eval, eval, Environment.binds, Environment.binds, same]
  | .call n args, agree => by
    rw [names] at agree
    have same := agree n List.mem_cons_self
    have later : AgreeOn (namesAll args) env env' := fun m hm => agree m (List.mem_cons_of_mem n hm)
    rw [eval, eval, Eval.functionIdentity, Eval.functionIdentity, variableValue_congr same,
      evalAll_congr args later]
  | .list items, agree => by
    rw [names] at agree
    rw [eval, eval, evalAll_congr items agree]
  | .not e, agree => by
    rw [names] at agree
    rw [eval, eval, eval_congr e agree]
  | .negate e, agree => by
    rw [names] at agree
    rw [eval, eval, eval_congr e agree]
  | .logical .and l r, agree => by
    rw [names] at agree
    rw [eval, eval, eval_congr l agree.left, eval_congr r agree.right]
  | .logical .or l r, agree => by
    rw [names] at agree
    rw [eval, eval, eval_congr l agree.left, eval_congr r agree.right]
  | .compare op l r, agree => by
    rw [names] at agree
    rw [eval, eval, eval_congr l agree.left, eval_congr r agree.right]

/-- The values of several expressions depend on their names alone. -/
theorem evalAll_congr :
    ∀ es : List Expr, AgreeOn (namesAll es) env env' → evalAll fns env es = evalAll fns env' es
  | [], _ => by
    rw [evalAll, evalAll]
  | e :: es, agree => by
    rw [namesAll] at agree
    rw [evalAll, evalAll, eval_congr e agree.left, evalAll_congr es agree.right]

end

end Expr

namespace Condition

variable {σ : Type} (fns : Functions σ) {env env' : Environment}

/-- **The names in a condition**; a text that cannot be read as one has none. -/
def names (text : String) : List String :=
  match Expr.parse text with
  | .ok e => e.names
  | .error _ => []

/-- **A condition is decided by its names alone**, on whichever line and in whichever state. -/
theorem evaluator_congr {text : String} (agree : Environment.AgreeOn (names text) env env') :
    evaluator fns env text = evaluator fns env' text := by
  funext line state
  unfold evaluator holds
  unfold names at agree
  cases read : Expr.parse text with
  | error fault => rfl
  | ok e =>
    rw [read] at agree
    simp only [e.eval_congr fns agree]

end Condition

end LineGate
