import LineGate.Diagnostic
import LineGate.Environment
import LineGate.Expr.Syntax
import LineGate.Value.Order

/-! # Evaluating expressions

An expression is evaluated against an environment that it cannot change. The functions bound in the
environment are supplied from outside: they may keep a state of their own, return anything and fail.
Evaluation goes from left to right; a connective skips its right operand once the left one has
decided, and a call looks up its function before it evaluates its arguments.
-/

namespace LineGate

/-- How a **supplied function fails**: with a rejection of its own making, or with any other
failure, of which the kind and the message are known. -/
inductive FunctionFailure where
  | rejection (r : Rejection)
  | other (kind message : String)
  deriving DecidableEq, Repr

/-- The message of a failed function. -/
def FunctionFailure.message : FunctionFailure → String
  | .rejection r => r.describe
  | .other _ message => message

/-- **Supplied functions** with a state `σ` that all of them share: what calling the function of a
given identity does. -/
structure Functions (σ : Type) where
  call : Nat → List Value → σ → Except FunctionFailure Value × σ

/-- **Evaluation faults**. -/
inductive EvalFault where
  /-- The name is not bound. -/
  | unbound (name : String)
  /-- The name is bound to something that is not a function. -/
  | notCallable (name : String)
  /-- An operation is not defined on its operands. -/
  | value (fault : ValueFault)
  /-- A supplied function failed. -/
  | function (failure : FunctionFailure)
  deriving DecidableEq, Repr

/-- The wording of an evaluation fault. -/
def EvalFault.message : EvalFault → String
  | .unbound name => "name " ++ quoted name ++ " is not defined"
  | .notCallable name => quoted name ++ " is not callable"
  | .value fault => fault.message
  | .function failure => failure.message

/-- Evaluation: it may fail, and it passes on the state of the supplied functions either way. -/
abbrev Eval (σ : Type) := ExceptT EvalFault (StateM σ)

/-- The result of a comparison. -/
def Comparison.apply : Comparison → Value → Value → Except ValueFault Bool
  | .strictEq, a, b => .ok (a.strictEqual b)
  | .strictNe, a, b => .ok (!a.strictEqual b)
  | .looseEq, a, b => a.looseEqual b
  | .looseNe, a, b => (a.looseEqual b).map (!·)
  | .order op, a, b => a.looseOrder op b
  | .member, a, b => a.member b
  | .notMember, a, b => (a.member b).map (!·)

namespace Eval

variable {σ : Type}

/-- An operation on values as a step of evaluation. -/
def ofValue {α : Type} : Except ValueFault α → Eval σ α
  | .ok a => pure a
  | .error fault => throw (.value fault)

/-- The value of a variable. -/
def variableValue (env : Environment) (name : String) : Eval σ Value :=
  match env.find? name with
  | some v => pure v
  | none => throw (.unbound name)

/-- The identity of the function that a name is bound to. -/
def functionIdentity (env : Environment) (name : String) : Eval σ Nat := do
  match ← variableValue env name with
  | .function identity => pure identity
  | _ => throw (.notCallable name)

/-- Call a supplied function. -/
def call (fns : Functions σ) (identity : Nat) (args : List Value) : Eval σ Value := do
  let (result, state) := fns.call identity args (← get)
  set state
  match result with
  | .ok v => pure v
  | .error failure => throw (.function failure)

end Eval

namespace Expr

variable {σ : Type}

mutual

/-- **The value of an expression**. -/
def eval (fns : Functions σ) (env : Environment) : Expr → Eval σ Value
  | .literal v => pure v
  | .name n => Eval.variableValue env n
  | .defined n => pure (.bool (env.binds n))
  | .call n args => do
    let identity ← Eval.functionIdentity env n
    let values ← evalAll fns env args
    Eval.call fns identity values
  | .list items => do
    let values ← evalAll fns env items
    pure (.list values)
  | .not e => do
    let v ← eval fns env e
    pure (.bool (!v.truthy))
  | .negate e => do
    let v ← eval fns env e
    Eval.ofValue v.negate
  | .logical .and l r => do
    let v ← eval fns env l
    if v.truthy then eval fns env r else pure v
  | .logical .or l r => do
    let v ← eval fns env l
    if v.truthy then pure v else eval fns env r
  | .compare op l r => do
    let a ← eval fns env l
    let b ← eval fns env r
    let result ← Eval.ofValue (op.apply a b)
    pure (.bool result)

/-- The values of several expressions, from left to right. -/
def evalAll (fns : Functions σ) (env : Environment) : List Expr → Eval σ (List Value)
  | [] => pure []
  | e :: es => do
    let v ← eval fns env e
    let vs ← evalAll fns env es
    pure (v :: vs)

end

end Expr

end LineGate
