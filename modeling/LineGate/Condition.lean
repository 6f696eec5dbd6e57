import LineGate.Expr.Parser
import LineGate.Expr.Eval

/-! # Conditions

A condition is the text behind an `if` or `elseif` directive. It holds when its value is true.
Whatever goes wrong on the way, reading it, evaluating it or calling a supplied function, becomes a
rejection that names the condition and its line.
-/

namespace LineGate

/-- **Evaluators**: decide a condition on the line of a given index, with a state `σ`. -/
abbrev Evaluator (σ : Type) := String → Nat → σ → Except Rejection Bool × σ

namespace Condition

variable {σ : Type}

/-- The rejection of a condition with a given message. -/
def rejection (text : String) (line : Option Int) (message : String) : Rejection :=
  { kind := .expression text, message, line }

/-- The message for a failure that is not a matter of syntax. -/
def failureMessage (text cause : String) : String :=
  "error evaluating " ++ quoted text ++ ": " ++ cause

/-- The message for a syntax fault; only the digit limit is not a matter of syntax. -/
def syntaxMessage (text : String) (fault : SyntaxFault) : String :=
  match fault with
  | .digits _ => failureMessage text (fault.message (trimmed text))
  | _ => fault.message (trimmed text)

/-- The message for an evaluation fault. A function that rejects a condition itself has the word. -/
def evalMessage (text : String) (fault : EvalFault) : String :=
  match fault with
  | .function (.rejection { kind := .expression _, message, .. }) => message
  | _ => failureMessage text fault.message

/-- **Whether a condition holds**, and the state of the supplied functions afterwards. -/
def holds (fns : Functions σ) (env : Environment) (text : String) (line : Option Int) (state : σ) :
    Except Rejection Bool × σ :=
  match Expr.parse text with
  | .error fault => (.error (rejection text line (syntaxMessage text fault)), state)
  | .ok e => match (e.eval fns env).run state with
    | (.ok v, state) => (.ok v.truthy, state)
    | (.error fault, state) => (.error (rejection text line (evalMessage text fault)), state)

/-- The evaluator of conditions in an environment. -/
def evaluator (fns : Functions σ) (env : Environment) : Evaluator σ :=
  fun text line state => holds fns env text (some line) state

end Condition

end LineGate
