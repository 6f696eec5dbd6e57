import LineGate.Block.Machine
import LineGate.Condition

/-! # Walking through blocks

The branch machine is run over the lines of a text. The conditions it asks for are decided by an
evaluator, which may keep a state and may reject the text. What happens on the way that somebody
could want to know is recorded as **events**, whether or not the walk succeeds.
-/

namespace LineGate

/-- **Events** of a walk, with the index of the line they belong to. -/
inductive Event where
  /-- A line inside a block is kept. -/
  | included (line : Nat)
  /-- A condition was decided. -/
  | evaluated (condition : String) (line : Nat) (result : Bool)
  /-- A warning was given. -/
  | warned (diagnostic : Diagnostic)
  deriving DecidableEq, Repr

/-- The **progress** of a walk: the evaluator's state and the events so far. -/
structure Progress (σ : Type) where
  state : σ
  events : Array Event := #[]

/-- Walks: they may reject the text, and keep their progress either way. -/
abbrev Walk (σ : Type) := ExceptT Rejection (StateM (Progress σ))

namespace Walk

variable {σ : Type}

/-- Record an event. -/
def emit (e : Event) : Walk σ Unit :=
  modify fun p => { p with events := p.events.push e }

/-- Decide a condition, and record the result. -/
def ask (evaluate : Evaluator σ) (condition : String) (line : Nat) : Walk σ Bool := do
  let progress ← get
  match evaluate condition line progress.state with
  | (.ok result, state) =>
    set { progress with state }
    emit (.evaluated condition line result)
    return result
  | (.error rejection, state) =>
    set { progress with state }
    throw rejection

end Walk

namespace Block

variable {σ : Type}

/-- The rejection of a text that ends inside a block. -/
def unterminated (start : Nat) : Rejection :=
  { kind := .unterminated
    message := "Unterminated #if found on line " ++ toString (start + 1)
    line := some start }

/-- The rejection by an error directive. -/
def refused (message : String) (line : Nat) : Rejection :=
  { kind := .directive, message, line := some line }

/-- The diagnostic of a warning directive. -/
def warning (d : Directive) (index : Nat) (line : String) : Diagnostic :=
  { severity := .warning, message := d.expression, line := index + 1, column := some d.column,
    length := some d.length, lineText := line }

/-- **Run the machine** over the lines from its current one on, up to the end of the outermost
block. -/
def run (directive? : String → Option Directive) (evaluate : Evaluator σ) :
    List String → Machine → Walk σ Block
  | [], m => throw (unterminated m.top.start)
  | line :: rest, m =>
    match h : m.move (directive? line) with
    | .nest next =>
      have := m.opened_of_move_eq_nest h
      run directive? evaluate (line :: rest) next
    | .pass next => run directive? evaluate rest next
    | .keep next => do
      Walk.emit (.included m.index)
      run directive? evaluate rest next
    | .ask condition next => do
      let result ← Walk.ask evaluate condition m.index
      run directive? evaluate rest (next result)
    | .warn d next => do
      Walk.emit (.warned (warning d m.index line))
      run directive? evaluate rest next
    | .reject message => throw (refused message m.index)
    | .close block => return block
termination_by lines m => (lines.length, m.top.opened.toNat)
decreasing_by
  · simp [Prod.lex_def, this]
  all_goals simp [Prod.lex_def]

/-- Whether a line opens a block. -/
def opens (directive? : String → Option Directive) (line : String) : Bool :=
  (directive? line).any fun d => d.kind == .opening

/-- **Requests that no block answers**: the line of the given index does not open one. -/
inductive Failure where
  | notOpening (start : Int)
  | rejected (rejection : Rejection)
  deriving DecidableEq, Repr

/-- The message for a line that does not open a block. -/
def notOpeningMessage (start : Int) : String :=
  "line " ++ toString start ++ " does not open an if block"

/-- **The block** opened by the line of index `start`; `ignore` treats it as part of an inactive
branch. -/
def parse (directive? : String → Option Directive) (evaluate : Evaluator σ) (lines : List String)
    (start : Int) (ignore : Bool) (state : σ) : Except Failure Block × Progress σ :=
  let rest := if 0 ≤ start then lines.drop start.toNat else []
  if rest.head?.any (opens directive?) then
    match (run directive? evaluate rest (Machine.start start.toNat ignore)).run { state } with
    | (.ok block, progress) => (.ok block, progress)
    | (.error rejection, progress) => (.error (.rejected rejection), progress)
  else (.error (.notOpening start), { state })

end Block

end LineGate
