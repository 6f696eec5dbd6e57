import LineGate.Diagnostic
import LineGate.Directive

/-! # The branch machine

A block reaches from an `if` directive to its matching `endif` and may hold further blocks. The
machine walks through its lines with a stack of frames, one for each block that is open, and finds
out which lines are hidden: every directive, and every line of a branch that is not active.

What a visit to a line does depends on the machine and on the directive of the line alone; only the
truth of a condition comes from outside. A visit is therefore described by a **move**, and a move
that needs the truth of a condition is a question with two continuations.
-/

namespace LineGate

/-- **Frames**: the state of one open block. -/
structure Frame where
  /-- The index of the line that opened the block. -/
  start : Nat
  /-- The whole block lies inside an inactive branch. -/
  ignore : Bool := false
  /-- Some branch of the block has been selected already. -/
  done : Bool := false
  /-- The branch being walked through is inactive. -/
  prune : Bool := false
  /-- The opening line has been dealt with. -/
  opened : Bool := false
  deriving DecidableEq, Repr

/-- Whether the lines being walked through are kept. -/
def Frame.active (f : Frame) : Bool := !(f.prune || f.ignore)

/-- **Blocks**: where a block ends, and the indices of its hidden lines in ascending order. -/
structure Block where
  stop : Nat
  hidden : List Nat
  deriving DecidableEq, Repr

/-- **Machines**: the line to be visited, the open blocks from the innermost outward, and the hidden
lines so far, latest first. -/
structure Machine where
  index : Nat
  top : Frame
  below : List Frame := []
  hidden : List Nat := []
  deriving DecidableEq, Repr

/-- **Moves**: what a visit to a line leads to. -/
inductive Move where
  /-- The line opens a nested block, and is visited again as its opening line. -/
  | nest (next : Machine)
  /-- Nothing else happens, and the next line follows. -/
  | pass (next : Machine)
  /-- The line is kept. -/
  | keep (next : Machine)
  /-- How to go on depends on the truth of a condition. -/
  | ask (condition : String) (next : Bool → Machine)
  /-- The line gives a warning. -/
  | warn (directive : Directive) (next : Machine)
  /-- The line rejects the text. -/
  | reject (message : String)
  /-- The line closes the outermost block. -/
  | close (block : Block)

namespace Machine

/-- The machine at the opening line of a block. -/
def start (index : Nat) (ignore : Bool) : Machine := { index, top := { start := index, ignore } }

/-- Go on to the next line. -/
def advance (m : Machine) : Machine := { m with index := m.index + 1 }

/-- Mark the line as hidden; a line visited twice is marked once. -/
def hide (m : Machine) : Machine :=
  if m.hidden.head? = some m.index then m else { m with hidden := m.index :: m.hidden }

/-- Enter a nested block, which is ignored if it lies in an inactive branch. -/
def nested (m : Machine) : Machine :=
  { m with top := { start := m.index, ignore := !m.top.active }, below := m.top :: m.below }

/-- Change the innermost frame and go on to the next line. -/
def withTop (m : Machine) (f : Frame) : Machine := { m with top := f }.advance

/-- Select or prune the branch that starts here, according to its condition. -/
def settle (m : Machine) (result : Bool) : Machine :=
  m.withTop { m.top with opened := true, done := result, prune := !result }

/-- The opening line of the innermost block: its condition counts unless the block is ignored. -/
def openMove (m : Machine) (d : Directive) : Move :=
  if m.top.ignore then .pass (m.withTop { m.top with opened := true, done := false, prune := true })
  else .ask d.expression m.settle

/-- The closing line of the innermost block. -/
def closeMove (m : Machine) : Move :=
  match m.below with
  | [] => .close ⟨m.index, m.hidden.reverse⟩
  | f :: rest => .pass { m with top := f, below := rest }.advance

/-- A directive within the branches of the innermost block. -/
def branchMove (m : Machine) (d : Directive) : Move :=
  if m.top.ignore then .pass m.advance
  else match d.kind with
    | .otherwise => .pass (m.withTop { m.top with prune := m.top.done, done := true })
    | .elseIf =>
      if m.top.done then .pass (m.withTop { m.top with prune := true })
      else .ask d.expression m.settle
    | .warning => if m.top.prune then .pass m.advance else .warn d m.advance
    | .error => if m.top.prune then .pass m.advance else .reject d.expression
    | _ => .pass m.advance

/-- The move at a directive; its line is hidden already. -/
def directiveMove (m : Machine) (d : Directive) : Move :=
  match d.kind with
  | .opening => if m.top.opened then .nest m.nested else m.openMove d
  | .closing => m.closeMove
  | _ => m.branchMove d

/-- **The move** at a line, given the directive on it. Directives are hidden, and so is every line
outside of the active branch. -/
def move (m : Machine) (directive : Option Directive) : Move :=
  match directive with
  | none => if m.top.active then .keep m.advance else .pass m.hide.advance
  | some d => m.hide.directiveMove d

/-- A machine that enters a nested block has dealt with the opening line of the current one. -/
theorem opened_of_move_eq_nest {m next : Machine} {directive : Option Directive}
    (h : m.move directive = .nest next) : m.top.opened = true ∧ next.top.opened = false := by
  have top_hide : m.hide.top = m.top := by
    unfold hide
    split <;> rfl
  unfold move at h
  split at h
  · split at h <;> cases h
  · unfold directiveMove at h
    split at h
    · split at h
      · rename_i opened
        cases h
        exact ⟨top_hide ▸ opened, rfl⟩
      · unfold openMove at h
        split at h <;> cases h
    · unfold closeMove at h
      split at h <;> cases h
    · unfold branchMove at h
      split at h
      · cases h
      · split at h
        · cases h
        · split at h <;> cases h
        · split at h <;> cases h
        · split at h <;> cases h
        · cases h

end Machine

end LineGate
