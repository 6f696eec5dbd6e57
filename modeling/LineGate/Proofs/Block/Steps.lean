import LineGate.Proofs.Block.Events
import LineGate.Proofs.Block.Simulation

/-! # Walks step by step

The walk through a block is the repetition of one step, the **visit** to a line (`visit`): it either
leads to another visit, or the walk is over. This file takes the walk apart into its visits
(`run_visit`) and shows that they come to an end: a visit that leads to another one either leaves fewer
lines or enters a nested block, and that one is not entered again at the same line
(`visit_decreases`, `exists_finished`).

What a visit can do to the stack of open blocks is said once, in `Machine.turn_of_leadsTo`: it enters
a block, it leaves one, or it changes the frame of the innermost one. -/

namespace LineGate

variable {σ : Type}

/-! ## What a visit does to the open blocks -/

/-- The kinds of directives that **start a further branch** of a block. -/
def Directive.Kind.Parts (kind : Option Directive.Kind) : Prop :=
  kind = some .elseIf ∨ kind = some .otherwise

/-- **Changes of a frame** by a line of its block, given the kind of the directive on the line. -/
inductive Frame.Change (f : Frame) : Option Directive.Kind → Frame → Prop where
  /-- Lines that start no branch change nothing, and no line does in a block that is ignored. -/
  | same {kind : Option Directive.Kind} (notOpening : kind ≠ some .opening)
      (notClosing : kind ≠ some .closing)
      (quiet : f.ignore = true ∨ ¬ Directive.Kind.Parts kind) : Change f kind f
  /-- The opening line of a block that is ignored. -/
  | skip (unopened : f.opened = false) (ignored : f.ignore = true) :
      Change f (some .opening) { f with opened := true, done := false, prune := true }
  /-- The opening line of any other block, whose condition is decided. -/
  | first (unopened : f.opened = false) (live : f.ignore = false) (result : Bool) :
      Change f (some .opening) { f with opened := true, done := result, prune := !result }
  /-- A branch whose condition is decided. -/
  | decided (live : f.ignore = false) (undone : f.done = false) (result : Bool) :
      Change f (some .elseIf) { f with opened := true, done := result, prune := !result }
  /-- A branch with a condition behind the selected one. -/
  | behind (live : f.ignore = false) (done : f.done = true) :
      Change f (some .elseIf) { f with prune := true }
  /-- A branch without a condition. -/
  | otherwise (live : f.ignore = false) :
      Change f (some .otherwise) { f with prune := f.done, done := true }

namespace Frame.Change

variable {f g : Frame} {kind : Option Directive.Kind}

/-- A block starts where it started. -/
theorem start_eq (h : f.Change kind g) : g.start = f.start := by
  cases h <;> rfl

/-- A block is ignored from its opening line to its end, or not at all. -/
theorem ignore_eq (h : f.Change kind g) : g.ignore = f.ignore := by
  cases h <;> rfl

/-- If the opening line is due, it is dealt with. -/
theorem opened_eq_true (h : f.Change kind g) (due : f.opened = false → kind = some .opening) :
    g.opened = true := by
  cases h with
  | skip | first | decided => rfl
  | same notOpening | behind | otherwise =>
    by_cases opened : f.opened = true
    · exact opened
    · have opening := due (by simpa using opened)
      contradiction

/-- Behind the opening line of a block, its frame only changes at lines that neither open nor close
a block. -/
theorem ne_opening_closing (h : f.Change kind g) (opened : f.opened = true) :
    kind ≠ some .opening ∧ kind ≠ some .closing := by
  cases h with
  | same notOpening notClosing => exact ⟨notOpening, notClosing⟩
  | skip unopened | first unopened =>
    rw [unopened] at opened
    cases opened
  | decided | behind | otherwise => exact ⟨nofun, nofun⟩

end Frame.Change

namespace Machine

/-- The **frames** of a machine, from the innermost outward. -/
def frames (m : Machine) : List Frame := m.top :: m.below

/-- **Turns**: what a visit can do to the index and the frames of a machine, given the kind of the
directive on the line. -/
inductive Turn (m : Machine) : Option Directive.Kind → Machine → Prop where
  /-- A block is entered. Its opening line has still to be dealt with. -/
  | enter {next : Machine} (opened : m.top.opened = true) (index : next.index = m.index)
      (top : next.top = { start := m.index, ignore := !m.top.active })
      (below : next.below = m.frames) : Turn m (some .opening) next
  /-- The innermost block is left. -/
  | leave {next : Machine} (index : next.index = m.index + 1) (frames : next.frames = m.below) :
      Turn m (some .closing) next
  /-- The innermost block goes on. -/
  | within {kind : Option Directive.Kind} {next : Machine} (index : next.index = m.index + 1)
      (change : m.top.Change kind next.top) (below : next.below = m.below) : Turn m kind next

/-- Turns never go back. -/
theorem Turn.index_le {m next : Machine} {kind : Option Directive.Kind} (h : m.Turn kind next) :
    m.index ≤ next.index := by
  cases h with
  | enter _ index => exact Nat.le_of_eq index.symm
  | leave index | within index => exact Nat.le_of_succ_le (Nat.le_of_eq index.symm)

end Machine

/-- The machines that a move can **lead to**. -/
inductive Move.LeadsTo : Move → Machine → Prop where
  | nest (next : Machine) : LeadsTo (.nest next) next
  | pass (next : Machine) : LeadsTo (.pass next) next
  | keep (next : Machine) : LeadsTo (.keep next) next
  | ask (condition : String) (next : Bool → Machine) (result : Bool) :
      LeadsTo (.ask condition next) (next result)
  | warn (d : Directive) (next : Machine) : LeadsTo (.warn d next) next

namespace Machine

variable {m next : Machine} {d : Directive}

/-- Hiding the visited line allows the same turns. -/
theorem turn_hide {kind : Option Directive.Kind} (h : m.hide.Turn kind next) : m.Turn kind next := by
  cases h with
  | enter opened index top below =>
    rw [m.hide_top] at opened top
    rw [m.hide_index] at index top
    refine .enter opened index top ?_
    rw [below, frames, frames, m.hide_top, m.hide_below]
  | leave index frames =>
    rw [m.hide_index] at index
    rw [m.hide_below] at frames
    exact .leave index frames
  | within index change below =>
    rw [m.hide_index] at index
    rw [m.hide_top] at change
    rw [m.hide_below] at below
    exact .within index change below

/-- The move at the opening line of a block. -/
theorem turn_of_openMove (unopened : m.top.opened = false) (h : (m.openMove d).LeadsTo next) :
    m.Turn (some .opening) next := by
  unfold openMove at h
  split at h
  · rename_i ignored
    cases h
    exact .within rfl (.skip unopened ignored) rfl
  · rename_i live
    cases h with
    | ask _ _ result => exact .within rfl (.first unopened (by simpa using live) result) rfl

/-- The move at a closing line. -/
theorem turn_of_closeMove (h : m.closeMove.LeadsTo next) : m.Turn (some .closing) next := by
  unfold closeMove at h
  split at h
  · cases h
  · rename_i f rest below
    cases h
    exact .leave rfl below.symm

/-- The move at any other directive. -/
theorem turn_of_branchMove (notOpening : d.kind ≠ .opening) (notClosing : d.kind ≠ .closing)
    (h : (m.branchMove d).LeadsTo next) : m.Turn (some d.kind) next := by
  have same (quiet : m.top.ignore = true ∨ ¬ Directive.Kind.Parts (some d.kind)) :
      m.top.Change (some d.kind) m.top :=
    .same (by simpa using notOpening) (by simpa using notClosing) quiet
  unfold branchMove at h
  split at h
  · rename_i ignored
    cases h
    exact .within rfl (same (.inl ignored)) rfl
  · rename_i ignored
    have live : m.top.ignore = false := by simpa using ignored
    cases kind : d.kind with
    | opening => exact absurd kind notOpening
    | closing => exact absurd kind notClosing
    | otherwise =>
      rw [kind] at h
      cases h
      exact .within rfl (.otherwise live) rfl
    | elseIf =>
      rw [kind] at h
      dsimp only at h
      split at h
      · rename_i done
        cases h
        exact .within rfl (.behind live done) rfl
      · rename_i undone
        cases h with
        | ask _ _ result => exact .within rfl (.decided live (by simpa using undone) result) rfl
    | warning =>
      rw [kind] at h same
      dsimp only at h
      split at h <;> cases h <;> exact .within rfl (same (.inr (by simp [Directive.Kind.Parts]))) rfl
    | error =>
      rw [kind] at h same
      dsimp only at h
      split at h <;> cases h
      exact .within rfl (same (.inr (by simp [Directive.Kind.Parts]))) rfl

/-- **Every visit takes one of the turns.** -/
theorem turn_of_leadsTo {directive : Option Directive} (h : (m.move directive).LeadsTo next) :
    m.Turn (directive.map (·.kind)) next := by
  cases directive with
  | none =>
    -- Whether it is kept or hidden, an ordinary line leaves all the frames alone.
    have same : m.top.Change none m.top := by
      apply Frame.Change.same <;> simp [Directive.Kind.Parts]
    rw [move] at h
    split at h
    · cases h
      exact .within rfl same rfl
    · cases h
      exact .within (by simp [advance]) (by simpa [advance] using same) (by simp [advance])
  | some d =>
    change (m.hide.directiveMove d).LeadsTo next at h
    apply turn_hide
    unfold directiveMove at h
    rw [Option.map_some]
    split at h
    · rename_i kind
      rw [kind]
      split at h
      · rename_i opened
        cases h
        exact .enter opened rfl rfl rfl
      · rename_i unopened
        exact turn_of_openMove (by simpa using unopened) h
    · rename_i kind
      rw [kind]
      exact turn_of_closeMove h
    · rename_i notOpening notClosing
      exact turn_of_branchMove notOpening notClosing h

end Machine

namespace Block

/-! ## Visits -/

/-- What a **visit** to a line comes to. -/
inductive Visit (σ : Type) where
  /-- Another visit follows. -/
  | on (next : Machine) (progress : Progress σ)
  /-- The walk is over. -/
  | finished (result : Except Rejection Block) (progress : Progress σ)

variable (directive? : String → Option Directive) (evaluate : Evaluator σ) (lines : List String)

/-- **A visit** to the line at which a machine stands, with the progress of the walk up to there. -/
def visit (m : Machine) (p : Progress σ) : Visit σ :=
  match lines[m.index]? with
  | none => .finished (.error (unterminated m.top.start)) p
  | some line => match m.move (directive? line) with
    | .nest next => .on next p
    | .pass next => .on next p
    | .keep next => .on next { p with events := p.events.push (.included m.index) }
    | .ask condition next => match evaluate condition m.index p.state with
      | (.ok result, state) =>
        .on (next result) ⟨state, p.events.push (.evaluated condition m.index result)⟩
      | (.error r, state) => .finished (.error r) { p with state }
    | .warn d next => .on next { p with events := p.events.push (.warned (warning d m.index line)) }
    | .reject message => .finished (.error (refused message m.index)) p
    | .close block => .finished (.ok block) p

variable {directive? evaluate lines} {m next : Machine} {p q : Progress σ}

/-- A visit is followed by another one only if there is a line, and then it takes one of the turns. -/
theorem turn_of_visit (h : visit directive? evaluate lines m p = .on next q) :
    ∃ line, lines[m.index]? = some line ∧ m.Turn ((directive? line).map (·.kind)) next := by
  unfold visit at h
  split at h
  · cases h
  · rename_i line at_index
    refine ⟨line, at_index, Machine.turn_of_leadsTo ?_⟩
    cases moved : m.move (directive? line) with
    | ask condition answered =>
      rw [moved] at h
      dsimp only at h
      split at h <;> cases h
      exact .ask condition answered _
    | nest | pass | keep | warn =>
      rw [moved] at h
      cases h
      constructor
    | reject | close =>
      rw [moved] at h
      cases h

/-- **A walk begins with a visit**, and goes on with the walk from where the visit leads. -/
theorem run_visit (directive? : String → Option Directive) (evaluate : Evaluator σ)
    (lines : List String) (m : Machine) (p : Progress σ) :
    (run directive? evaluate (lines.drop m.index) m).run p =
      match visit directive? evaluate lines m p with
      | .on next q => (run directive? evaluate (lines.drop next.index) next).run q
      | .finished result q => (result, q) := by
  unfold visit
  cases at_index : lines[m.index]? with
  | none =>
    rw [List.drop_eq_nil_of_le (List.getElem?_eq_none_iff.mp at_index), run_nil]
    rfl
  | some line =>
    have first := drop_eq_cons at_index
    have permitted := m.permits_move (directive? line)
    rw [first, run_cons]
    dsimp only
    cases moved : m.move (directive? line) with
    | nest next =>
      rw [moved] at permitted
      dsimp only
      rw [show next.index = m.index from permitted, first]
    | pass next =>
      rw [moved] at permitted
      dsimp only
      rw [show next.index = m.index + 1 from permitted]
    | keep next =>
      rw [moved] at permitted
      dsimp only
      rw [show next.index = m.index + 1 from permitted.2, Walk.run_bind, Walk.run_emit]
    | ask condition next =>
      rw [moved] at permitted
      dsimp only
      rw [Walk.run_bind, Walk.run_ask]
      rcases evaluate condition m.index p.state with ⟨r | result, state⟩
      · rfl
      · dsimp only
        rw [permitted.2 result]
    | warn d next =>
      rw [moved] at permitted
      dsimp only
      rw [show next.index = m.index + 1 from permitted.2.2, Walk.run_bind, Walk.run_emit]
    | reject message => rfl
    | close block => rfl

/-! ## The end of the visits -/

/-- What is left to do for a machine: the lines from its own on, and whether it may enter a nested block
before the next line. -/
def remaining (lines : List String) (m : Machine) : Nat × Nat :=
  (lines.length - m.index, m.top.opened.toNat)

/-- **Visits make progress**: each one leaves fewer lines, or else as many with a block whose opening
line has not been dealt with, so that it cannot be entered again. -/
theorem visit_decreases (h : visit directive? evaluate lines m p = .on next q) :
    Prod.Lex (· < ·) (· < ·) (remaining lines next) (remaining lines m) := by
  obtain ⟨line, at_index, turn⟩ := turn_of_visit h
  have lt : m.index < lines.length := (List.getElem?_eq_some_iff.mp at_index).1
  have passed (index : next.index = m.index + 1) :
      Prod.Lex (· < ·) (· < ·) (remaining lines next) (remaining lines m) := by
    apply Prod.Lex.left
    rw [index]
    omega
  generalize (directive? line).map (·.kind) = kind at turn
  cases turn with
  | enter opened index top below =>
    rw [remaining, remaining, index, top, opened]
    exact .right _ Nat.zero_lt_one
  | leave index frames => exact passed index
  | within index change below => exact passed index

variable (directive? evaluate lines)

/-- **Reaching visits**: the visits that follow a given one, each with the machine and the progress that
it starts with. -/
inductive Reaches (m : Machine) (p : Progress σ) : Machine → Progress σ → Prop where
  | here : Reaches m p m p
  | on {m' next : Machine} {p' q : Progress σ} (earlier : Reaches m p m' p')
      (visited : visit directive? evaluate lines m' p' = .on next q) : Reaches m p next q

variable {directive? evaluate lines} {m' : Machine} {p' : Progress σ}

/-- What follows a later visit follows the earlier one. -/
theorem Reaches.trans (h : Reaches directive? evaluate lines m p m' p')
    (later : Reaches directive? evaluate lines m' p' next q) :
    Reaches directive? evaluate lines m p next q := by
  induction later with
  | here => exact h
  | on _ visited ih => exact ih.on visited

/-- Visits never go back. -/
theorem Reaches.index_le (h : Reaches directive? evaluate lines m p m' p') :
    m.index ≤ m'.index := by
  induction h with
  | here => exact Nat.le_refl _
  | on _ visited ih =>
    obtain ⟨_, _, turn⟩ := turn_of_visit visited
    exact Nat.le_trans ih turn.index_le

/-- **The visits come to an end**, and the last one has the outcome of the walk. -/
theorem exists_finished (directive? : String → Option Directive) (evaluate : Evaluator σ)
    (lines : List String) (m : Machine) (p : Progress σ) :
    ∃ m' p' result q, Reaches directive? evaluate lines m p m' p' ∧
      visit directive? evaluate lines m' p' = .finished result q ∧
      (run directive? evaluate (lines.drop m.index) m).run p = (result, q) := by
  have begins := run_visit directive? evaluate lines m p
  cases visited : visit directive? evaluate lines m p with
  | finished result q =>
    rw [visited] at begins
    exact ⟨m, p, result, q, .here, visited, begins⟩
  | on next q =>
    rw [visited] at begins
    obtain ⟨m', p', result, q', reached, last, runs⟩ :=
      exists_finished directive? evaluate lines next q
    exact ⟨m', p', result, q', (Reaches.here.on visited).trans reached, last, begins.trans runs⟩
termination_by remaining lines m
decreasing_by exact visit_decreases visited

end Block

end LineGate
