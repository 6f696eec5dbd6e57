import LineGate.Proofs.Block.Events

/-! # Blocks at other places

A walk through a block depends neither on where the block stands nor on what comes behind it.

* **Shifting** the first line by `k` shifts the whole walk: the same moves are made, and every index
  that turns up in the result, in an event or in a rejection is larger by `k` (`run_shifts`). All this
  takes of the evaluator is that it answers alike on every line.
* **Appending** lines at the end changes nothing for a walk that is over before (`run_append`). Only
  where the lines run out inside a block can it go on. -/

namespace LineGate

variable {σ : Type}

/-! ## Shifted data -/

/-- A diagnostic `k` lines further down. -/
def Diagnostic.shift (k : Nat) (d : Diagnostic) : Diagnostic := { d with line := d.line + k }

/-- A location `k` lines further down. -/
def Location.shift (k : Nat) (l : Location) : Location := { l with line := l.line + k }

/-- A rejection `k` lines further down. The message for an unterminated block names the line, and no
other message does. -/
def Rejection.shift (k : Nat) (r : Rejection) : Rejection where
  kind := r.kind
  message := match r.kind, r.line with
    | .unterminated, some line => (Block.unterminated (line.toNat + k)).message
    | _, _ => r.message
  line := r.line.map (· + k)
  location := r.location.map (·.shift k)

/-- Apart from unterminated blocks the message stays the same. -/
theorem Rejection.message_shift (k : Nat) {r : Rejection} (h : r.kind ≠ .unterminated) :
    (r.shift k).message = r.message := by
  unfold shift
  dsimp only
  split
  · rename_i kind _
    exact absurd kind h
  · rfl

/-- An event `k` lines further down. -/
def Event.shift (k : Nat) : Event → Event
  | .included line => .included (line + k)
  | .evaluated condition line result => .evaluated condition (line + k) result
  | .warned d => .warned (d.shift k)

/-- The frame of a block `k` lines further down. -/
def Frame.shift (k : Nat) (f : Frame) : Frame := { f with start := f.start + k }

/-- A block `k` lines further down. -/
def Block.shift (k : Nat) (b : Block) : Block := ⟨b.stop + k, b.hidden.map (· + k)⟩

/-- A machine `k` lines further down. -/
def Machine.shift (k : Nat) (m : Machine) : Machine :=
  ⟨m.index + k, m.top.shift k, m.below.map (·.shift k), m.hidden.map (· + k)⟩

/-- A move `k` lines further down. -/
def Move.shift (k : Nat) : Move → Move
  | .nest next => .nest (next.shift k)
  | .pass next => .pass (next.shift k)
  | .keep next => .keep (next.shift k)
  | .ask condition next => .ask condition fun result => (next result).shift k
  | .warn d next => .warn d (next.shift k)
  | .reject message => .reject message
  | .close block => .close (block.shift k)

/-- Progress with all its events `k` lines further down. -/
def Progress.shift (k : Nat) (p : Progress σ) : Progress σ := ⟨p.state, p.events.map (·.shift k)⟩

/-- Before the first event there is nothing to shift. -/
theorem Progress.shift_start (k : Nat) (state : σ) :
    Progress.shift k { state } = ({ state } : Progress σ) := by
  rw [shift, Array.map_empty]

/-! ## Shifted moves -/

namespace Machine

variable (k : Nat) (m : Machine)

/-- The next line is shifted as the line is. -/
theorem advance_shift : (m.shift k).advance = m.advance.shift k := by
  unfold advance shift
  rw [Nat.add_right_comm]

/-- So is the next line with another frame on top. -/
theorem withTop_shift {f f' : Frame} (h : f' = f.shift k) :
    (m.shift k).withTop f' = (m.withTop f).shift k := by
  rw [h]
  exact advance_shift k { m with top := f }

/-- A condition settles a branch wherever it stands. -/
theorem settle_shift (result : Bool) : (m.shift k).settle result = (m.settle result).shift k :=
  withTop_shift k m rfl

/-- A line is hidden where it stands. -/
theorem hide_shift : (m.shift k).hide = m.hide.shift k := by
  have seen : (m.shift k).hidden.head? = some (m.shift k).index ↔
      m.hidden.head? = some m.index := by
    unfold shift
    cases m.hidden with
    | nil => simp
    | cons i rest => simp
  unfold hide
  by_cases h : m.hidden.head? = some m.index
  · rw [if_pos h, if_pos (seen.mpr h)]
  · rw [if_neg h, if_neg (fun h' => h (seen.mp h'))]
    rfl

/-- The move at the opening line of a block. -/
theorem openMove_shift (d : Directive) : (m.shift k).openMove d = (m.openMove d).shift k := by
  unfold openMove
  change (if m.top.ignore then _ else _) = _
  split
  · exact congrArg Move.pass (withTop_shift k m rfl)
  · exact congrArg (Move.ask d.expression) (funext (settle_shift k m))

/-- The move at a closing line. -/
theorem closeMove_shift : (m.shift k).closeMove = m.closeMove.shift k := by
  obtain ⟨index, top, below, hidden⟩ := m
  cases below with
  | nil =>
    change Move.close ⟨index + k, (hidden.map (· + k)).reverse⟩ =
      Move.close ⟨index + k, hidden.reverse.map (· + k)⟩
    rw [List.map_reverse]
  | cons f rest => exact congrArg Move.pass (advance_shift k ⟨index, f, rest, hidden⟩)

/-- The move at any other directive. -/
theorem branchMove_shift (d : Directive) : (m.shift k).branchMove d = (m.branchMove d).shift k := by
  have passes : Move.pass (m.shift k).advance = (Move.pass m.advance).shift k :=
    congrArg Move.pass (advance_shift k m)
  unfold branchMove
  change (if m.top.ignore then _ else _) = _
  split
  · exact passes
  · cases d.kind with
    | opening => exact passes
    | closing => exact passes
    | otherwise => exact congrArg Move.pass (withTop_shift k m rfl)
    | elseIf =>
      change (if m.top.done then _ else _) = _
      dsimp only
      split
      · exact congrArg Move.pass (withTop_shift k m rfl)
      · exact congrArg (Move.ask d.expression) (funext (settle_shift k m))
    | warning =>
      change (if m.top.prune then _ else _) = _
      dsimp only
      split
      · exact passes
      · exact congrArg (Move.warn d) (advance_shift k m)
    | error =>
      change (if m.top.prune then _ else _) = _
      dsimp only
      split
      · exact passes
      · rfl

/-- **A shifted machine makes the shifted move.** -/
theorem move_shift (directive : Option Directive) :
    (m.shift k).move directive = (m.move directive).shift k := by
  unfold move
  cases directive with
  | none =>
    change (if m.top.active then _ else _) = _
    dsimp only
    split
    · exact congrArg Move.keep (advance_shift k m)
    · rw [hide_shift, advance_shift]
      rfl
  | some d =>
    dsimp only
    rw [hide_shift]
    unfold directiveMove
    cases d.kind with
    | opening =>
      change (if m.hide.top.opened then _ else _) = _
      dsimp only
      split
      · rfl
      · exact openMove_shift k m.hide d
    | closing => exact closeMove_shift k m.hide
    | elseIf => exact branchMove_shift k m.hide d
    | otherwise => exact branchMove_shift k m.hide d
    | warning => exact branchMove_shift k m.hide d
    | error => exact branchMove_shift k m.hide d

end Machine

/-! ## Shifted walks -/

/-- Evaluators that **answer alike on every line**, apart from the line that a rejection names. -/
def Evaluator.Uniform (evaluate : Evaluator σ) : Prop :=
  ∀ k condition line state,
    evaluate condition (line + k) state =
      ((evaluate condition line state).1.mapError (·.shift k), (evaluate condition line state).2)

/-- The evaluator of conditions answers alike on every line. -/
theorem Condition.evaluator_uniform (fns : Functions σ) (env : Environment) :
    (evaluator fns env).Uniform := by
  intro k condition line state
  unfold evaluator holds
  cases Expr.parse condition with
  | error fault => rfl
  | ok e =>
    dsimp only
    rcases (e.eval fns env).run state with ⟨fault | v, next⟩ <;> rfl

namespace Walk

variable {α β α' β' : Type}

/-- **Shifted walks**: the second walk does what the first one does, `k` lines further down; `f` says
what becomes of a value that is returned. -/
def Shifts (k : Nat) (f : α → α') (w : Walk σ α) (w' : Walk σ α') : Prop :=
  ∀ p, w'.run (p.shift k) = (((w.run p).1.map f).mapError (·.shift k), (w.run p).2.shift k)

variable {k : Nat} {f : α → α'} {g : β → β'}

/-- A value that is returned. -/
theorem shifts_pure (a : α) : Shifts k f (pure a : Walk σ α) (pure (f a)) := fun _ => rfl

/-- A rejection. -/
theorem shifts_throw (r : Rejection) :
    Shifts k f (throw r : Walk σ α) (throw (r.shift k)) := fun _ => rfl

/-- An event. -/
theorem shifts_emit (e : Event) : Shifts k id (emit e : Walk σ Unit) (emit (e.shift k)) := by
  intro p
  rw [run_emit, run_emit]
  simp only [Progress.shift, Array.map_push]
  rfl

/-- A question. -/
theorem shifts_ask {evaluate : Evaluator σ} (uniform : evaluate.Uniform) (condition : String)
    (line : Nat) : Shifts k id (ask evaluate condition line) (ask evaluate condition (line + k)) := by
  intro p
  have asked : evaluate condition (line + k) (p.shift k).state = _ := uniform k condition line p.state
  rw [run_ask, run_ask, asked]
  rcases evaluate condition line p.state with ⟨r | result, state⟩
  · rfl
  · simp only [Progress.shift, Array.map_push]
    rfl

/-- Walks in two parts are shifted part by part. -/
theorem Shifts.bind {w : Walk σ α} {w' : Walk σ α'} {next : α → Walk σ β}
    {next' : α' → Walk σ β'} (h : Shifts k f w w') (hn : ∀ a, Shifts k g (next a) (next' (f a))) :
    Shifts k g (w >>= next) (w' >>= next') := by
  intro p
  rw [run_bind, run_bind, h p]
  rcases w.run p with ⟨r | a, q⟩
  · rfl
  · exact hn a q

end Walk

namespace Block

/-- The warning of a line further down. -/
theorem warning_shift (k : Nat) (d : Directive) (index : Nat) (line : String) :
    (warning d index line).shift k = warning d (index + k) line := by
  unfold warning Diagnostic.shift
  rw [Int.add_right_comm]
  rfl

/-- **A walk through a block is shifted with its first line.** -/
theorem run_shifts (directive? : String → Option Directive) {evaluate : Evaluator σ}
    (uniform : evaluate.Uniform) (k : Nat) (lines : List String) (m : Machine) :
    Walk.Shifts k (Block.shift k) (run directive? evaluate lines m)
      (run directive? evaluate lines (m.shift k)) := by
  -- The shifted machine makes the shifted moves, so that the two walks stay side by side.
  fun_induction run directive? evaluate lines m with
  | case1 m =>
    rw [run_nil]
    exact Walk.shifts_throw _
  | case2 line rest m next move opened ih =>
    rw [run_cons directive? evaluate rest (m.shift k), m.move_shift, move]
    exact ih
  | case3 line rest m next move ih =>
    rw [run_cons, m.move_shift, move]
    exact ih
  | case4 line rest m next move ih =>
    rw [run_cons, m.move_shift, move]
    exact (Walk.shifts_emit _).bind fun _ => ih
  | case5 line rest m condition next move ih =>
    rw [run_cons, m.move_shift, move]
    exact (Walk.shifts_ask uniform condition m.index).bind ih
  | case6 line rest m d next move ih =>
    rw [run_cons, m.move_shift, move]
    have emitted : Walk.Shifts k id (Walk.emit (.warned (warning d m.index line)) : Walk σ Unit)
        (Walk.emit (.warned (warning d (m.index + k) line))) := by
      rw [← warning_shift]
      exact Walk.shifts_emit _
    exact emitted.bind fun _ => ih
  | case7 line rest m message move =>
    rw [run_cons, m.move_shift, move]
    exact Walk.shifts_throw _
  | case8 line rest m block move =>
    rw [run_cons, m.move_shift, move]
    exact Walk.shifts_pure _

end Block

/-! ## Lines at the end -/

/-- **Settled results**: it was not for want of lines that the text was rejected. -/
def Settled {α : Type} (result : Except Rejection α) : Prop :=
  ∀ r, result = .error r → r.kind ≠ .unterminated

namespace Walk

variable {α β : Type}

/-- **Walks that go on where another one runs out of lines**, and are the same if it does not. -/
def Extends (w w' : Walk σ α) : Prop :=
  ∀ p, Settled (w.run p).1 → w'.run p = w.run p

/-- A walk need not go on. -/
theorem Extends.refl (w : Walk σ α) : Extends w w := fun _ _ => rfl

/-- The first part of a walk is settled if the whole is. -/
theorem settled_of_bind {w : Walk σ α} {k : α → Walk σ β} {p : Progress σ}
    (h : Settled ((w >>= k).run p).1) : Settled (w.run p).1 := by
  intro r eq
  refine h r ?_
  rw [run_bind]
  rcases result : w.run p with ⟨r' | a, q⟩
  · rw [result] at eq
    exact congrArg Except.error (Except.error.inj eq)
  · rw [result] at eq
    cases eq

/-- Walks in two parts can go on in either part. -/
theorem Extends.bind {w w' : Walk σ α} {k k' : α → Walk σ β} (h : Extends w w')
    (hk : ∀ a, Extends (k a) (k' a)) : Extends (w >>= k) (w' >>= k') := by
  intro p settled
  have first := h p (settled_of_bind settled)
  rw [run_bind] at settled
  rw [run_bind, run_bind, first]
  rcases result : w.run p with ⟨r | a, q⟩
  · rfl
  · rw [result] at settled
    exact hk a q settled

end Walk

/-- **More lines at the end** only matter to a walk that runs out of lines. -/
theorem Block.run_append (directive? : String → Option Directive) (evaluate : Evaluator σ)
    (more lines : List String) (m : Machine) :
    Walk.Extends (run directive? evaluate lines m) (run directive? evaluate (lines ++ more) m) := by
  fun_induction run directive? evaluate lines m with
  | case1 m =>
    -- Here the walk would go on with more lines, but it is not settled.
    intro p settled
    exact absurd rfl (settled _ rfl)
  | case2 line rest m next move opened ih =>
    rw [List.cons_append, run_cons directive? evaluate (rest ++ more) m, move]
    exact ih
  | case3 line rest m next move ih =>
    rw [List.cons_append, run_cons, move]
    exact ih
  | case4 line rest m next move ih =>
    rw [List.cons_append, run_cons, move]
    exact (Walk.Extends.refl _).bind fun _ => ih
  | case5 line rest m condition next move ih =>
    rw [List.cons_append, run_cons, move]
    exact (Walk.Extends.refl _).bind ih
  | case6 line rest m d next move ih =>
    rw [List.cons_append, run_cons, move]
    exact (Walk.Extends.refl _).bind fun _ => ih
  | case7 line rest m message move =>
    rw [List.cons_append, run_cons, move]
    exact Walk.Extends.refl _
  | case8 line rest m block move =>
    rw [List.cons_append, run_cons, move]
    exact Walk.Extends.refl _

end LineGate
