import LineGate.Proofs.Block.Congruence

/-! # The events of a walk

What a walk records on its way. Two facts carry everything that is said about events later on:

* **`run_appends`** — a walk through a block does the same whatever was recorded before it, and puts
  its own events behind what it finds.
* **`run_chronicle`** — its events belong to lines of the block, at most one to each line and in the
  order of the lines, and each is the event that the directive of its line calls for.

The first is a matter of the steps that a walk is made of. The second is proved along the moves of the
branch machine, by what a visit to a line can lead to at all (`Machine.permits_move`). -/

namespace LineGate

variable {σ : Type}

/-! ## What a visit can lead to -/

/-- **Moves that a visit permits**, given the directive of the visited line. Only a line that opens a
nested block is visited again. -/
def Machine.Permits (m : Machine) (directive : Option Directive) : Move → Prop
  | .nest next => next.index = m.index
  | .pass next => next.index = m.index + 1
  | .keep next => directive = none ∧ next.index = m.index + 1
  | .ask condition next =>
    (∃ d, directive = some d ∧ (d.kind = .opening ∨ d.kind = .elseIf) ∧ condition = d.expression) ∧
      ∀ result, (next result).index = m.index + 1
  | .warn d next => directive = some d ∧ d.kind = .warning ∧ next.index = m.index + 1
  | .reject message => ∃ d, directive = some d ∧ d.kind = .error ∧ message = d.expression
  | .close block => block.stop = m.index

namespace Machine

variable (m : Machine) {d : Directive}

/-- The move at the opening line of a block is permitted. -/
theorem permits_openMove (kind : d.kind = .opening) : m.Permits (some d) (m.openMove d) := by
  unfold openMove
  split
  · exact rfl
  · exact ⟨⟨d, rfl, .inl kind, rfl⟩, fun _ => rfl⟩

/-- The move at a closing line is permitted. -/
theorem permits_closeMove : m.Permits (some d) m.closeMove := by
  unfold closeMove
  split <;> exact rfl

/-- The move at any other directive is permitted. -/
theorem permits_branchMove : m.Permits (some d) (m.branchMove d) := by
  unfold branchMove
  split
  · exact rfl
  · cases kind : d.kind with
    | opening => exact rfl
    | closing => exact rfl
    | otherwise => exact rfl
    | elseIf =>
      dsimp only
      split
      · exact rfl
      · exact ⟨⟨d, rfl, .inr kind, rfl⟩, fun _ => rfl⟩
    | warning =>
      dsimp only
      split
      · exact rfl
      · exact ⟨rfl, kind, rfl⟩
    | error =>
      dsimp only
      split
      · exact rfl
      · exact ⟨d, rfl, kind, rfl⟩

/-- Hiding the visited line permits the same moves. -/
theorem permits_hide {directive : Option Directive} {move : Move} :
    m.hide.Permits directive move ↔ m.Permits directive move := by
  cases move <;> simp only [Permits, hide_index]

/-- **Every visit leads to a permitted move.** -/
theorem permits_move (directive : Option Directive) : m.Permits directive (m.move directive) := by
  unfold move
  split
  · split
    · exact ⟨rfl, rfl⟩
    · rw [← permits_hide]
      exact rfl
  · rename_i d
    rw [← permits_hide]
    unfold directiveMove
    split
    · rename_i kind
      split
      · exact rfl
      · exact m.hide.permits_openMove kind
    · exact m.hide.permits_closeMove
    · exact m.hide.permits_branchMove

end Machine

/-! ## Earlier events -/

namespace Walk

variable {α β : Type}

/-- **Walks that only add events**: such a walk does the same whatever was recorded before it, and
puts its own events behind what it finds. -/
def Appends (w : Walk σ α) : Prop :=
  ∀ p, w.run p =
    ((w.run { state := p.state }).1,
      ⟨(w.run { state := p.state }).2.state, p.events ++ (w.run { state := p.state }).2.events⟩)

/-- A walk that returns adds nothing. -/
theorem appends_pure (a : α) : Appends (pure a : Walk σ α) := by
  intro p
  change ((.ok a, p) : Except Rejection α × Progress σ) = (.ok a, ⟨p.state, p.events ++ #[]⟩)
  rw [Array.append_empty]

/-- A walk that rejects adds nothing. -/
theorem appends_throw (r : Rejection) : Appends (throw r : Walk σ α) := by
  intro p
  change ((.error r, p) : Except Rejection α × Progress σ) = (.error r, ⟨p.state, p.events ++ #[]⟩)
  rw [Array.append_empty]

/-- Recording an event adds that event. -/
theorem appends_emit (e : Event) : Appends (emit e : Walk σ Unit) := by
  intro p
  change ((.ok (), { p with events := p.events.push e }) : Except Rejection Unit × Progress σ) =
    (.ok (), ⟨p.state, p.events ++ #[e]⟩)
  rw [Array.push_eq_append]

/-- A question adds the event of its answer. -/
theorem appends_ask (evaluate : Evaluator σ) (condition : String) (line : Nat) :
    Appends (ask evaluate condition line) := by
  intro p
  rw [run_ask, run_ask]
  rcases evaluate condition line p.state with ⟨r | result, state⟩
  · simp only [Array.append_empty]
  · simp only [Array.push_eq_append, Array.empty_append]

/-- A walk in two parts adds the events of both. -/
theorem Appends.bind {w : Walk σ α} {k : α → Walk σ β} (h : Appends w)
    (hk : ∀ a, Appends (k a)) : Appends (w >>= k) := by
  intro p
  rw [run_bind, run_bind, h p]
  rcases w.run { state := p.state } with ⟨r | a, q⟩
  · rfl
  · dsimp only
    rw [hk a q, hk a ⟨q.state, p.events ++ q.events⟩, Array.append_assoc]

/-- What a walk that only adds events finds is still there when it is over. -/
theorem Appends.prefix_events {w : Walk σ α} (h : Appends w) (p : Progress σ) :
    p.events.toList <+: (w.run p).2.events.toList := by
  rw [h p, Array.toList_append]
  exact List.prefix_append _ _

/-- To add events only is a congruence. -/
theorem congruence_appends (evaluate : Evaluator σ) :
    Congruence (fun w _ => Appends w) evaluate evaluate where
  of_pure a := appends_pure a
  of_throw r := appends_throw r
  of_emit e _ := appends_emit e
  of_ask condition line := appends_ask evaluate condition line
  of_bind h hk := h.bind hk

end Walk

/-- **A walk through a block only adds events.** -/
theorem Block.run_appends (directive? : String → Option Directive) (evaluate : Evaluator σ)
    (lines : List String) (m : Machine) : (run directive? evaluate lines m).Appends :=
  run_related (Walk.congruence_appends evaluate) directive? lines m

/-! ## The order of events -/

/-- **Events of lines**: the event belongs to line `i` of the lines, and the directive of that line
calls for it. -/
inductive Event.At (directive? : String → Option Directive) (lines : List String) :
    Event → Nat → Prop where
  /-- A line without directive can be kept. -/
  | included {i : Nat} {line : String} (at_i : lines[i]? = some line)
      (found : directive? line = none) : At directive? lines (.included i) i
  /-- A line that opens a block or a branch can have its condition decided. -/
  | evaluated {i : Nat} {line : String} {d : Directive} {result : Bool}
      (at_i : lines[i]? = some line) (found : directive? line = some d)
      (kind : d.kind = .opening ∨ d.kind = .elseIf) :
      At directive? lines (.evaluated d.expression i result) i
  /-- A warning directive can give its warning. -/
  | warned {i : Nat} {line : String} {d : Directive} (at_i : lines[i]? = some line)
      (found : directive? line = some d) (kind : d.kind = .warning) :
      At directive? lines (.warned (Block.warning d i line)) i

/-- **Chronicles**: events of the lines from `start` on and before `stop`, in the order of the lines
and at most one for each. -/
inductive Chronicle (directive? : String → Option Directive) (lines : List String) (stop : Nat) :
    Nat → List Event → Prop where
  | nil {start : Nat} : Chronicle directive? lines stop start []
  | cons {start i : Nat} {e : Event} {events : List Event} (start_le : start ≤ i) (lt : i < stop)
      (at_i : e.At directive? lines i) (rest : Chronicle directive? lines stop (i + 1) events) :
      Chronicle directive? lines stop start (e :: events)

namespace Chronicle

variable {directive? : String → Option Directive} {lines : List String}
variable {start start' stop stop' : Nat} {events more : List Event}

/-- A chronicle may be said to start earlier and to stop later. -/
theorem widen (h : Chronicle directive? lines stop start events) (start_le : start' ≤ start)
    (le_stop : stop ≤ stop') : Chronicle directive? lines stop' start' events := by
  induction h generalizing start' with
  | nil => exact .nil
  | cons le lt at_i rest ih =>
    exact .cons (Nat.le_trans start_le le) (Nat.lt_of_lt_of_le lt le_stop) at_i
      (ih (Nat.le_refl _))

/-- A chronicle goes on with one of later lines. -/
theorem append (h : Chronicle directive? lines stop start events)
    (later : Chronicle directive? lines stop' start' more) (start_le : start ≤ start')
    (stop_le : stop ≤ start') (le_stop : stop ≤ stop') :
    Chronicle directive? lines stop' start (events ++ more) := by
  induction h with
  | nil => exact later.widen start_le (Nat.le_refl _)
  | cons le lt at_i rest ih =>
    exact .cons le (Nat.lt_of_lt_of_le lt le_stop) at_i (ih (by omega))

/-- Each event of a chronicle belongs to one of its lines. -/
theorem at_of_mem (h : Chronicle directive? lines stop start events) {e : Event}
    (mem : e ∈ events) : ∃ i, start ≤ i ∧ i < stop ∧ e.At directive? lines i := by
  induction h with
  | nil => simp at mem
  | cons le lt at_i rest ih =>
    rcases List.mem_cons.mp mem with rfl | later
    · exact ⟨_, le, lt, at_i⟩
    · obtain ⟨j, ge, lt', at_j⟩ := ih later
      exact ⟨j, by omega, lt', at_j⟩

/-- **The events of a chronicle ascend**: of any two, the later one belongs to a later line. -/
theorem pairwise (h : Chronicle directive? lines stop start events) :
    events.Pairwise fun e e' =>
      ∃ i j, i < j ∧ e.At directive? lines i ∧ e'.At directive? lines j := by
  induction h with
  | nil => exact .nil
  | cons le lt at_i rest ih =>
    refine .cons (fun e' mem => ?_) ih
    obtain ⟨j, ge, -, at_j⟩ := rest.at_of_mem mem
    exact ⟨_, j, ge, at_i, at_j⟩

/-- What is read off the events of a chronicle ascends with them, if it tells their lines. -/
theorem pairwise_filterMap {β : Type} {read : Event → Option β} {lineOf : β → Nat}
    (h : Chronicle directive? lines stop start events)
    (line_eq : ∀ e i b, e.At directive? lines i → read e = some b → lineOf b = i) :
    (events.filterMap read).Pairwise fun a b => lineOf a < lineOf b := by
  refine List.pairwise_filterMap.mpr (h.pairwise.imp ?_)
  rintro e e' ⟨i, j, lt, at_i, at_j⟩ a read_a b read_b
  rwa [line_eq e i a at_i read_a, line_eq e' j b at_j read_b]

end Chronicle

namespace Walk

variable {α β : Type}

/-- Whatever the progress of a walk was, what it adds to the events and its result satisfy `post`. -/
def Tells (w : Walk σ α) (post : Except Rejection α → List Event → Prop) : Prop :=
  ∀ p, ∃ told, (w.run p).2.events.toList = p.events.toList ++ told ∧ post (w.run p).1 told

/-- A walk that returns tells nothing. -/
theorem tells_pure {post : Except Rejection α → List Event → Prop} {a : α} (h : post (.ok a) []) :
    Tells (pure a : Walk σ α) post :=
  fun _ => ⟨[], (List.append_nil _).symm, h⟩

/-- A walk that rejects tells nothing. -/
theorem tells_throw {post : Except Rejection α → List Event → Prop} {r : Rejection}
    (h : post (.error r) []) : Tells (throw r : Walk σ α) post :=
  fun _ => ⟨[], (List.append_nil _).symm, h⟩

/-- A walk that records an event tells it before the others. -/
theorem tells_emit_bind {post : Except Rejection α → List Event → Prop} {e : Event}
    {k : Unit → Walk σ α} (h : Tells (k ()) fun result told => post result (e :: told)) :
    Tells (emit e >>= k) post := by
  intro p
  obtain ⟨told, eq, holds⟩ := h { p with events := p.events.push e }
  refine ⟨e :: told, eq.trans ?_, holds⟩
  rw [Array.toList_push, List.append_assoc, List.singleton_append]

/-- A walk that asks tells the answer before the others. -/
theorem tells_ask_bind {post : Except Rejection α → List Event → Prop} {evaluate : Evaluator σ}
    {condition : String} {line : Nat} {k : Bool → Walk σ α}
    (answered : ∀ result, Tells (k result) fun outcome told =>
      post outcome (.evaluated condition line result :: told))
    (rejected : ∀ r, post (.error r) []) : Tells (ask evaluate condition line >>= k) post := by
  intro p
  rw [run_bind, run_ask]
  rcases evaluate condition line p.state with ⟨r | result, state⟩
  · exact ⟨[], (List.append_nil _).symm, rejected r⟩
  · obtain ⟨told, eq, holds⟩ :=
      answered result ⟨state, p.events.push (.evaluated condition line result)⟩
    refine ⟨_ :: told, eq.trans ?_, holds⟩
    rw [Array.toList_push, List.append_assoc, List.singleton_append]

/-- A weaker property is satisfied as well. -/
theorem Tells.imp {post post' : Except Rejection α → List Event → Prop} {w : Walk σ α}
    (h : Tells w post) (weaker : ∀ result told, post result told → post' result told) :
    Tells w post' := by
  intro p
  obtain ⟨told, eq, holds⟩ := h p
  exact ⟨told, eq, weaker _ _ holds⟩

end Walk

namespace Block

/-- **What the walk of a machine tells**: a chronicle from its line on, which stops at the end of the
block if there is one. -/
def Chronicled (directive? : String → Option Directive) (lines : List String) (index : Nat)
    (result : Except Rejection Block) (events : List Event) : Prop :=
  ∃ stop, index ≤ stop ∧ Chronicle directive? lines stop index events ∧
    ∀ block, result = .ok block → block.stop = stop

variable {directive? : String → Option Directive} {lines : List String} {index : Nat}
variable {result : Except Rejection Block} {events : List Event}

/-- A line without an event leads to the chronicle of the lines behind it. -/
theorem Chronicled.pass (h : Chronicled directive? lines (index + 1) result events) :
    Chronicled directive? lines index result events := by
  obtain ⟨stop, le, told, ends⟩ := h
  exact ⟨stop, by omega, told.widen (Nat.le_succ index) (Nat.le_refl _), ends⟩

/-- The event of a line comes before those of the lines behind it. -/
theorem Chronicled.cons {e : Event} (at_index : e.At directive? lines index)
    (h : Chronicled directive? lines (index + 1) result events) :
    Chronicled directive? lines index result (e :: events) := by
  obtain ⟨stop, le, told, ends⟩ := h
  exact ⟨stop, by omega, .cons (Nat.le_refl _) (by omega) at_index told, ends⟩

/-- A walk that is over at a line tells nothing more. -/
theorem Chronicled.over (h : ∀ block, result = .ok block → block.stop = index) :
    Chronicled directive? lines index result [] :=
  ⟨index, Nat.le_refl _, .nil, h⟩

/-- **The events of a walk are a chronicle** of the lines that it passes. -/
theorem run_chronicle (evaluate : Evaluator σ) (m : Machine) (rest : List String)
    (h : rest = lines.drop m.index) :
    (run directive? evaluate rest m).Tells (Chronicled directive? lines m.index) := by
  -- Along the moves: each takes its line off the lines that are left, and tells what it permits.
  fun_induction run directive? evaluate rest m with
  | case1 m => exact Walk.tells_throw (.over fun _ eq => by cases eq)
  | case2 line rest m next move opened ih =>
    -- The line is visited again, and nothing has been told of it yet.
    have same : next.index = m.index := by
      have permitted := m.permits_move (directive? line)
      rwa [move] at permitted
    rw [← same] at h ⊢
    exact ih h
  | case3 line rest m next move ih =>
    have permitted := m.permits_move (directive? line)
    rw [move] at permitted
    have index : next.index = m.index + 1 := permitted
    rw [index] at ih
    exact (ih (tail_of_drop_eq h).2).imp fun _ _ => .pass
  | case4 line rest m next move ih =>
    obtain ⟨at_index, tail⟩ := tail_of_drop_eq h
    obtain ⟨found, index⟩ : directive? line = none ∧ next.index = m.index + 1 := by
      have permitted := m.permits_move (directive? line)
      rwa [move] at permitted
    rw [index] at ih
    exact Walk.tells_emit_bind ((ih tail).imp fun _ _ => .cons (.included at_index found))
  | case5 line rest m condition next move ih =>
    obtain ⟨at_index, tail⟩ := tail_of_drop_eq h
    have permitted := m.permits_move (directive? line)
    rw [move] at permitted
    obtain ⟨⟨d, found, kind, rfl⟩, index⟩ := permitted
    refine Walk.tells_ask_bind (fun result => ?_) fun r => .over fun _ eq => by cases eq
    have later := ih result
    rw [index] at later
    exact (later tail).imp fun _ _ => .cons (.evaluated at_index found kind)
  | case6 line rest m d next move ih =>
    obtain ⟨at_index, tail⟩ := tail_of_drop_eq h
    have permitted := m.permits_move (directive? line)
    rw [move] at permitted
    obtain ⟨found, kind, index⟩ := permitted
    rw [index] at ih
    exact Walk.tells_emit_bind ((ih tail).imp fun _ _ => .cons (.warned at_index found kind))
  | case7 line rest m message move => exact Walk.tells_throw (.over fun _ eq => by cases eq)
  | case8 line rest m block move =>
    have permitted := m.permits_move (directive? line)
    rw [move] at permitted
    refine Walk.tells_pure (.over fun closed eq => ?_)
    cases eq
    exact permitted

end Block

end LineGate
