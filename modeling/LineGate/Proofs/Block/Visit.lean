import LineGate.Proofs.Block.Nesting

/-! # Visits to the lines of a block

What the branch machine does at a line, kind by kind, for a machine inside a block: each line is
passed once, an opening line with the visit that enters its block and the visit that opens it taken
together. Every proof about whole walks goes through these equations.

The last part says **how walks can end**, whatever the evaluator answers (`run_ending`): at the line
that closes the outermost block, with a rejection by a condition or by an error directive of one of
the lines, or at the end of the lines with the innermost open block unterminated. -/

namespace LineGate

variable {σ : Type}

namespace Walk

variable {α β : Type}

/-! ## Laws of walks -/

/-- A walk in two parts goes on with its second part where the first one ended. -/
theorem run_bind (w : Walk σ α) (k : α → Walk σ β) (p : Progress σ) :
    (w >>= k).run p =
      match w.run p with
      | (.ok a, p') => (k a).run p'
      | (.error r, p') => (.error r, p') := by
  change (ExceptT.bindCont k (w.run p).1 : StateM (Progress σ) _) (w.run p).2 = _
  rcases w.run p with ⟨_ | _, p'⟩ <;> rfl

/-- An event is recorded behind those before it. -/
theorem run_emit (e : Event) (p : Progress σ) :
    (emit e).run p = (.ok (), { p with events := p.events.push e }) :=
  rfl

/-- A question is answered by the evaluator, which may reject the text. -/
theorem run_ask (evaluate : Evaluator σ) (condition : String) (line : Nat) (p : Progress σ) :
    (ask evaluate condition line).run p =
      match evaluate condition line p.state with
      | (.ok result, state) =>
        (.ok result, ⟨state, p.events.push (.evaluated condition line result)⟩)
      | (.error rejection, state) => (.error rejection, { p with state }) := by
  change (match evaluate condition line p.state with
    | (.ok result, state) => _
    | (.error rejection, state) => _ : Walk σ Bool).run p = _
  rcases evaluate condition line p.state with ⟨_ | _, state⟩ <;> rfl

/-- Whatever the progress of a walk was, its result satisfies `post`. -/
def Yields (w : Walk σ α) (post : Except Rejection α → Prop) : Prop :=
  ∀ p, post (w.run p).1

/-- A walk that returns yields its value. -/
theorem yields_pure {post : Except Rejection α → Prop} {a : α} (h : post (.ok a)) :
    Yields (pure a : Walk σ α) post :=
  fun _ => h

/-- A walk that rejects yields its rejection. -/
theorem yields_throw {post : Except Rejection α → Prop} {r : Rejection} (h : post (.error r)) :
    Yields (throw r : Walk σ α) post :=
  fun _ => h

/-- A walk in two parts yields what its second part yields, or the rejection of the first one. -/
theorem yields_bind {first : Except Rejection α → Prop} {post : Except Rejection β → Prop}
    {w : Walk σ α} {k : α → Walk σ β} (h : Yields w first)
    (returned : ∀ a, first (.ok a) → Yields (k a) post)
    (rejected : ∀ r, first (.error r) → post (.error r)) : Yields (w >>= k) post := by
  intro p
  have result := h p
  rw [run_bind]
  generalize w.run p = outcome at result ⊢
  obtain ⟨r | a, p'⟩ := outcome
  · exact rejected r result
  · exact returned a result p'

/-- Recording an event does not touch the result. -/
theorem yields_emit_bind {post : Except Rejection α → Prop} {e : Event} {k : Unit → Walk σ α}
    (h : Yields (k ()) post) : Yields (emit e >>= k) post := by
  intro p
  exact h { p with events := p.events.push e }

/-- A question yields what either answer leads to, or a rejection by the evaluator. -/
theorem yields_ask_bind {post : Except Rejection α → Prop} {evaluate : Evaluator σ}
    {condition : String} {line : Nat} {k : Bool → Walk σ α}
    (answered : ∀ result, Yields (k result) post)
    (rejected : ∀ state r, (evaluate condition line state).1 = .error r → post (.error r)) :
    Yields (ask evaluate condition line >>= k) post := by
  intro p
  rw [run_bind, run_ask]
  rcases h : evaluate condition line p.state with ⟨r | result, state⟩
  · exact rejected p.state r (by rw [h])
  · exact answered result _

/-- A weaker property is satisfied as well. -/
theorem Yields.imp {post post' : Except Rejection α → Prop} {w : Walk σ α} (h : Yields w post)
    (weaker : ∀ result, post result → post' result) : Yields w post' :=
  fun p => weaker _ (h p)

end Walk

/-! ## Frames and machines inside a block -/

/-- The frame of a block in an inactive branch, behind its opening line. -/
def Frame.skipped (start : Nat) : Frame :=
  { start, ignore := true, prune := true, opened := true }

/-- The frame of a block whose first condition was decided, behind its opening line. -/
def Frame.decided (start : Nat) (result : Bool) : Frame :=
  { start, done := result, prune := !result, opened := true }

@[simp] theorem Frame.active_skipped (start : Nat) : (Frame.skipped start).active = false := rfl

@[simp] theorem Frame.ignore_skipped (start : Nat) : (Frame.skipped start).ignore = true := rfl

@[simp] theorem Frame.done_skipped (start : Nat) : (Frame.skipped start).done = false := rfl

@[simp] theorem Frame.active_decided (start : Nat) (result : Bool) :
    (Frame.decided start result).active = result := by
  cases result <;> rfl

@[simp] theorem Frame.ignore_decided (start : Nat) (result : Bool) :
    (Frame.decided start result).ignore = false := rfl

@[simp] theorem Frame.done_decided (start : Nat) (result : Bool) :
    (Frame.decided start result).done = result := rfl

namespace Machine

@[simp] theorem hide_index (m : Machine) : m.hide.index = m.index := by
  unfold hide
  split <;> rfl

@[simp] theorem hide_top (m : Machine) : m.hide.top = m.top := by
  unfold hide
  split <;> rfl

@[simp] theorem hide_below (m : Machine) : m.hide.below = m.below := by
  unfold hide
  split <;> rfl

/-- Passing over a hidden line leaves the innermost frame as it is. -/
theorem hide_advance (m : Machine) : m.hide.advance = m.hide.withTop m.top := by
  rw [withTop, ← m.hide_top]

/-- A line that was just hidden is the latest hidden one. -/
theorem head?_hidden_hide (m : Machine) : m.hide.hidden.head? = some m.index := by
  unfold hide
  split
  · assumption
  · rfl

/-- The opening line of a nested block is hidden once, although it is visited twice. -/
theorem hide_nested_hide (m : Machine) : m.hide.nested.hide = m.hide.nested := by
  have seen : m.hide.nested.hidden.head? = some m.hide.nested.index := by
    change m.hide.hidden.head? = some m.hide.index
    rw [head?_hidden_hide, hide_index]
  rw [hide.eq_def m.hide.nested, if_pos seen]

/-- The machine behind the opening line of a nested block with frame `f`. -/
def inside (m : Machine) (f : Frame) : Machine :=
  { index := m.index + 1, top := f, below := m.top :: m.below, hidden := m.hidden }

/-- The machine behind the closing line of a nested block, back in the frame `f`. -/
def outside (m : Machine) (f : Frame) (below : List Frame) : Machine :=
  { index := m.index + 1, top := f, below, hidden := m.hidden }

end Machine

namespace Block

/-- What stands behind the first of the lines from `index` on. -/
theorem tail_of_drop_eq {lines rest : List String} {index : Nat} {line : String}
    (h : line :: rest = lines.drop index) :
    lines[index]? = some line ∧ rest = lines.drop (index + 1) := by
  constructor
  · rw [← List.head?_drop, ← h]
    rfl
  · rw [← List.tail_drop, ← h]
    rfl

variable (directive? : String → Option Directive) (evaluate : Evaluator σ)
variable {line : String} {d : Directive} (rest : List String) (m : Machine)

/-! ## One equation for each kind of line -/

/-- Without lines the innermost block is unterminated. -/
theorem run_nil : run directive? evaluate [] m = throw (unterminated m.top.start) := by
  rw [run]

/-- What a walk does follows the move at its first line. -/
theorem run_cons (line : String) :
    run directive? evaluate (line :: rest) m =
      match m.move (directive? line) with
      | .nest next => run directive? evaluate (line :: rest) next
      | .pass next => run directive? evaluate rest next
      | .keep next => do
        Walk.emit (.included m.index)
        run directive? evaluate rest next
      | .ask condition next => do
        let result ← Walk.ask evaluate condition m.index
        run directive? evaluate rest (next result)
      | .warn d next => do
        Walk.emit (.warned (warning d m.index line))
        run directive? evaluate rest next
      | .reject message => throw (refused message m.index)
      | .close block => return block := by
  rw [run.eq_def]
  split
  · rename_i eq
    cases eq
  · rename_i eq
    cases eq
    split <;> rename_i move <;> simp only [move]

/-- An ordinary line is kept in an active branch and hidden elsewhere. -/
theorem run_content (h : directive? line = none) :
    run directive? evaluate (line :: rest) m =
      if m.top.active then do
        Walk.emit (.included m.index)
        run directive? evaluate rest m.advance
      else run directive? evaluate rest (m.hide.withTop m.top) := by
  rw [run_cons, h, Machine.move, m.hide_advance]
  cases m.top.active <;> rfl

/-- An opening line inside a block enters a nested one. Its condition is decided only in an active
branch. -/
theorem run_opening (opened : m.top.opened = true) (h : directive? line = some d)
    (kind : d.kind = .opening) :
    run directive? evaluate (line :: rest) m =
      if m.top.active then do
        let result ← Walk.ask evaluate d.expression m.index
        run directive? evaluate rest (m.hide.inside (.decided m.index result))
      else run directive? evaluate rest (m.hide.inside (.skipped m.index)) := by
  -- The first visit enters the block, and the second one opens it.
  have enter : m.move (directive? line) = .nest m.hide.nested := by
    simp only [h, Machine.move, Machine.directiveMove, kind, m.hide_top, opened, if_true]
  have again : m.hide.nested.move (directive? line) = m.hide.nested.openMove d := by
    simp only [h, Machine.move, m.hide_nested_hide, Machine.directiveMove, kind]
    rfl
  rw [run_cons, enter]
  dsimp only
  rw [run_cons, again, Machine.openMove]
  simp only [Machine.nested, m.hide_top, m.hide_index]
  cases m.top.active with
  | true =>
    simp [Machine.settle, Machine.withTop, Machine.advance, Machine.inside, Frame.decided]
  | false =>
    simp [Machine.withTop, Machine.advance, Machine.inside, Frame.skipped]

/-- The opening line of the outermost block. -/
theorem run_start (index : Nat) (ignore : Bool) (h : directive? line = some d)
    (kind : d.kind = .opening) :
    run directive? evaluate (line :: rest) (Machine.start index ignore) =
      if ignore then
        run directive? evaluate rest ⟨index + 1, .skipped index, [], [index]⟩
      else (do
        let result ← Walk.ask evaluate d.expression index
        run directive? evaluate rest ⟨index + 1, .decided index result, [], [index]⟩) := by
  rw [run_cons, h, Machine.move, Machine.directiveMove]
  simp only [kind]
  cases ignore <;> rfl

/-- A closing line leaves the innermost block; the walk is over when there is no other. -/
theorem run_closing (h : directive? line = some d) (kind : d.kind = .closing) :
    run directive? evaluate (line :: rest) m =
      match m.below with
      | [] => pure ⟨m.index, m.hide.hidden.reverse⟩
      | f :: below => run directive? evaluate rest (m.hide.outside f below) := by
  rw [run_cons, h, Machine.move, Machine.directiveMove]
  simp only [kind, Machine.closeMove, m.hide_below]
  cases m.below with
  | nil => simp only [m.hide_index]
  | cons f below => rfl

/-- A branch with a condition: it is decided unless the block is ignored or a branch was selected
before. -/
theorem run_elseIf (h : directive? line = some d) (kind : d.kind = .elseIf) :
    run directive? evaluate (line :: rest) m =
      if m.top.ignore then run directive? evaluate rest (m.hide.withTop m.top)
      else if m.top.done then
        run directive? evaluate rest (m.hide.withTop { m.top with prune := true })
      else (do
        let result ← Walk.ask evaluate d.expression m.index
        run directive? evaluate rest
          (m.hide.withTop { m.top with opened := true, done := result, prune := !result })) := by
  rw [run_cons, h, Machine.move, Machine.directiveMove]
  have settled : m.hide.settle = fun result =>
      m.hide.withTop { m.top with opened := true, done := result, prune := !result } := by
    funext result
    rw [Machine.settle, m.hide_top]
  simp only [kind, Machine.branchMove, m.hide_advance, settled, m.hide_top]
  cases m.top.ignore <;> cases m.top.done <;> rfl

/-- A branch without a condition: it is selected if no branch was selected before. -/
theorem run_otherwise (h : directive? line = some d) (kind : d.kind = .otherwise) :
    run directive? evaluate (line :: rest) m =
      if m.top.ignore then run directive? evaluate rest (m.hide.withTop m.top)
      else run directive? evaluate rest
        (m.hide.withTop { m.top with prune := m.top.done, done := true }) := by
  rw [run_cons, h, Machine.move, Machine.directiveMove]
  simp only [kind, Machine.branchMove, m.hide_advance, m.hide_top]
  cases m.top.ignore <;> rfl

/-- A warning is given in an active branch. -/
theorem run_warning (h : directive? line = some d) (kind : d.kind = .warning) :
    run directive? evaluate (line :: rest) m =
      if m.top.active then do
        Walk.emit (.warned (warning d m.index line))
        run directive? evaluate rest (m.hide.withTop m.top)
      else run directive? evaluate rest (m.hide.withTop m.top) := by
  rw [run_cons, h, Machine.move, Machine.directiveMove]
  simp only [kind, Machine.branchMove, m.hide_advance, m.hide_top]
  cases hi : m.top.ignore <;> cases hp : m.top.prune <;> simp [Frame.active, hi, hp]

/-- An error directive rejects the text in an active branch. -/
theorem run_error (h : directive? line = some d) (kind : d.kind = .error) :
    run directive? evaluate (line :: rest) m =
      if m.top.active then throw (refused d.expression m.index)
      else run directive? evaluate rest (m.hide.withTop m.top) := by
  rw [run_cons, h, Machine.move, Machine.directiveMove]
  simp only [kind, Machine.branchMove, m.hide_advance, m.hide_top]
  cases hi : m.top.ignore <;> cases hp : m.top.prune <;> simp [Frame.active, hi, hp]

/-! ## How walks end -/

/-- A line without directive neither opens nor closes a block. -/
theorem opens_closes_of_none (h : directive? line = none) :
    opens directive? line = false ∧ closes directive? line = false := by
  rw [opens, closes, h]
  exact ⟨rfl, rfl⟩

/-- Which directives open and close a block. -/
theorem opens_closes_of_some (h : directive? line = some d) :
    opens directive? line = (d.kind == .opening) ∧
      closes directive? line = (d.kind == .closing) := by
  rw [opens, closes, h]
  exact ⟨rfl, rfl⟩

/-- The **innermost block that stays open** behind some lines, by its opening line: the last one
that is opened for good among the lines, or else the innermost of the given outer blocks that the
lines do not close. -/
def innermost (index : Nat) (lines : List String) (outer : List Nat) : Option Nat :=
  (unclosed directive? index lines).getLast?.or
    outer[(closings directive? index lines).length]?

/-- A line that opens a block makes it the innermost one. -/
theorem innermost_opening (ho : opens directive? line = true) (index : Nat) (outer : List Nat) :
    innermost directive? index (line :: rest) outer =
      innermost directive? (index + 1) rest (index :: outer) := by
  unfold innermost
  rw [unclosed, closings, if_pos ho]
  cases closings directive? (index + 1) rest with
  | nil =>
    rw [if_pos ⟨ho, rfl⟩, List.getLast?_cons]
    cases (unclosed directive? (index + 1) rest).getLast? <;> rfl
  | cons e more =>
    rw [if_neg (fun h => List.cons_ne_nil e more h.2)]
    rfl

/-- A line that closes a block makes the next one the innermost. -/
theorem innermost_closing (hc : closes directive? line = true) (index : Nat) (outer : List Nat) :
    innermost directive? index (line :: rest) outer =
      innermost directive? (index + 1) rest outer.tail := by
  have ho := not_opens_of_closes directive? hc
  unfold innermost
  rw [unclosed, closings, if_neg (fun h => ho h.1), if_neg ho, if_pos hc, List.getElem?_tail]
  rfl

/-- Any other line leaves the innermost block open. -/
theorem innermost_other (ho : opens directive? line = false) (hc : closes directive? line = false)
    (index : Nat) (outer : List Nat) :
    innermost directive? index (line :: rest) outer =
      innermost directive? (index + 1) rest outer := by
  unfold innermost
  rw [unclosed, closings, ho, hc]
  rfl

/-- **Rejections on the way** through lines from index `index` on: the evaluator rejects the
condition of a line, or a line holds an error directive. -/
inductive Raised (index : Nat) (lines : List String) : Rejection → Prop where
  | condition {n : Nat} {line : String} {d : Directive} {state : σ} {r : Rejection}
      (at_n : lines[n]? = some line) (found : directive? line = some d)
      (kind : d.kind = .opening ∨ d.kind = .elseIf)
      (answer : (evaluate d.expression (index + n) state).1 = .error r) : Raised index lines r
  | directive {n : Nat} {line : String} {d : Directive}
      (at_n : lines[n]? = some line) (found : directive? line = some d) (kind : d.kind = .error) :
      Raised index lines (refused d.expression (index + n))

/-- What is raised among the lines behind the first one is raised among all of them. -/
theorem Raised.cons {directive? : String → Option Directive} {evaluate : Evaluator σ} {index : Nat}
    {rest : List String} {r : Rejection} (line : String)
    (h : Raised directive? evaluate (index + 1) rest r) :
    Raised directive? evaluate index (line :: rest) r := by
  cases h with
  | @condition n _ d state r at_n found kind answer =>
    rw [Nat.add_assoc, Nat.add_comm 1 n] at answer
    exact .condition at_n found kind answer
  | @directive n _ d at_n found kind =>
    rw [Nat.add_assoc, Nat.add_comm 1 n]
    exact .directive at_n found kind

/-- **Endings of walks** over lines from index `index` on, inside a block that was opened at line
`top` and lies in the blocks opened at the lines `below`. -/
inductive Ending (index : Nat) (lines : List String) (top : Nat) (below : List Nat) :
    Except Rejection Block → Prop where
  /-- The outermost block is closed. -/
  | closed {block : Block}
      (stop : (closings directive? index lines)[below.length]? = some block.stop) :
      Ending index lines top below (.ok block)
  /-- A condition or an error directive rejects the text. -/
  | raised {r : Rejection} (raised : Raised directive? evaluate index lines r) :
      Ending index lines top below (.error r)
  /-- The lines do not close the outermost block. -/
  | unterminated {u : Nat}
      (few : (closings directive? index lines).length ≤ below.length)
      (start : innermost directive? index lines (top :: below) = some u) :
      Ending index lines top below (.error (unterminated u))

namespace Ending

variable {directive? evaluate rest}
variable {index top : Nat} {below : List Nat} {result : Except Rejection Block}

/-- An ending behind a line that opens a block. -/
theorem opening (ho : opens directive? line = true)
    (h : Ending directive? evaluate (index + 1) rest index (top :: below) result) :
    Ending directive? evaluate index (line :: rest) top below result := by
  cases h with
  | closed stop =>
    refine .closed ?_
    rw [closings, if_pos ho, List.getElem?_tail]
    exact stop
  | raised raised => exact .raised (raised.cons line)
  | unterminated few start =>
    refine .unterminated ?_ ?_
    · rw [closings, if_pos ho, List.length_tail]
      exact Nat.sub_le_of_le_add few
    · rw [innermost_opening directive? rest ho]
      exact start

/-- An ending behind a line that closes a nested block. -/
theorem closing {outer : Nat} (hc : closes directive? line = true)
    (h : Ending directive? evaluate (index + 1) rest outer below result) :
    Ending directive? evaluate index (line :: rest) top (outer :: below) result := by
  have ho := not_opens_of_closes directive? hc
  cases h with
  | closed stop =>
    refine .closed ?_
    rw [closings, if_neg ho, if_pos hc]
    exact stop
  | raised raised => exact .raised (raised.cons line)
  | unterminated few start =>
    refine .unterminated ?_ ?_
    · rw [closings, if_neg ho, if_pos hc]
      exact Nat.succ_le_succ few
    · rw [innermost_closing directive? rest hc]
      exact start

/-- An ending behind any other line. -/
theorem other (ho : opens directive? line = false) (hc : closes directive? line = false)
    (h : Ending directive? evaluate (index + 1) rest top below result) :
    Ending directive? evaluate index (line :: rest) top below result := by
  have same : closings directive? index (line :: rest) = closings directive? (index + 1) rest := by
    rw [closings, ho, hc]
    rfl
  cases h with
  | closed stop => exact .closed (same ▸ stop)
  | raised raised => exact .raised (raised.cons line)
  | unterminated few start =>
    refine .unterminated (same ▸ few) ?_
    rw [innermost_other directive? rest ho hc]
    exact start

end Ending

/-- A machine **inside a block**: the opening lines of all open blocks have been dealt with. -/
def Within (m : Machine) : Prop :=
  m.top.opened = true ∧ ∀ f ∈ m.below, f.opened = true

variable {m}

/-- Behind the opening line of a nested block a machine is inside it. -/
theorem Within.inside (h : Within m) {f : Frame} (opened : f.opened = true) :
    Within (m.inside f) := by
  refine ⟨opened, ?_⟩
  intro g hg
  rcases List.mem_cons.mp hg with rfl | hg
  · exact h.1
  · exact h.2 g hg

/-- Behind the closing line of a nested block a machine is inside the outer one. -/
theorem Within.outside (h : Within m) {f : Frame} {below : List Frame}
    (hb : m.below = f :: below) : Within (m.outside f below) := by
  refine ⟨h.2 f ?_, ?_⟩
  · rw [hb]
    exact List.mem_cons_self
  · intro g hg
    refine h.2 g ?_
    rw [hb]
    exact List.mem_cons_of_mem f hg

/-- Hiding a line does not touch the open blocks. -/
theorem Within.hide (h : Within m) : Within m.hide := by
  unfold Within
  rw [m.hide_top, m.hide_below]
  exact h

/-- **How walks end**: whatever the evaluator answers, a walk inside a block has one of the endings
that the directives of its lines allow. -/
theorem run_ending (lines : List String) (m : Machine) (h : Within m) :
    Walk.Yields (run directive? evaluate lines m)
      (Ending directive? evaluate m.index lines m.top.start (m.below.map (·.start))) := by
  -- By induction on the lines, for all machines: a line can open a block or close one.
  induction lines generalizing m with
  | nil =>
    rw [run_nil]
    exact Walk.yields_throw (.unterminated (Nat.zero_le _) rfl)
  | cons line rest ih =>
    have hidden : Within m.hide := h.hide
    -- Behind a line that neither opens nor closes a block, the same blocks are open.
    have onward (ho : opens directive? line = false) (hc : closes directive? line = false)
        (f : Frame) (start : f.start = m.top.start) (opened : f.opened = true) :
        Walk.Yields (run directive? evaluate rest (m.hide.withTop f))
          (Ending directive? evaluate m.index (line :: rest) m.top.start
            (m.below.map (·.start))) := by
      refine (ih (m.hide.withTop f) ⟨opened, hidden.2⟩).imp fun result ended => ?_
      apply Ending.other ho hc
      simpa [Machine.withTop, Machine.advance, start] using ended
    cases found : directive? line with
    | none =>
      obtain ⟨ho, hc⟩ := opens_closes_of_none directive? found
      rw [run_content directive? evaluate rest m found]
      split
      · exact Walk.yields_emit_bind ((ih m.advance h).imp fun _ => .other ho hc)
      · exact onward ho hc m.top rfl h.1
    | some d =>
      obtain ⟨ho, hc⟩ := opens_closes_of_some directive? found
      cases kind : d.kind with
      | opening =>
        rw [kind] at ho
        -- Behind an opening line there is one more open block, whatever its condition says.
        have entered (f : Frame) (start : f.start = m.index) (opened : f.opened = true) :
            Walk.Yields (run directive? evaluate rest (m.hide.inside f))
              (Ending directive? evaluate m.index (line :: rest) m.top.start
                (m.below.map (·.start))) := by
          refine (ih (m.hide.inside f) (hidden.inside opened)).imp fun result ended => ?_
          apply Ending.opening ho
          simpa [Machine.inside, start] using ended
        rw [run_opening directive? evaluate rest m h.1 found kind]
        split
        · refine Walk.yields_ask_bind (fun result => entered _ rfl rfl) ?_
          intro state r answer
          exact .raised (.condition (n := 0) rfl found (.inl kind) answer)
        · exact entered _ rfl rfl
      | elseIf =>
        rw [kind] at ho hc
        rw [run_elseIf directive? evaluate rest m found kind]
        split
        · exact onward ho hc m.top rfl h.1
        · split
          · exact onward ho hc _ rfl h.1
          · refine Walk.yields_ask_bind (fun result => onward ho hc _ rfl rfl) ?_
            intro state r answer
            exact .raised (.condition (n := 0) rfl found (.inr kind) answer)
      | otherwise =>
        rw [kind] at ho hc
        rw [run_otherwise directive? evaluate rest m found kind]
        split
        · exact onward ho hc m.top rfl h.1
        · exact onward ho hc _ rfl h.1
      | closing =>
        rw [kind] at ho hc
        rw [run_closing directive? evaluate rest m found kind]
        -- Without an outer block the walk ends here; otherwise it goes on in the outer block.
        cases hb : m.below with
        | nil =>
          refine Walk.yields_pure (.closed ?_)
          rw [closings, ho, hc]
          rfl
        | cons f below =>
          have hb' : m.hide.below = f :: below := by rw [m.hide_below, hb]
          refine (ih (m.hide.outside f below) (hidden.outside hb')).imp fun result ended => ?_
          apply Ending.closing hc
          simpa [Machine.outside] using ended
      | warning =>
        rw [kind] at ho hc
        rw [run_warning directive? evaluate rest m found kind]
        split
        · exact Walk.yields_emit_bind (onward ho hc m.top rfl h.1)
        · exact onward ho hc m.top rfl h.1
      | error =>
        rw [kind] at ho hc
        rw [run_error directive? evaluate rest m found kind]
        split
        · exact Walk.yields_throw (.raised (.directive (n := 0) rfl found kind))
        · exact onward ho hc m.top rfl h.1

end Block

end LineGate
