import LineGate.Proofs.Block.Tree

/-! # The branch machine runs block trees

A machine inside a block has a frame for every open block, and the outline of the lines in front of
it has a remainder for every block that they close. One after the other, from the innermost outward,
each remainder is run the way its frame says: its body is shown if the frame is active, and its
chain is live if the frame is not ignored. By induction on the lines, that is what the machine does
(`run_eq_resume`), so a block as a whole is parsed as its tree is run. -/

namespace LineGate

namespace Block

variable {σ : Type} (directive? : String → Option Directive) (evaluate : Evaluator σ)

/-- Run the remainder of a block whose state is the frame `f`. -/
def Remainder.run (f : Frame) (r : Remainder) : Walk σ (List Nat) := do
  let hidden ← r.body.run evaluate f.active
  let later ← r.rest.run evaluate (!f.ignore) f.done
  return hidden ++ later

/-- **Resume blocks**: run the remainders of open blocks, each with its frame. -/
def resume : List (Frame × Remainder) → Walk σ (List Nat)
  | [] => return []
  | (f, r) :: more => do
    let hidden ← r.run evaluate f
    let later ← resume more
    return hidden ++ later

/-! ## One more line in front of a remainder

Each equation has its counterpart in the equation for the same kind of line of a walk. -/

section Extend

variable {directive?} {line : String} {d : Directive} (f : Frame) (index : Nat) (r : Remainder)

theorem Remainder.run_extend_content (h : directive? line = none) :
    (r.extend directive? index line).run evaluate f =
      if f.active then do
        Walk.emit (.included index)
        r.run evaluate f
      else (do
        let hidden ← r.run evaluate f
        return index :: hidden) := by
  cases active : f.active <;>
    simp [Remainder.run, Remainder.extend, h, Body.run, active]

theorem Remainder.run_extend_elseIf (h : directive? line = some d) (kind : d.kind = .elseIf) :
    (r.extend directive? index line).run evaluate f =
      if f.ignore then (do
        let hidden ← r.run evaluate f
        return index :: hidden)
      else if f.done then (do
        let hidden ← r.run evaluate { f with prune := true }
        return index :: hidden)
      else (do
        let result ← Walk.ask evaluate d.expression index
        let hidden ← r.run evaluate { f with opened := true, done := result, prune := !result }
        return index :: hidden) := by
  cases ignore : f.ignore <;> cases done : f.done <;>
    simp [Remainder.run, Remainder.extend, h, kind, Body.run, Chain.run, selects, Frame.active,
      ignore, done]

theorem Remainder.run_extend_otherwise (h : directive? line = some d)
    (kind : d.kind = .otherwise) :
    (r.extend directive? index line).run evaluate f =
      if f.ignore then (do
        let hidden ← r.run evaluate f
        return index :: hidden)
      else (do
        let hidden ← r.run evaluate { f with prune := f.done, done := true }
        return index :: hidden) := by
  cases ignore : f.ignore <;> cases done : f.done <;>
    simp [Remainder.run, Remainder.extend, h, kind, Body.run, Chain.run, selects, Frame.active,
      ignore, done]

theorem Remainder.run_extend_warning (h : directive? line = some d) (kind : d.kind = .warning) :
    (r.extend directive? index line).run evaluate f =
      if f.active then (do
        Walk.emit (.warned (warning d index line))
        let hidden ← r.run evaluate f
        return index :: hidden)
      else (do
        let hidden ← r.run evaluate f
        return index :: hidden) := by
  cases active : f.active <;>
    simp [Remainder.run, Remainder.extend, h, kind, Body.run, active]

theorem Remainder.run_extend_error (h : directive? line = some d) (kind : d.kind = .error) :
    (r.extend directive? index line).run evaluate f =
      if f.active then throw (refused d.expression index)
      else (do
        let hidden ← r.run evaluate f
        return index :: hidden) := by
  cases active : f.active <;>
    simp [Remainder.run, Remainder.extend, h, kind, Body.run, active]

end Extend

/-- The hidden lines of a machine lie before the line it is at. -/
def Fresh (m : Machine) : Prop := ∀ i ∈ m.hidden, i < m.index

variable {m : Machine}

/-- A line that is visited for the first time is hidden on top of those before it. -/
theorem Fresh.hide_hidden (h : Fresh m) : m.hide.hidden = m.index :: m.hidden := by
  unfold Machine.hide
  split
  · rename_i seen
    exact absurd (h m.index (List.mem_of_mem_head? seen)) (Nat.lt_irrefl _)
  · rfl

/-- Behind a line that was just hidden, the machine is at a fresh one. -/
theorem Fresh.hide_lt (h : Fresh m) : ∀ i ∈ m.hide.hidden, i < m.index + 1 := by
  rw [h.hide_hidden]
  intro i hi
  rcases List.mem_cons.mp hi with rfl | hi
  · exact Nat.lt_succ_self _
  · exact Nat.lt_succ_of_lt (h i hi)

/-- **A walk resumes its blocks**: if the lines close the outermost open block, the walk ends at
that line and hides what resuming the open blocks hides. -/
def Resumes (lines : List String) (m : Machine) : Prop :=
  ∀ stop, Within m → Fresh m →
    (closings directive? m.index lines)[m.below.length]? = some stop →
    run directive? evaluate lines m = (do
      let hidden ← resume evaluate ((m.top :: m.below).zip (outline directive? m.index lines))
      return ⟨stop, m.hidden.reverse ++ hidden⟩)

variable {directive? evaluate} {line : String} {lines : List String}

/-- Behind a line that was just hidden, a walk resumes its blocks with that line on top of the
hidden ones. -/
theorem Resumes.behind {stop : Nat} (fresh : Fresh m) {next : Machine}
    (h : Resumes directive? evaluate lines next) (within : Within next)
    (index : next.index = m.index + 1) (hidden : next.hidden = m.hide.hidden)
    (ends : (closings directive? (m.index + 1) lines)[next.below.length]? = some stop) :
    run directive? evaluate lines next = (do
      let hidden ← resume evaluate
        ((next.top :: next.below).zip (outline directive? (m.index + 1) lines))
      return ⟨stop, m.hidden.reverse ++ m.index :: hidden⟩) := by
  have newer : Fresh next := by
    rw [Fresh, hidden, index]
    exact fresh.hide_lt
  rw [← index] at ends
  rw [h stop within newer ends, index, hidden, fresh.hide_hidden]
  simp only [List.reverse_cons, List.append_assoc, List.singleton_append]

/-- The step at an opening line: its block becomes part of the branch around it. -/
theorem resumes_opening (later : ∀ next, Resumes directive? evaluate lines next)
    (ho : opens directive? line = true) : Resumes directive? evaluate (line :: lines) m := by
  intro stop within fresh ends
  obtain ⟨d, found, kind⟩ := (opens_iff directive?).mp ho
  rw [closings, if_pos ho, List.getElem?_tail] at ends
  rw [outline, if_pos ho]
  -- Inside the block, the frame of the surrounding one waits below the new frame.
  have entered (f : Frame) (opened : f.opened = true) :
      run directive? evaluate lines (m.hide.inside f) = (do
        let hidden ← resume evaluate
          ((f :: m.top :: m.below).zip (outline directive? (m.index + 1) lines))
        return ⟨stop, m.hidden.reverse ++ m.index :: hidden⟩) := by
    have := (later (m.hide.inside f)).behind fresh (within.hide.inside opened)
      (by simp [Machine.inside]) rfl (by simpa [Machine.inside] using ends)
    simpa only [Machine.inside, m.hide_top, m.hide_below] using this
  rw [run_opening directive? evaluate lines m within.1 found kind]
  simp only [entered (.skipped m.index) rfl, fun b => entered (.decided m.index b) rfl]
  -- Both the block and the one around it are closed, so the outline has two entries.
  have two := lt_length_outline directive? ends
  generalize outline directive? (m.index + 1) lines = remainders at two ⊢
  rcases remainders with _ | ⟨inner, _ | ⟨outer, more⟩⟩
  · simp at two
  · simp at two
  · cases active : m.top.active <;>
      simp [resume, Remainder.run, Remainder.nest, Body.run, Tree.run, selects, expressionOf,
        found, active]

/-- The step at a closing line: the innermost block is over. -/
theorem resumes_closing (later : ∀ next, Resumes directive? evaluate lines next)
    (hc : closes directive? line = true) : Resumes directive? evaluate (line :: lines) m := by
  intro stop within fresh ends
  obtain ⟨d, found, kind⟩ := (closes_iff directive?).mp hc
  have ho := not_opens_of_closes directive? hc
  rw [closings, if_neg ho, if_pos hc] at ends
  rw [outline, if_neg ho, if_pos hc, run_closing directive? evaluate lines m found kind]
  cases below : m.below with
  | nil =>
    -- No block is left, so this line is the end.
    rw [below] at ends
    cases ends
    simp [resume, Remainder.run, Body.run, Chain.run, fresh.hide_hidden]
  | cons f outer =>
    rw [below] at ends
    have left := (later (m.hide.outside f outer)).behind fresh
      (within.hide.outside (by rw [m.hide_below, below])) (by simp [Machine.outside]) rfl ends
    change run directive? evaluate lines (m.hide.outside f outer) = _
    rw [left]
    simp [resume, Remainder.run, Body.run, Chain.run, Machine.outside]

/-- The step at any other line: it belongs to the innermost block. -/
theorem resumes_extend (later : ∀ next, Resumes directive? evaluate lines next)
    (ho : ¬ opens directive? line = true) (hc : ¬ closes directive? line = true) :
    Resumes directive? evaluate (line :: lines) m := by
  intro stop within fresh ends
  rw [closings, if_neg ho, if_neg hc] at ends
  rw [outline, if_neg ho, if_neg hc]
  -- A content line of an active branch is kept; every other line goes on top of the hidden ones.
  have kept := later m.advance stop within (fun i hi => Nat.lt_succ_of_lt (fresh i hi)) ends
  have passed (f : Frame) (opened : f.opened = true) :
      run directive? evaluate lines (m.hide.withTop f) = (do
        let hidden ← resume evaluate
          ((f :: m.below).zip (outline directive? (m.index + 1) lines))
        return ⟨stop, m.hidden.reverse ++ m.index :: hidden⟩) := by
    have := (later (m.hide.withTop f)).behind fresh ⟨opened, within.hide.2⟩
      (by simp [Machine.withTop, Machine.advance]) rfl
      (by simpa [Machine.withTop, Machine.advance] using ends)
    simpa only [Machine.withTop, Machine.advance, m.hide_below] using this
  simp only [Machine.advance] at kept
  have one := lt_length_outline directive? ends
  generalize outline directive? (m.index + 1) lines = remainders at one kept passed ⊢
  cases remainders with
  | nil => cases one
  | cons r rs =>
    simp only [List.modifyHead_cons, List.zip_cons_cons, resume, bind_assoc, pure_bind]
      at kept passed ⊢
    cases found : directive? line with
    | none =>
      rw [run_content directive? evaluate lines m found, passed m.top within.1, Machine.advance,
        kept, Remainder.run_extend_content evaluate _ _ _ found]
      split <;> simp
    | some d =>
      cases kind : d.kind with
      | opening => exact absurd ((opens_iff directive?).mpr ⟨d, found, kind⟩) ho
      | closing => exact absurd ((closes_iff directive?).mpr ⟨d, found, kind⟩) hc
      | elseIf =>
        rw [run_elseIf directive? evaluate lines m found kind, passed m.top within.1,
          passed { m.top with prune := true } within.1,
          Remainder.run_extend_elseIf evaluate _ _ _ found kind]
        simp only [fun b => passed { m.top with opened := true, done := b, prune := !b } rfl]
        split
        · simp
        · split <;> simp
      | otherwise =>
        rw [run_otherwise directive? evaluate lines m found kind, passed m.top within.1,
          passed { m.top with prune := m.top.done, done := true } within.1,
          Remainder.run_extend_otherwise evaluate _ _ _ found kind]
        split <;> simp
      | warning =>
        rw [run_warning directive? evaluate lines m found kind, passed m.top within.1,
          Remainder.run_extend_warning evaluate _ _ _ found kind]
        split <;> simp
      | error =>
        rw [run_error directive? evaluate lines m found kind, passed m.top within.1,
          Remainder.run_extend_error evaluate _ _ _ found kind]
        split <;> simp

variable (directive? evaluate)

/-- **The branch machine resumes its blocks**, from any machine inside a block. -/
theorem run_eq_resume (lines : List String) (m : Machine) :
    Resumes directive? evaluate lines m := by
  induction lines generalizing m with
  | nil =>
    intro stop within fresh ends
    cases ends
  | cons line lines later =>
    by_cases ho : opens directive? line = true
    · exact resumes_opening later ho
    · by_cases hc : closes directive? line = true
      · exact resumes_closing later hc
      · exact resumes_extend later ho hc

/-! ## Blocks as a whole -/

/-- A line that opens a block stands in front of the lines behind it. -/
theorem drop_eq_cons {start : Nat} (at_start : lines[start]? = some line) :
    lines.drop start = line :: lines.drop (start + 1) := by
  obtain ⟨lt, rfl⟩ := List.getElem?_eq_some_iff.mp at_start
  exact List.drop_eq_getElem_cons lt

/-- **The tree of a block**: a block with an end has a tree, which has the lines of the block and
which the branch machine runs. -/
theorem exists_tree {start stop : Nat} (at_start : lines[start]? = some line)
    (ho : opens directive? line = true) (ends : EndsAt directive? lines start stop) :
    ∃ tree, Tree.read directive? start (lines.drop start) = some tree ∧ tree.stop = stop ∧
      tree.lines = kindsFrom directive? start ((lines.drop start).take (stop + 1 - start)) ∧
      ∀ {σ : Type} (evaluate : Evaluator σ) (ignore : Bool),
        run directive? evaluate (lines.drop start) (Machine.start start ignore) = (do
          let hidden ← tree.run evaluate (!ignore)
          return ⟨tree.stop, hidden⟩) := by
  obtain ⟨d, found, kind⟩ := (opens_iff directive?).mp ho
  rw [endsAt_iff_closings directive? stop at_start ho, List.head?_eq_getElem?] at ends
  have bounds := closings_bounds directive? ends
  have spelled := flatMap_lines_outline directive? ends
  have stops := map_stop_outline directive? (start + 1) (lines.drop (start + 1))
  -- The walk behind the opening line, with the opening line as the only hidden one.
  have resumed {σ : Type} (evaluate : Evaluator σ) (f : Frame) (opened : f.opened = true) :=
    run_eq_resume directive? evaluate (lines.drop (start + 1)) ⟨start + 1, f, [], [start]⟩ stop
      ⟨opened, fun g hg => by cases hg⟩ (fun i hi => by cases hi with
        | head => exact Nat.lt_succ_self start
        | tail _ hi => cases hi) ends
  rw [drop_eq_cons at_start, Tree.read, if_pos ho,
    show stop + 1 - start = stop + 1 - (start + 1) + 1 by omega, List.take_succ_cons, kindsFrom,
    ← spelled]
  -- The lines behind the opening line close its block, so their outline has an entry.
  cases remainders : outline directive? (start + 1) (lines.drop (start + 1)) with
  | nil =>
    rw [← stops, remainders] at ends
    cases ends
  | cons r rs =>
    rw [← stops, remainders] at ends
    refine ⟨.mk start (expressionOf directive? line) r.body r.rest, rfl, ?_, ?_, ?_⟩
    · exact Option.some.inj ends
    · simp [Tree.lines, Remainder.lines, found, kind]
    · intro σ evaluate ignore
      rw [run_start directive? evaluate _ start ignore found kind]
      simp only [resumed evaluate (.skipped start) rfl,
        fun b => resumed evaluate (.decided start b) rfl, remainders]
      have stop_eq : Tree.stop (.mk start (expressionOf directive? line) r.body r.rest) = stop :=
        Option.some.inj ends
      rw [stop_eq]
      cases ignore <;>
        simp [resume, Remainder.run, Tree.run, selects, expressionOf, found]

/-- Parsing the block of an opening line is a walk from that line on. -/
theorem parse_of_opens {start : Nat} (at_start : lines[start]? = some line)
    (ho : opens directive? line = true) (ignore : Bool) (state : σ) :
    parse directive? evaluate lines start ignore state =
      match (run directive? evaluate (lines.drop start) (Machine.start start ignore)).run
        { state } with
      | (.ok block, progress) => (.ok block, progress)
      | (.error rejection, progress) => (.error (.rejected rejection), progress) := by
  have first : ((lines.drop start).head?.any (opens directive?)) = true := by
    rw [drop_eq_cons at_start]
    exact ho
  have nonneg : (0 : Int) ≤ start := Int.natCast_nonneg start
  simp only [parse]
  rewrite [if_pos nonneg, Int.toNat_natCast, if_pos first]
  rfl

/-- **Blocks are parsed as their trees are run**: a block with an end has a tree, read from the
kinds of its directives alone and made of exactly its lines, and whatever the evaluator does,
parsing the block has the outcome of running the tree. That is the same end with the same hidden
lines or the same rejection, the same events in the same order, and the same state of the evaluator;
an evaluator that keeps a record of its calls shows that these are the same as well. -/
theorem parse_eq_tree_outcome (directive? : String → Option Directive) {lines : List String}
    {start stop : Nat} (opening : lines[start]?.any (opens directive?) = true)
    (ends : EndsAt directive? lines start stop) :
    ∃ tree, Tree.read directive? start (lines.drop start) = some tree ∧ tree.stop = stop ∧
      tree.lines = kindsFrom directive? start ((lines.drop start).take (stop + 1 - start)) ∧
      ∀ {σ : Type} (evaluate : Evaluator σ) (ignore : Bool) (state : σ),
        parse directive? evaluate lines start ignore state =
          tree.outcome evaluate (!ignore) state := by
  obtain ⟨line, at_start, ho⟩ := (Option.any_eq_true _ _).mp opening
  obtain ⟨tree, read, stop_eq, spelled, runs⟩ := exists_tree directive? at_start ho ends
  refine ⟨tree, read, stop_eq, spelled, ?_⟩
  intro σ evaluate ignore state
  rw [parse_of_opens directive? evaluate at_start ho, runs, Walk.run_bind, Tree.outcome]
  rcases (tree.run evaluate (!ignore)).run { state } with ⟨_ | hidden, progress⟩ <;> rfl

/-- The directive of a line that is a directive word and nothing else. -/
def bareDirective? (line : String) : Option Directive :=
  (Directive.words.lookup line).map fun kind => { word := line, kind }

/-- Lines of a block with a nested one in its first branch, and with two further branches. There is a
line before it and one behind it. -/
def branchedLines : List String :=
  ["x", "if", "a", "if", "b", "endif", "elif", "c", "else", "endif", "y"]

/-- The block of these lines is run as its tree. -/
theorem parse_eq_tree_outcome_nested :
    EndsAt bareDirective? branchedLines 1 9 ∧
      ∃ tree, Tree.read bareDirective? 1 (branchedLines.drop 1) = some tree ∧
        ∀ (evaluate : Evaluator Nat) (state : Nat),
          parse bareDirective? evaluate branchedLines 1 false state =
            tree.outcome evaluate true state := by
  have ends : EndsAt bareDirective? branchedLines 1 9 := by decide
  obtain ⟨tree, read, -, -, runs⟩ := parse_eq_tree_outcome bareDirective? (by decide) ends
  exact ⟨ends, tree, read, fun evaluate state => runs evaluate false state⟩

end Block

end LineGate
