import LineGate.Proofs.Block.Simulation

/-! # The extent of a block

Which lines belong to a block is a matter of nesting alone. This file collects what follows for
parsing it, whatever the evaluator answers: where the walk ends if it ends well, what it can be
rejected for, that no line behind the end matters, and what is left of the walk when the block is
ignored as a whole. -/

namespace LineGate

/-- The rejections that an evaluator can answer with. -/
def Evaluator.Gives {σ : Type} (evaluate : Evaluator σ) (r : Rejection) : Prop :=
  ∃ condition line state, (evaluate condition line state).1 = .error r

namespace Block

variable (directive? : String → Option Directive)

/-- **The last unclosed line** from `start` on: it opens a block without an end, and no such line
comes behind it. -/
structure LastUnclosed (lines : List String) (start u : Nat) : Prop where
  start_le : start ≤ u
  opening : lines[u]?.any (opens directive?) = true
  endless : ¬ ∃ stop, EndsAt directive? lines u stop
  greatest : ∀ v, start ≤ v → lines[v]?.any (opens directive?) = true →
    (¬ ∃ stop, EndsAt directive? lines v stop) → v ≤ u

variable {directive?} {lines : List String} {line : String} {start : Nat}

/-- The unclosed lines behind a given one are those that open a block without an end. -/
theorem mem_unclosed_drop {v : Nat} (lt : start < v) :
    v ∈ unclosed directive? (start + 1) (lines.drop (start + 1)) ↔
      lines[v]?.any (opens directive?) = true ∧ ¬ ∃ stop, EndsAt directive? lines v stop := by
  rw [mem_unclosed]
  constructor
  · rintro ⟨n, line, rfl, at_n, ho, none⟩
    rw [List.getElem?_drop] at at_n
    rw [List.drop_drop] at none
    refine ⟨by rw [at_n]; exact ho, ?_⟩
    rw [not_endsAt_iff_closings directive? at_n ho, ← none]
    rfl
  · rintro ⟨opening, endless⟩
    obtain ⟨line, at_v, ho⟩ := (Option.any_eq_true _ _).mp opening
    rw [not_endsAt_iff_closings directive? at_v ho] at endless
    refine ⟨v - (start + 1), line, by omega, ?_, ho, ?_⟩
    · rw [List.getElem?_drop, show start + 1 + (v - (start + 1)) = v by omega]
      exact at_v
    · rw [List.drop_drop, show start + 1 + (v - (start + 1) + 1) = v + 1 by omega]
      exact endless

/-- The innermost block that stays open is the one of the last unclosed line. -/
theorem lastUnclosed_of_innermost {u : Nat} (at_start : lines[start]? = some line)
    (ho : opens directive? line = true)
    (none : closings directive? (start + 1) (lines.drop (start + 1)) = [])
    (h : innermost directive? (start + 1) (lines.drop (start + 1)) [start] = some u) :
    LastUnclosed directive? lines start u := by
  have later {v : Nat} (le : start ≤ v) (opening : lines[v]?.any (opens directive?) = true)
      (endless : ¬ ∃ stop, EndsAt directive? lines v stop) :
      v = start ∨ v ∈ unclosed directive? (start + 1) (lines.drop (start + 1)) := by
    rcases Nat.lt_or_eq_of_le le with lt | rfl
    · exact Or.inr ((mem_unclosed_drop lt).mpr ⟨opening, endless⟩)
    · exact Or.inl rfl
  have sorted := unclosed_pairwise directive? (start + 1) (lines.drop (start + 1))
  rw [innermost, none] at h
  cases last : (unclosed directive? (start + 1) (lines.drop (start + 1))).getLast? with
  | none =>
    -- Every block behind the opening line has an end, so the opening line is the last.
    rw [last] at h
    cases h
    refine ⟨Nat.le_refl _, by rw [at_start]; exact ho, ?_, ?_⟩
    · rw [not_endsAt_iff_closings directive? at_start ho]
      exact none
    · intro v le opening endless
      rcases later le opening endless with rfl | mem
      · exact Nat.le_refl _
      · rw [List.getLast?_eq_none_iff.mp last] at mem
        cases mem
  | some w =>
    -- The unclosed lines ascend, so none of them comes behind the last one in the list.
    rw [last] at h
    cases h
    obtain ⟨init, eq⟩ := List.getLast?_eq_some_iff.mp last
    have mem : u ∈ unclosed directive? (start + 1) (lines.drop (start + 1)) := by
      rw [eq]
      exact List.mem_append_right _ (List.mem_singleton_self u)
    have lt : start < u := by
      obtain ⟨n, _, rfl, -⟩ := (mem_unclosed directive? _ _ _).mp mem
      omega
    obtain ⟨opening, endless⟩ := (mem_unclosed_drop lt).mp mem
    refine ⟨Nat.le_of_lt lt, opening, endless, ?_⟩
    intro v le opening endless
    rcases later le opening endless with rfl | mem
    · exact Nat.le_of_lt lt
    · rw [eq] at mem sorted
      rcases List.mem_append.mp mem with mem | mem
      · have before := (List.pairwise_append.mp sorted).2.2 v mem u (List.mem_singleton_self u)
        exact Nat.le_of_lt before
      · exact Nat.le_of_eq (List.mem_singleton.mp mem)

/-! ## How a block can be left -/

section Verdict

variable {σ : Type} {evaluate : Evaluator σ}

/-- What is raised among the lines from `start` on is raised among all of them. -/
theorem Raised.of_drop {r : Rejection} (h : Raised directive? evaluate start (lines.drop start) r) :
    Raised directive? evaluate 0 lines r := by
  cases h with
  | @condition n _ d state r at_n found kind answer =>
    rw [List.getElem?_drop] at at_n
    rw [← Nat.zero_add (start + n)] at answer
    exact .condition at_n found kind answer
  | @directive n _ d at_n found kind =>
    rw [List.getElem?_drop] at at_n
    rw [← Nat.zero_add (start + n)]
    exact .directive at_n found kind

variable (directive?) in
/-- **The verdict on a block** that is opened at line `start`: it is closed where nesting says, a
condition or an error directive rejects the text, or it has no end and the last unclosed line is to
blame. -/
inductive Verdict (evaluate : Evaluator σ) (lines : List String) (start : Nat) :
    Except Rejection Block → Prop where
  | closed {block : Block} (ends : EndsAt directive? lines start block.stop) :
      Verdict evaluate lines start (.ok block)
  | raised {r : Rejection} (raised : Raised directive? evaluate 0 lines r) :
      Verdict evaluate lines start (.error r)
  | unterminated {u : Nat} (endless : ¬ ∃ stop, EndsAt directive? lines start stop)
      (last : LastUnclosed directive? lines start u) :
      Verdict evaluate lines start (.error (unterminated u))

/-- The ending of the walk behind the opening line decides about the block. -/
theorem Verdict.of_ending (at_start : lines[start]? = some line)
    (ho : opens directive? line = true) {result : Except Rejection Block}
    (h : Ending directive? evaluate (start + 1) (lines.drop (start + 1)) start [] result) :
    Verdict directive? evaluate lines start result := by
  cases h with
  | closed stop =>
    refine .closed ?_
    rw [endsAt_iff_closings directive? _ at_start ho, List.head?_eq_getElem?]
    exact stop
  | raised raised => exact .raised raised.of_drop
  | unterminated few start =>
    have none := List.eq_nil_of_length_eq_zero (Nat.le_zero.mp few)
    exact .unterminated ((not_endsAt_iff_closings directive? at_start ho).mpr none)
      (lastUnclosed_of_innermost at_start ho none start)

/-- **Every walk through a block ends with a verdict on it.** -/
theorem run_verdict (at_start : lines[start]? = some line) (ho : opens directive? line = true)
    (ignore : Bool) :
    Walk.Yields (run directive? evaluate (lines.drop start) (Machine.start start ignore))
      (Verdict directive? evaluate lines start) := by
  obtain ⟨d, found, kind⟩ := (opens_iff directive?).mp ho
  -- Only the frame of the opening line depends on its condition; the ending does not.
  have behind (f : Frame) (opened : f.opened = true) (same : f.start = start) :
      Walk.Yields
        (run directive? evaluate (lines.drop (start + 1)) ⟨start + 1, f, [], [start]⟩)
        (Verdict directive? evaluate lines start) := by
    refine (run_ending directive? evaluate _ ⟨start + 1, f, [], [start]⟩
      ⟨opened, fun g hg => by cases hg⟩).imp fun result ending => ?_
    rw [same] at ending
    exact .of_ending at_start ho ending
  rw [drop_eq_cons at_start, run_start directive? evaluate _ start ignore found kind]
  split
  · exact behind (.skipped start) rfl rfl
  · refine Walk.yields_ask_bind (fun result => behind (.decided start result) rfl rfl) ?_
    intro state r answer
    rw [← Nat.zero_add start] at answer
    exact .raised (.condition at_start found (.inl kind) answer)

/-- The outcome of parsing a block follows the verdict on it. -/
theorem parse_verdict (at_start : lines[start]? = some line) (ho : opens directive? line = true)
    (ignore : Bool) (state : σ) :
    ∃ result progress, Verdict directive? evaluate lines start result ∧
      parse directive? evaluate lines start ignore state =
        (result.mapError .rejected, progress) := by
  have verdict : Verdict directive? evaluate lines start _ :=
    run_verdict at_start ho ignore { state }
  rw [parse_of_opens directive? evaluate at_start ho]
  generalize (run directive? evaluate (lines.drop start) (Machine.start start ignore)).run
    { state } = outcome at verdict ⊢
  obtain ⟨result, progress⟩ := outcome
  refine ⟨result, progress, verdict, ?_⟩
  cases result <;> rfl

/-- Conditions and error directives do not report unterminated blocks, unless the evaluator does. -/
theorem Raised.gives {index : Nat} {r : Rejection} (h : Raised directive? evaluate index lines r)
    (kind : r.kind = .unterminated) : evaluate.Gives r := by
  cases h with
  | condition at_n found _ answer => exact ⟨_, _, _, answer⟩
  | directive => cases kind

/-- A parsed block ends where nesting says. -/
theorem endsAt_of_parse_ok (at_start : lines[start]? = some line)
    (ho : opens directive? line = true) {ignore : Bool} {state : σ} {block : Block}
    {progress : Progress σ}
    (h : parse directive? evaluate lines start ignore state = (.ok block, progress)) :
    EndsAt directive? lines start block.stop := by
  obtain ⟨result, progress', verdict, outcome⟩ := parse_verdict at_start ho ignore state
  rw [outcome] at h
  cases verdict with
  | closed ends =>
    cases h
    exact ends
  | raised => cases h
  | unterminated => cases h

/-- A block with an end is not reported as unterminated. -/
theorem gives_of_parse_unterminated (at_start : lines[start]? = some line)
    (ho : opens directive? line = true) {stop : Nat} (ends : EndsAt directive? lines start stop)
    {ignore : Bool} {state : σ} {r : Rejection} {progress : Progress σ}
    (h : parse directive? evaluate lines start ignore state = (.error (.rejected r), progress))
    (kind : r.kind = .unterminated) : evaluate.Gives r := by
  obtain ⟨result, progress', verdict, outcome⟩ := parse_verdict at_start ho ignore state
  rw [outcome] at h
  cases verdict with
  | closed => cases h
  | raised raised =>
    cases h
    exact raised.gives kind
  | unterminated endless => exact absurd ⟨stop, ends⟩ endless

/-- A block without an end is rejected. -/
theorem exists_rejected_of_endless (at_start : lines[start]? = some line)
    (ho : opens directive? line = true) (endless : ¬ ∃ stop, EndsAt directive? lines start stop)
    (ignore : Bool) (state : σ) :
    ∃ r progress,
      parse directive? evaluate lines start ignore state = (.error (.rejected r), progress) ∧
      (r.kind = .unterminated → evaluate.Gives r ∨
        ∃ u : Nat, r.line = some (u : Int) ∧ LastUnclosed directive? lines start u) := by
  obtain ⟨result, progress, verdict, outcome⟩ := parse_verdict at_start ho ignore state
  cases verdict with
  | closed ends => exact absurd ⟨_, ends⟩ endless
  | raised raised => exact ⟨_, progress, outcome, fun kind => .inl (raised.gives kind)⟩
  | @unterminated u _ last => exact ⟨_, progress, outcome, fun _ => .inr ⟨u, rfl, last⟩⟩

end Verdict

/-! ## Lines behind the end -/

/-- More lines at the end leave the remainders of blocks that are closed before as they are. -/
theorem outline_append (index : Nat) (lines more : List String) :
    outline directive? index lines <+: outline directive? index (lines ++ more) := by
  induction lines generalizing index with
  | nil => exact List.nil_prefix
  | cons line lines ih =>
    obtain ⟨tail, eq⟩ := ih (index + 1)
    rw [List.cons_append, outline, outline, ← eq]
    split
    · -- An opening line merges two remainders, which must both be there already.
      rcases outline directive? (index + 1) lines with _ | ⟨inner, _ | ⟨outer, rest⟩⟩
      · exact List.nil_prefix
      · exact List.nil_prefix
      · exact ⟨tail, rfl⟩
    · split
      · exact ⟨tail, rfl⟩
      · cases outline directive? (index + 1) lines with
        | nil => exact List.nil_prefix
        | cons r rs => exact ⟨tail, rfl⟩

/-- The tree of a block does not depend on the lines behind its end. -/
theorem Tree.read_append {tree : Tree} (h : Tree.read directive? start lines = some tree)
    (more : List String) : Tree.read directive? start (lines ++ more) = some tree := by
  cases lines with
  | nil => cases h
  | cons line lines =>
    rw [List.cons_append, Tree.read]
    rw [Tree.read] at h
    split at h
    · rename_i ho
      obtain ⟨tail, eq⟩ : outline directive? (start + 1) lines <+:
        outline directive? (start + 1) (lines ++ more) := outline_append (start + 1) lines more
      rw [if_pos ho, ← eq]
      cases remainders : outline directive? (start + 1) lines with
      | nil =>
        rw [remainders] at h
        cases h
      | cons r rs =>
        rw [remainders] at h
        exact h
    · cases h

/-- **A walk through a block is over at its end**: it is the same for all lines that agree up to
there. -/
theorem run_eq_of_take_eq {σ : Type} (evaluate : Evaluator σ) {lines' : List String} {stop : Nat}
    (at_start : lines[start]? = some line) (ho : opens directive? line = true)
    (ends : EndsAt directive? lines start stop)
    (same : lines'.take (stop + 1) = lines.take (stop + 1)) (ignore : Bool) :
    run directive? evaluate (lines'.drop start) (Machine.start start ignore) =
      run directive? evaluate (lines.drop start) (Machine.start start ignore) := by
  have bound : start < stop + 1 := Nat.lt_succ_of_le ends.start_le
  have first : (lines.take (stop + 1))[start]? = some line := by
    rw [List.getElem?_take, if_pos bound]
    exact at_start
  have ends' : EndsAt directive? (lines.take (stop + 1)) start stop :=
    (endsAt_take directive? lines start stop).mpr ends
  obtain ⟨tree, read, -, -, -⟩ := exists_tree directive? first ho ends'
  -- Every extension of the common lines has their tree.
  have extension {text : List String} (eq : text.take (stop + 1) = lines.take (stop + 1)) :
      run directive? evaluate (text.drop start) (Machine.start start ignore) = (do
        let hidden ← tree.run evaluate (!ignore)
        return ⟨tree.stop, hidden⟩) := by
    have at_text : text[start]? = some line := by
      rw [← eq, List.getElem?_take, if_pos bound] at first
      exact first
    have ends_text : EndsAt directive? text start stop := by
      rw [← endsAt_take, eq]
      exact ends'
    have le : start ≤ (text.take (stop + 1)).length := by
      rw [eq]
      exact Nat.le_trans ends'.start_le (Nat.le_of_lt ends'.lt_length)
    obtain ⟨tree', read', -, -, runs⟩ := exists_tree directive? at_text ho ends_text
    -- The tree that is read from the whole text is the one of the common lines.
    have longer := Tree.read_append read (text.drop (stop + 1))
    rw [← eq, ← List.drop_append_of_le_length le, List.take_append_drop, read'] at longer
    cases longer
    exact runs evaluate ignore
  rw [extension same, extension rfl]

/-! ## Ignored blocks -/

section Ignored

variable {σ : Type} (evaluate : Evaluator σ)

/-- In a chain that is not live no branch is selected, and nothing is asked. -/
theorem selects_false (selected : Bool) (index : Nat) (condition : Option String) :
    selects evaluate false selected index condition = pure false := rfl

mutual

/-- A tree that is not live hides all its lines and does nothing else. -/
theorem Tree.run_false : ∀ t : Tree, t.run evaluate false = pure (t.lines.map Prod.fst)
  | .mk index condition body rest => by
    rw [Tree.run, selects_false, pure_bind, Body.run_false body, pure_bind,
      Chain.run_false false rest, pure_bind, Tree.lines, List.map_cons, List.map_append]

/-- A chain that is not live hides all its lines. -/
theorem Chain.run_false (selected : Bool) :
    ∀ c : Chain, c.run evaluate false selected = pure (c.lines.map Prod.fst)
  | .closing index => by
    rw [Chain.run, Chain.lines, List.map_cons, List.map_nil]
  | .branch index condition body rest => by
    rw [Chain.run, selects_false, pure_bind, Body.run_false body, pure_bind,
      Chain.run_false (selected || false) rest, pure_bind]
    cases condition <;> rw [Chain.lines, List.map_cons, List.map_append]

/-- A body that is not shown hides all its lines. -/
theorem Body.run_false : ∀ b : Body, b.run evaluate false = pure (b.lines.map Prod.fst)
  | .empty => by
    rw [Body.run, Body.lines, List.map_nil]
  | .content index rest => by
    rw [Body.run, Body.run_false rest, Body.lines, List.map_cons]
    rfl
  | .warning index given rest => by
    rw [Body.run, Body.run_false rest, Body.lines, List.map_cons]
    rfl
  | .error index message rest => by
    rw [Body.run, Body.run_false rest, Body.lines, List.map_cons]
    rfl
  | .block inner rest => by
    rw [Body.run, Tree.run_false inner, Body.run_false rest, Body.lines, List.map_append]
    rfl

end

/-- Behind a selected branch of a chain no other one is selected, and nothing is asked. -/
theorem selects_selected (live : Bool) (index : Nat) (condition : Option String) :
    selects evaluate live true index condition = pure false := by
  cases live <;> rfl

/-- The branches behind the selected one are hidden as a whole, and nothing else happens. -/
theorem Chain.run_selected (live : Bool) (c : Chain) :
    c.run evaluate live true = pure (c.lines.map Prod.fst) := by
  cases c with
  | closing index => rw [Chain.run, Chain.lines, List.map_cons, List.map_nil]
  | branch index condition body rest =>
    rw [Chain.run, selects_selected, pure_bind, Body.run_false evaluate body, pure_bind,
      Bool.true_or, Chain.run_selected live rest, pure_bind]
    cases condition <;> rw [Chain.lines, List.map_cons, List.map_append]

/-- The indices of some lines are consecutive. -/
theorem map_fst_kindsFrom (index : Nat) (lines : List String) :
    (kindsFrom directive? index lines).map Prod.fst = List.range' index lines.length := by
  induction lines generalizing index with
  | nil => rfl
  | cons line lines ih =>
    rw [kindsFrom, List.map_cons, ih (index + 1), List.length_cons, List.range'_succ]

/-- The indices of the lines of a block are those from its start to its end. -/
theorem EndsAt.map_fst_kindsFrom {stop : Nat} (ends : EndsAt directive? lines start stop) :
    (kindsFrom directive? start ((lines.drop start).take (stop + 1 - start))).map Prod.fst =
      List.range' start (stop + 1 - start) := by
  have fits : ((lines.drop start).take (stop + 1 - start)).length = stop + 1 - start := by
    have := ends.lt_length
    rw [List.length_take, List.length_drop]
    omega
  rw [Block.map_fst_kindsFrom, fits]

/-- **An ignored block is passed over**: all its lines are hidden, and nothing else happens. -/
theorem run_ignored {stop : Nat} (at_start : lines[start]? = some line)
    (ho : opens directive? line = true) (ends : EndsAt directive? lines start stop) :
    run directive? evaluate (lines.drop start) (Machine.start start true) =
      pure ⟨stop, List.range' start (stop + 1 - start)⟩ := by
  obtain ⟨tree, -, stop_eq, spelled, runs⟩ := exists_tree directive? at_start ho ends
  rw [runs, Bool.not_true, Tree.run_false, pure_bind, stop_eq, spelled, ends.map_fst_kindsFrom]

end Ignored

/-! ## The extent of a block -/

/-- **The extent of a block** is settled by nesting alone, whatever the evaluator does.

A parsed block ends where its depth first is zero, so two environments never disagree about the end.
If there is such a line, no line behind it matters and the block is not reported as unterminated; an
ignored block is then hidden as a whole, with no question asked and no event. If there is none, the
text is rejected, and when it is for an unterminated block, the last unclosed line is named. Only
the evaluator itself could come up with such a rejection at another place. -/
theorem parse_extent (opening : lines[start]?.any (opens directive?) = true) :
    (∀ {σ : Type} (evaluate : Evaluator σ) (ignore : Bool) (state : σ) (block : Block)
      (progress : Progress σ),
      parse directive? evaluate lines start ignore state = (.ok block, progress) →
        EndsAt directive? lines start block.stop) ∧
    (∀ stop, EndsAt directive? lines start stop → ∀ {σ : Type} (evaluate : Evaluator σ) (state : σ),
      (∀ (ignore : Bool) (lines' : List String),
        lines'.take (stop + 1) = lines.take (stop + 1) →
          parse directive? evaluate lines' start ignore state =
            parse directive? evaluate lines start ignore state) ∧
      (∀ (ignore : Bool) (r : Rejection) (progress : Progress σ),
        parse directive? evaluate lines start ignore state = (.error (.rejected r), progress) →
          r.kind = .unterminated → evaluate.Gives r) ∧
      parse directive? evaluate lines start true state =
        (.ok ⟨stop, List.range' start (stop + 1 - start)⟩, { state })) ∧
    ((¬ ∃ stop, EndsAt directive? lines start stop) →
      ∀ {σ : Type} (evaluate : Evaluator σ) (ignore : Bool) (state : σ),
        ∃ r progress,
          parse directive? evaluate lines start ignore state =
            (.error (.rejected r), progress) ∧
          (r.kind = .unterminated → evaluate.Gives r ∨
            ∃ u : Nat, r.line = some (u : Int) ∧ LastUnclosed directive? lines start u)) := by
  obtain ⟨line, at_start, ho⟩ := (Option.any_eq_true _ _).mp opening
  refine ⟨?_, ?_, ?_⟩
  · intro σ evaluate ignore state block progress h
    exact endsAt_of_parse_ok at_start ho h
  · intro stop ends σ evaluate state
    refine ⟨?_, ?_, ?_⟩
    · intro ignore lines' same
      have bound : start < stop + 1 := Nat.lt_succ_of_le ends.start_le
      have at_start' : lines'[start]? = some line := by
        rw [← at_start, ← List.getElem?_take_of_lt bound, same, List.getElem?_take_of_lt bound]
      rw [parse_of_opens directive? evaluate at_start' ho,
        parse_of_opens directive? evaluate at_start ho,
        run_eq_of_take_eq evaluate at_start ho ends same]
    · intro ignore r progress h kind
      exact gives_of_parse_unterminated at_start ho ends h kind
    · rw [parse_of_opens directive? evaluate at_start ho, run_ignored evaluate at_start ho ends]
      rfl
  · intro endless σ evaluate ignore state
    exact exists_rejected_of_endless at_start ho endless ignore state

/-- Lines of a block with a nested one, and with a closing directive behind it. -/
def closedLines : List String := ["x", "if", "a", "if", "else", "endif", "elif", "endif", "endif"]

/-- The block of these lines, parsed as part of an inactive branch. -/
theorem parse_extent_nested :
    EndsAt bareDirective? closedLines 1 7 ∧
      ∀ (evaluate : Evaluator Nat) (state : Nat),
        parse bareDirective? evaluate closedLines 1 true state =
          (.ok ⟨7, [1, 2, 3, 4, 5, 6, 7]⟩, { state }) := by
  have ends : EndsAt bareDirective? closedLines 1 7 := by decide
  refine ⟨ends, ?_⟩
  intro evaluate state
  exact ((parse_extent (by decide)).2.1 7 ends evaluate state).2.2

end Block

end LineGate
