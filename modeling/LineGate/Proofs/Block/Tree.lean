import LineGate.Proofs.Block.Visit

/-! # Block trees

A second account of blocks, by recursion in place of a machine. In a first step the lines of a block
are read into a **tree** that depends on the kinds of their directives alone: a chain of branches,
each with a body of content, warnings, errors and further trees. In a second step the tree is run
from its first line to its last one.

* **`outline`** reads some lines from their end; it lists what the lines hold of the blocks that are
  open before them, from the innermost outward.
* **`Tree.run`** gives the hidden lines. A chain is **live** if it lies in no inactive branch, and
  the branch that is selected in it is the first one whose condition holds, or else the first one
  without a condition.
* **`run_eq_resume`** ties both to the branch machine: a machine with a stack of frames does what
  its frames do, one after the other, with the outline of the lines that are left. -/

namespace LineGate

namespace Block

/-! ## Trees -/

mutual

/-- **Block trees**: the opening line with its condition, the body of the first branch, and the
branches behind it. -/
inductive Tree where
  | mk (index : Nat) (condition : String) (body : Body) (rest : Chain)

/-- **Chains**: the branches behind the first one, up to the closing line. -/
inductive Chain where
  /-- The closing line. -/
  | closing (index : Nat)
  /-- A branch with a condition, or without one. -/
  | branch (index : Nat) (condition : Option String) (body : Body) (rest : Chain)

/-- **Bodies** of branches, line by line. -/
inductive Body where
  /-- The branch is over. -/
  | empty
  /-- An ordinary line. -/
  | content (index : Nat) (rest : Body)
  /-- A warning directive, with the warning that it gives. -/
  | warning (index : Nat) (given : Diagnostic) (rest : Body)
  /-- An error directive. -/
  | error (index : Nat) (message : String) (rest : Body)
  /-- A nested block. -/
  | block (inner : Tree) (rest : Body)

end

/-- The closing line of a chain. -/
def Chain.stop : Chain → Nat
  | .closing index => index
  | .branch _ _ _ rest => rest.stop

/-- The closing line of a tree. -/
def Tree.stop : Tree → Nat
  | .mk _ _ _ rest => rest.stop

mutual

/-- The lines of a tree in order, each with its index and the kind of its directive. -/
def Tree.lines : Tree → List (Nat × Option Directive.Kind)
  | .mk index _ body rest => (index, some .opening) :: (body.lines ++ rest.lines)

/-- The lines of a chain. -/
def Chain.lines : Chain → List (Nat × Option Directive.Kind)
  | .closing index => [(index, some .closing)]
  | .branch index (some _) body rest => (index, some .elseIf) :: (body.lines ++ rest.lines)
  | .branch index none body rest => (index, some .otherwise) :: (body.lines ++ rest.lines)

/-- The lines of a body. -/
def Body.lines : Body → List (Nat × Option Directive.Kind)
  | .empty => []
  | .content index rest => (index, none) :: rest.lines
  | .warning index _ rest => (index, some .warning) :: rest.lines
  | .error index _ rest => (index, some .error) :: rest.lines
  | .block inner rest => inner.lines ++ rest.lines

end

/-! ## Reading trees -/

/-- The **remainder of a block**: the rest of its current branch, and the branches behind it. -/
structure Remainder where
  body : Body
  rest : Chain

namespace Remainder

/-- The closing line of the block. -/
def stop (r : Remainder) : Nat := r.rest.stop

/-- The lines that are left of the block. -/
def lines (r : Remainder) : List (Nat × Option Directive.Kind) := r.body.lines ++ r.rest.lines

end Remainder

variable (directive? : String → Option Directive)

/-- The text that goes with the directive of a line. -/
def expressionOf (line : String) : String :=
  match directive? line with
  | some d => d.expression
  | none => ""

/-- Put a line in front of the remainder of its block. It belongs to the current branch or starts
it; lines that open or close a block do not come here. -/
def Remainder.extend (index : Nat) (line : String) (r : Remainder) : Remainder :=
  match directive? line with
  | none => ⟨.content index r.body, r.rest⟩
  | some d => match d.kind with
    | .elseIf => ⟨.empty, .branch index (some d.expression) r.body r.rest⟩
    | .otherwise => ⟨.empty, .branch index none r.body r.rest⟩
    | .warning => ⟨.warning index (warning d index line) r.body, r.rest⟩
    | .error => ⟨.error index d.expression r.body, r.rest⟩
    | .opening => r
    | .closing => r

/-- Put an opening line in front of the remainders of its own block and of those around it. The
block becomes part of the current branch of the next one; without a next one, none is left. -/
def Remainder.nest (index : Nat) (condition : String) : List Remainder → List Remainder
  | inner :: outer :: more =>
    ⟨.block (.mk index condition inner.body inner.rest) outer.body, outer.rest⟩ :: more
  | _ => []

/-- The **outline** of some lines, the first of which has index `index`: the remainders of the
blocks that are open before the lines and closed by them, from the innermost outward. -/
def outline (index : Nat) : List String → List Remainder
  | [] => []
  | line :: lines =>
    if opens directive? line then
      Remainder.nest index (expressionOf directive? line) (outline (index + 1) lines)
    else if closes directive? line then ⟨.empty, .closing index⟩ :: outline (index + 1) lines
    else (outline (index + 1) lines).modifyHead (.extend directive? index line)

/-- **Read a tree** from its opening line on. -/
def Tree.read (index : Nat) : List String → Option Tree
  | [] => none
  | line :: lines =>
    if opens directive? line then
      (outline directive? (index + 1) lines).head?.map fun r =>
        .mk index (expressionOf directive? line) r.body r.rest
    else none

/-! ## Running trees -/

section Run

variable {σ : Type} (evaluate : Evaluator σ)

/-- **Whether a branch is selected**: in a live chain with no branch selected before, its condition
decides, and a branch without a condition is taken. In all other cases nothing is asked. -/
def selects (live selected : Bool) (index : Nat) (condition : Option String) : Walk σ Bool :=
  if live && !selected then
    match condition with
    | some text => Walk.ask evaluate text index
    | none => pure true
  else pure false

mutual

/-- **Run a tree**: the hidden lines in order. -/
def Tree.run (live : Bool) : Tree → Walk σ (List Nat)
  | .mk index condition body rest => do
    let chosen ← selects evaluate live false index (some condition)
    let hidden ← body.run chosen
    let later ← rest.run live chosen
    return index :: (hidden ++ later)

/-- Run the branches behind the first one. -/
def Chain.run (live selected : Bool) : Chain → Walk σ (List Nat)
  | .closing index => return [index]
  | .branch index condition body rest => do
    let chosen ← selects evaluate live selected index condition
    let hidden ← body.run chosen
    let later ← rest.run live (selected || chosen)
    return index :: (hidden ++ later)

/-- Run the body of a branch, which is shown if it is the selected one of a live chain. -/
def Body.run (shown : Bool) : Body → Walk σ (List Nat)
  | .empty => return []
  | .content index rest =>
    if shown then do
      Walk.emit (.included index)
      rest.run shown
    else do
      let hidden ← rest.run shown
      return index :: hidden
  | .warning index given rest => do
    if shown then Walk.emit (.warned given)
    let hidden ← rest.run shown
    return index :: hidden
  | .error index message rest => do
    if shown then throw (refused message index)
    let hidden ← rest.run shown
    return index :: hidden
  | .block inner rest => do
    let block ← inner.run shown
    let hidden ← rest.run shown
    return block ++ hidden

end

/-- **The outcome of a tree**: its closing line with the hidden lines, or the rejection, and the
progress of the run. -/
def Tree.outcome (live : Bool) (t : Tree) (state : σ) : Except Failure Block × Progress σ :=
  match (t.run evaluate live).run { state } with
  | (.ok hidden, progress) => (.ok ⟨t.stop, hidden⟩, progress)
  | (.error rejection, progress) => (.error (.rejected rejection), progress)

end Run

/-! ## Trees and lines -/

/-- The lines of a text from index `index` on, each with the kind of its directive. -/
def kindsFrom (index : Nat) : List String → List (Nat × Option Directive.Kind)
  | [] => []
  | line :: lines =>
    (index, (directive? line).map (·.kind)) :: kindsFrom (index + 1) lines

/-- A line in front of a remainder does not move the end of its block. -/
theorem Remainder.stop_extend (index : Nat) (line : String) (r : Remainder) :
    (r.extend directive? index line).stop = r.stop := by
  unfold Remainder.extend
  split
  · rfl
  · split <;> rfl

/-- A line in front of a remainder is its first line. -/
theorem Remainder.lines_extend {line : String} (ho : opens directive? line = false)
    (hc : closes directive? line = false) (index : Nat) (r : Remainder) :
    (r.extend directive? index line).lines =
      (index, (directive? line).map (·.kind)) :: r.lines := by
  unfold Remainder.extend
  cases found : directive? line with
  | none => rfl
  | some d =>
    rw [opens, found] at ho
    rw [closes, found] at hc
    cases kind : d.kind with
    | opening =>
      rw [Option.any_some, kind] at ho
      cases ho
    | closing =>
      rw [Option.any_some, kind] at hc
      cases hc
    | elseIf => simp [Remainder.lines, Body.lines, Chain.lines, kind]
    | otherwise => simp [Remainder.lines, Body.lines, Chain.lines, kind]
    | warning => simp [Remainder.lines, Body.lines, kind]
    | error => simp [Remainder.lines, Body.lines, kind]

/-- The blocks in an outline end at the lines that close an outer block. -/
theorem map_stop_outline (index : Nat) (lines : List String) :
    (outline directive? index lines).map Remainder.stop = closings directive? index lines := by
  induction lines generalizing index with
  | nil => rfl
  | cons line lines ih =>
    rw [outline, closings, ← ih (index + 1)]
    split
    · rcases outline directive? (index + 1) lines with _ | ⟨inner, _ | ⟨outer, more⟩⟩ <;> rfl
    · split
      · rfl
      · cases outline directive? (index + 1) lines with
        | nil => rfl
        | cons r rs =>
          rw [List.modifyHead_cons, List.map_cons, List.map_cons, r.stop_extend directive?]

/-- An outline has an entry for every outer block that the lines close. -/
theorem lt_length_outline {index k e : Nat} {lines : List String}
    (h : (closings directive? index lines)[k]? = some e) :
    k < (outline directive? index lines).length := by
  rw [← map_stop_outline] at h
  obtain ⟨lt, -⟩ := List.getElem?_eq_some_iff.mp h
  rwa [List.length_map] at lt

/-- The blocks of an outline up to the `k`-th one hold the lines up to the end of that block. -/
theorem flatMap_lines_outline {index k e : Nat} {lines : List String}
    (h : (closings directive? index lines)[k]? = some e) :
    ((outline directive? index lines).take (k + 1)).flatMap Remainder.lines =
      kindsFrom directive? index (lines.take (e + 1 - index)) := by
  induction lines generalizing index k with
  | nil => cases h
  | cons line lines ih =>
    have bounds := closings_bounds directive? h
    have taken : (line :: lines).take (e + 1 - index) =
        line :: lines.take (e + 1 - (index + 1)) := by
      rw [show e + 1 - index = e + 1 - (index + 1) + 1 by omega, List.take_succ_cons]
    rw [taken, kindsFrom, outline]
    rw [closings] at h
    by_cases ho : opens directive? line = true
    · rw [if_pos ho, List.getElem?_tail] at h
      rw [if_pos ho, ← ih h]
      obtain ⟨d, found, kind⟩ := (opens_iff directive?).mp ho
      -- Both the block and the one around it are closed, so the outline has two entries.
      have two := lt_length_outline directive? h
      generalize outline directive? (index + 1) lines = later at two ⊢
      rcases later with _ | ⟨inner, _ | ⟨outer, more⟩⟩
      · simp at two
      · simp at two
      · simp [Remainder.nest, Remainder.lines, Body.lines, Tree.lines, found, kind]
    · rw [if_neg ho] at h ⊢
      by_cases hc : closes directive? line = true
      · obtain ⟨d, found, kind⟩ := (closes_iff directive?).mp hc
        rw [if_pos hc] at h ⊢
        cases k with
        | zero =>
          cases h
          simp [Remainder.lines, Body.lines, Chain.lines, kindsFrom, found, kind]
        | succ k =>
          rw [← ih h]
          simp [Remainder.lines, Body.lines, Chain.lines, found, kind]
      · rw [if_neg hc] at h ⊢
        rw [← ih h]
        have one := lt_length_outline directive? h
        generalize outline directive? (index + 1) lines = later at one ⊢
        cases later with
        | nil => cases one
        | cons r rs =>
          simp [Remainder.lines_extend directive? (by simpa using ho) (by simpa using hc)]

end Block

end LineGate
