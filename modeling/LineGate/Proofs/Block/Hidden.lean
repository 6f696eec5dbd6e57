import LineGate.Proofs.Block.Extent

/-! # The hidden lines of a block

Of the lines of a block every directive is hidden, and of the others those that are not in the active
branch. Whatever the evaluator answers, the hidden lines are therefore a **selection** of the lines of
the block in their order, in which no directive is missing (`run_selects`). -/

namespace LineGate

variable {σ : Type}

namespace Walk

variable {α β : Type}

/-- Whatever the progress of a walk was, what it returns satisfies `post`. -/
def Returns (w : Walk σ α) (post : α → Prop) : Prop :=
  ∀ p a, (w.run p).1 = .ok a → post a

/-- A walk that returns a value returns nothing else. -/
theorem returns_pure {post : α → Prop} {a : α} (h : post a) : Returns (pure a : Walk σ α) post := by
  intro p b eq
  cases eq
  exact h

/-- A walk in two parts returns what its second part returns. -/
theorem Returns.bind {first : α → Prop} {post : β → Prop} {w : Walk σ α} {k : α → Walk σ β}
    (h : Returns w first) (hk : ∀ a, first a → Returns (k a) post) : Returns (w >>= k) post := by
  intro p b eq
  rw [run_bind] at eq
  rcases result : w.run p with ⟨r | a, q⟩
  · rw [result] at eq
    cases eq
  · rw [result] at eq
    exact hk a (h p a (by rw [result])) q b eq

/-- A weaker property is satisfied as well. -/
theorem Returns.imp {post post' : α → Prop} {w : Walk σ α} (h : Returns w post)
    (weaker : ∀ a, post a → post' a) : Returns w post' :=
  fun p a eq => weaker a (h p a eq)

/-- What comes first may return anything. -/
theorem returns_bind {post : β → Prop} {w : Walk σ α} {k : α → Walk σ β}
    (hk : ∀ a, Returns (k a) post) : Returns (w >>= k) post :=
  Returns.bind (fun _ _ _ => trivial : Returns w fun _ => True) fun a _ => hk a

end Walk

namespace Block

/-! ## Selections -/

/-- **Selections** of lines: the indices of some of the lines in their order, among them those of all
directives. -/
inductive Selection : List (Nat × Option Directive.Kind) → List Nat → Prop where
  | nil : Selection [] []
  /-- Any line can be hidden. -/
  | hide {lines : List (Nat × Option Directive.Kind)} {hidden : List Nat} (index : Nat)
      (kind : Option Directive.Kind) (rest : Selection lines hidden) :
      Selection ((index, kind) :: lines) (index :: hidden)
  /-- A line without directive can be kept. -/
  | keep {lines : List (Nat × Option Directive.Kind)} {hidden : List Nat} (index : Nat)
      (rest : Selection lines hidden) : Selection ((index, none) :: lines) hidden

namespace Selection

variable {lines more : List (Nat × Option Directive.Kind)} {hidden later : List Nat}

/-- Selections are put together as the lines are. -/
theorem append (h : Selection lines hidden) (hm : Selection more later) :
    Selection (lines ++ more) (hidden ++ later) := by
  induction h with
  | nil => exact hm
  | hide index kind _ ih => exact .hide index kind ih
  | keep index _ ih => exact .keep index ih

/-- The hidden lines are some of the lines, in the same order. -/
theorem sublist (h : Selection lines hidden) : hidden.Sublist (lines.map Prod.fst) := by
  induction h with
  | nil => exact List.Sublist.slnil
  | hide index kind _ ih => exact ih.cons_cons index
  | keep index _ ih => exact ih.cons index

/-- No directive is missing. -/
theorem mem_of_kind (h : Selection lines hidden) {index : Nat} {kind : Directive.Kind}
    (mem : (index, some kind) ∈ lines) : index ∈ hidden := by
  induction h with
  | nil => cases mem
  | hide i k _ ih =>
    rcases List.mem_cons.mp mem with eq | mem
    · cases eq
      exact List.mem_cons_self
    · exact List.mem_cons_of_mem _ (ih mem)
  | keep i _ ih =>
    rcases List.mem_cons.mp mem with eq | mem
    · cases eq
    · exact ih mem

end Selection

/-! ## Trees -/

section Run

variable (evaluate : Evaluator σ)

mutual

/-- A tree hides a selection of its lines. -/
theorem Tree.run_selects (live : Bool) :
    ∀ t : Tree, (t.run evaluate live).Returns (Selection t.lines)
  | .mk index condition body rest => by
    rw [Tree.run, Tree.lines]
    refine Walk.returns_bind fun chosen => ?_
    refine (Body.run_selects chosen body).bind fun hidden selected => ?_
    refine (Chain.run_selects live chosen rest).bind fun later behind => ?_
    exact Walk.returns_pure (.hide index _ (selected.append behind))

/-- A chain hides a selection of its lines. -/
theorem Chain.run_selects (live selected : Bool) :
    ∀ c : Chain, (c.run evaluate live selected).Returns (Selection c.lines)
  | .closing index => by
    rw [Chain.run, Chain.lines]
    exact Walk.returns_pure (.hide index _ .nil)
  | .branch index condition body rest => by
    rw [Chain.run]
    refine Walk.returns_bind fun chosen => ?_
    refine (Body.run_selects chosen body).bind fun hidden inside => ?_
    refine (Chain.run_selects live (selected || chosen) rest).bind fun later behind => ?_
    refine Walk.returns_pure ?_
    cases condition <;> exact .hide index _ (inside.append behind)

/-- A body hides a selection of its lines. -/
theorem Body.run_selects (shown : Bool) :
    ∀ b : Body, (b.run evaluate shown).Returns (Selection b.lines)
  | .empty => by
    rw [Body.run, Body.lines]
    exact Walk.returns_pure .nil
  | .content index rest => by
    rw [Body.run, Body.lines]
    -- Only here is a line kept.
    split
    · refine Walk.returns_bind fun _ => ?_
      exact (Body.run_selects shown rest).imp fun _ => .keep index
    · refine (Body.run_selects shown rest).bind fun hidden selected => ?_
      exact Walk.returns_pure (.hide index none selected)
  | .warning index given rest => by
    rw [Body.run, Body.lines]
    have hides : (do let hidden ← rest.run evaluate shown; return index :: hidden).Returns
        (Selection ((index, some .warning) :: rest.lines)) :=
      (Body.run_selects shown rest).bind fun hidden selected =>
        Walk.returns_pure (.hide index _ selected)
    split
    · exact Walk.returns_bind fun _ => hides
    · exact hides
  | .error index message rest => by
    rw [Body.run, Body.lines]
    have hides : (do let hidden ← rest.run evaluate shown; return index :: hidden).Returns
        (Selection ((index, some .error) :: rest.lines)) :=
      (Body.run_selects shown rest).bind fun hidden selected =>
        Walk.returns_pure (.hide index _ selected)
    split
    · exact Walk.returns_bind fun _ => hides
    · exact hides
  | .block inner rest => by
    rw [Body.run, Body.lines]
    refine (Tree.run_selects shown inner).bind fun block inside => ?_
    refine (Body.run_selects shown rest).bind fun hidden selected => ?_
    exact Walk.returns_pure (inside.append selected)

end

end Run

/-! ## Blocks -/

/-- The lines from index `index` on, each with the kind of its directive, by their place. -/
theorem mem_kindsFrom (directive? : String → Option Directive) (index : Nat) {n : Nat}
    {lines : List String} {line : String} (h : lines[n]? = some line) :
    (index + n, (directive? line).map (·.kind)) ∈ kindsFrom directive? index lines := by
  induction lines generalizing index n with
  | nil => cases h
  | cons first rest ih =>
    rw [kindsFrom]
    cases n with
    | zero =>
      cases h
      exact List.mem_cons_self
    | succ n =>
      rw [show index + (n + 1) = index + 1 + n by omega]
      exact List.mem_cons_of_mem _ (ih (index + 1) h)

variable {directive? : String → Option Directive} {evaluate : Evaluator σ} {lines : List String}
variable {line : String} {start : Nat}

/-- **What a block hides**: the block ends where nesting says, its hidden lines are some of its lines
in ascending order, and no directive is missing among them. -/
structure Hides (directive? : String → Option Directive) (lines : List String) (start : Nat)
    (block : Block) : Prop where
  ends : EndsAt directive? lines start block.stop
  ascending : block.hidden.Pairwise (· < ·)
  bounds : ∀ i ∈ block.hidden, start ≤ i ∧ i ≤ block.stop
  directives : ∀ i line, start ≤ i → i ≤ block.stop → lines[i]? = some line →
    (directive? line).isSome = true → i ∈ block.hidden

/-- A selection of the lines of a block is what the block hides. -/
theorem Selection.hides {block : Block} (ends : EndsAt directive? lines start block.stop)
    (h : Selection
      (kindsFrom directive? start ((lines.drop start).take (block.stop + 1 - start)))
      block.hidden) : Hides directive? lines start block := by
  have le := ends.start_le
  have sub := h.sublist
  rw [ends.map_fst_kindsFrom] at sub
  refine ⟨ends, List.Pairwise.sublist sub List.pairwise_lt_range', ?_, ?_⟩
  · intro i hi
    have mem := List.mem_range'_1.mp (sub.subset hi)
    omega
  · -- A directive of the block is among the selected lines, at its distance from the start.
    intro i line ge le_stop at_i found
    obtain ⟨d, found⟩ := Option.isSome_iff_exists.mp found
    have at_n : ((lines.drop start).take (block.stop + 1 - start))[i - start]? = some line := by
      rw [List.getElem?_take_of_lt (by omega), List.getElem?_drop,
        show start + (i - start) = i by omega]
      exact at_i
    have mem := mem_kindsFrom directive? start at_n
    rw [show start + (i - start) = i by omega, found] at mem
    exact h.mem_of_kind mem

/-- **The walk through a block** returns what the block hides. -/
theorem run_hides (at_start : lines[start]? = some line) (ho : opens directive? line = true)
    (ignore : Bool) :
    (run directive? evaluate (lines.drop start) (Machine.start start ignore)).Returns
      (Hides directive? lines start) := by
  intro p block returned
  have verdict : Verdict directive? evaluate lines start _ := run_verdict at_start ho ignore p
  rw [returned] at verdict
  cases verdict with
  | closed ends =>
    obtain ⟨tree, -, -, spelled, runs⟩ := exists_tree directive? at_start ho ends
    refine Selection.hides ends ?_
    rw [← spelled]
    -- The walk is the run of a tree, which adds the closing line to the hidden lines.
    have selected : (run directive? evaluate (lines.drop start) (Machine.start start ignore)).Returns
        (fun block => Selection tree.lines block.hidden) := by
      rw [runs]
      exact (tree.run_selects evaluate (!ignore)).bind fun hidden h => Walk.returns_pure h
    exact selected p block returned

end Block

end LineGate
