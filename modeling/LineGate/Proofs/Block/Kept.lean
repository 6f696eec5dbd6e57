import LineGate.Proofs.Block.Events
import LineGate.Proofs.Block.Hidden

/-! # The kept lines of a block

A walk that comes to the end of its block has dealt with every line of it: the line is hidden, or it is
kept and an event says so. The hidden lines and the kept ones are therefore all the lines of the block,
each of them once (`parse_accounts`), and a line has the event of a kept one exactly if it is not hidden
(`mem_included_iff`). -/

namespace LineGate

variable {σ : Type}

/-- The line that an event says is kept. -/
def Event.kept? : Event → Option Nat
  | .included line => some line
  | _ => none

/-- The **kept lines** among some events. -/
def includedLines (events : List Event) : List Nat := events.filterMap Event.kept?

@[simp] theorem includedLines_nil : includedLines [] = [] := rfl

@[simp] theorem includedLines_append (events more : List Event) :
    includedLines (events ++ more) = includedLines events ++ includedLines more :=
  List.filterMap_append

@[simp] theorem includedLines_included (line : Nat) (events : List Event) :
    includedLines (.included line :: events) = line :: includedLines events := rfl

@[simp] theorem includedLines_evaluated (condition : String) (line : Nat) (result : Bool)
    (events : List Event) :
    includedLines (.evaluated condition line result :: events) = includedLines events :=
  rfl

@[simp] theorem includedLines_warned (d : Diagnostic) (events : List Event) :
    includedLines (.warned d :: events) = includedLines events := rfl

/-- The kept lines are those with an event. -/
theorem mem_includedLines {line : Nat} {events : List Event} :
    line ∈ includedLines events ↔ .included line ∈ events := by
  induction events with
  | nil => simp
  | cons e events ih => cases e <;> simp [ih]

/-! ## What is left of a walk that succeeds -/

namespace Walk

variable {α β : Type}

/-- Whatever the progress of a walk was, if it succeeds its value and what it adds to the events satisfy
`post`. -/
def Accounts (w : Walk σ α) (post : α → List Event → Prop) : Prop :=
  w.Tells fun result told => ∀ a, result = .ok a → post a told

/-- A walk that returns tells nothing. -/
theorem accounts_pure {post : α → List Event → Prop} {a : α} (h : post a []) :
    Accounts (pure a : Walk σ α) post := by
  refine tells_pure fun b eq => ?_
  cases eq
  exact h

/-- A walk that rejects has nothing to account for. -/
theorem accounts_throw (post : α → List Event → Prop) (r : Rejection) :
    Accounts (throw r : Walk σ α) post :=
  tells_throw nofun

/-- A walk in two parts accounts for both. -/
theorem Accounts.bind {first : α → List Event → Prop} {post : β → List Event → Prop} {w : Walk σ α}
    {k : α → Walk σ β} (h : Accounts w first)
    (hk : ∀ a told, first a told → Accounts (k a) fun b later => post b (told ++ later)) :
    Accounts (w >>= k) post := by
  intro p
  obtain ⟨told, told_eq, holds⟩ := h p
  rw [run_bind]
  rcases result : w.run p with ⟨r | a, q⟩
  · rw [result] at told_eq
    exact ⟨told, told_eq, nofun⟩
  · rw [result] at told_eq holds
    obtain ⟨later, later_eq, holds'⟩ := hk a told (holds a rfl) q
    refine ⟨told ++ later, later_eq.trans ?_, holds'⟩
    rw [told_eq, List.append_assoc]

/-- A weaker property is satisfied as well. -/
theorem Accounts.imp {post post' : α → List Event → Prop} {w : Walk σ α} (h : Accounts w post)
    (weaker : ∀ a told, post a told → post' a told) : Accounts w post' :=
  Tells.imp h fun _ told holds a eq => weaker a told (holds a eq)

/-- A walk that records an event accounts for it before the others. -/
theorem accounts_emit_bind {post : α → List Event → Prop} {e : Event} {k : Unit → Walk σ α}
    (h : Accounts (k ()) fun a told => post a (e :: told)) : Accounts (emit e >>= k) post :=
  tells_emit_bind h

end Walk

namespace Block

/-! ## Accounts of lines -/

/-- **Accounts of lines**: each of them is hidden or kept, once. -/
def Accounted (lines : List (Nat × Option Directive.Kind)) (hidden kept : List Nat) : Prop :=
  (hidden ++ kept).Perm (lines.map Prod.fst)

namespace Accounted

variable {lines more : List (Nat × Option Directive.Kind)} {hidden later kept kept' : List Nat}

/-- No lines are accounted for by nothing. -/
theorem nil : Accounted [] [] [] := List.Perm.nil

/-- One more line can be hidden. -/
theorem hide (index : Nat) (kind : Option Directive.Kind) (h : Accounted lines hidden kept) :
    Accounted ((index, kind) :: lines) (index :: hidden) kept :=
  h.cons index

/-- One more line can be kept. -/
theorem keep (index : Nat) (kind : Option Directive.Kind) (h : Accounted lines hidden kept) :
    Accounted ((index, kind) :: lines) hidden (index :: kept) :=
  List.perm_middle.trans (h.cons index)

/-- Accounts are put together as the lines are. -/
theorem append (h : Accounted lines hidden kept) (h' : Accounted more later kept') :
    Accounted (lines ++ more) (hidden ++ later) (kept ++ kept') := by
  unfold Accounted
  rw [List.map_append]
  refine List.Perm.trans ?_ (List.Perm.append h h')
  rw [List.append_assoc, List.append_assoc]
  exact List.perm_append_comm_assoc _ _ _ |>.append_left _

end Accounted

/-! ## Trees -/

section Run

variable (evaluate : Evaluator σ)

/-- To select a branch keeps no line. -/
theorem selects_accounts (live selected : Bool) (index : Nat) (condition : Option String) :
    (selects evaluate live selected index condition).Accounts fun _ told => includedLines told = [] := by
  unfold selects
  split
  · cases condition with
    | none => exact Walk.accounts_pure rfl
    | some text =>
      intro p
      rw [Walk.run_ask]
      rcases evaluate text index p.state with ⟨r | result, state⟩
      · exact ⟨[], (List.append_nil _).symm, nofun⟩
      · exact ⟨[.evaluated text index result], Array.toList_push, fun _ _ => rfl⟩
  · exact Walk.accounts_pure rfl

mutual

/-- A tree accounts for its lines. -/
theorem Tree.run_accounts (live : Bool) : ∀ t : Tree,
    (t.run evaluate live).Accounts fun hidden told => Accounted t.lines hidden (includedLines told)
  | .mk index condition body rest => by
    rw [Tree.run, Tree.lines]
    refine (selects_accounts evaluate live false index (some condition)).bind fun chosen t₀ quiet => ?_
    refine (Body.run_accounts chosen body).bind fun hidden t₁ inside => ?_
    refine (Chain.run_accounts live chosen rest).bind fun later t₂ behind => ?_
    refine Walk.accounts_pure ?_
    simpa [quiet] using (inside.append behind).hide index _

/-- A chain accounts for its lines. -/
theorem Chain.run_accounts (live selected : Bool) : ∀ c : Chain,
    (c.run evaluate live selected).Accounts fun hidden told =>
      Accounted c.lines hidden (includedLines told)
  | .closing index => by
    rw [Chain.run, Chain.lines]
    exact Walk.accounts_pure (Accounted.nil.hide index _)
  | .branch index condition body rest => by
    rw [Chain.run]
    refine (selects_accounts evaluate live selected index condition).bind fun chosen t₀ quiet => ?_
    refine (Body.run_accounts chosen body).bind fun hidden t₁ inside => ?_
    refine (Chain.run_accounts live (selected || chosen) rest).bind fun later t₂ behind => ?_
    refine Walk.accounts_pure ?_
    have accounted := inside.append behind
    cases condition with
    | none => simpa [Chain.lines, quiet] using accounted.hide index (some .otherwise)
    | some _ => simpa [Chain.lines, quiet] using accounted.hide index (some .elseIf)

/-- A body accounts for its lines. -/
theorem Body.run_accounts (shown : Bool) : ∀ b : Body,
    (b.run evaluate shown).Accounts fun hidden told => Accounted b.lines hidden (includedLines told)
  | .empty => by
    rw [Body.run, Body.lines]
    exact Walk.accounts_pure .nil
  | .content index rest => by
    rw [Body.run, Body.lines]
    split
    · -- Shown content is kept: its event comes before those of the rest.
      refine Walk.accounts_emit_bind ?_
      exact (Body.run_accounts shown rest).imp fun _ _ => .keep index none
    · refine (Body.run_accounts shown rest).bind fun hidden told accounted => ?_
      exact Walk.accounts_pure (by simpa using accounted.hide index none)
  | .warning index given rest => by
    rw [Body.run, Body.lines]
    have hides : (do let hidden ← rest.run evaluate shown; return index :: hidden).Accounts
        fun hidden told => Accounted ((index, some .warning) :: rest.lines) hidden (includedLines told) :=
      (Body.run_accounts shown rest).bind fun hidden told accounted =>
        Walk.accounts_pure (by simpa using accounted.hide index _)
    split
    · exact Walk.accounts_emit_bind hides
    · exact hides
  | .error index message rest => by
    rw [Body.run, Body.lines]
    split
    · exact (Walk.accounts_throw (fun _ _ => False) _).bind fun _ _ => False.elim
    · exact (Body.run_accounts shown rest).bind fun hidden told accounted =>
        Walk.accounts_pure (by simpa using accounted.hide index _)
  | .block inner rest => by
    rw [Body.run, Body.lines]
    refine (Tree.run_accounts shown inner).bind fun block t₁ inside => ?_
    refine (Body.run_accounts shown rest).bind fun hidden t₂ behind => ?_
    exact Walk.accounts_pure (by simpa using inside.append behind)

end

end Run

/-! ## Blocks -/

variable {directive? : String → Option Directive} {evaluate : Evaluator σ} {lines : List String}
variable {start : Nat} {block : Block} {progress : Progress σ} {state : σ}

/-- **A block that is parsed accounts for its lines**: the hidden lines and the kept ones are all of
them, each once. -/
theorem parse_accounts (opening : lines[start]?.any (opens directive?) = true) {ignore : Bool}
    (parsed : parse directive? evaluate lines start ignore state = (.ok block, progress)) :
    (block.hidden ++ includedLines progress.events.toList).Perm
      (List.range' start (block.stop + 1 - start)) := by
  obtain ⟨line, at_start, ho⟩ := (Option.any_eq_true _ _).mp opening
  have ends := endsAt_of_parse_ok at_start ho parsed
  obtain ⟨tree, -, -, spelled, runs⟩ := exists_tree directive? at_start ho ends
  rw [parse_of_opens directive? evaluate at_start ho] at parsed
  -- The walk is the run of a tree, which accounts for its lines.
  have accounts : (run directive? evaluate (lines.drop start) (Machine.start start ignore)).Accounts
      fun block told => Accounted tree.lines block.hidden (includedLines told) := by
    rw [runs]
    exact (tree.run_accounts evaluate (!ignore)).bind fun hidden told accounted =>
      Walk.accounts_pure (by simpa using accounted)
  obtain ⟨told, told_eq, holds⟩ := accounts { state }
  rcases outcome : (run directive? evaluate (lines.drop start) (Machine.start start ignore)).run
    { state } with ⟨r | block', progress'⟩
  · rw [outcome] at parsed
    cases parsed
  · rw [outcome] at parsed told_eq holds
    cases parsed
    have accounted : Accounted tree.lines block.hidden (includedLines told) := holds block rfl
    rw [Accounted, spelled, ends.map_fst_kindsFrom] at accounted
    rwa [show progress.events.toList = told from told_eq]

/-- **A line of a block is kept exactly if it is not hidden.** -/
theorem mem_included_iff (opening : lines[start]?.any (opens directive?) = true) {ignore : Bool}
    (parsed : parse directive? evaluate lines start ignore state = (.ok block, progress)) {i : Nat}
    (start_le : start ≤ i) (le_stop : i ≤ block.stop) :
    .included i ∈ progress.events.toList ↔ i ∉ block.hidden := by
  have accounts := parse_accounts opening parsed
  -- Being a permutation of the lines, the accounts leave out none of them and repeat none.
  have mem : i ∈ block.hidden ∨ i ∈ includedLines progress.events.toList := by
    rw [← List.mem_append, accounts.mem_iff, List.mem_range'_1]
    omega
  have once : (block.hidden ++ includedLines progress.events.toList).Nodup :=
    accounts.nodup_iff.mpr (List.nodup_range' ..)
  rw [← mem_includedLines]
  constructor
  · intro kept hidden
    exact (List.nodup_append.mp once).2.2 i hidden i kept rfl
  · exact mem.resolve_left

end Block

end LineGate
