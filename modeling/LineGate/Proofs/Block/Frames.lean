import Mathlib.Data.List.Chain
import Mathlib.Data.List.Nodup
import LineGate.Proofs.Block.Steps

/-! # The frames of the open blocks

How the frames of a machine agree with each other and with the lines is an invariant of the visits
(`Machine.Framed`): it holds at the opening line of a block, and every turn keeps it. On top of it
stands the history of a single chain (`RemainsDone`). Once one of its branches has been selected that
stays so, and the lines that start further branches prune them, so no other branch becomes active. -/

namespace LineGate

variable {σ : Type}

/-! ## Single frames -/

/-- **Consistent frames**: the flags of the frame agree with each other. -/
structure Frame.Consistent (f : Frame) : Prop where
  /-- Before the opening line has been dealt with, no branch is selected. -/
  unselected : f.opened = false → f.done = false
  /-- In a block that is ignored, every branch is pruned. -/
  pruned : f.opened = true → f.ignore = true → f.prune = true
  /-- In any other block, a branch that is not pruned has been selected. -/
  selected : f.opened = true → f.ignore = false → f.prune = false → f.done = true

namespace Frame

variable {f g : Frame} {kind : Option Directive.Kind}

/-- Lines keep frames consistent. -/
theorem Change.consistent (h : f.Change kind g) (due : f.opened = false → kind = some .opening)
    (sound : f.Consistent) : g.Consistent := by
  have opened := h.opened_eq_true due
  refine ⟨fun unopened => ?_, fun _ => ?_, fun _ => ?_⟩
  · rw [opened] at unopened
    cases unopened
  · cases h with
    | same notOpening =>
      exact sound.pruned opened
    | skip | behind => simp
    | first _ live | decided live | otherwise live => simp [live]
  · cases h with
    | same notOpening => exact sound.selected opened
    | skip | behind => simp
    | first _ _ result | decided _ _ result => simp
    | otherwise => simp

/-- In an active branch, the chain is not ignored, and one of its branches has been selected. -/
theorem Consistent.of_active (sound : f.Consistent) (opened : f.opened = true)
    (active : f.active = true) : f.ignore = false ∧ f.prune = false ∧ f.done = true := by
  obtain ⟨unpruned, live⟩ : f.prune = false ∧ f.ignore = false := by simpa [Frame.active] using active
  exact ⟨live, unpruned, sound.selected opened live unpruned⟩

/-- If a branch has been selected, the opening line has been dealt with. -/
theorem Consistent.opened_of_done (sound : f.Consistent) (done : f.done = true) :
    f.opened = true := by
  by_contra unopened
  simp [sound.unselected (by simpa using unopened)] at done

/-- Once a branch of a chain has been selected, that stays so, and a line that starts a further branch
prunes it. -/
theorem Change.of_done (h : f.Change kind g) (opened : f.opened = true) (live : f.ignore = false)
    (done : f.done = true) :
    g.ignore = false ∧ g.done = true ∧ (g.prune = true ∨ g = f ∧ ¬ Directive.Kind.Parts kind) := by
  cases h with
  | same _ _ quiet =>
    refine ⟨live, done, .inr ⟨rfl, quiet.resolve_left ?_⟩⟩
    simp [live]
  | skip unopened | first unopened =>
    rw [unopened] at opened
    cases opened
  | decided _ undone =>
    rw [undone] at done
    cases done
  | behind => exact ⟨live, done, .inl rfl⟩
  | otherwise => exact ⟨live, rfl, .inl done⟩

end Frame

namespace Block

/-! ## The depth in front of a line -/

variable {directive? : String → Option Directive} {lines : List String} {line : String}

/-- The weight of a line is that of its directive. -/
theorem weight_eq (line : String) :
    weight directive? line =
      if (directive? line).map (·.kind) = some .opening then 1
      else if (directive? line).map (·.kind) = some .closing then -1 else 0 := by
  cases found : directive? line with
  | none => simp [weight, opens, closes, found]
  | some d => simp [weight, opens, closes, found]

/-- One more line adds its weight to the balance of the lines behind the start of a block. -/
theorem balance_take_succ {start index : Nat} (le : start ≤ index)
    (at_index : lines[index]? = some line) :
    balance directive? ((lines.drop start).take (index + 1 - start)) =
      balance directive? ((lines.drop start).take (index - start)) + weight directive? line := by
  have last : (lines.drop start)[index - start]? = some line := by
    rw [List.getElem?_drop, Nat.add_sub_cancel' le, at_index]
  rw [Nat.succ_sub le, List.take_add_one, last, balance_append]
  simp [balance_cons]

end Block

namespace Machine

open Block

variable (directive? : String → Option Directive) (lines : List String)

/-- **Framed machines**: the frames agree with each other and with the lines. The outermost block is
part of an inactive branch if `ignore` says so. -/
structure Framed (ignore : Bool) (m : Machine) : Prop where
  /-- Inner blocks start behind the outer ones. -/
  starts : m.frames.Pairwise fun inner outer => outer.start < inner.start
  /-- Blocks start at lines that open one. -/
  opening : ∀ f ∈ m.frames, lines[f.start]?.any (opens directive?) = true
  /-- They start no later than the line to be visited. -/
  start_le : ∀ f ∈ m.frames, f.start ≤ m.index
  /-- The opening lines of all blocks but the innermost have been dealt with. -/
  below_opened : ∀ f ∈ m.below, f.opened = true
  /-- That of the innermost block has not, just if it is the line to be visited. -/
  unopened_iff : m.top.opened = false ↔ m.top.start = m.index
  /-- There is an outermost block, and it is ignored as it should be. -/
  outermost : (m.frames.map (·.ignore)).getLast? = some ignore
  /-- Every other block is ignored just if the branch that it lies in is inactive. -/
  nested : m.frames.IsChain fun inner outer => inner.ignore = !outer.active
  /-- The flags of every single frame agree. -/
  consistent : ∀ f ∈ m.frames, f.Consistent
  /-- Behind the start of a block, as many blocks have been opened and not closed as there are
  frames from its own inward. -/
  depth : ∀ (k : Nat) f, m.frames[k]? = some f →
    balance directive? ((lines.drop f.start).take (m.index - f.start)) = k + m.top.opened.toNat

namespace Framed

variable {directive? lines} {line : String} {ignore : Bool} {m next : Machine}

/-- **The machine at the opening line** of a block is framed. -/
theorem start {start : Nat} (opening : lines[start]?.any (opens directive?) = true) (ignore : Bool) :
    (Machine.start start ignore).Framed directive? lines ignore where
  starts := List.pairwise_singleton _ _
  opening := by simpa [Machine.start, frames] using opening
  start_le := by simp [Machine.start, frames]
  below_opened := by simp [Machine.start]
  unopened_iff := by simp [Machine.start]
  outermost := rfl
  nested := List.isChain_singleton _
  consistent f mem := by
    rw [List.mem_singleton.mp mem]
    constructor <;> simp [Machine.start]
  depth k f at_k := by
    obtain ⟨rfl, rfl⟩ : 0 = k ∧ { start, ignore } = f := by
      cases k with
      | zero => simpa [Machine.start, frames] using at_k
      | succ k => simp [Machine.start, frames] at at_k
    simp [Machine.start]

/-- If an opening line is due, then the line to be visited is one. -/
theorem due (h : m.Framed directive? lines ignore) (at_index : lines[m.index]? = some line)
    (unopened : m.top.opened = false) : (directive? line).map (·.kind) = some .opening := by
  have opening := h.opening m.top List.mem_cons_self
  rw [h.unopened_iff.mp unopened, at_index] at opening
  obtain ⟨d, found, kind⟩ := (opens_iff directive?).mp opening
  rw [found, Option.map_some, kind]

/-- At any other line, no opening line is due. -/
theorem opened_of_ne_opening (h : m.Framed directive? lines ignore)
    (at_index : lines[m.index]? = some line)
    (notOpening : (directive? line).map (·.kind) ≠ some .opening) : m.top.opened = true := by
  by_contra unopened
  exact notOpening (h.due at_index (by simpa using unopened))

/-- If no opening line is due, that of every block has been dealt with. -/
theorem opened_of_mem (h : m.Framed directive? lines ignore) (opened : m.top.opened = true)
    {f : Frame} (mem : f ∈ m.frames) : f.opened = true := by
  rcases List.mem_cons.mp mem with rfl | mem
  · exact opened
  · exact h.below_opened f mem

/-- The blocks whose opening lines have been dealt with are those that start before the line to be
visited. -/
theorem opened_iff (h : m.Framed directive? lines ignore) {f : Frame} (mem : f ∈ m.frames) :
    f.opened = true ↔ f.start < m.index := by
  have le := h.start_le f mem
  rcases List.mem_cons.mp mem with rfl | mem
  · rw [← Bool.not_eq_false, h.unopened_iff]
    omega
  · have before : f.start < m.top.start := (List.pairwise_cons.mp h.starts).1 f mem
    have top_le := h.start_le m.top List.mem_cons_self
    exact iff_of_true (h.below_opened f mem) (by omega)

/-- No two blocks start at the same line. -/
theorem eq_of_start_eq (h : m.Framed directive? lines ignore) {f g : Frame} (hf : f ∈ m.frames)
    (hg : g ∈ m.frames) (same : f.start = g.start) : f = g := by
  have nodup : (m.frames.map (·.start)).Nodup :=
    List.pairwise_map.mpr (h.starts.imp Nat.ne_of_gt)
  exact List.inj_on_of_nodup_map nodup hf hg same

/-! ### The turns -/

/-- **Entering a block** puts a frame for it on top. -/
theorem enter (h : m.Framed directive? lines ignore)
    (opens_index : lines[m.index]?.any (opens directive?) = true) (opened : m.top.opened = true)
    (index : next.index = m.index) (top : next.top = { start := m.index, ignore := !m.top.active })
    (below : next.below = m.frames) : next.Framed directive? lines ignore where
  starts := by
    rw [frames, top, below]
    refine List.pairwise_cons.mpr ⟨fun f mem => ?_, h.starts⟩
    exact (h.opened_iff mem).mp (h.opened_of_mem opened mem)
  opening := by
    rw [frames, top, below]
    exact List.forall_mem_cons.mpr ⟨opens_index, h.opening⟩
  start_le := by
    rw [frames, top, below, index]
    exact List.forall_mem_cons.mpr ⟨Nat.le_refl _, h.start_le⟩
  below_opened := by
    rw [below]
    exact fun f => h.opened_of_mem opened
  unopened_iff := by simp [top, index]
  outermost := by
    rw [frames, below, List.map_cons, frames, List.map_cons, List.getLast?_cons_cons]
    exact h.outermost
  nested := by
    rw [frames, top, below]
    exact List.isChain_cons_cons.mpr ⟨rfl, h.nested⟩
  consistent := by
    rw [frames, top, below]
    refine List.forall_mem_cons.mpr ⟨?_, h.consistent⟩
    constructor <;> simp
  depth k f at_k := by
    rw [frames, below, top] at at_k
    rw [top, index]
    cases k with
    | zero =>
      cases at_k
      simp
    | succ k =>
      -- The new frame stands for the opening line, which is not yet counted.
      rw [h.depth k f at_k, opened]
      simp

/-- **Leaving a block** takes its frame off. -/
theorem leave (h : m.Framed directive? lines ignore) (at_index : lines[m.index]? = some line)
    (closing : (directive? line).map (·.kind) = some .closing) (index : next.index = m.index + 1)
    (left : next.frames = m.below) : next.Framed directive? lines ignore := by
  have opened : m.top.opened = true := h.opened_of_ne_opening at_index (by simp [closing])
  have next_opened : next.top.opened = true := h.below_opened _ (left ▸ List.mem_cons_self)
  have mem {f : Frame} (mem : f ∈ next.frames) : f ∈ m.frames :=
    List.mem_cons_of_mem _ (left ▸ mem)
  refine ⟨?_, fun f hf => h.opening f (mem hf), ?_, ?_, ?_, ?_, ?_, fun f hf => h.consistent f (mem hf), ?_⟩
  · rw [left]
    exact h.starts.of_cons
  · intro f hf
    rw [index]
    exact Nat.le_succ_of_le (h.start_le f (mem hf))
  · intro f hf
    apply h.below_opened
    rw [← left]
    exact List.mem_cons_of_mem _ hf
  · have before := h.start_le _ (mem List.mem_cons_self)
    rw [next_opened, index]
    constructor
    · simp
    · omega
  · have outermost := h.outermost
    rwa [frames, ← left, List.map_cons, frames, List.map_cons, List.getLast?_cons_cons] at outermost
  · have nested := h.nested
    rw [frames, ← left] at nested
    exact nested.tail
  · -- A frame moves up by one place, and the closing line takes one off the balance.
    intro k f at_k
    have le := h.start_le f (mem (List.mem_of_getElem? at_k))
    have deeper := h.depth (k + 1) f (by rwa [frames, ← left])
    have lower : weight directive? line = -1 := by rw [weight_eq, closing, if_neg (by simp), if_pos rfl]
    rw [index, balance_take_succ le at_index, deeper, lower, opened, next_opened, Bool.toNat_true]
    omega

/-- **A line of the innermost block** changes its frame. -/
theorem within (h : m.Framed directive? lines ignore) (at_index : lines[m.index]? = some line)
    (index : next.index = m.index + 1)
    (change : m.top.Change ((directive? line).map (·.kind)) next.top)
    (below : next.below = m.below) : next.Framed directive? lines ignore := by
  have due := h.due at_index
  have opened := change.opened_eq_true due
  have top_mem : m.top ∈ m.frames := List.mem_cons_self
  have below_mem {f : Frame} (mem : f ∈ m.below) : f ∈ m.frames := List.mem_cons_of_mem _ mem
  have frames_next : next.frames = next.top :: m.below := by rw [frames, below]
  have outer := List.pairwise_cons.mp h.starts
  have inner := List.isChain_cons.mp h.nested
  refine ⟨?_, ?_, ?_, ?_, ?_, ?_, ?_, ?_, ?_⟩
  · rw [frames_next]
    refine List.pairwise_cons.mpr ⟨?_, outer.2⟩
    rw [change.start_eq]
    exact outer.1
  · rw [frames_next]
    refine List.forall_mem_cons.mpr ⟨?_, fun f mem => h.opening f (below_mem mem)⟩
    rw [change.start_eq]
    exact h.opening m.top top_mem
  · rw [frames_next, index]
    refine List.forall_mem_cons.mpr ⟨?_, fun f mem => Nat.le_succ_of_le (h.start_le f (below_mem mem))⟩
    rw [change.start_eq]
    exact Nat.le_succ_of_le (h.start_le m.top top_mem)
  · rw [below]
    exact h.below_opened
  · -- The opening line is behind the machine now, or has been all along.
    have before := h.start_le m.top top_mem
    rw [opened, change.start_eq, index]
    constructor
    · simp
    · omega
  · rw [frames_next, List.map_cons, change.ignore_eq]
    exact h.outermost
  · rw [frames_next]
    refine List.isChain_cons.mpr ⟨?_, inner.2⟩
    rw [change.ignore_eq]
    exact inner.1
  · rw [frames_next]
    refine List.forall_mem_cons.mpr ⟨?_, fun f mem => h.consistent f (below_mem mem)⟩
    exact change.consistent due (h.consistent m.top top_mem)
  · intro k f at_k
    obtain ⟨g, at_k', same⟩ : ∃ g, m.frames[k]? = some g ∧ f.start = g.start := by
      rw [frames_next] at at_k
      cases k with
      | zero =>
        cases at_k
        exact ⟨m.top, rfl, change.start_eq⟩
      | succ k => exact ⟨f, at_k, rfl⟩
    have le := h.start_le g (List.mem_of_getElem? at_k')
    -- The line is the opening one that is due, or else it neither opens nor closes a block.
    have balanced : (m.top.opened.toNat : Int) + weight directive? line = 1 := by
      rw [weight_eq]
      cases was : m.top.opened with
      | false => simp [due was]
      | true => simp [change.ne_opening_closing was]
    rw [same, index, balance_take_succ le at_index, h.depth k g at_k', opened, Bool.toNat_true]
    omega

/-- **Every turn keeps machines framed.** -/
theorem turn (h : m.Framed directive? lines ignore) (at_index : lines[m.index]? = some line)
    (turn : m.Turn ((directive? line).map (·.kind)) next) : next.Framed directive? lines ignore := by
  generalize kind : (directive? line).map (·.kind) = k at turn
  cases turn with
  | enter opened index top below =>
    refine h.enter ?_ opened index top below
    obtain ⟨d, found, opening⟩ := Option.map_eq_some_iff.mp kind
    rw [at_index]
    exact (opens_iff directive?).mpr ⟨d, found, opening⟩
  | leave index left => exact h.leave at_index kind index left
  | within index change below => exact h.within at_index index (kind ▸ change) below

variable {evaluate : Evaluator σ} {p p' : Progress σ} {m' : Machine}

/-- **All visits** that follow one of a framed machine are those of framed machines. -/
theorem of_reaches (h : m.Framed directive? lines ignore)
    (reached : Reaches directive? evaluate lines m p m' p') :
    m'.Framed directive? lines ignore := by
  induction reached with
  | here => exact h
  | on _ visited ih =>
    obtain ⟨line, at_index, taken⟩ := turn_of_visit visited
    exact ih.turn at_index taken

end Framed

end Machine

namespace Block

/-! ## The history of a chain -/

/-- **Starts of branches**: line `j` starts a further branch of the block that starts at line
`start`. -/
structure StartsBranch (directive? : String → Option Directive) (lines : List String)
    (start j : Nat) : Prop where
  /-- The line comes behind the opening one. -/
  lt : start < j
  /-- It belongs to the block itself and not to one within it. -/
  depth_eq : depth directive? lines start j = 1
  /-- Its directive is one that starts a branch. -/
  parts : ∃ line, lines[j]? = some line ∧ Directive.Kind.Parts ((directive? line).map (·.kind))

variable {directive? : String → Option Directive} {evaluate : Evaluator σ} {lines : List String}
variable {line : String} {ignore : Bool} {m m' next : Machine} {p p' q : Progress σ} {f f' : Frame}

/-- The line to be visited starts no branch of an outer block. -/
theorem not_startsBranch_of_mem_below (framed : m.Framed directive? lines ignore)
    (mem : f ∈ m.below) : ¬ StartsBranch directive? lines f.start m.index := by
  rintro ⟨lt, one, line, at_index, parts⟩
  obtain ⟨k, at_k⟩ := List.mem_iff_getElem?.mp mem
  have deep := framed.depth (k + 1) f at_k
  have opened : m.top.opened = true := by
    apply framed.opened_of_ne_opening at_index
    rcases parts with parts | parts <;> simp [parts]
  have still : weight directive? line = 0 := by
    rw [weight_eq]
    rcases parts with parts | parts <;> simp [parts]
  rw [depth, balance_take_succ (Nat.le_of_lt lt) at_index, deep, opened, still, Bool.toNat_true]
    at one
  omega

/-- A line that starts a branch has a directive that does. -/
theorem not_startsBranch_of_not_parts {start : Nat} (at_index : lines[m.index]? = some line)
    (h : ¬ Directive.Kind.Parts ((directive? line).map (·.kind))) :
    ¬ StartsBranch directive? lines start m.index := by
  rintro ⟨_, _, other, at_index', parts⟩
  cases at_index.symm.trans at_index'
  exact h parts

/-- **Chains that remain done** between the visits to two lines, given the frame at either of them: if a
branch has been selected, that stays so, and the chain stays in that branch or is pruned. -/
def RemainsDone (directive? : String → Option Directive) (lines : List String) (index index' : Nat)
    (f f' : Frame) : Prop :=
  f.ignore = false → f.done = true → f'.ignore = false ∧ f'.done = true ∧
    (f'.prune = true ∨ f' = f ∧
      ∀ j, index ≤ j → j < index' → ¬ StartsBranch directive? lines f.start j)

namespace RemainsDone

variable {index index' : Nat}

/-- A chain remains done before it is visited again. -/
theorem refl (f : Frame) : RemainsDone directive? lines index index f f :=
  fun live done => ⟨live, done, .inr ⟨rfl, fun j le lt => by omega⟩⟩

/-- A chain remains done at a line that starts no branch of it. -/
theorem of_quiet (quiet : ¬ StartsBranch directive? lines f.start index) :
    RemainsDone directive? lines index (index + 1) f f := by
  refine fun live done => ⟨live, done, .inr ⟨rfl, fun j le lt => ?_⟩⟩
  rwa [show j = index by omega]

/-- A chain that remains done for a while, and then for another one, does so all the time. -/
theorem trans {index'' : Nat} {g : Frame} (h : RemainsDone directive? lines index index' f g)
    (later : RemainsDone directive? lines index' index'' g f') :
    RemainsDone directive? lines index index'' f f' := by
  intro live done
  obtain ⟨g_live, g_done, kept⟩ := h live done
  obtain ⟨live', done', kept'⟩ := later g_live g_done
  refine ⟨live', done', ?_⟩
  rcases kept' with pruned | ⟨rfl, quiet'⟩
  · exact .inl pruned
  · refine kept.imp id fun ⟨eq, quiet⟩ => ⟨eq, fun j le lt => ?_⟩
    by_cases before : j < index'
    · exact quiet j le before
    · exact eq ▸ quiet' j (Nat.le_of_not_lt before) lt

end RemainsDone

/-- **One turn**: a block that was there before has a frame before and behind, and its chain remains
done. -/
theorem remainsDone_of_turn (framed : m.Framed directive? lines ignore)
    (at_index : lines[m.index]? = some line)
    (turn : m.Turn ((directive? line).map (·.kind)) next) (mem : f' ∈ next.frames)
    (before : f'.start < m.index) :
    ∃ f ∈ m.frames, f.start = f'.start ∧
      RemainsDone directive? lines m.index next.index f f' := by
  have unparted (start : Nat) (h : ¬ Directive.Kind.Parts ((directive? line).map (·.kind))) :
      ¬ StartsBranch directive? lines start m.index :=
    not_startsBranch_of_not_parts at_index h
  generalize (directive? line).map (·.kind) = kind at turn unparted
  cases turn with
  | enter opened index top below =>
    rcases List.mem_cons.mp mem with rfl | mem
    · rw [top] at before
      exact absurd before (Nat.lt_irrefl _)
    · rw [index]
      exact ⟨f', below ▸ mem, rfl, .refl f'⟩
  | leave index left =>
    rw [index]
    refine ⟨f', List.mem_cons_of_mem _ (left ▸ mem), rfl, .of_quiet (unparted _ ?_)⟩
    rintro (h | h) <;> cases h
  | within index change below =>
    rw [index]
    rcases List.mem_cons.mp mem with rfl | mem
    · -- The innermost chain: what its frame changes to is settled by the line.
      refine ⟨m.top, List.mem_cons_self, change.start_eq.symm, fun live done => ?_⟩
      have opened : m.top.opened = true := by
        rwa [framed.opened_iff List.mem_cons_self, ← change.start_eq]
      obtain ⟨live', done', kept⟩ := change.of_done opened live done
      refine ⟨live', done', kept.imp id fun ⟨eq, quiet⟩ => ⟨eq, ?_⟩⟩
      intro j le lt
      rw [show j = m.index by omega]
      exact unparted _ quiet
    · rw [below] at mem
      exact ⟨f', List.mem_cons_of_mem _ mem, rfl,
        .of_quiet (not_startsBranch_of_mem_below framed mem)⟩

/-- **A chain with a selected branch remains done.** -/
theorem remainsDone_of_reaches (framed : m.Framed directive? lines ignore)
    (reached : Reaches directive? evaluate lines m p m' p') (mem : f ∈ m.frames)
    (mem' : f' ∈ m'.frames) (same : f'.start = f.start) :
    RemainsDone directive? lines m.index m'.index f f' := by
  intro live done
  have opened : f.opened = true := (framed.consistent f mem).opened_of_done done
  revert live done
  -- By induction on the visits, for every frame that could be the one of the chain.
  induction reached generalizing f' with
  | here =>
    cases framed.eq_of_start_eq mem' mem same
    exact RemainsDone.refl f
  | @on m' next p' q earlier visited ih =>
    obtain ⟨line, at_index, turn⟩ := turn_of_visit visited
    have before : f'.start < m'.index := by
      rw [same]
      exact Nat.lt_of_lt_of_le ((framed.opened_iff mem).mp opened) earlier.index_le
    obtain ⟨g, g_mem, g_start, later⟩ :=
      remainsDone_of_turn (framed.of_reaches earlier) at_index turn mem' before
    exact RemainsDone.trans (ih g_mem (g_start.trans same)) later

/-- **At most one branch of a chain is active**: between two visits in active branches of the same
chain, no line starts a branch of it. -/
theorem not_startsBranch_of_active (framed : m.Framed directive? lines ignore)
    (reached : Reaches directive? evaluate lines m p m' p') (mem : f ∈ m.frames)
    (mem' : f' ∈ m'.frames) (same : f'.start = f.start) (opened : f.opened = true)
    (active : f.active = true) (active' : f'.active = true) (j : Nat) (le : m.index ≤ j)
    (lt : j < m'.index) : ¬ StartsBranch directive? lines f.start j := by
  obtain ⟨live, -, done⟩ := (framed.consistent f mem).of_active opened active
  obtain ⟨-, -, pruned | ⟨-, quiet⟩⟩ := remainsDone_of_reaches framed reached mem mem' same live done
  · rw [Frame.active, pruned] at active'
    cases active'
  · exact quiet j le lt

/-- **The frames of a parse.** From the opening line of a block on, every visit is that of a framed
machine, in a chain that is not ignored a selected branch remains so, and no other branch of it
becomes active. Every visit that another one follows makes progress, and so there is a last one, with
the outcome of the parse. -/
theorem parse_frames {start : Nat} (opening : lines[start]?.any (opens directive?) = true)
    (evaluate : Evaluator σ) (ignore : Bool) (state : σ) :
    (∀ m p, Reaches directive? evaluate lines (Machine.start start ignore) { state } m p →
      m.Framed directive? lines ignore ∧
      (∀ m' p', Reaches directive? evaluate lines m p m' p' →
        ∀ f ∈ m.frames, ∀ f' ∈ m'.frames, f'.start = f.start →
          (f.ignore = false → f.done = true → f'.ignore = false ∧ f'.done = true) ∧
          (f.opened = true → f.active = true → f'.active = true →
            ∀ j, m.index ≤ j → j < m'.index → ¬ StartsBranch directive? lines f.start j)) ∧
      ∀ next q, visit directive? evaluate lines m p = .on next q →
        Prod.Lex (· < ·) (· < ·) (remaining lines next) (remaining lines m)) ∧
    ∃ m p result q, Reaches directive? evaluate lines (Machine.start start ignore) { state } m p ∧
      visit directive? evaluate lines m p = .finished result q ∧
      parse directive? evaluate lines start ignore state = (result.mapError .rejected, q) := by
  constructor
  · intro m p reached
    have framed := (Machine.Framed.start opening ignore).of_reaches reached
    refine ⟨framed, ?_, fun next q visited => visit_decreases visited⟩
    intro m' p' later f mem f' mem' same
    constructor
    · intro live done
      obtain ⟨live', done', -⟩ := remainsDone_of_reaches framed later mem mem' same live done
      exact ⟨live', done'⟩
    · exact not_startsBranch_of_active framed later mem mem' same
  · obtain ⟨line, at_start, ho⟩ := (Option.any_eq_true _ _).mp opening
    obtain ⟨m, p, result, q, reached, visited, runs⟩ :=
      exists_finished directive? evaluate lines (Machine.start start ignore) { state }
    refine ⟨m, p, result, q, reached, visited, ?_⟩
    rw [parse_of_opens directive? evaluate at_start ho, show lines.drop start =
      lines.drop (Machine.start start ignore).index from rfl, runs]
    cases result <;> rfl

/-- Lines of a block with a nested one, and with an else-if branch behind its else branch. -/
def lateBranchLines : List String :=
  ["x", "if", "a", "if", "else", "endif", "else", "elif", "endif"]

/-- The visits of the block of these lines. -/
theorem parse_frames_nested :
    lateBranchLines[1]?.any (opens bareDirective?) = true ∧
    StartsBranch bareDirective? lateBranchLines 1 6 ∧
    StartsBranch bareDirective? lateBranchLines 1 7 ∧
    ∀ (evaluate : Evaluator Nat) (state : Nat),
      (∀ m p, Reaches bareDirective? evaluate lateBranchLines (Machine.start 1 false) { state } m p →
        m.Framed bareDirective? lateBranchLines false) ∧
      ∃ m p result q,
        Reaches bareDirective? evaluate lateBranchLines (Machine.start 1 false) { state } m p ∧
        visit bareDirective? evaluate lateBranchLines m p = .finished result q ∧
        parse bareDirective? evaluate lateBranchLines 1 false state =
          (result.mapError .rejected, q) := by
  have opening : lateBranchLines[1]?.any (opens bareDirective?) = true := by decide
  refine ⟨opening, ⟨by decide, by decide, "else", rfl, .inr rfl⟩,
    ⟨by decide, by decide, "elif", rfl, .inl rfl⟩, fun evaluate state => ?_⟩
  obtain ⟨heads, last⟩ := parse_frames opening evaluate false state
  exact ⟨fun m p reached => (heads m p reached).1, last⟩

end Block

end LineGate
