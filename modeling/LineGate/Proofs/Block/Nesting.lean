import LineGate.Block.Run

/-! # Nesting of blocks

Where a block ends is a matter of counting: behind a line, the **depth** is the number of lines that
open a block minus the number of lines that close one, and a block ends at the first line with depth
zero behind it. This file relates that count to the two lists a reader of the lines would keep:

* **`closings`** — the lines that close a block opened before the lines in question, in order; the
  `k`-th of them is the first line at which the balance falls to `-(k + 1)` (`closings_getElem?`).
* **`unclosed`** — the lines that open a block which is not closed again, in order. -/

namespace LineGate

namespace Block

variable (directive? : String → Option Directive)

/-! ## Counting -/

/-- Whether a line closes a block. -/
def closes (line : String) : Bool :=
  (directive? line).any fun d => d.kind == .closing

/-- The **balance** of some lines: how many more of them open a block than close one. -/
def balance (lines : List String) : Int :=
  lines.countP (opens directive?) - lines.countP (closes directive?)

/-- The **depth** behind line `j` of a block that starts at line `start`. -/
def depth (lines : List String) (start j : Nat) : Int :=
  balance directive? ((lines.drop start).take (j + 1 - start))

/-- **Ends of blocks**: the block that starts at line `start` ends at line `stop`, the first line
from `start` on with depth zero behind it. -/
structure EndsAt (lines : List String) (start stop : Nat) : Prop where
  /-- The end does not come before the start. -/
  start_le : start ≤ stop
  /-- The end is one of the lines. -/
  lt_length : stop < lines.length
  /-- As many blocks are closed as were opened. -/
  depth_eq : depth directive? lines start stop = 0
  /-- On the way there this is never so. -/
  least : ∀ j, start ≤ j → j < stop → depth directive? lines start j ≠ 0

/-- Whether a block ends at a line can be found out by counting. -/
instance (lines : List String) (start stop : Nat) :
    Decidable (EndsAt directive? lines start stop) :=
  decidable_of_iff (start ≤ stop ∧ stop < lines.length ∧ depth directive? lines start stop = 0 ∧
      ∀ j, j < stop → start ≤ j → depth directive? lines start j ≠ 0)
    ⟨fun ⟨le, lt, eq, least⟩ => ⟨le, lt, eq, fun j hj hlt => least j hlt hj⟩,
      fun ⟨le, lt, eq, least⟩ => ⟨le, lt, eq, fun j hlt hj => least j hj hlt⟩⟩

/-- The end of a block is unique. -/
theorem EndsAt.unique {lines : List String} {start e e' : Nat}
    (h : EndsAt directive? lines start e) (h' : EndsAt directive? lines start e') : e = e' := by
  rcases Nat.lt_trichotomy e e' with lt | eq | gt
  · exact absurd h.depth_eq (h'.least e h.start_le lt)
  · exact eq
  · exact absurd h'.depth_eq (h.least e' h'.start_le gt)

/-! ## The three kinds of lines -/

/-- How a line changes the balance. -/
def weight (line : String) : Int :=
  if opens directive? line then 1 else if closes directive? line then -1 else 0

/-- A line lowers the balance by one at most. -/
theorem neg_one_le_weight (line : String) : -1 ≤ weight directive? line := by
  unfold weight
  split
  · omega
  · split <;> omega

/-- The lines that open a block are those with an opening directive. -/
theorem opens_iff {line : String} :
    opens directive? line = true ↔ ∃ d, directive? line = some d ∧ d.kind = .opening := by
  simp only [opens, Option.any_eq_true, beq_iff_eq]

/-- The lines that close a block are those with a closing directive. -/
theorem closes_iff {line : String} :
    closes directive? line = true ↔ ∃ d, directive? line = some d ∧ d.kind = .closing := by
  simp only [closes, Option.any_eq_true, beq_iff_eq]

/-- A line that opens a block does not close one. -/
theorem closes_eq_false_of_opens {line : String} (h : opens directive? line = true) :
    closes directive? line = false := by
  obtain ⟨d, found, kind⟩ := (opens_iff directive?).mp h
  rw [closes, found, Option.any_some, kind]
  rfl

/-- A line that closes a block does not open one. -/
theorem not_opens_of_closes {line : String} (h : closes directive? line = true) :
    ¬ opens directive? line = true := by
  intro ho
  rw [closes_eq_false_of_opens directive? ho] at h
  cases h

/-- The balance of no lines is zero. -/
@[simp] theorem balance_nil : balance directive? [] = 0 := rfl

/-- One more line in front changes the balance by its weight. -/
theorem balance_cons (line : String) (lines : List String) :
    balance directive? (line :: lines) = weight directive? line + balance directive? lines := by
  unfold balance weight
  rw [List.countP_cons, List.countP_cons]
  -- A line is never counted on both sides, because it has one directive at most.
  by_cases ho : opens directive? line = true
  · rw [closes_eq_false_of_opens directive? ho, ho]
    simp only [if_true, Bool.false_eq_true, if_false]
    omega
  · by_cases hc : closes directive? line = true
    · simp only [ho, hc, if_true, Bool.false_eq_true, if_false]
      omega
    · simp only [ho, hc, Bool.false_eq_true, if_false]
      omega

/-- The balances of lines one after the other add up. -/
theorem balance_append (lines more : List String) :
    balance directive? (lines ++ more) = balance directive? lines + balance directive? more := by
  unfold balance
  rw [List.countP_append, List.countP_append]
  omega

/-! ## Inside a block -/

section Inside

variable {directive?} {lines : List String} {line : String} {start stop : Nat}

/-- Behind some more lines the depth differs by their balance. -/
theorem depth_add {j k : Nat} (start_le : start ≤ j + 1) (le : j ≤ k) :
    depth directive? lines start k =
      depth directive? lines start j + balance directive? ((lines.take (k + 1)).drop (j + 1)) := by
  unfold depth
  rw [← balance_append, ← List.drop_take, ← List.drop_take]
  congr 1
  have first : (lines.take (j + 1)).drop start =
      ((lines.take (k + 1)).drop start).take (j + 1 - start) := by
    rw [← List.drop_take, List.take_take, Nat.min_eq_left (Nat.succ_le_succ le)]
  have last : (lines.take (k + 1)).drop (j + 1) =
      ((lines.take (k + 1)).drop start).drop (j + 1 - start) := by
    rw [List.drop_drop, Nat.add_sub_cancel' start_le]
  rw [first, last, List.take_append_drop]

/-- Behind one more line the depth differs by its weight. -/
theorem depth_succ {j : Nat} (start_le : start ≤ j + 1) (at_j : lines[j + 1]? = some line) :
    depth directive? lines start (j + 1) =
      depth directive? lines start j + weight directive? line := by
  have single : (lines.take (j + 1 + 1)).drop (j + 1) = [line] := by
    rw [List.take_add_one, at_j, List.drop_left' (List.length_take_of_le _)]
    · rfl
    · exact Nat.le_of_lt (List.getElem?_eq_some_iff.mp at_j).1
  rw [depth_add start_le (Nat.le_succ j), single, balance_cons, balance_nil, Int.add_zero]

/-- Behind the opening line of a block the depth is one. -/
theorem depth_self (at_start : lines[start]? = some line) (ho : opens directive? line = true) :
    depth directive? lines start start = 1 := by
  obtain ⟨lt, rfl⟩ := List.getElem?_eq_some_iff.mp at_start
  rw [depth, List.drop_eq_getElem_cons lt, Nat.add_sub_cancel_left, List.take_succ_cons,
    List.take_zero, balance_cons, balance_nil, weight, if_pos ho]
  rfl

/-- **Inside of a block** the depth is positive: no line lowers it by more than one, so it would have
to be zero before. -/
theorem EndsAt.one_le_depth (ends : EndsAt directive? lines start stop)
    (at_start : lines[start]? = some line) (ho : opens directive? line = true) {j : Nat}
    (le : start ≤ j) (lt : j < stop) : 1 ≤ depth directive? lines start j := by
  induction le with
  | refl => exact Int.le_of_eq (depth_self at_start ho).symm
  | @step j le ih =>
    have before := ih (Nat.lt_of_succ_lt lt)
    have ne := ends.least (j + 1) (Nat.le_succ_of_le le) lt
    obtain ⟨line, at_next⟩ : ∃ line, lines[j + 1]? = some line :=
      ⟨_, List.getElem?_eq_getElem (Nat.lt_trans lt ends.lt_length)⟩
    have := neg_one_le_weight directive? line
    rw [depth_succ (Nat.le_succ_of_le le) at_next] at ne ⊢
    omega

/-- **The last line of a block** closes it, and the line before leaves depth one behind it. -/
theorem EndsAt.exists_last (ends : EndsAt directive? lines start stop)
    (at_start : lines[start]? = some line) (ho : opens directive? line = true) :
    ∃ j last, stop = j + 1 ∧ start ≤ j ∧ depth directive? lines start j = 1 ∧
      lines[stop]? = some last ∧ closes directive? last = true := by
  have lt : start < stop := by
    rcases Nat.lt_or_eq_of_le ends.start_le with lt | rfl
    · exact lt
    · have zero := ends.depth_eq
      rw [depth_self at_start ho] at zero
      cases zero
  obtain ⟨j, rfl⟩ := Nat.exists_eq_succ_of_ne_zero (Nat.ne_of_gt (Nat.zero_lt_of_lt lt))
  have le : start ≤ j := Nat.le_of_lt_succ lt
  obtain ⟨last, at_stop⟩ : ∃ last, lines[j + 1]? = some last :=
    ⟨_, List.getElem?_eq_getElem ends.lt_length⟩
  have inside := ends.one_le_depth at_start ho le (Nat.lt_succ_self j)
  have zero := ends.depth_eq
  rw [Nat.succ_eq_add_one, depth_succ (Nat.le_succ_of_le le) at_stop] at zero
  have lower := neg_one_le_weight directive? last
  refine ⟨j, last, rfl, le, by omega, at_stop, ?_⟩
  by_cases hc : closes directive? last = true
  · exact hc
  · have nonneg : 0 ≤ weight directive? last := by
      rw [weight, if_neg hc]
      split <;> decide
    omega

/-- From a line inside of a block to its last line the balance makes up for the depth. -/
theorem EndsAt.balance_drop (ends : EndsAt directive? lines start stop)
    (at_start : lines[start]? = some line) (ho : opens directive? line = true) {j : Nat}
    (le : start ≤ j) (lt : j < stop) :
    balance directive? ((lines.take stop).drop (j + 1)) = 1 - depth directive? lines start j := by
  obtain ⟨k, -, rfl, -, one, -⟩ := ends.exists_last at_start ho
  have split : depth directive? lines start k = _ :=
    depth_add (Nat.le_succ_of_le le) (Nat.le_of_lt_succ lt)
  omega

end Inside

/-! ## First lines of a given balance -/

/-- The balance reaches `target` at line `n` of the given lines, and not before. -/
def FirstAt (target : Int) (lines : List String) (n : Nat) : Prop :=
  n < lines.length ∧ balance directive? (lines.take (n + 1)) = target ∧
    ∀ m, m < n → balance directive? (lines.take (m + 1)) ≠ target

/-- Without lines no balance is reached. -/
theorem not_firstAt_nil (target : Int) (n : Nat) : ¬ FirstAt directive? target [] n := by
  rintro ⟨lt, -⟩
  exact Nat.not_lt_zero n lt

/-- The first line reaches a balance exactly if that is its weight. -/
theorem firstAt_cons_zero (target : Int) (line : String) (lines : List String) :
    FirstAt directive? target (line :: lines) 0 ↔ weight directive? line = target := by
  have first : balance directive? ((line :: lines).take (0 + 1)) = weight directive? line := by
    rw [List.take_succ_cons, List.take_zero, balance_cons, balance_nil, Int.add_zero]
  constructor
  · rintro ⟨-, eq, -⟩
    rw [← first, eq]
  · intro eq
    exact ⟨Nat.zero_lt_succ _, first.trans eq, fun m lt => absurd lt (Nat.not_lt_zero m)⟩

/-- A later line reaches a balance exactly if the first one does not, and the lines behind it reach
what is missing. -/
theorem firstAt_cons_succ (target : Int) (line : String) (lines : List String) (n : Nat) :
    FirstAt directive? target (line :: lines) (n + 1) ↔
      weight directive? line ≠ target ∧
        FirstAt directive? (target - weight directive? line) lines n := by
  have shift (m : Nat) : balance directive? ((line :: lines).take (m + 1)) =
      weight directive? line + balance directive? (lines.take m) := by
    rw [List.take_succ_cons, balance_cons]
  constructor
  · rintro ⟨lt, eq, least⟩
    -- The first line is one of those that do not reach the balance.
    have zero := least 0 (Nat.zero_lt_succ n)
    rw [shift, List.take_zero, balance_nil, Int.add_zero] at zero
    rw [shift] at eq
    refine ⟨zero, Nat.lt_of_succ_lt_succ lt, by omega, ?_⟩
    intro m hm same
    apply least (m + 1) (Nat.succ_lt_succ hm)
    rw [shift, same]
    omega
  · rintro ⟨zero, lt, eq, least⟩
    refine ⟨Nat.succ_lt_succ lt, by rw [shift, eq]; omega, ?_⟩
    intro m hm
    rw [shift]
    cases m with
    | zero =>
      rw [List.take_zero, balance_nil, Int.add_zero]
      exact zero
    | succ m =>
      have := least m (Nat.lt_of_succ_lt_succ hm)
      omega

/-- Where a balance is reached first depends on the lines up to there alone. -/
theorem firstAt_take (target : Int) (lines : List String) (n : Nat) :
    FirstAt directive? target (lines.take (n + 1)) n ↔ FirstAt directive? target lines n := by
  have taken {m : Nat} (le : m ≤ n) : (lines.take (n + 1)).take (m + 1) = lines.take (m + 1) := by
    rw [List.take_take, Nat.min_eq_left (Nat.succ_le_succ le)]
  have fits : n < (lines.take (n + 1)).length ↔ n < lines.length := by
    rw [List.length_take]
    omega
  unfold FirstAt
  rw [taken (Nat.le_refl n), fits]
  constructor
  · rintro ⟨lt, eq, least⟩
    exact ⟨lt, eq, fun m hm => taken (Nat.le_of_lt hm) ▸ least m hm⟩
  · rintro ⟨lt, eq, least⟩
    exact ⟨lt, eq, fun m hm => (taken (Nat.le_of_lt hm)).symm ▸ least m hm⟩

/-- A block ends where the balance of its lines first is zero. -/
theorem endsAt_iff_firstAt (lines : List String) (start stop : Nat) :
    EndsAt directive? lines start stop ↔
      ∃ n, stop = start + n ∧ FirstAt directive? 0 (lines.drop start) n := by
  constructor
  · rintro ⟨le, lt, eq, least⟩
    refine ⟨stop - start, by omega, by rw [List.length_drop]; omega, ?_, ?_⟩
    · rw [← Nat.sub_add_comm le]
      exact eq
    · intro m hm
      have := least (start + m) (Nat.le_add_right start m) (by omega)
      rwa [depth, show start + m + 1 - start = m + 1 by omega] at this
  · rintro ⟨n, rfl, lt, eq, least⟩
    rw [List.length_drop] at lt
    refine ⟨Nat.le_add_right start n, by omega, ?_, ?_⟩
    · rw [depth, show start + n + 1 - start = n + 1 by omega]
      exact eq
    · intro j hj hlt
      have := least (j - start) (by omega)
      rwa [depth, show j + 1 - start = j - start + 1 by omega]

/-- Where a block ends depends on the lines up to there alone. -/
theorem endsAt_take (lines : List String) (start stop : Nat) :
    EndsAt directive? (lines.take (stop + 1)) start stop ↔ EndsAt directive? lines start stop := by
  have dropped {n : Nat} (eq : stop = start + n) :
      (lines.take (stop + 1)).drop start = (lines.drop start).take (n + 1) := by
    rw [List.drop_take, show stop + 1 - start = n + 1 by omega]
  rw [endsAt_iff_firstAt, endsAt_iff_firstAt]
  constructor
  · rintro ⟨n, eq, first⟩
    rw [dropped eq, firstAt_take] at first
    exact ⟨n, eq, first⟩
  · rintro ⟨n, eq, first⟩
    refine ⟨n, eq, ?_⟩
    rw [dropped eq, firstAt_take]
    exact first

/-! ## Unmatched lines -/

/-- The **lines that close an outer block**: those that close a block which was opened before the
given lines, from the innermost block outward. The first of the lines has index `index`. -/
def closings (index : Nat) : List String → List Nat
  | [] => []
  | line :: rest =>
    if opens directive? line then (closings (index + 1) rest).tail
    else if closes directive? line then index :: closings (index + 1) rest
    else closings (index + 1) rest

/-- The **lines that open a block for good**: no line behind them closes it. -/
def unclosed (index : Nat) : List String → List Nat
  | [] => []
  | line :: rest =>
    if opens directive? line ∧ closings directive? (index + 1) rest = [] then
      index :: unclosed (index + 1) rest
    else unclosed (index + 1) rest

/-- **Closings by counting**: the `k`-th outer block is closed where the balance first falls to
`-(k + 1)`. -/
theorem closings_getElem? (index : Nat) (lines : List String) (k e : Nat) :
    (closings directive? index lines)[k]? = some e ↔
      ∃ n, e = index + n ∧ FirstAt directive? (-(k + 1 : Nat)) lines n := by
  induction lines generalizing index k with
  | nil =>
    constructor
    · intro h
      cases h
    · rintro ⟨n, -, h⟩
      exact absurd h (not_firstAt_nil directive? _ n)
  | cons line rest ih =>
    -- Unless the first line is the one that is looked for, it is one of those behind it.
    have later (w : Int) (hw : weight directive? line = w) (k' : Nat)
        (ne : w ≠ -(k + 1 : Nat)) (eq : -(k + 1 : Nat) - w = -(k' + 1 : Nat)) :
        (∃ n, e = index + n ∧ FirstAt directive? (-(k + 1 : Nat)) (line :: rest) n) ↔
          ∃ n, e = index + 1 + n ∧ FirstAt directive? (-(k' + 1 : Nat)) rest n := by
      constructor
      · rintro ⟨n, he, first⟩
        cases n with
        | zero => exact absurd ((firstAt_cons_zero directive? _ line rest).mp first) (hw ▸ ne)
        | succ n =>
          rw [firstAt_cons_succ, hw, eq] at first
          exact ⟨n, by omega, first.2⟩
      · rintro ⟨n, he, first⟩
        refine ⟨n + 1, by omega, ?_⟩
        rw [firstAt_cons_succ, hw, eq]
        exact ⟨ne, first⟩
    by_cases ho : opens directive? line = true
    · -- The block that opens here takes the first closing for itself.
      have hw : weight directive? line = 1 := by rw [weight, if_pos ho]
      rw [closings, if_pos ho, List.getElem?_tail, ih, later 1 hw (k + 1) (by omega) (by omega)]
    · by_cases hc : closes directive? line = true
      · -- The line itself closes the innermost outer block, and the lines behind it the others.
        have hw : weight directive? line = -1 := by rw [weight, if_neg ho, if_pos hc]
        rw [closings, if_neg ho, if_pos hc]
        cases k with
        | zero =>
          rw [List.getElem?_cons_zero, Option.some.injEq]
          constructor
          · rintro rfl
            exact ⟨0, rfl, (firstAt_cons_zero directive? _ line rest).mpr hw⟩
          · rintro ⟨n, rfl, first⟩
            cases n with
            | zero => rfl
            | succ n => exact absurd hw ((firstAt_cons_succ directive? _ line rest n).mp first).1
        | succ k =>
          rw [List.getElem?_cons_succ, ih, later (-1) hw k (by omega) (by omega)]
      · have hw : weight directive? line = 0 := by rw [weight, if_neg ho, if_neg hc]
        rw [closings, if_neg ho, if_neg hc, ih, later 0 hw k (by omega) (by omega)]

/-- The closings of some lines are among them. -/
theorem closings_bounds {index k e : Nat} {lines : List String}
    (h : (closings directive? index lines)[k]? = some e) :
    index ≤ e ∧ e < index + lines.length := by
  obtain ⟨n, rfl, lt, -⟩ := (closings_getElem? directive? index lines k e).mp h
  exact ⟨Nat.le_add_right index n, Nat.add_lt_add_left lt index⟩

/-- **Where a block ends**: at the first line behind its opening line that closes an outer block. -/
theorem endsAt_iff_closings {lines : List String} {start : Nat} {line : String} (stop : Nat)
    (at_start : lines[start]? = some line) (ho : opens directive? line = true) :
    EndsAt directive? lines start stop ↔
      (closings directive? (start + 1) (lines.drop (start + 1))).head? = some stop := by
  have hw : weight directive? line = 1 := by rw [weight, if_pos ho]
  obtain ⟨lt, rfl⟩ := List.getElem?_eq_some_iff.mp at_start
  rw [endsAt_iff_firstAt, List.drop_eq_getElem_cons lt, List.head?_eq_getElem?, closings_getElem?]
  -- Behind the opening line, depth zero means a balance of `-1`.
  constructor
  · rintro ⟨n, rfl, first⟩
    cases n with
    | zero =>
      rw [firstAt_cons_zero, hw] at first
      cases first
    | succ n =>
      rw [firstAt_cons_succ, hw] at first
      exact ⟨n, by omega, first.2⟩
  · rintro ⟨n, rfl, first⟩
    refine ⟨n + 1, by omega, ?_⟩
    rw [firstAt_cons_succ, hw]
    exact ⟨by omega, first⟩

/-- A block has no end exactly if no line behind its opening line closes an outer block. -/
theorem not_endsAt_iff_closings {lines : List String} {start : Nat} {line : String}
    (at_start : lines[start]? = some line) (ho : opens directive? line = true) :
    (¬ ∃ stop, EndsAt directive? lines start stop) ↔
      closings directive? (start + 1) (lines.drop (start + 1)) = [] := by
  constructor
  · intro none
    cases h : closings directive? (start + 1) (lines.drop (start + 1)) with
    | nil => rfl
    | cons e more =>
      refine absurd ⟨e, ?_⟩ none
      rw [endsAt_iff_closings directive? e at_start ho, h]
      rfl
  · rintro none ⟨stop, ends⟩
    rw [endsAt_iff_closings directive? stop at_start ho, none] at ends
    cases ends

/-- **Unclosed lines**: those that open a block, with no closing of an outer block behind them. -/
theorem mem_unclosed (index : Nat) (lines : List String) (u : Nat) :
    u ∈ unclosed directive? index lines ↔
      ∃ n line, u = index + n ∧ lines[n]? = some line ∧ opens directive? line = true ∧
        closings directive? (u + 1) (lines.drop (n + 1)) = [] := by
  induction lines generalizing index with
  | nil =>
    constructor
    · intro h
      cases h
    · rintro ⟨n, line, -, h, -⟩
      cases h
  | cons first rest ih =>
    -- The unclosed lines behind the first one, with their places counted from it.
    have later : u ∈ unclosed directive? (index + 1) rest ↔
        ∃ n line, u = index + (n + 1) ∧ (first :: rest)[n + 1]? = some line ∧
          opens directive? line = true ∧
          closings directive? (u + 1) ((first :: rest).drop (n + 1 + 1)) = [] := by
      rw [ih]
      constructor
      · rintro ⟨n, line, rfl, h⟩
        exact ⟨n, line, by omega, h⟩
      · rintro ⟨n, line, rfl, h⟩
        exact ⟨n, line, by omega, h⟩
    rw [unclosed]
    split
    · rename_i here
      rw [List.mem_cons, later]
      constructor
      · rintro (rfl | ⟨n, line, h⟩)
        · exact ⟨0, first, rfl, rfl, here⟩
        · exact ⟨n + 1, line, h⟩
      · rintro ⟨n, line, hu, h⟩
        cases n with
        | zero => exact Or.inl hu
        | succ n => exact Or.inr ⟨n, line, hu, h⟩
    · rename_i here
      rw [later]
      constructor
      · rintro ⟨n, line, h⟩
        exact ⟨n + 1, line, h⟩
      · rintro ⟨n, line, rfl, h, ho, hc⟩
        cases n with
        | zero =>
          cases h
          exact absurd ⟨ho, hc⟩ here
        | succ n => exact ⟨n, line, rfl, h, ho, hc⟩

/-- Unclosed lines come in ascending order. -/
theorem unclosed_pairwise (index : Nat) (lines : List String) :
    (unclosed directive? index lines).Pairwise (· < ·) := by
  induction lines generalizing index with
  | nil => exact List.Pairwise.nil
  | cons first rest ih =>
    rw [unclosed]
    split
    · refine List.Pairwise.cons ?_ (ih (index + 1))
      intro u hu
      obtain ⟨n, line, rfl, -⟩ := (mem_unclosed directive? _ _ _).mp hu
      omega
    · exact ih (index + 1)

end Block

end LineGate
