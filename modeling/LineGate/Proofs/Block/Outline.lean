import Mathlib.Data.List.Forall2
import LineGate.Proofs.Block.Alike

/-! # Lines in front of an outline

An outline is read from its last line to its first one, so it can be built up by putting lines in
front of it. This file says what that does to an outline, and to two of them at once.

* **`lay`** puts lines in front of an outline. Lines that open and close blocks in balance only make
  the innermost block longer (`exists_lay_single`).
* Outlines of two versions of a text **follow** each other if their remainders are alike one by one.
  They still do with the same lines in front of both (`follows_lay`). -/

namespace LineGate

variable {σ : Type}

/-- What a directive tells: its kind, and the condition or message. -/
def Directive.gist (d : Directive) : Directive.Kind × String := (d.kind, d.expression)

namespace Block

/-! ## Lines in front of an outline -/

section Lay

variable (directive? : String → Option Directive)

/-- Put one line in front of an outline. -/
def layLine (index : Nat) (line : String) (rs : List Remainder) : List Remainder :=
  if opens directive? line then Remainder.nest index (expressionOf directive? line) rs
  else if closes directive? line then ⟨.empty, .closing index⟩ :: rs
  else rs.modifyHead (.extend directive? index line)

/-- **Lay lines in front of an outline**, the first of which has index `index`. -/
def lay (index : Nat) : List String → List Remainder → List Remainder
  | [], rs => rs
  | line :: segment, rs => layLine directive? index line (lay (index + 1) segment rs)

/-- An outline is laid line by line. -/
theorem outline_append_eq_lay (index : Nat) (segment rest : List String) :
    outline directive? index (segment ++ rest) =
      lay directive? index segment (outline directive? (index + segment.length) rest) := by
  induction segment generalizing index with
  | nil => rfl
  | cons line segment ih =>
    rw [List.cons_append, outline, ih, lay, List.length_cons, Nat.add_right_comm index 1,
      Nat.add_assoc index]
    rfl

/-- An outline is its lines, laid in front of nothing. -/
theorem outline_eq_lay (index : Nat) (lines : List String) :
    outline directive? index lines = lay directive? index lines [] := by
  rw [← List.append_nil lines, outline_append_eq_lay, List.append_nil]
  rfl

/-- An outline with one more line. -/
theorem outline_cons (index : Nat) (line : String) (rest : List String) :
    outline directive? index (line :: rest) =
      layLine directive? index line (outline directive? (index + 1) rest) := rfl

/-- **One line** in front of some blocks changes their number by its weight. As long as it does not
open the last of them, that one keeps its end, and what is behind it stays as it is. -/
theorem exists_layLine (index : Nat) (line : String) (inner : List Remainder) (r : Remainder)
    (enough : weight directive? line ≤ inner.length) :
    ∃ inner' last, (inner'.length : Int) = inner.length - weight directive? line ∧
      last.stop = r.stop ∧
      ∀ outer, layLine directive? index line (inner ++ r :: outer) = inner' ++ last :: outer := by
  unfold layLine weight at *
  split
  · rename_i ho
    rw [if_pos ho] at enough
    -- The block that is opened is the first one, and the one behind it takes it in.
    cases inner with
    | nil => cases enough
    | cons a inner =>
      have count : (((a :: inner).length : Nat) : Int) - 1 = inner.length := by
        rw [List.length_cons]
        omega
      rw [count]
      cases inner with
      | nil =>
        exact ⟨[], ⟨.block (.mk index (expressionOf directive? line) a.body a.rest) r.body, r.rest⟩,
          rfl, rfl, fun outer => rfl⟩
      | cons b inner => exact ⟨⟨.block (.mk index (expressionOf directive? line) a.body a.rest) b.body, b.rest⟩ ::
          inner, r, rfl, rfl, fun outer => rfl⟩
  · split
    · refine ⟨⟨.empty, .closing index⟩ :: inner, r, ?_, rfl, fun outer => rfl⟩
      rw [List.length_cons]
      omega
    · cases inner with
      | nil =>
        exact ⟨[], _, rfl, Remainder.stop_extend directive? index line r, fun outer => rfl⟩
      | cons a inner =>
        exact ⟨a.extend directive? index line :: inner, r, (Int.sub_zero _).symm, rfl,
          fun outer => rfl⟩

variable {directive?} {segment : List String}

/-- Lines with at most as many openings as closings, counted from any of them on, make the innermost
block longer and put others in front of it. They leave alone what is behind it, and its end. -/
theorem exists_lay (small : ∀ n, balance directive? (segment.drop n) ≤ 0) (index : Nat)
    (r : Remainder) :
    ∃ inner last, (inner.length : Int) = -balance directive? segment ∧ last.stop = r.stop ∧
      ∀ outer, lay directive? index segment (r :: outer) = inner ++ last :: outer := by
  induction segment generalizing index with
  | nil => exact ⟨[], r, rfl, rfl, fun outer => rfl⟩
  | cons line segment ih =>
    obtain ⟨inner, last, count, stop, laid⟩ := ih (fun n => small (n + 1)) (index + 1)
    have total : balance directive? (line :: segment) ≤ 0 := small 0
    rw [balance_cons] at total ⊢
    obtain ⟨inner', last', count', stop', step⟩ :=
      exists_layLine directive? index line inner last (by omega)
    refine ⟨inner', last', by omega, stop'.trans stop, fun outer => ?_⟩
    rw [lay, laid, step]

/-- Lines in which blocks are opened and closed in balance make the innermost block longer. -/
theorem exists_lay_single (small : ∀ n, balance directive? (segment.drop n) ≤ 0)
    (zero : balance directive? segment = 0) (index : Nat) (r : Remainder) :
    ∃ last, last.stop = r.stop ∧
      ∀ outer, lay directive? index segment (r :: outer) = last :: outer := by
  obtain ⟨inner, last, count, ends, laid⟩ := exists_lay small index r
  rw [zero] at count
  cases List.eq_nil_of_length_eq_zero (Int.ofNat_eq_zero.mp count)
  exact ⟨last, ends, laid⟩

/-! ### One equation for each kind of line -/

variable {index : Nat} {line condition : String} {r inner outer : Remainder} {rs : List Remainder}

/-- A closing line starts a remainder. -/
theorem layLine_closing (hc : closes directive? line = true) :
    layLine directive? index line rs = ⟨.empty, .closing index⟩ :: rs := by
  rw [layLine, if_neg (not_opens_of_closes directive? hc), if_pos hc]

/-- An opening line merges two remainders. -/
theorem layLine_opening (h : (directive? line).map (·.gist) = some (.opening, condition)) :
    layLine directive? index line (inner :: outer :: rs) =
      ⟨.block (.mk index condition inner.body inner.rest) outer.body, outer.rest⟩ :: rs := by
  obtain ⟨d, found, gist⟩ := Option.map_eq_some_iff.mp h
  obtain ⟨kind, rfl⟩ := Prod.mk.inj gist
  rw [layLine, if_pos ((opens_iff directive?).mpr ⟨d, found, kind⟩), expressionOf, found]
  rfl

/-- A directive within a block extends the innermost remainder. -/
theorem layLine_branch {d : Directive} (found : directive? line = some d)
    (notOpening : d.kind ≠ .opening) (notClosing : d.kind ≠ .closing) :
    layLine directive? index line (r :: rs) = r.extend directive? index line :: rs := by
  obtain ⟨ho, hc⟩ := opens_closes_of_some directive? found
  rw [beq_eq_false_iff_ne.mpr notOpening] at ho
  rw [beq_eq_false_iff_ne.mpr notClosing] at hc
  rw [layLine, ho, hc]
  rfl

/-- An else-if line starts a branch with a condition. -/
theorem layLine_elseIf (h : (directive? line).map (·.gist) = some (.elseIf, condition)) :
    layLine directive? index line (r :: rs) =
      ⟨.empty, .branch index (some condition) r.body r.rest⟩ :: rs := by
  obtain ⟨d, found, gist⟩ := Option.map_eq_some_iff.mp h
  obtain ⟨kind, rfl⟩ := Prod.mk.inj gist
  rw [layLine_branch found (by rw [kind]; decide) (by rw [kind]; decide), Remainder.extend, found]
  dsimp only
  rw [kind]

/-- An else line starts a branch without a condition. -/
theorem layLine_otherwise (h : (directive? line).map (·.kind) = some .otherwise) :
    layLine directive? index line (r :: rs) = ⟨.empty, .branch index none r.body r.rest⟩ :: rs := by
  obtain ⟨d, found, kind⟩ := Option.map_eq_some_iff.mp h
  rw [layLine_branch found (by rw [kind]; decide) (by rw [kind]; decide), Remainder.extend, found]
  dsimp only
  rw [kind]

end Lay

/-! ## Outlines that are alike -/

section Follows

variable (evaluate : Evaluator σ) (lines lines' : List String)
variable {directive? : String → Option Directive}

/-- A remainder **follows** another one if it is alike and its end has moved as it should. -/
structure Remainder.Follows (moved : Nat → Nat → Prop) (r r' : Remainder) : Prop where
  alike : r.Alike evaluate lines lines' r'
  stop : moved r.stop r'.stop

variable {evaluate lines lines'} {moved : Nat → Nat → Prop} {rs rs' : List Remainder}
variable {index index' : Nat}

/-- **One more line** in front of both outlines. -/
theorem follows_layLine (placeless : evaluate.Placeless) {line : String}
    (here : lines[index]? = some line) (there : lines'[index']? = some line)
    (place : moved index index')
    (h : List.Forall₂ (Remainder.Follows evaluate lines lines' moved) rs rs') :
    List.Forall₂ (Remainder.Follows evaluate lines lines' moved)
      (layLine directive? index line rs) (layLine directive? index' line rs') := by
  unfold layLine
  split
  · cases h with
    | nil => exact .nil
    | cons inner later =>
      cases later with
      | nil => exact .nil
      | cons outer later =>
        exact .cons ⟨inner.alike.block placeless outer.alike index index' _, outer.stop⟩ later
  · split
    · exact .cons ⟨⟨alike_empty, alike_closing index index'⟩, place⟩ h
    · cases h with
      | nil => exact .nil
      | cons first later =>
        have same : lines.getD index "" = lines'.getD index' "" := by
          rw [List.getD_eq_getElem?_getD, List.getD_eq_getElem?_getD, here, there]
        refine .cons ⟨first.alike.extend placeless same, ?_⟩ later
        rw [Remainder.stop_extend, Remainder.stop_extend]
        exact first.stop

/-- **Lines that both versions have** keep outlines alike. -/
theorem follows_lay (placeless : evaluate.Placeless) {segment : List String}
    (here : segment <+: lines.drop index) (there : segment <+: lines'.drop index')
    (places : ∀ n, n < segment.length → moved (index + n) (index' + n))
    (h : List.Forall₂ (Remainder.Follows evaluate lines lines' moved) rs rs') :
    List.Forall₂ (Remainder.Follows evaluate lines lines' moved)
      (lay directive? index segment rs) (lay directive? index' segment rs') := by
  induction segment generalizing index index' with
  | nil => exact h
  | cons line segment ih =>
    obtain ⟨tail, eq⟩ := here
    obtain ⟨tail', eq'⟩ := there
    obtain ⟨at_index, rest⟩ := tail_of_drop_eq eq
    obtain ⟨at_index', rest'⟩ := tail_of_drop_eq eq'
    refine follows_layLine placeless at_index at_index' (places 0 (Nat.zero_lt_succ _)) ?_
    refine ih ⟨tail, rest⟩ ⟨tail', rest'⟩ fun n lt => ?_
    rw [Nat.add_right_comm index, Nat.add_right_comm index']
    exact places (n + 1) (Nat.succ_lt_succ lt)

end Follows

end Block

end LineGate
