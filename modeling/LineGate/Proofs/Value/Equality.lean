import Mathlib.Data.List.Perm.Subperm
import LineGate.Expr.Eval
import LineGate.Proofs.Number.Nearest

/-! # Laws of equality

Plain equality looks at its two sides in different ways: a table is gone through entry by entry while
the other one is searched, and a number meets an integer or a double. Nevertheless the sides may be
exchanged (`Value.equal_comm`), as long as no table has a key twice. The proof follows the first value;
for tables it needs that a table with as many keys as another one, all of them found there, has every
key of the other one.

Loose equality is plain equality between values of the same kind, so strict equality refines it, and
what is left to say is on which values it fails (`Value.looseEqual_error_iff`). -/

namespace LineGate

namespace Value

/-- **Proper values**: no table in the value has a key twice. -/
inductive Proper : Value → Prop where
  | null : Proper .null
  | bool (b : Bool) : Proper (.bool b)
  | int (n : Int) : Proper (.int n)
  | float (x : Double) : Proper (.float x)
  | nan (identity : Option Nat) : Proper (.nan identity)
  | str (s : String) : Proper (.str s)
  /-- A list of proper values. -/
  | list {items : List Value} : (∀ v ∈ items, Proper v) → Proper (.list items)
  /-- A table of proper values under different keys. -/
  | dict {entries : List (String × Value)} : (entries.map Prod.fst).Nodup →
      (∀ entry ∈ entries, Proper entry.2) → Proper (.dict entries)
  | function (identity : Nat) : Proper (.function identity)

/-! ## Numbers -/

/-- Exchanging two numbers exchanges less and greater. -/
theorem Numeric.compare_swap (x y : Numeric) :
    y.compare x = (x.compare y).map Ordering.swap := by
  cases x <;> cases y
  case int.int m n => exact congrArg some Std.OrientedOrd.eq_swap
  case int.float n y => rfl
  case float.int x n => simp [compare]
  case float.float x y => exact congrArg some Std.OrientedOrd.eq_swap
  all_goals rfl

/-- Equality of numbers does not depend on their order. -/
theorem equalNumbers_comm (a b : Value) : equalNumbers a b = equalNumbers b a := by
  unfold equalNumbers
  cases a.numeric? with
  | none => cases b.numeric? <;> rfl
  | some x =>
    cases b.numeric? with
    | none => rfl
    | some y =>
      dsimp only
      rw [x.compare_swap y]
      rcases x.compare y with _ | (_ | _ | _) <;> rfl

/-- Whether two values are one stored item does not depend on their order. -/
theorem identical_comm (a b : Value) : identical a b = identical b a := by
  unfold identical
  split
  · exact BEq.comm
  · rename_i other
    split
    · exact absurd rfl (other _ _ rfl)
    · rfl

/-- Items agree in either order if the values are equal in either order. -/
theorem sameItem_comm {x y : Value} (h : equal x y = equal y x) :
    sameItem x y = sameItem y x := by
  rw [sameItem, sameItem, identical_comm, h]

/-- Lists agree in either order if their items do. -/
theorem equalItems_comm {xs ys : List Value}
    (each : ∀ x ∈ xs, ∀ y ∈ ys, sameItem x y = sameItem y x) :
    equalItems xs ys = equalItems ys xs := by
  induction xs generalizing ys with
  | nil => cases ys <;> rfl
  | cons x xs ih =>
    cases ys with
    | nil => rfl
    | cons y ys =>
      have first : sameItem x y = sameItem y x :=
        each x List.mem_cons_self y List.mem_cons_self
      have others : equalItems xs ys = equalItems ys xs :=
        ih fun x' hx y' hy => each x' (.tail x hx) y' (.tail y hy)
      rw [equalItems, equalItems, others]
      exact congrArg (· && _) first

/-! ## Tables -/

section Tables

variable {key : String} {v : Value} {entries xs ys : List (String × Value)}

/-- What is found under a key is an entry of the table. -/
theorem mem_of_lookup (found : lookup key entries = some v) : (key, v) ∈ entries := by
  induction entries with
  | nil => cases found
  | cons entry rest ih =>
    obtain ⟨k, w⟩ := entry
    rw [lookup] at found
    split at found
    · rename_i same
      cases found
      rw [same]
      exact List.mem_cons_self
    · exact List.mem_cons_of_mem _ (ih found)

/-- **An entry is found under its key**, if no key occurs twice. -/
theorem lookup_of_mem (distinct : (entries.map Prod.fst).Nodup) (mem : (key, v) ∈ entries) :
    lookup key entries = some v := by
  induction entries with
  | nil => cases mem
  | cons entry rest ih =>
    obtain ⟨k, w⟩ := entry
    rw [List.map_cons, List.nodup_cons] at distinct
    rw [lookup]
    rcases List.mem_cons.mp mem with eq | mem
    · cases eq
      exact if_pos rfl
    · -- The first entry has another key, as its own does not occur behind it.
      have other : k ≠ key := by
        rintro rfl
        exact distinct.1 (List.mem_map.mpr ⟨(k, v), mem, rfl⟩)
      rw [if_neg other]
      exact ih distinct.2 mem

/-- The first entry of a table agrees with what is found under its key, and so do the others. -/
theorem equalEntries_cons : equalEntries ((key, v) :: xs) ys =
    ((lookup key ys).any (sameItem v) && equalEntries xs ys) := by
  rw [equalEntries]
  cases lookup key ys <;> rfl

/-- The entries of a table agree with another table if each is found there. -/
theorem equalEntries_iff : equalEntries xs ys = true ↔
    ∀ key x, (key, x) ∈ xs → ∃ y, lookup key ys = some y ∧ sameItem x y = true := by
  induction xs with
  | nil => simp [equalEntries]
  | cons entry rest ih =>
    obtain ⟨k, w⟩ := entry
    rw [equalEntries_cons, Bool.and_eq_true, Option.any_eq_true, ih]
    constructor
    · rintro ⟨here, later⟩ key x mem
      rcases List.mem_cons.mp mem with eq | mem
      · cases eq
        exact here
      · exact later key x mem
    · intro all
      exact ⟨all k w List.mem_cons_self, fun key x mem => all key x (.tail _ mem)⟩

/-- **Tables of the same size agree in either order**: if every entry of the first one is found in the
second one, no key of the second one is missing in the first one. -/
theorem equalEntries_symm (distinct : (xs.map Prod.fst).Nodup)
    (distinct' : (ys.map Prod.fst).Nodup) (size : xs.length = ys.length)
    (each : ∀ x ∈ xs, ∀ y ∈ ys, sameItem x.2 y.2 = sameItem y.2 x.2)
    (agree : equalEntries xs ys = true) : equalEntries ys xs = true := by
  rw [equalEntries_iff] at agree ⊢
  have keys : xs.map Prod.fst ⊆ ys.map Prod.fst := by
    intro key isKey
    obtain ⟨entry, inside, rfl⟩ := List.mem_map.mp isKey
    obtain ⟨y, found, -⟩ := agree entry.1 entry.2 inside
    exact List.mem_map.mpr ⟨_, mem_of_lookup found, rfl⟩
  have same : (xs.map Prod.fst).Perm (ys.map Prod.fst) :=
    (List.subperm_of_subset distinct keys).perm_of_length_le (by simp [size])
  intro key y mem
  obtain ⟨entry, mem', rfl⟩ :=
    List.mem_map.mp (same.mem_iff.mpr (List.mem_map.mpr ⟨(key, y), mem, rfl⟩))
  obtain ⟨y', found, agrees⟩ := agree entry.1 entry.2 mem'
  -- The entry that was found under the key is the one in question.
  cases (lookup_of_mem distinct' mem).symm.trans found
  exact ⟨entry.2, lookup_of_mem distinct mem', each _ mem' _ mem ▸ agrees⟩

/-- Tables agree in either order if the values under their keys do. -/
theorem equalEntries_comm (distinct : (xs.map Prod.fst).Nodup)
    (distinct' : (ys.map Prod.fst).Nodup) (size : xs.length = ys.length)
    (each : ∀ x ∈ xs, ∀ y ∈ ys, sameItem x.2 y.2 = sameItem y.2 x.2) :
    equalEntries xs ys = equalEntries ys xs := by
  rw [Bool.eq_iff_iff]
  constructor
  · exact equalEntries_symm distinct distinct' size each
  · exact equalEntries_symm distinct' distinct size.symm fun y hy x hx => (each x hx y hy).symm

end Tables

/-! ## Plain equality -/

/-- **Plain equality does not depend on the order** of its sides. -/
theorem equal_comm {a b : Value} (proper : a.Proper) (proper' : b.Proper) :
    equal a b = equal b a := by
  induction proper generalizing b with
  | null => cases b <;> simp [equal, equalNumbers, numeric?]
  | bool | int | float =>
    cases b with
    | bool | int | float =>
      rw [equal, equal]
      exact equalNumbers_comm _ _
    | _ => simp [equal, equalNumbers, numeric?, Numeric.compare]
  | nan => cases b <;> simp [equal, equalNumbers, numeric?, Numeric.compare]
  | str s =>
    cases b with
    | str t =>
      rw [equal, equal]
      exact BEq.comm
    | _ => simp [equal, equalNumbers, numeric?]
  | list _ ih =>
    cases proper' with
    | list inside =>
      rw [equal, equal]
      exact equalItems_comm fun x hx y hy => sameItem_comm (ih x hx (inside y hy))
    | _ => simp [equal, equalNumbers, numeric?]
  | @dict xs distinct _ ih =>
    cases proper' with
    | @dict ys distinct' inside =>
      have sizes : (xs.length == ys.length) = (ys.length == xs.length) := BEq.comm
      rw [equal, equal, sizes]
      by_cases size : xs.length = ys.length
      · rw [equalEntries_comm distinct distinct' size
          fun x hx y hy => sameItem_comm (ih x hx (inside y hy))]
      · rw [beq_false_of_ne (Ne.symm size), Bool.false_and, Bool.false_and]
    | _ => simp [equal, equalNumbers, numeric?]
  | function i =>
    cases b with
    | function j =>
      rw [equal, equal]
      exact BEq.comm
    | _ => simp [equal, equalNumbers, numeric?]

/-! ## Strict and loose equality -/

/-- Strict equality does not depend on the order of its sides. -/
theorem strictEqual_comm {a b : Value} (proper : a.Proper) (proper' : b.Proper) :
    a.strictEqual b = b.strictEqual a := by
  rw [strictEqual, strictEqual, BEq.comm, equal_comm proper proper']

/-- Whether values are compared as doubles does not depend on their order. -/
theorem comparesAsDoubles_comm (a b : Value) : comparesAsDoubles a b = comparesAsDoubles b a :=
  Bool.or_comm _ _

/-- Equality of doubles does not depend on their order. -/
theorem equalDoubles_comm (x y : Option Double) : equalDoubles x y = equalDoubles y x := by
  cases x <;> cases y <;> first | rfl | exact BEq.comm

/-- Loose equality does not depend on the order of its sides, also where it fails. -/
theorem looseEqual_comm {a b : Value} (proper : a.Proper) (proper' : b.Proper) :
    a.looseEqual b = b.looseEqual a := by
  rw [looseEqual, looseEqual, Bool.or_comm, Bool.and_comm, comparesAsDoubles_comm,
    equal_comm proper proper']
  cases a.toDouble? with
  | none => cases b.toDouble? <;> rfl
  | some x =>
    cases b.toDouble? with
    | none => rfl
    | some y =>
      dsimp only
      rw [equalDoubles_comm]

/-- Truth values are equal as doubles exactly if they are equal. -/
theorem equalDoubles_bool (b c : Bool) :
    equalDoubles (some (if b then .one else .zero)) (some (if c then .one else .zero)) =
      equal (.bool b) (.bool c) := by
  cases b <;> cases c <;> decide

/-- **Between values of the same kind** loose equality is plain equality. -/
theorem looseEqual_of_kind_eq {a b : Value} (same : a.kind = b.kind) :
    a.looseEqual b = .ok (equal a b) := by
  cases a <;> cases b <;> try cases same
  case bool.bool b c => exact congrArg Except.ok (equalDoubles_bool b c)
  all_goals simp [looseEqual, isNull, comparesAsDoubles, isNumber, isBool, isText, equal]

/-- **Strict equality refines loose equality** by the kinds of the values. -/
theorem strictEqual_iff (a b : Value) :
    a.strictEqual b = true ↔ a.kind = b.kind ∧ a.looseEqual b = .ok true := by
  rw [strictEqual, Bool.and_eq_true, beq_iff_eq]
  refine and_congr_right fun same => ?_
  rw [looseEqual_of_kind_eq same, Except.ok.injEq]

/-- **Integers beyond the range of doubles.** -/
def BeyondDoubles (v : Value) : Prop := ∃ n, v = .int n ∧ Double.overflow ≤ n.natAbs

/-- Only an integer can be beyond the range of doubles. -/
theorem toDouble?_eq_none_iff (v : Value) : v.toDouble? = none ↔ v.BeyondDoubles := by
  cases v with
  | int n => simp [toDouble?, BeyondDoubles, Double.ofInt?_eq_none_iff]
  | _ => simp [toDouble?, BeyondDoubles]

/-- Between values that are not compared as doubles loose equality does not fail. -/
theorem looseEqual_ok {a b : Value} (h : comparesAsDoubles a b = false) :
    ∃ result, a.looseEqual b = .ok result := by
  unfold looseEqual
  rw [h]
  split
  · exact ⟨_, rfl⟩
  · exact ⟨_, rfl⟩

/-- Values that are compared as doubles are equal as doubles, if they have one. -/
theorem looseEqual_of_comparesAsDoubles {a b : Value} (h : comparesAsDoubles a b = true) :
    a.looseEqual b = match a.toDouble?, b.toDouble? with
      | some x, some y => .ok (equalDoubles x y)
      | _, _ => .error .beyondDouble := by
  have present : (a.isNull || b.isNull) = false := by
    cases a <;> cases b <;> first | rfl | cases h
  rw [looseEqual, present, h]
  rfl

/-- An integer is compared as a double with texts and truth values. -/
theorem comparesAsDoubles_of_beyond {a b : Value} (beyond : a.BeyondDoubles) :
    comparesAsDoubles a b = true ↔ b.isText = true ∨ b.isBool = true := by
  obtain ⟨n, rfl, -⟩ := beyond
  simp [comparesAsDoubles, isNumber, isBool, isText]

/-- **Loose equality fails** exactly on an integer beyond the range of doubles against a text or a truth
value. -/
theorem looseEqual_error_iff (a b : Value) (fault : ValueFault) :
    a.looseEqual b = .error fault ↔ fault = .beyondDouble ∧
      (a.BeyondDoubles ∧ (b.isText = true ∨ b.isBool = true) ∨
        b.BeyondDoubles ∧ (a.isText = true ∨ a.isBool = true)) := by
  have left (beyond : a.BeyondDoubles) := comparesAsDoubles_of_beyond (b := b) beyond
  have right (beyond : b.BeyondDoubles) := comparesAsDoubles_of_beyond (b := a) beyond
  rw [comparesAsDoubles_comm] at right
  cases compared : comparesAsDoubles a b with
  | false =>
    obtain ⟨result, ok⟩ := looseEqual_ok compared
    rw [ok]
    refine iff_of_false nofun ?_
    rintro ⟨-, ⟨beyond, other⟩ | ⟨beyond, other⟩⟩
    · rw [(left beyond).mpr other] at compared
      cases compared
    · rw [(right beyond).mpr other] at compared
      cases compared
  | true =>
    have doubles : a.looseEqual b = .error fault ↔
        fault = .beyondDouble ∧ (a.toDouble? = none ∨ b.toDouble? = none) := by
      rw [looseEqual_of_comparesAsDoubles compared]
      cases a.toDouble? <;> cases b.toDouble? <;> simp [eq_comm]
    rw [doubles, toDouble?_eq_none_iff, toDouble?_eq_none_iff]
    refine and_congr_right fun _ => or_congr ?_ ?_
    · exact ⟨fun beyond => ⟨beyond, (left beyond).mp compared⟩, And.left⟩
    · exact ⟨fun beyond => ⟨beyond, (right beyond).mp compared⟩, And.left⟩

/-! ## The laws -/

/-- **The laws of equality**, for all values in which no table has a key twice. Loose and strict equality
have the same outcome in either order. Strict equality never fails, and it holds exactly between values
of the same kind that are loosely equal. Loose equality fails exactly on an integer too large for a
double against a text or a truth value. -/
theorem equality_laws {a b : Value} (proper : a.Proper) (proper' : b.Proper) :
    a.looseEqual b = b.looseEqual a ∧
    a.strictEqual b = b.strictEqual a ∧
    (a.strictEqual b = true ↔ a.kind = b.kind ∧ a.looseEqual b = .ok true) ∧
    (∀ fault, Comparison.strictEq.apply a b ≠ .error fault) ∧
    ∀ fault, a.looseEqual b = .error fault ↔ fault = .beyondDouble ∧
      (a.BeyondDoubles ∧ (b.isText = true ∨ b.isBool = true) ∨
        b.BeyondDoubles ∧ (a.isText = true ∨ a.isBool = true)) :=
  ⟨looseEqual_comm proper proper', strictEqual_comm proper proper', strictEqual_iff a b, nofun,
    looseEqual_error_iff a b⟩

/-- Two tables with their keys in different orders, where one has a number and the other a truth value,
and both have the same stored item that is not a number. -/
theorem equality_laws_tables :
    Proper (.dict [("k", .list [.int 1, .nan (some 0)]), ("l", .null)]) ∧
    Proper (.dict [("l", .null), ("k", .list [.bool true, .nan (some 0)])]) ∧
    strictEqual (.dict [("k", .list [.int 1, .nan (some 0)]), ("l", .null)])
      (.dict [("l", .null), ("k", .list [.bool true, .nan (some 0)])]) = true ∧
    strictEqual (.dict [("l", .null), ("k", .list [.bool true, .nan (some 0)])])
      (.dict [("k", .list [.int 1, .nan (some 0)]), ("l", .null)]) = true := by
  have number : Proper (.list [.int 1, .nan (some 0)]) :=
    .list (List.forall_mem_cons.mpr ⟨.int 1, List.forall_mem_singleton.mpr (.nan _)⟩)
  have truth : Proper (.list [.bool true, .nan (some 0)]) :=
    .list (List.forall_mem_cons.mpr ⟨.bool true, List.forall_mem_singleton.mpr (.nan _)⟩)
  have proper : Proper (.dict [("k", .list [.int 1, .nan (some 0)]), ("l", .null)]) :=
    .dict (by decide) (List.forall_mem_cons.mpr ⟨number, List.forall_mem_singleton.mpr .null⟩)
  have proper' : Proper (.dict [("l", .null), ("k", .list [.bool true, .nan (some 0)])]) :=
    .dict (by decide) (List.forall_mem_cons.mpr ⟨.null, List.forall_mem_singleton.mpr truth⟩)
  have equal : strictEqual (.dict [("k", .list [.int 1, .nan (some 0)]), ("l", .null)])
      (.dict [("l", .null), ("k", .list [.bool true, .nan (some 0)])]) = true := by decide
  exact ⟨proper, proper', equal, (equality_laws proper proper').2.1 ▸ equal⟩

end Value

end LineGate
