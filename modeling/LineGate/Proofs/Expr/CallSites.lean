import LineGate.Expr.Syntax

/-! # The call nodes of an expression

A **call site** names a call node of an expression by the path that leads to it and by the name that
is called there. The call sites of an expression in post-order are the arguments of a call from left
to right and then the call itself (`Expr.callSites`). They are exactly the places at which a path
leads to a call (`Expr.mem_callSites`), and each of them is there once (`Expr.nodup_callSites`). -/

namespace LineGate

/-- **Call sites**: a path from the root, which gives at each node the number of the part to go to,
and the name that is called there. -/
structure CallSite where
  path : List Nat
  name : String
  deriving DecidableEq, Repr

namespace Expr

/-! ## Parts and paths -/

/-- The **parts** of an expression, from left to right. -/
def parts : Expr → List Expr
  | .literal _ => []
  | .name _ => []
  | .defined _ => []
  | .call _ args => args
  | .list items => items
  | .not e => [e]
  | .negate e => [e]
  | .logical _ l r => [l, r]
  | .compare _ l r => [l, r]

/-- A part is smaller than the whole. -/
theorem sizeOf_lt_of_mem_parts {e part : Expr} (inside : part ∈ e.parts) :
    sizeOf part < sizeOf e := by
  cases e with
  | literal | name | defined => cases inside
  | call n args =>
    have lt : sizeOf part < sizeOf args := List.sizeOf_lt_of_mem inside
    simp only [call.sizeOf_spec]
    omega
  | list items =>
    have lt : sizeOf part < sizeOf items := List.sizeOf_lt_of_mem inside
    simp only [list.sizeOf_spec]
    omega
  | not e | negate e =>
    cases List.mem_singleton.mp inside
    simp
  | logical op l r | compare op l r =>
    simp only [parts, List.mem_cons, List.not_mem_nil, or_false] at inside
    rcases inside with rfl | rfl
    · simp only [logical.sizeOf_spec, compare.sizeOf_spec]
      omega
    · simp only [logical.sizeOf_spec, compare.sizeOf_spec]
      omega

/-- **Induction along the parts** of an expression. -/
theorem parts_induction {P : Expr → Prop} (step : ∀ e, (∀ part ∈ e.parts, P part) → P e)
    (e : Expr) : P e :=
  step e fun part _ => parts_induction step part
termination_by sizeOf e
decreasing_by exact sizeOf_lt_of_mem_parts ‹_›

/-- The expression that a path leads to. -/
def at? (e : Expr) : List Nat → Option Expr
  | [] => some e
  | i :: path => match e.parts[i]? with
    | some part => part.at? path
    | none => none

/-- A **straight** expression has no connective, wherever a path leads. -/
def Straight (e : Expr) : Prop := ∀ path op l r, e.at? path ≠ some (.logical op l r)

/-- A connective is not straight. -/
theorem not_straight_logical {op : Connective} {l r : Expr} : ¬(logical op l r).Straight :=
  fun straight => straight [] op l r rfl

/-- The parts of a straight expression are straight. -/
theorem Straight.part {e part : Expr} (straight : e.Straight) (inside : part ∈ e.parts) :
    part.Straight := by
  obtain ⟨i, found⟩ := List.getElem?_of_mem inside
  intro path op l r connective
  refine straight (i :: path) op l r ?_
  rw [at?, found]
  exact connective

/-! ## Post-order -/

mutual

/-- The call sites of an expression that stands at the given path. -/
def sitesAt : List Nat → Expr → List CallSite
  | _, .literal _ => []
  | _, .name _ => []
  | _, .defined _ => []
  | path, .call n args => sitesFrom path 0 args ++ [⟨path, n⟩]
  | path, .list items => sitesFrom path 0 items
  | path, .not e => sitesAt (path ++ [0]) e
  | path, .negate e => sitesAt (path ++ [0]) e
  | path, .logical _ l r => sitesAt (path ++ [0]) l ++ sitesAt (path ++ [1]) r
  | path, .compare _ l r => sitesAt (path ++ [0]) l ++ sitesAt (path ++ [1]) r

/-- The call sites of parts from left to right, the first of which has the number `i`. -/
def sitesFrom : List Nat → Nat → List Expr → List CallSite
  | _, _, [] => []
  | path, i, e :: es => sitesAt (path ++ [i]) e ++ sitesFrom path (i + 1) es

end

/-- **The call sites of an expression in post-order.** -/
def callSites (e : Expr) : List CallSite := sitesAt [] e

/-- The site of an expression that is a call itself. -/
def ownSite (path : List Nat) : Expr → List CallSite
  | .call n _ => [⟨path, n⟩]
  | _ => []

/-- The sites of an expression are those of its parts, and then its own. -/
theorem sitesAt_eq (path : List Nat) (e : Expr) :
    sitesAt path e = sitesFrom path 0 e.parts ++ ownSite path e := by
  cases e <;> simp [sitesAt, sitesFrom, parts, ownSite]

/-- A site of some parts is a site of one of them. -/
theorem mem_sitesFrom {site : CallSite} {path : List Nat} {i : Nat} {es : List Expr} :
    site ∈ sitesFrom path i es ↔
      ∃ j part, es[j]? = some part ∧ site ∈ sitesAt (path ++ [i + j]) part := by
  induction es generalizing i with
  | nil => simp [sitesFrom]
  | cons e es ih =>
    rw [sitesFrom, List.mem_append, ih]
    constructor
    · rintro (here | ⟨j, part, found, inside⟩)
      · exact ⟨0, e, rfl, here⟩
      · refine ⟨j + 1, part, found, ?_⟩
        rwa [Nat.add_comm j 1, ← Nat.add_assoc]
    · rintro ⟨j, part, found, inside⟩
      cases j with
      | zero =>
        cases found
        exact .inl inside
      | succ j =>
        refine .inr ⟨j, part, found, ?_⟩
        rwa [Nat.add_assoc, Nat.add_comm 1 j]

/-- An expression is its own site if it is a call. -/
theorem mem_ownSite {site : CallSite} {path : List Nat} {e : Expr} :
    site ∈ ownSite path e ↔ site.path = path ∧ ∃ args, e = .call site.name args := by
  obtain ⟨place, name⟩ := site
  cases e <;> simp [ownSite, eq_comm]

/-- The sites of an expression are where a path within it leads to a call. -/
theorem mem_sitesAt {site : CallSite} {e : Expr} {path : List Nat} :
    site ∈ sitesAt path e ↔
      ∃ inner args, site.path = path ++ inner ∧ e.at? inner = some (.call site.name args) := by
  induction e using parts_induction generalizing path with
  | step e ih =>
    rw [sitesAt_eq, List.mem_append, mem_sitesFrom, mem_ownSite]
    constructor
    · rintro (⟨j, part, found, inside⟩ | ⟨here, args, rfl⟩)
      · obtain ⟨inner, args, place, call⟩ :=
          (ih part (List.mem_of_getElem? found)).mp inside
        refine ⟨j :: inner, args, ?_, ?_⟩
        · rw [place, Nat.zero_add, List.append_assoc, List.singleton_append]
        · rw [at?, found]
          exact call
      · exact ⟨[], args, by rw [here, List.append_nil], rfl⟩
    · rintro ⟨inner, args, place, call⟩
      cases inner with
      | nil => exact .inr ⟨by rw [place, List.append_nil], args, Option.some.inj call⟩
      | cons j inner =>
        rw [at?] at call
        split at call
        case h_1 part found =>
          refine .inl ⟨j, part, found, (ih part (List.mem_of_getElem? found)).mpr ?_⟩
          refine ⟨inner, args, ?_, call⟩
          rw [place, Nat.zero_add, List.append_assoc, List.singleton_append]
        case h_2 => cases call

/-- **A call site is a place at which a path leads to a call.** -/
theorem mem_callSites {site : CallSite} {e : Expr} :
    site ∈ e.callSites ↔ ∃ args, e.at? site.path = some (.call site.name args) := by
  rw [callSites, mem_sitesAt]
  constructor
  · rintro ⟨inner, args, place, call⟩
    rw [List.nil_append] at place
    exact ⟨args, by rw [place, call]⟩
  · rintro ⟨args, call⟩
    exact ⟨site.path, args, rfl, call⟩

/-- The sites of different parts are different, as their paths part there. -/
theorem nodup_sitesFrom {path : List Nat} {i : Nat} {es : List Expr}
    (each : ∀ e ∈ es, ∀ path, (sitesAt path e).Nodup) : (sitesFrom path i es).Nodup := by
  induction es generalizing i with
  | nil =>
    rw [sitesFrom]
    exact .nil
  | cons e es ih =>
    rw [sitesFrom]
    refine List.nodup_append.mpr ⟨each e (List.mem_cons_self ..) _,
      ih fun e inside => each e (List.mem_cons_of_mem _ inside), ?_⟩
    rintro site here _ there rfl
    obtain ⟨inner, _, place, -⟩ := mem_sitesAt.mp here
    obtain ⟨j, part, -, inside⟩ := mem_sitesFrom.mp there
    obtain ⟨inner', _, place', -⟩ := mem_sitesAt.mp inside
    rw [place, List.append_assoc, List.append_assoc] at place'
    have number := (List.cons.inj (List.append_cancel_left place')).1
    omega

/-- The sites of an expression are all different. -/
theorem nodup_sitesAt (path : List Nat) (e : Expr) : (sitesAt path e).Nodup := by
  induction e using parts_induction generalizing path with
  | step e ih =>
    rw [sitesAt_eq]
    refine List.nodup_append.mpr ⟨nodup_sitesFrom fun part inside path => ih part inside path,
      ?_, ?_⟩
    · cases e <;> simp [ownSite]
    · rintro site below _ own rfl
      -- The path to a part is longer than the path to the whole.
      obtain ⟨j, part, -, inside⟩ := mem_sitesFrom.mp below
      obtain ⟨inner, _, place, -⟩ := mem_sitesAt.mp inside
      have lengths := congrArg List.length ((mem_ownSite.mp own).1.symm.trans place)
      simp only [List.length_append, List.length_cons, List.length_nil] at lengths
      omega

/-- **No call site occurs twice** in the post-order. -/
theorem nodup_callSites (e : Expr) : e.callSites.Nodup := nodup_sitesAt [] e

/-- Arguments come before the call that they are passed to. -/
example : (call "f" [call "g" [], not (call "h" [])]).callSites =
    [⟨[0], "g"⟩, ⟨[1, 0], "h"⟩, ⟨[], "f"⟩] := by
  rfl

end Expr

end LineGate
