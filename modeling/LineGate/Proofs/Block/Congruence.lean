import LineGate.Document
import LineGate.Proofs.Block.Visit

/-! # Relations between walks

A walk through a block is put together from a few kinds of steps: it rejects, records an event, asks
for a condition, or returns. So whatever relates these steps for two evaluators, and goes over from
the parts of a walk to the whole, relates the walks through any block (`Block.run_related`) and the
scans of any text (`Document.scan_related`). Comparisons of evaluators are made in this way: what has
to be said about one of them is what it makes of a single question. -/

namespace LineGate

variable {σ σ' : Type}

/-- **Congruences** of walks with two evaluators: relations that hold between the same steps, and that
are kept when walks are put together. -/
structure Walk.Congruence (R : ∀ {α : Type}, Walk σ α → Walk σ' α → Prop) (evaluate : Evaluator σ)
    (evaluate' : Evaluator σ') : Prop where
  of_pure {α : Type} (a : α) : R (pure a) (pure a)
  of_throw {α : Type} (r : Rejection) : R (throw r : Walk σ α) (throw r)
  /-- An event that is recorded by itself is not the answer to a question. -/
  of_emit (e : Event) (unasked : ∀ condition line result, e ≠ .evaluated condition line result) :
    R (Walk.emit e) (Walk.emit e)
  of_ask (condition : String) (line : Nat) :
    R (Walk.ask evaluate condition line) (Walk.ask evaluate' condition line)
  of_bind {α β : Type} {w : Walk σ α} {w' : Walk σ' α} {k : α → Walk σ β} {k' : α → Walk σ' β} :
    R w w' → (∀ a, R (k a) (k' a)) → R (w >>= k) (w' >>= k')

variable {R : ∀ {α : Type}, Walk σ α → Walk σ' α → Prop}
variable {evaluate : Evaluator σ} {evaluate' : Evaluator σ'}
variable (h : Walk.Congruence R evaluate evaluate') (directive? : String → Option Directive)

include h

/-- **Walks through a block are related** by a congruence. -/
theorem Block.run_related (lines : List String) (m : Machine) :
    R (run directive? evaluate lines m) (run directive? evaluate' lines m) := by
  -- The moves of the machine are the same, as they depend on the lines and on the answers only.
  fun_induction run directive? evaluate lines m with
  | case1 m =>
    rw [run_nil]
    exact h.of_throw _
  | case2 line rest m next move opened ih =>
    rw [run_cons directive? evaluate' rest m, move]
    exact ih
  | case3 line rest m next move ih =>
    rw [run_cons, move]
    exact ih
  | case4 line rest m next move ih =>
    rw [run_cons, move]
    exact h.of_bind (h.of_emit _ nofun) fun _ => ih
  | case5 line rest m condition next move ih =>
    rw [run_cons, move]
    exact h.of_bind (h.of_ask condition m.index) ih
  | case6 line rest m d next move ih =>
    rw [run_cons, move]
    exact h.of_bind (h.of_emit _ nofun) fun _ => ih
  | case7 line rest m message move =>
    rw [run_cons, move]
    exact h.of_throw _
  | case8 line rest m block move =>
    rw [run_cons, move]
    exact h.of_pure _

/-- **Scans are related** by a congruence. -/
theorem Document.scan_related (index : Nat) (lines : List String) :
    R (scan directive? evaluate index lines) (scan directive? evaluate' index lines) := by
  fun_induction scan directive? evaluate index lines with
  | case1 index =>
    rw [scan]
    exact h.of_pure _
  | case2 index line rest ho ih =>
    rw [scan, if_pos ho]
    refine h.of_bind (Block.run_related h directive? _ _) fun block => ?_
    exact h.of_bind (ih block) fun later => h.of_pure _
  | case3 index line rest ho ih =>
    rw [scan, if_neg ho]
    exact ih

end LineGate
