import LineGate.Condition

/-! # Computed results

What comes out for given arguments can be computed, and compared with what should come out. A result
that may also be a fault is compared as a value that may be missing, and a condition is computed
without the line that it stands on. -/

namespace LineGate

/-- A value is returned if it can be extracted. -/
theorem eq_ok_of_toOption_eq_some {ε α : Type} {x : Except ε α} {a : α} (h : x.toOption = some a) :
    x = .ok a := by
  cases x with
  | error => cases h
  | ok => rw [Option.some.inj h]

/-- **A condition that is decided** somewhere is decided alike on every line. -/
theorem Condition.evaluator_eq_ok {fns : Functions Unit} {env : Environment} {condition : String}
    {result : Bool} (decided : (holds fns env condition none ()).1.toOption = some result)
    (line : Nat) : evaluator fns env condition line () = (.ok result, ()) := by
  unfold holds at decided
  unfold evaluator holds
  cases parsed : Expr.parse condition with
  | error fault =>
    rw [parsed] at decided
    cases decided
  | ok e =>
    rw [parsed] at decided
    dsimp only at decided ⊢
    rcases evaluated : (e.eval fns env).run () with ⟨fault | v, state⟩
    · rw [evaluated] at decided
      cases decided
    · rw [evaluated] at decided
      rw [← Option.some.inj decided]

end LineGate
