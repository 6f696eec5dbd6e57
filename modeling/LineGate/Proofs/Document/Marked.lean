import LineGate.Preprocessor
import LineGate.Proofs.Directive.Standard

/-! # Gates with a marker

Settings that do not bring a directive pattern of their own, and know no variables, give the same gate
but for the marker in front of hidden lines (`Gate.build_filtering`). Together with a file filter the
gate makes a preprocessor (`Preprocessor.build_filtering`); the **usual** one has the default filter
(`Pattern.compile_scripts`). -/

namespace LineGate

namespace Gate

/-- Settings with a marker, and nothing else of their own. -/
def marking (marker : String) : Settings := { commentMarker := marker, «variables» := some [] }

/-- The gate with a marker, and nothing else of its own. -/
def marked (marker : String) : Gate Unit where
  pattern := ⟨Directive.defaultPattern true, Standard.regex 3, [("expression", 2), ("token", 1)]⟩
  functions := ⟨fun _ _ state => (.ok .null, state)⟩
  «variables» := []
  style := .comment marker
  verbose := false
  logger := Log.baseLogger

/-- Settings with a marker and a file filter. -/
def filtering (marker source : String) : Settings :=
  { marking marker with fileFilter := .source source }

/-- **Settings with a marker** give the gate with it, whatever their file filter is. -/
theorem build_filtering (glossary : Pattern.Glossary) (environ : List (String × String))
    (marker source : String) :
    build glossary (filtering marker source) (marked marker).functions environ Log.baseLogger =
      (.ok (marked marker), []) := by
  have standard : (filtering marker source).directivePattern glossary =
      .ok (marked marker).pattern := Standard.compilePattern_default glossary true
  rw [build, standard]
  rfl

/-- So do those with the default filter. -/
theorem build_marking (glossary : Pattern.Glossary) (marker : String) :
    (build glossary (marking marker) (marked marker).functions [] Log.baseLogger).1 =
      .ok (marked marker) :=
  congrArg Prod.fst (build_filtering glossary [] marker "\\.[jt]sx?")

/-- The marker has no part in finding directives. -/
theorem directive?_marked (marker : String) : (marked marker).directive? = (marked "").directive? :=
  rfl

end Gate

namespace Pattern

/-- The default file filter. -/
def scripts : Pattern where
  source := "\\.[jt]sx?"
  regex := .seq (.char '.') (.seq (.set false [.code 106, .code 116])
    (.seq (.char 's') (.rep (.char 'x') 0 (some 1) true)))
  names := []

/-- It is what its source stands for. -/
theorem compile_scripts (glossary : Glossary) :
    compile glossary scripts.source = .ok scripts :=
  Standard.compile_eq_ok (by decide +kernel) (by decide +kernel) glossary

end Pattern

namespace Preprocessor

/-- **Settings with a marker and a file filter** give the gate with the filter. -/
theorem build_filtering {glossary : Pattern.Glossary} {source : String} {filter : Pattern}
    (compiled : Pattern.compile glossary source = .ok filter) (marker : String)
    (environ : List (String × String)) :
    build glossary (Gate.filtering marker source) (Gate.marked marker).functions environ =
      (.ok ⟨filter, Gate.marked marker⟩, []) := by
  have filtered : (Gate.filtering marker source).filterPattern glossary = .ok filter := by
    rw [Settings.filterPattern, Gate.filtering]
    dsimp only
    rw [compiled]
  rw [build, filtered]
  dsimp only
  rw [Gate.build_filtering]

/-- **The usual preprocessor**: two slashes in front of hidden lines, and the default filter. -/
def usual : Preprocessor Unit := ⟨.scripts, Gate.marked "//"⟩

end Preprocessor

end LineGate
