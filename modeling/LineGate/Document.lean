import LineGate.Block.Run
import LineGate.Text.Lines

/-! # Documents

A text is processed as a whole: its blocks are found one after the other, and their hidden lines are
neutralised where they stand. No line is added or removed. A text that is rejected has no result,
and the rejection is located in the text.
-/

namespace LineGate

/-- **Styles** of neutralising a line. -/
inductive Style where
  /-- Put a comment marker in front of the line. -/
  | comment (marker : String)
  /-- Replace every character by a space, except a final carriage return. -/
  | blank
  deriving DecidableEq, Repr

namespace Style

/-- A run of spaces. -/
def spaces (n : Nat) : List Char := List.replicate n ' '

/-- Blank a line. -/
def blankLine (line : List Char) : List Char :=
  if line.getLast? = some '\r' then spaces (line.length - 1) ++ ['\r'] else spaces line.length

/-- **Neutralise** a line. -/
def render : Style → String → String
  | .comment marker, line => marker ++ line
  | .blank, line => String.ofList (blankLine line.toList)

end Style

/-- **Processed texts**. -/
structure Formatted where
  text : String
  /-- The warnings, in the order of their lines. -/
  warnings : List Diagnostic
  /-- The indices of the hidden lines, in ascending order. -/
  hidden : List Nat
  /-- The number of lines. -/
  lineCount : Nat
  deriving DecidableEq, Repr

namespace Document

variable {σ : Type}

/-- The indices of all hidden lines of a text, of which the lines from index `index` on are left. -/
def scan (directive? : String → Option Directive) (evaluate : Evaluator σ) (index : Nat) :
    List String → Walk σ (List Nat)
  | [] => return []
  | line :: rest =>
    if Block.opens directive? line then do
      let block ← Block.run directive? evaluate (line :: rest) (Machine.start index false)
      let later ← scan directive? evaluate (block.stop + 1) (rest.drop (block.stop - index))
      return block.hidden ++ later
    else scan directive? evaluate (index + 1) rest
termination_by lines => lines.length

/-- The lines of a text with the hidden ones neutralised. -/
def renderLines (style : Style) (hidden : List Nat) (lines : List String) : List String :=
  lines.zipIdx.map fun (line, i) => if hidden.contains i then style.render line else line

/-- The place that a rejection points at: its line, with the directive on it, or else the first
line. -/
def locate (directive? : String → Option Directive) (lines : List String) (file : Option String)
    (line : Option Int) : Location :=
  match line.bind fun i => if 0 ≤ i then lines[i.toNat]?.map (i, ·) else none with
  | some (i, text) =>
    let d := directive? text
    ⟨i + 1, text, d.map fun d => d.column, d.map fun d => d.length, file⟩
  | none => { line := 1, lineText := lines.headD "", file }

/-- A rejection with its location. -/
def located (directive? : String → Option Directive) (lines : List String) (file : Option String)
    (r : Rejection) : Rejection :=
  { r with location := some (locate directive? lines file r.line) }

/-- The warnings among the events of a walk. -/
def warnings (file : Option String) (events : List Event) : List Diagnostic :=
  events.filterMap fun
    | .warned d => some (d.withFile file)
    | _ => none

/-- **Process a text**: the result or the located rejection, with the progress of the walk. -/
def format (directive? : String → Option Directive) (evaluate : Evaluator σ) (style : Style)
    (file : Option String) (text : String) (state : σ) :
    Except Rejection Formatted × Progress σ :=
  let lines := linesOf text
  match (scan directive? evaluate 0 lines).run { state } with
  | (.ok hidden, progress) =>
    (.ok
      { text := textOf (renderLines style hidden lines)
        warnings := warnings file progress.events.toList
        hidden
        lineCount := lines.length }, progress)
  | (.error rejection, progress) => (.error (located directive? lines file rejection), progress)

end Document

end LineGate
