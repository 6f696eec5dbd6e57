import LineGate.Pattern.Syntax

/-! # Widths of patterns

A look at what stands before a place needs to know where to start from: the expression to find there
has to take the same number of characters in all of its matches. Whether it does is checked when the
whole pattern has been read.
-/

namespace LineGate

namespace Pattern

namespace Width

/-- The width of nothing. -/
def zero : Width := ⟨0, some 0⟩

/-- The width of one character. -/
def one : Width := ⟨1, some 1⟩

/-- One width behind another. -/
def add (v w : Width) : Width := ⟨v.low + w.low, v.high.bind fun m => w.high.map (m + ·)⟩

/-- The width of one of two alternatives. -/
def either (v w : Width) : Width :=
  ⟨min v.low w.low, v.high.bind fun m => w.high.map (max m ·)⟩

/-- The width of a repetition. -/
def times (w : Width) (low : Nat) (high : Option Nat) : Width where
  low := w.low * low
  high :=
    if w.high = some 0 ∨ high = some 0 then some 0
    else w.high.bind fun m => high.map (m * ·)

/-- The furthest that a pattern can look back. -/
def furthestLook : Nat := 0xFFFFFFFF

/-- What speaks against looking back by a width. -/
def fault? (w : Width) : Option Reason :=
  if furthestLook < w.low then some .looksTooFar
  else if w.high ≠ some w.low then some .variableWidth
  else none

end Width

namespace Regex

/-- **The width of an expression**, given those of the groups that it refers to. -/
def width (groups : List (Nat × Width)) : Regex → Width
  | .empty => .zero
  | .char _ => .one
  | .any => .one
  | .all => .one
  | .set .. => .one
  | .loose .. => .one
  | .assert _ => .zero
  | .seq first second => (first.width groups).add (second.width groups)
  | .alt first second => (first.width groups).either (second.width groups)
  | .group _ body => body.width groups
  | .rep body low high _ => (body.width groups).times low high
  | .possessive body low high => (body.width groups).times low high
  | .atomic body => body.width groups
  | .look .. => .zero
  | .ref _ index => (groups.lookup index).getD .zero
  | .ifGroup _ yes no => (yes.width groups).either (no.width groups)

/-- **What speaks against an expression** once all of it has been read: a look back without a fixed
width, or a repetition in a template, which has none. The first such place counts. -/
def fault? (template : Bool) : Regex → Option Reason
  | .seq first second => (first.fault? template).or (second.fault? template)
  | .alt first second => (first.fault? template).or (second.fault? template)
  | .group _ body => body.fault? template
  | .rep body _ _ greedy =>
    if template then some (.template (if greedy then "MAX_REPEAT" else "MIN_REPEAT"))
    else body.fault? template
  | .possessive body _ _ =>
    if template then some (.template "POSSESSIVE_REPEAT") else body.fault? template
  | .atomic body => body.fault? template
  | .look behind _ body => (behind.bind Width.fault?).or (body.fault? template)
  | .ifGroup _ yes no => (yes.fault? template).or (no.fault? template)
  | _ => none

end Regex

end Pattern

end LineGate
