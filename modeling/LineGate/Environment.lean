import LineGate.Value.Basic

/-! # Environments

The variables that a condition may refer to. An environment keeps its bindings in the order in which
the names were first bound; binding a name again replaces its value in place.
-/

namespace LineGate

/-- **Environments**: names with their values. -/
abbrev Environment := List (String × Value)

namespace Environment

/-- The value of a variable. -/
def find? (env : Environment) (name : String) : Option Value :=
  match env with
  | [] => none
  | (k, v) :: rest => if k = name then some v else find? rest name

/-- Whether a variable is bound. -/
def binds (env : Environment) (name : String) : Bool := (env.find? name).isSome

/-- Bind a name to a value, in place of an earlier binding. -/
def bind (env : Environment) (name : String) (value : Value) : Environment :=
  match env with
  | [] => [(name, value)]
  | (k, v) :: rest => if k = name then (k, value) :: rest else (k, v) :: bind rest name value

/-- A name just bound has its new value, and every other name keeps its own. -/
theorem find?_bind (env : Environment) (name other : String) (value : Value) :
    (env.bind name value).find? other = if name = other then some value else env.find? other := by
  induction env with
  | nil => simp [bind, find?]
  | cons entry rest ih =>
    obtain ⟨k, v⟩ := entry
    by_cases same : k = name
    · subst same
      simp only [bind, if_pos, find?]
      split <;> rfl
    · by_cases hit : k = other
      · subst hit
        simp [bind, find?, same, Ne.symm same]
      · simp [bind, find?, same, hit, ih]

end Environment

end LineGate
