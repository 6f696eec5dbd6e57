import LineGate.Command.Arguments
import LineGate.Proofs.Computed

/-! # Command lines that start with files

A name that does not start with a dash is a plain argument. In front of switches such names are the
files of the command line, and the switches are read as if the files had been named before
(`Options.parse_files`). -/

namespace LineGate

namespace Command

variable {names : List String}

/-- A name that does not start with a dash is plain. -/
theorem Argument.roleOf_of_undashed {name : String} (undashed : name.toList.head? ≠ some '-') :
    roleOf name = .ok .plain := by
  unfold roleOf
  split
  · next c rest eq =>
    rw [eq] at undashed
    exact absurd rfl undashed
  · rfl

/-- **Names in front of other arguments** are plain, and do not matter to their roles. -/
theorem Argument.classify_append (undashed : ∀ name ∈ names, name.toList.head? ≠ some '-')
    (others : List String) :
    classify (names ++ others) =
      (classify others).map fun args => names.map (⟨·, .plain⟩) ++ args := by
  induction names with
  | nil =>
    rw [List.nil_append]
    cases classify others <;> rfl
  | cons name rest ih =>
    have here := undashed name List.mem_cons_self
    -- Behind a double dash the others would be plain as well.
    have single : name ≠ "--" := by
      rintro rfl
      exact here rfl
    rw [List.cons_append, classify, if_neg single, roleOf_of_undashed here,
      ih fun other mem => undashed other (List.mem_cons_of_mem name mem)]
    cases classify others <;> rfl

/-- The names are taken for the files, if no plain argument follows. -/
theorem Reading.read_files (nonempty : names ≠ []) (single : "--" ∉ names) {args : List Argument}
    (apart : ∀ a ∈ args.head?, a.isPlain = false) :
    read {} (names.map (⟨·, .plain⟩) ++ args) =
      read { options := { files := names }, filesNamed := true } args := by
  obtain ⟨name, rest, rfl⟩ := List.exists_cons_of_ne_nil nonempty
  have plain : ∀ a ∈ rest.map (Argument.mk · .plain), a.isPlain = true := by
    intro a mem
    obtain ⟨_, -, rfl⟩ := List.mem_map.mp mem
    rfl
  -- The first stretch of plain arguments ends where the names end.
  have stays : args.takeWhile (·.isPlain) = [] ∧ args.dropWhile (·.isPlain) = args := by
    cases args with
    | nil => exact ⟨rfl, rfl⟩
    | cons a others =>
      have switch : ¬ a.isPlain = true := by rw [apart a rfl]; exact Bool.false_ne_true
      exact ⟨List.takeWhile_cons_of_neg switch, List.dropWhile_cons_of_neg switch⟩
  have texts : (rest.map (Argument.mk · .plain)).map (·.text) = rest := by
    rw [List.map_map]
    exact List.map_id rest
  rw [List.map_cons, List.cons_append, read]
  dsimp only
  rw [List.takeWhile_append_of_pos plain, List.dropWhile_append_of_pos plain, stays.1, stays.2,
    List.append_nil, takePlain, List.map_cons, texts, List.erase_of_not_mem single]
  rfl

/-- **A command line that starts with files**: what its switches ask for is added to the files. -/
theorem Options.parse_files (nonempty : names ≠ [])
    (undashed : ∀ name ∈ names, name.toList.head? ≠ some '-') {switches : List String}
    {args : List Argument} (classified : Argument.classify switches = .ok args)
    (apart : ∀ a ∈ args.head?, a.isPlain = false) :
    Options.parse (names ++ switches) =
      (Reading.read { options := { files := names }, filesNamed := true } args).bind
        Reading.finish := by
  have single : "--" ∉ names := fun mem => undashed _ mem rfl
  rw [Options.parse, Argument.classify_append undashed, classified]
  exact congrArg (Except.bind · Reading.finish) (Reading.read_files nonempty single apart)

end Command

end LineGate
