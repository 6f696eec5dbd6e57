import Mathlib.Data.List.TakeWhile
import LineGate.Proofs.Command.DefinedNumber

/-! # The bindings of definitions

What a list of definitions amounts to, without the order in which it is read: a variable has the value
of the last item that names it, and if there is none, the one that it had before (`find?_laid`). Items
that name nothing are reported in their order and bind nothing (`collect_of_short`,
`laid_filter_valid`). -/

namespace LineGate

namespace Define

/-! ## Items -/

/-- **Spellings of items**: the name, without the blanks around it, and what stands behind the first
equals sign, if there is one. -/
inductive Spelled (item : String) : List Char → Option String → Prop where
  /-- An item without an equals sign is a name. -/
  | bare (absent : '=' ∉ item.toList) : Spelled item (trim item.toList) none
  /-- Any other is a name and a value, in which further equals signs may occur. -/
  | valued {front : List Char} {raw : String} (absent : '=' ∉ front)
      (chars : item.toList = front ++ '=' :: raw.toList) : Spelled item (trim front) (some raw)

/-- The item **names** the variable `k`, which is an identifier. -/
def Names (item k : String) : Prop :=
  isIdentifier k.toList = true ∧ ∃ value, Spelled item k.toList value

/-- **Valid items** name a variable. -/
def Valid (item : String) : Prop := ∃ k, Names item k

/-- The item **defines** the variable `k` to have a value. -/
inductive Defines (item k : String) : Value → Prop where
  /-- A bare name is bound to true. -/
  | bare (identifier : isIdentifier k.toList = true) (spelled : Spelled item k.toList none) :
      Defines item k (.bool true)
  /-- Any other name is bound to the value of its text. -/
  | valued {raw : String} {v : Value} (identifier : isIdentifier k.toList = true)
      (spelled : Spelled item k.toList (some raw)) (value : coerce raw = .ok v) : Defines item k v

/-- The value of a valid item is not overlong. -/
def Short (item : String) : Prop :=
  ∀ k raw, isIdentifier k = true → Spelled item k (some raw) → ¬ Overlong raw.toList

section Item

variable {item k k' : String} {name : List Char} {value : Option String} {v v' : Value}

/-- **Cutting an item** gives its spelling. -/
theorem cutItem_eq_iff : cutItem item = (name, value) ↔ Spelled item name value := by
  have of_spelled {name : List Char} {value : Option String} (h : Spelled item name value) :
      cutItem item = (name, value) := by
    cases h with
    | bare absent =>
      have all : ∀ c ∈ item.toList, decide (c ≠ '=') = true := by
        intro c inside
        apply decide_eq_true
        rintro rfl
        exact absent inside
      rw [cutItem, Separated.cut, List.takeWhile_eq_self_iff.mpr all,
        List.dropWhile_eq_nil_iff.mpr all]
      rfl
    | valued absent chars =>
      rw [cutItem, chars, cut_append absent]
      simp
  refine ⟨fun cut => ?_, of_spelled⟩
  by_cases inside : '=' ∈ item.toList
  · obtain ⟨front, behind, chars, absent⟩ := List.eq_append_cons_of_mem inside
    have spelled : Spelled item (trim front) (some (String.ofList behind)) :=
      .valued absent (by rw [chars, String.toList_ofList])
    cases cut.symm.trans (of_spelled spelled)
    exact spelled
  · cases cut.symm.trans (of_spelled (.bare inside))
    exact .bare inside

/-- An item names one variable at most. -/
theorem Names.unique (h : Names item k) (h' : Names item k') : k = k' := by
  obtain ⟨-, value, spelled⟩ := h
  obtain ⟨-, value', spelled'⟩ := h'
  have same := (cutItem_eq_iff.mpr spelled).symm.trans (cutItem_eq_iff.mpr spelled')
  exact String.toList_injective (congrArg Prod.fst same)

/-- What an item defines, it names. -/
theorem Defines.names (h : Defines item k v) : Names item k := by
  cases h with
  | bare identifier spelled => exact ⟨identifier, none, spelled⟩
  | valued identifier spelled => exact ⟨identifier, _, spelled⟩

/-- An item is valid if the text in front of its equals sign is an identifier. -/
theorem valid_iff : Valid item ↔ isIdentifier (cutItem item).1 = true := by
  constructor
  · rintro ⟨k, identifier, value, spelled⟩
    rwa [cutItem_eq_iff.mpr spelled]
  · intro identifier
    refine ⟨String.ofList (cutItem item).1, ?_, (cutItem item).2, ?_⟩
    · rwa [String.toList_ofList]
    · rw [String.toList_ofList]
      exact cutItem_eq_iff.mp rfl

instance (item : String) : Decidable (Valid item) :=
  decidable_of_iff (isIdentifier (cutItem item).1 = true) valid_iff.symm

/-- **The binding of an item** is what it defines. -/
theorem binding_eq_ok_iff : binding item = .ok (k, v) ↔ Defines item k v := by
  constructor
  · intro bound
    unfold binding at bound
    rcases cut : cutItem item with ⟨name, value⟩
    rw [cut] at bound
    have spelled : Spelled item (String.ofList name).toList value := by
      rw [String.toList_ofList]
      exact cutItem_eq_iff.mp cut
    by_cases identifier : isIdentifier name = true
    · have identifier' : isIdentifier (String.ofList name).toList = true := by
        rwa [String.toList_ofList]
      cases value with
      | none =>
        simp only [identifier, if_true] at bound
        cases bound
        exact .bare identifier' spelled
      | some raw =>
        simp only [identifier, if_true] at bound
        cases read : coerce raw with
        | ok v =>
          rw [read] at bound
          cases bound
          exact .valued identifier' spelled read
        | error fault =>
          rw [read] at bound
          cases bound
    · simp [identifier] at bound
  · intro defined
    cases defined with
    | bare identifier spelled =>
      simp [binding, cutItem_eq_iff.mpr spelled, identifier]
    | valued identifier spelled value =>
      simp [binding, cutItem_eq_iff.mpr spelled, identifier, value, Except.mapError, Except.map]

/-- **An item that is not valid** has no binding. -/
theorem binding_of_not_valid (h : ¬ Valid item) : binding item = .error (.bad ⟨item⟩) := by
  rw [valid_iff] at h
  rw [binding]
  exact if_neg h

/-- A valid item defines a variable, unless its value is overlong. -/
theorem exists_defines (valid : Valid item) (short : Short item) : ∃ k v, Defines item k v := by
  obtain ⟨k, identifier, value, spelled⟩ := valid
  cases value with
  | none => exact ⟨k, _, .bare identifier spelled⟩
  | some raw =>
    cases read : coerce raw with
    | ok v => exact ⟨k, v, .valued identifier spelled read⟩
    | error fault =>
      exact absurd ((coerce_error_iff raw).mp ⟨fault, read⟩) (short _ raw identifier spelled)

/-- A value that is defined is not overlong. -/
theorem Defines.short (h : Defines item k v) : Short item := by
  intro name raw _ spelled long
  cases h with
  | bare _ spelled' => cases (cutItem_eq_iff.mpr spelled).symm.trans (cutItem_eq_iff.mpr spelled')
  | valued _ spelled' value =>
    cases (cutItem_eq_iff.mpr spelled).symm.trans (cutItem_eq_iff.mpr spelled')
    obtain ⟨fault, failed⟩ := (coerce_error_iff raw).mpr long
    cases value.symm.trans failed

/-- Items with no more characters than a number may have digits are short enough. -/
theorem short_of_length_le (h : item.length ≤ integerDigitLimit) : Short item := by
  rintro name raw - spelled ⟨sign, -, digits, feed, -, chars, -, long⟩
  cases spelled with
  | valued absent split =>
    have lengths := congrArg List.length split
    simp only [List.length_append, List.length_cons, String.length_toList, chars] at lengths
    omega

end Item

/-! ## Lists of items -/

/-- The value that an item defines is that of the **last item** that names the variable. -/
def LastDefines (items : List String) (k : String) (v : Value) : Prop :=
  ∃ before item after, items = before ++ item :: after ∧ Defines item k v ∧
    ∀ later ∈ after, ¬ Names later k

/-- The environment with the bindings of all items that have one, **laid over** the given one. -/
def laid (env : Environment) (items : List String) : Environment :=
  items.foldl (fun env item => match binding item with
    | .ok (k, v) => env.bind k v
    | .error _ => env) env

section Items

variable {env : Environment} {item k : String} {rest items : List String} {v : Value}

/-- An item that defines a variable binds it before the others do. -/
theorem laid_cons_of_defines {name : String} {value : Value} (defined : Defines item name value) :
    laid env (item :: rest) = laid (env.bind name value) rest := by
  simp [laid, binding_eq_ok_iff.mpr defined]

/-- An item that is not valid binds nothing. -/
theorem laid_cons_of_not_valid (h : ¬ Valid item) : laid env (item :: rest) = laid env rest := by
  simp [laid, binding_of_not_valid h]

/-- With one more item in front, the last one to name a variable is that item only if no other does. -/
theorem lastDefines_cons_iff : LastDefines (item :: rest) k v ↔
    LastDefines rest k v ∨ Defines item k v ∧ ∀ later ∈ rest, ¬ Names later k := by
  constructor
  · rintro ⟨before, last, after, split, defined, final⟩
    cases before with
    | nil =>
      cases split
      exact .inr ⟨defined, final⟩
    | cons first before =>
      cases split
      exact .inl ⟨before, last, after, rfl, defined, final⟩
  · rintro (⟨before, last, after, rfl, defined, final⟩ | ⟨defined, final⟩)
    · exact ⟨item :: before, last, after, rfl, defined, final⟩
    · exact ⟨[], item, rest, rfl, defined, final⟩

/-- A variable that is named is defined, by the last item that names it. -/
theorem exists_lastDefines (short : ∀ item ∈ items, Short item)
    (named : ∃ item ∈ items, Names item k) : ∃ v, LastDefines items k v := by
  induction items with
  | nil => simp at named
  | cons item rest ih =>
    obtain ⟨item_short, rest_short⟩ := List.forall_mem_cons.mp short
    by_cases later : ∃ item ∈ rest, Names item k
    · obtain ⟨v, last⟩ := ih rest_short later
      exact ⟨v, lastDefines_cons_iff.mpr (.inl last)⟩
    · have none_later : ∀ item ∈ rest, ¬ Names item k := by simpa using later
      have names : Names item k := by simpa [later] using named
      obtain ⟨name, v, defined⟩ := exists_defines ⟨k, names⟩ item_short
      cases defined.names.unique names
      exact ⟨v, lastDefines_cons_iff.mpr (.inr ⟨defined, none_later⟩)⟩

/-- **The last item wins**: a variable has the value that the last item to name it defines, and the
value that it had before if there is no such item. -/
theorem find?_laid (short : ∀ item ∈ items, Short item) :
    (laid env items).find? k = some v ↔
      LastDefines items k v ∨ (∀ item ∈ items, ¬ Names item k) ∧ env.find? k = some v := by
  induction items generalizing env with
  | nil => simp [laid, LastDefines]
  | cons item rest ih =>
    obtain ⟨item_short, rest_short⟩ := List.forall_mem_cons.mp short
    rw [lastDefines_cons_iff, List.forall_mem_cons]
    by_cases valid : Valid item
    · obtain ⟨name, value, defined⟩ := exists_defines valid item_short
      rw [laid_cons_of_defines defined, ih rest_short, Environment.find?_bind]
      -- The variable is the one that this item binds, or this item has no bearing on it.
      by_cases same : name = k
      · subst same
        have only : Defines item name v ↔ v = value := by
          rw [← binding_eq_ok_iff, binding_eq_ok_iff.mpr defined]
          simp [eq_comm]
        simp [only, defined.names, and_comm, eq_comm]
      · have other : ¬ Names item k := fun names => same (defined.names.unique names)
        have undefined : ¬ Defines item k v := fun defined => other defined.names
        simp [same, other, undefined]
    · have unnamed : ¬ Names item k := fun names => valid ⟨k, names⟩
      have undefined : ¬ Defines item k v := fun defined => unnamed defined.names
      rw [laid_cons_of_not_valid valid, ih rest_short]
      simp [unnamed, undefined]

/-- Items that are not valid bind nothing. -/
theorem laid_filter_valid (env : Environment) (items : List String) :
    laid env (items.filter (Valid ·)) = laid env items := by
  induction items generalizing env with
  | nil => rfl
  | cons item rest ih =>
    by_cases valid : Valid item
    · rw [List.filter_cons_of_pos (by simpa using valid), laid, laid, List.foldl_cons,
        List.foldl_cons]
      exact ih _
    · rw [List.filter_cons_of_neg (by simpa using valid), ih, laid_cons_of_not_valid valid]

/-- **Collecting** the bindings of items whose values are not overlong gives all of them, and the items
that are not valid in their order. -/
theorem collect_of_short (short : ∀ item ∈ items, Short item) (env : Environment)
    (bad : List BadItem) :
    collect env bad items =
      .ok (laid env items, bad.reverse ++ (items.filter (¬ Valid ·)).map BadItem.mk) := by
  induction items generalizing env bad with
  | nil => simp [collect, laid]
  | cons item rest ih =>
    obtain ⟨item_short, rest_short⟩ := List.forall_mem_cons.mp short
    by_cases valid : Valid item
    · obtain ⟨name, value, defined⟩ := exists_defines valid item_short
      have bound := binding_eq_ok_iff.mpr defined
      rw [collect, bound, laid_cons_of_defines defined]
      dsimp only
      rw [ih rest_short]
      simp [valid]
    · rw [collect, binding_of_not_valid valid, laid_cons_of_not_valid valid]
      dsimp only
      rw [ih rest_short]
      simp [valid]

/-- Without a place for them, the **first item that is not valid** ends the reading. -/
theorem strict_of_short (short : ∀ item ∈ items, Short item) (env : Environment) :
    strict env items = match items.find? (¬ Valid ·) with
      | none => .ok (laid env items)
      | some item => .error (.bad ⟨item⟩) := by
  induction items generalizing env with
  | nil => rfl
  | cons item rest ih =>
    obtain ⟨item_short, rest_short⟩ := List.forall_mem_cons.mp short
    by_cases valid : Valid item
    · obtain ⟨name, value, defined⟩ := exists_defines valid item_short
      have bound := binding_eq_ok_iff.mpr defined
      rw [strict, bound, laid_cons_of_defines defined, List.find?_cons_of_neg (by simpa using valid)]
      exact ih rest_short _
    · rw [strict, binding_of_not_valid valid, List.find?_cons_of_pos (by simpa using valid)]

/-- Items can be collected only if none of their values is overlong. -/
theorem short_of_collect {env' : Environment} {bad bad' : List BadItem}
    (collected : collect env bad items = .ok (env', bad')) : ∀ item ∈ items, Short item := by
  induction items generalizing env bad with
  | nil => nofun
  | cons item rest ih =>
    rw [collect] at collected
    rw [List.forall_mem_cons]
    cases bound : binding item with
    | ok pair =>
      rw [bound] at collected
      exact ⟨(binding_eq_ok_iff.mp bound).short, ih collected⟩
    | error fault =>
      rw [bound] at collected
      cases fault with
      | digits => cases collected
      | bad b =>
        -- An overlong value would have been the fault.
        refine ⟨fun name raw identifier spelled long => ?_, ih collected⟩
        obtain ⟨fault, failed⟩ := (coerce_error_iff raw).mpr long
        simp [binding, cutItem_eq_iff.mpr spelled, identifier, failed, Except.mapError, Except.map]
          at bound

end Items

/-! ## Layers -/

/-- The variables of the process are texts, and they count only if they are taken over. -/
theorem find?_base {inherit : Bool} {environ : List (String × String)} {k : String} {v : Value} :
    (base inherit environ).1.find? k = some v ↔
      inherit = true ∧ ∃ text, environ.lookup k = some text ∧ v = .str text := by
  cases inherit with
  | false => simp [base, Environment.find?]
  | true =>
    have mapped : Environment.find? (environ.map fun entry => (entry.1, Value.str entry.2)) k =
        (environ.lookup k).map .str := by
      induction environ with
      | nil => rfl
      | cons entry rest ih =>
        obtain ⟨name, text⟩ := entry
        by_cases same : name = k
        · simp [Environment.find?, same]
        · have other : (k == name) = false := beq_eq_false_iff_ne.mpr (Ne.symm same)
          simp [Environment.find?, List.lookup_cons, same, other, ih]
    have based : (base true environ).1 = environ.map fun entry => (entry.1, Value.str entry.2) := rfl
    rw [based, mapped, Option.map_eq_some_iff]
    simp [eq_comm]

/-- **Definitions are layered.** Unless a value is overlong, a list of items can be read. A variable has
the value that the last item to name it defines. If there is none, it has its text in the process, if
that is taken over, and otherwise it is not bound. The items that are not valid are reported in their
order and change nothing, or else the first of them ends the reading. -/
theorem definitions_layered {items : List String} (short : ∀ item ∈ items, Short item)
    (inherit : Bool) (environ : List (String × String)) :
    ∃ env, collect (base inherit environ).1 [] items =
        .ok (env, (items.filter (¬ Valid ·)).map BadItem.mk) ∧
      (∀ k v, env.find? k = some v ↔ LastDefines items k v ∨
        (∀ item ∈ items, ¬ Names item k) ∧
          inherit = true ∧ ∃ text, environ.lookup k = some text ∧ v = .str text) ∧
      collect (base inherit environ).1 [] (items.filter (Valid ·)) = .ok (env, []) ∧
      (strict (base inherit environ).1 items = match items.find? (¬ Valid ·) with
        | none => .ok env
        | some item => .error (.bad ⟨item⟩)) ∧
      ∀ item, (BadItem.mk item).message = "--define expects NAME[=VALUE] (got '" ++ item ++ "')" := by
  refine ⟨laid (base inherit environ).1 items, ?_, ?_, ?_, ?_, fun item => rfl⟩
  · rw [collect_of_short short]
    rfl
  · intro k v
    rw [find?_laid short, find?_base]
  · have kept : ∀ item ∈ items.filter (Valid ·), Short item :=
      fun item inside => short item (List.mem_of_mem_filter inside)
    have none_bad : (items.filter (Valid ·)).filter (¬ Valid ·) = [] := by
      simp [List.filter_filter]
    rw [collect_of_short kept, laid_filter_valid, none_bad]
    rfl
  · exact strict_of_short short _

/-- A name that is defined twice, once with blanks around it and an equals sign in its value, above a
variable of the process. -/
theorem definitions_layered_twice :
    (∀ item ∈ ["A=1", "9x=1", " A =x=y", "B"], Short item) ∧
    ∃ env, collect (base true [("A", "old"), ("HOME", "h")]).1 [] ["A=1", "9x=1", " A =x=y", "B"] =
        .ok (env, [⟨"9x=1"⟩]) ∧
      env.find? "A" = some (.str "x=y") ∧ env.find? "B" = some (.bool true) ∧
      env.find? "HOME" = some (.str "h") ∧ env.find? "9x" = none := by
  have short : ∀ item ∈ ["A=1", "9x=1", " A =x=y", "B"], Short item := by
    have lengths : ∀ item ∈ ["A=1", "9x=1", " A =x=y", "B"], item.length ≤ integerDigitLimit := by
      decide
    exact fun item inside => short_of_length_le (lengths item inside)
  obtain ⟨env, collected, -⟩ :=
    definitions_layered short true [("A", "old"), ("HOME", "h")]
  have run : collect (base true [("A", "old"), ("HOME", "h")]).1 [] ["A=1", "9x=1", " A =x=y", "B"] =
      .ok ([("A", .str "x=y"), ("HOME", .str "h"), ("B", .bool true)], [⟨"9x=1"⟩]) := by
    rfl
  cases collected.symm.trans run
  exact ⟨short, _, run, rfl, rfl, rfl, rfl⟩

end Define

end LineGate
