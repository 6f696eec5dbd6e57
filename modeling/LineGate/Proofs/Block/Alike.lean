import LineGate.Proofs.Block.Hidden

/-! # Blocks that are alike

Two versions of a text may have the same lines at different places. Walks through them are **alike** if
they tell the same apart from the places: the same lines are kept, the same conditions decided in the
same way and the same warnings given, in the same order, and the walks end in the same way
(`Walk.Alike`). That holds of the parts of a walk one by one, so trees are alike if their bodies and
branches are (`Block.alike_mk`), and remainders stay alike with one more line in front of both
(`Block.Remainder.Alike.extend`). -/

namespace LineGate

variable {σ : Type}

/-! ## What is told apart from places -/

/-- **Notes**: what an event tells apart from its place. -/
inductive Note where
  /-- The text of a line that is kept. -/
  | kept (line : String)
  /-- A condition with the answer to it. -/
  | decided (condition : String) (result : Bool)
  /-- The message of a warning. -/
  | warned (message : String)
  deriving DecidableEq, Repr

/-- The note of an event of the given lines. -/
def Event.note (lines : List String) : Event → Note
  | .included index => .kept (lines.getD index "")
  | .evaluated condition _ result => .decided condition result
  | .warned diagnostic => .warned diagnostic.message

/-- What a rejection says apart from its place: its kind and its message. -/
def Rejection.gist (r : Rejection) : Rejection.Kind × String := (r.kind, r.message)

/-- Evaluators whose answers **do not depend on the line**: a rejection may name it and nothing else. -/
def Evaluator.Placeless (evaluate : Evaluator σ) : Prop :=
  ∀ condition line line' state,
    (evaluate condition line state).1.mapError Rejection.gist =
        (evaluate condition line' state).1.mapError Rejection.gist ∧
      (evaluate condition line state).2 = (evaluate condition line' state).2

/-- The evaluator of conditions does not depend on the line. -/
theorem Condition.evaluator_placeless (fns : Functions σ) (env : Environment) :
    (evaluator fns env).Placeless := by
  intro condition line line' state
  unfold evaluator holds
  cases Expr.parse condition with
  | error fault => exact ⟨rfl, rfl⟩
  | ok e =>
    dsimp only
    rcases (e.eval fns env).run state with ⟨fault | v, next⟩ <;> exact ⟨rfl, rfl⟩

/-- **Progress that is alike**: the same state and the same notes. -/
structure Progress.Alike (lines lines' : List String) (p p' : Progress σ) : Prop where
  state : p.state = p'.state
  notes : p.events.toList.map (·.note lines) = p'.events.toList.map (·.note lines')

/-- Progress stays alike when events with the same note are recorded. -/
theorem Progress.Alike.push {lines lines' : List String} {p p' : Progress σ}
    (h : p.Alike lines lines' p') {e e' : Event} (same : e.note lines = e'.note lines')
    {state state' : σ} (states : state = state') :
    Progress.Alike lines lines' ⟨state, p.events.push e⟩ ⟨state', p'.events.push e'⟩ := by
  refine ⟨states, ?_⟩
  simp only [Array.toList_push, List.map_append, List.map_cons, List.map_nil, h.notes, same]

namespace Walk

variable {α β γ δ : Type} {lines lines' : List String}

/-- **Ends of walks that are alike**: both return, and what they return is related, or both reject the
text, with the same kind and message. -/
inductive AlikeEnds (lines lines' : List String) (post : α → β → Prop) :
    Except Rejection α × Progress σ → Except Rejection β × Progress σ → Prop where
  | returned {a : α} {b : β} {p p' : Progress σ} :
      post a b → p.Alike lines lines' p' → AlikeEnds lines lines' post (.ok a, p) (.ok b, p')
  | rejected {r r' : Rejection} {p p' : Progress σ} :
      r.gist = r'.gist → p.Alike lines lines' p' →
      AlikeEnds lines lines' post (.error r, p) (.error r', p')

/-- **Walks that are alike**: from progress that is alike they come to ends that are. -/
def Alike (lines lines' : List String) (post : α → β → Prop) (w : Walk σ α) (w' : Walk σ β) : Prop :=
  ∀ p p', p.Alike lines lines' p' → AlikeEnds lines lines' post (w.run p) (w'.run p')

variable {post : α → β → Prop} {post' : γ → δ → Prop}

/-- Values that are returned. -/
theorem alike_pure {a : α} {b : β} (h : post a b) :
    Alike lines lines' post (pure a : Walk σ α) (pure b) :=
  fun _ _ alike => .returned h alike

/-- Rejections. -/
theorem alike_throw {r r' : Rejection} (same : r.gist = r'.gist) :
    Alike lines lines' post (throw r : Walk σ α) (throw r') :=
  fun _ _ alike => .rejected same alike

/-- Events. -/
theorem alike_emit {e e' : Event} (same : e.note lines = e'.note lines') :
    Alike lines lines' (fun _ _ => True) (emit e : Walk σ Unit) (emit e') := by
  intro p p' alike
  rw [run_emit, run_emit]
  exact .returned trivial (alike.push same alike.state)

/-- Questions. -/
theorem alike_ask {evaluate : Evaluator σ} (placeless : evaluate.Placeless) (condition : String)
    (line line' : Nat) :
    Alike lines lines' Eq (ask evaluate condition line) (ask evaluate condition line') := by
  intro p p' alike
  have answers := placeless condition line line' p.state
  rw [run_ask, run_ask, ← alike.state]
  generalize evaluate condition line p.state = left,
    evaluate condition line' p.state = right at answers
  obtain ⟨result, state⟩ := answers
  rcases left with ⟨r | b, next⟩ <;> rcases right with ⟨r' | b', next'⟩
  · exact .rejected (Except.error.inj result) ⟨state, alike.notes⟩
  · cases result
  · cases result
  · cases result
    exact .returned rfl (alike.push rfl state)

/-- Walks in two parts are alike part by part. -/
theorem Alike.bind {w : Walk σ α} {w' : Walk σ β} {k : α → Walk σ γ} {k' : β → Walk σ δ}
    (h : Alike lines lines' post w w')
    (hk : ∀ a b, post a b → Alike lines lines' post' (k a) (k' b)) :
    Alike lines lines' post' (w >>= k) (w' >>= k') := by
  intro p p' alike
  rw [run_bind, run_bind]
  generalize ends : w.run p = left, ends' : w'.run p' = right
  have first : AlikeEnds lines lines' post left right := ends ▸ ends' ▸ h p p' alike
  cases first with
  | returned related alike => exact hk _ _ related _ _ alike
  | rejected same alike => exact .rejected same alike

/-- A weaker relation holds as well. -/
theorem Alike.imp {weaker : α → β → Prop} {w : Walk σ α} {w' : Walk σ β}
    (h : Alike lines lines' post w w') (imp : ∀ a b, post a b → weaker a b) :
    Alike lines lines' weaker w w' := by
  intro p p' alike
  generalize ends : w.run p = left, ends' : w'.run p' = right
  have first : AlikeEnds lines lines' post left right := ends ▸ ends' ▸ h p p' alike
  cases first with
  | returned related alike => exact .returned (imp _ _ related) alike
  | rejected same alike => exact .rejected same alike

end Walk

namespace Block

/-! ## What is kept -/

/-- **What hidden lines leave**: without the hidden ones, some lines have the texts `kept`; only lines
without a directive can be left. -/
inductive Leaves (lines : List String) :
    List (Nat × Option Directive.Kind) → List Nat → List String → Prop where
  | nil : Leaves lines [] [] []
  /-- Any line can be hidden. -/
  | hide {rest : List (Nat × Option Directive.Kind)} {hidden : List Nat} {kept : List String}
      (index : Nat) (kind : Option Directive.Kind) :
      Leaves lines rest hidden kept → Leaves lines ((index, kind) :: rest) (index :: hidden) kept
  /-- A line without directive can be left. -/
  | keep {rest : List (Nat × Option Directive.Kind)} {hidden : List Nat} {kept : List String}
      (index : Nat) : Leaves lines rest hidden kept →
      Leaves lines ((index, none) :: rest) hidden (lines.getD index "" :: kept)

namespace Leaves

variable {lines : List String} {ls more : List (Nat × Option Directive.Kind)}
variable {hidden later : List Nat} {kept others : List String}

/-- Texts are put together as the lines are. -/
theorem append (h : Leaves lines ls hidden kept) (hm : Leaves lines more later others) :
    Leaves lines (ls ++ more) (hidden ++ later) (kept ++ others) := by
  induction h with
  | nil => exact hm
  | hide index kind _ ih => exact .hide index kind ih
  | keep index _ ih => exact .keep index ih

/-- Nothing is left if all is hidden. -/
theorem all (lines : List String) (ls : List (Nat × Option Directive.Kind)) :
    Leaves lines ls (ls.map Prod.fst) [] := by
  induction ls with
  | nil => exact .nil
  | cons first rest ih => exact .hide first.1 first.2 ih

/-- The hidden lines are a selection. -/
theorem selection (h : Leaves lines ls hidden kept) : Selection ls hidden := by
  induction h with
  | nil => exact .nil
  | hide index kind _ ih => exact .hide index kind ih
  | keep index _ ih => exact .keep index ih

/-- **The texts that are left** are those of the lines that are not hidden. -/
theorem eq_filter (h : Leaves lines ls hidden kept) (distinct : (ls.map Prod.fst).Nodup) :
    kept = ((ls.map Prod.fst).filter fun i => i ∉ hidden).map fun i => lines.getD i "" := by
  induction h with
  | nil => rfl
  | @hide rest hidden kept index kind _ ih =>
    rw [List.map_cons, List.nodup_cons] at distinct
    -- The first line is no other one, so hiding it makes no difference to the others.
    have others : (rest.map Prod.fst).filter (fun i => i ∉ index :: hidden) =
        (rest.map Prod.fst).filter fun i => i ∉ hidden := by
      refine List.filter_congr fun i inside => ?_
      have ne : i ≠ index := by
        rintro rfl
        exact distinct.1 inside
      simp [ne]
    rw [List.map_cons, List.filter_cons_of_neg (by simp), others]
    exact ih distinct.2
  | @keep rest hidden kept index h ih =>
    rw [List.map_cons, List.nodup_cons] at distinct
    have shown : index ∉ hidden := fun inside => distinct.1 (h.selection.sublist.subset inside)
    rw [List.map_cons, List.filter_cons_of_pos (by simpa using shown), List.map_cons,
      ← ih distinct.2]

end Leaves

/-- Hidden lines of two versions **leave the same** texts. -/
def LeaveSame (lines lines' : List String) (ls ls' : List (Nat × Option Directive.Kind))
    (hidden hidden' : List Nat) : Prop :=
  ∃ kept, Leaves lines ls hidden kept ∧ Leaves lines' ls' hidden' kept

namespace LeaveSame

variable {lines lines' : List String} {ls ls' more more' : List (Nat × Option Directive.Kind)}
variable {hidden hidden' later later' : List Nat}

/-- Without lines there is nothing to leave. -/
theorem nil : LeaveSame lines lines' [] [] [] [] := ⟨[], .nil, .nil⟩

/-- One more line is hidden in both versions. -/
theorem hide (h : LeaveSame lines lines' ls ls' hidden hidden') (index index' : Nat)
    (kind kind' : Option Directive.Kind) :
    LeaveSame lines lines' ((index, kind) :: ls) ((index', kind') :: ls') (index :: hidden)
      (index' :: hidden') := by
  obtain ⟨kept, left, left'⟩ := h
  exact ⟨kept, .hide index kind left, .hide index' kind' left'⟩

/-- One more line is hidden in the second version. -/
theorem hide_right (h : LeaveSame lines lines' ls ls' hidden hidden') (index' : Nat)
    (kind' : Option Directive.Kind) :
    LeaveSame lines lines' ls ((index', kind') :: ls') hidden (index' :: hidden') := by
  obtain ⟨kept, left, left'⟩ := h
  exact ⟨kept, left, .hide index' kind' left'⟩

/-- One more line with the same text is kept in both versions. -/
theorem keep (h : LeaveSame lines lines' ls ls' hidden hidden') {index index' : Nat}
    (same : lines.getD index "" = lines'.getD index' "") :
    LeaveSame lines lines' ((index, none) :: ls) ((index', none) :: ls') hidden hidden' := by
  obtain ⟨kept, left, left'⟩ := h
  exact ⟨_, .keep index left, same ▸ .keep index' left'⟩

/-- Versions are put together as the lines are. -/
theorem append (h : LeaveSame lines lines' ls ls' hidden hidden')
    (hm : LeaveSame lines lines' more more' later later') :
    LeaveSame lines lines' (ls ++ more) (ls' ++ more') (hidden ++ later) (hidden' ++ later') := by
  obtain ⟨kept, left, left'⟩ := h
  obtain ⟨others, behind, behind'⟩ := hm
  exact ⟨_, left.append behind, left'.append behind'⟩

/-- Nothing is left if both versions are hidden. -/
theorem all (ls ls' : List (Nat × Option Directive.Kind)) :
    LeaveSame lines lines' ls ls' (ls.map Prod.fst) (ls'.map Prod.fst) :=
  ⟨[], .all lines ls, .all lines' ls'⟩

end LeaveSame

/-! ## Trees -/

section Run

variable (evaluate : Evaluator σ) (lines lines' : List String)

/-- **Bodies that are alike**, as the bodies of shown branches and of others. -/
def Body.Alike (b b' : Body) : Prop :=
  ∀ shown, Walk.Alike lines lines' (LeaveSame lines lines' b.lines b'.lines)
    (b.run evaluate shown) (b'.run evaluate shown)

/-- **Chains that are alike**, wherever they stand and whatever was selected before. -/
def Chain.Alike (c c' : Chain) : Prop :=
  ∀ live selected, Walk.Alike lines lines' (LeaveSame lines lines' c.lines c'.lines)
    (c.run evaluate live selected) (c'.run evaluate live selected)

/-- **Trees that are alike**, wherever they stand. -/
def Tree.Alike (t t' : Tree) : Prop :=
  ∀ live, Walk.Alike lines lines' (LeaveSame lines lines' t.lines t'.lines)
    (t.run evaluate live) (t'.run evaluate live)

variable {evaluate lines lines'}

/-- A condition is asked for at either place. -/
theorem alike_selects (placeless : evaluate.Placeless) (live selected : Bool) (index index' : Nat)
    (condition : Option String) :
    Walk.Alike lines lines' Eq (selects evaluate live selected index condition)
      (selects evaluate live selected index' condition) := by
  unfold selects
  split
  · split
    · exact Walk.alike_ask placeless _ index index'
    · exact Walk.alike_pure rfl
  · exact Walk.alike_pure rfl

/-- Two runs one after the other, with a hidden line in front of them in both versions. -/
theorem alike_hide_append {index index' : Nat} {kind kind' : Option Directive.Kind}
    {ls ls' more more' : List (Nat × Option Directive.Kind)} {w w' v v' : Walk σ (List Nat)}
    (h : Walk.Alike lines lines' (LeaveSame lines lines' ls ls') w w')
    (hv : Walk.Alike lines lines' (LeaveSame lines lines' more more') v v') :
    Walk.Alike lines lines'
      (LeaveSame lines lines' ((index, kind) :: (ls ++ more)) ((index', kind') :: (ls' ++ more')))
      (do
        let hidden ← w
        let later ← v
        return index :: (hidden ++ later))
      (do
        let hidden ← w'
        let later ← v'
        return index' :: (hidden ++ later)) := by
  refine h.bind fun hidden hidden' left => ?_
  refine hv.bind fun later later' behind => ?_
  exact Walk.alike_pure ((left.append behind).hide index index' kind kind')

/-- Trees are alike if their parts are. -/
theorem alike_mk (placeless : evaluate.Placeless) {index index' : Nat} {condition : String}
    {body body' : Body} {rest rest' : Chain} (hb : body.Alike evaluate lines lines' body')
    (hr : rest.Alike evaluate lines lines' rest') :
    Tree.Alike evaluate lines lines' (.mk index condition body rest)
      (.mk index' condition body' rest') := by
  intro live
  simp only [Tree.run, Tree.lines]
  refine (alike_selects placeless live false index index' _).bind ?_
  rintro chosen _ rfl
  exact alike_hide_append (hb chosen) (hr live chosen)

/-- Closing lines are alike. -/
theorem alike_closing (index index' : Nat) :
    Chain.Alike evaluate lines lines' (.closing index) (.closing index') := by
  intro live selected
  simp only [Chain.run, Chain.lines]
  exact Walk.alike_pure (LeaveSame.nil.hide index index' _ _)

/-- Branches are alike if their parts are. -/
theorem alike_branch (placeless : evaluate.Placeless) {index index' : Nat}
    {condition : Option String} {body body' : Body} {rest rest' : Chain}
    (hb : body.Alike evaluate lines lines' body') (hr : rest.Alike evaluate lines lines' rest') :
    Chain.Alike evaluate lines lines' (.branch index condition body rest)
      (.branch index' condition body' rest') := by
  intro live selected
  simp only [Chain.run]
  refine (alike_selects placeless live selected index index' condition).bind ?_
  rintro chosen _ rfl
  cases condition <;> exact alike_hide_append (hb chosen) (hr live (selected || chosen))

/-- The ends of branches are alike. -/
theorem alike_empty : Body.Alike evaluate lines lines' .empty .empty := by
  intro shown
  simp only [Body.run, Body.lines]
  exact Walk.alike_pure .nil

/-- Ordinary lines are alike if they have the same text. -/
theorem alike_content {index index' : Nat} {rest rest' : Body}
    (same : lines.getD index "" = lines'.getD index' "")
    (hr : rest.Alike evaluate lines lines' rest') :
    Body.Alike evaluate lines lines' (.content index rest) (.content index' rest') := by
  intro shown
  simp only [Body.run, Body.lines]
  cases shown with
  | true =>
    have noted : Event.note lines (.included index) = Event.note lines' (.included index') :=
      congrArg Note.kept same
    refine (Walk.alike_emit noted).bind fun _ _ _ => ?_
    exact (hr true).imp fun hidden hidden' left => left.keep same
  | false =>
    refine (hr false).bind fun hidden hidden' left => ?_
    exact Walk.alike_pure (left.hide index index' none none)

/-- Behind a directive that is hidden in both versions, bodies are alike if what is left of them is. -/
theorem alike_hide {index index' : Nat} {kind kind' : Option Directive.Kind} {rest rest' : Body}
    (hr : rest.Alike evaluate lines lines' rest') (shown : Bool) :
    Walk.Alike lines lines'
      (LeaveSame lines lines' ((index, kind) :: rest.lines) ((index', kind') :: rest'.lines))
      (do
        let hidden ← rest.run evaluate shown
        return index :: hidden)
      (do
        let hidden ← rest'.run evaluate shown
        return index' :: hidden) := by
  refine (hr shown).bind fun hidden hidden' left => ?_
  exact Walk.alike_pure (left.hide index index' kind kind')

/-- Warnings are alike if they have the same message. -/
theorem alike_warning {index index' : Nat} {given given' : Diagnostic} {rest rest' : Body}
    (same : given.message = given'.message) (hr : rest.Alike evaluate lines lines' rest') :
    Body.Alike evaluate lines lines' (.warning index given rest) (.warning index' given' rest') := by
  intro shown
  simp only [Body.run, Body.lines]
  cases shown with
  | true =>
    have noted : Event.note lines (.warned given) = Event.note lines' (.warned given') :=
      congrArg Note.warned same
    exact (Walk.alike_emit noted).bind fun _ _ _ => alike_hide hr true
  | false => exact alike_hide hr false

/-- Error directives are alike if they have the same message. -/
theorem alike_error {index index' : Nat} {message : String} {rest rest' : Body}
    (hr : rest.Alike evaluate lines lines' rest') :
    Body.Alike evaluate lines lines' (.error index message rest) (.error index' message rest') := by
  intro shown
  simp only [Body.run, Body.lines]
  cases shown with
  | true =>
    have rejected : Walk.Alike lines lines' (fun _ _ : Unit => True)
        (throw (refused message index) : Walk σ Unit) (throw (refused message index')) :=
      Walk.alike_throw rfl
    exact rejected.bind fun _ _ _ => alike_hide hr true
  | false => exact alike_hide hr false

/-- Nested blocks are alike if their trees are. -/
theorem alike_block {inner inner' : Tree} {rest rest' : Body}
    (hi : inner.Alike evaluate lines lines' inner') (hr : rest.Alike evaluate lines lines' rest') :
    Body.Alike evaluate lines lines' (.block inner rest) (.block inner' rest') := by
  intro shown
  simp only [Body.run, Body.lines]
  refine (hi shown).bind fun block block' inside => ?_
  refine (hr shown).bind fun hidden hidden' left => ?_
  exact Walk.alike_pure (inside.append left)

/-! ## Outlines -/

variable (evaluate lines lines') in
/-- **Remainders that are alike** in their bodies and in their chains. -/
structure Remainder.Alike (r r' : Remainder) : Prop where
  body : r.body.Alike evaluate lines lines' r'.body
  rest : r.rest.Alike evaluate lines lines' r'.rest

variable {directive? : String → Option Directive} {r r' inner inner' : Remainder}

/-- Remainders stay alike with one more line in front of both. -/
theorem Remainder.Alike.extend (placeless : evaluate.Placeless)
    (h : r.Alike evaluate lines lines' r') {line : String} {index index' : Nat}
    (same : lines.getD index "" = lines'.getD index' "") :
    Remainder.Alike evaluate lines lines' (r.extend directive? index line)
      (r'.extend directive? index' line) := by
  unfold Remainder.extend
  cases directive? line with
  | none => exact ⟨alike_content same h.body, h.rest⟩
  | some d =>
    dsimp only
    cases d.kind with
    | elseIf => exact ⟨alike_empty, alike_branch placeless h.body h.rest⟩
    | otherwise => exact ⟨alike_empty, alike_branch placeless h.body h.rest⟩
    | warning => exact ⟨alike_warning rfl h.body, h.rest⟩
    | error => exact ⟨alike_error h.body, h.rest⟩
    | opening => exact h
    | closing => exact h

/-- A nested block in front of both remainders leaves them alike. -/
theorem Remainder.Alike.block (placeless : evaluate.Placeless)
    (hi : inner.Alike evaluate lines lines' inner') (h : r.Alike evaluate lines lines' r')
    (index index' : Nat) (condition : String) :
    Remainder.Alike evaluate lines lines'
      ⟨.block (.mk index condition inner.body inner.rest) r.body, r.rest⟩
      ⟨.block (.mk index' condition inner'.body inner'.rest) r'.body, r'.rest⟩ :=
  ⟨alike_block (alike_mk placeless hi.body hi.rest) h.body, h.rest⟩

end Run

end Block

end LineGate
