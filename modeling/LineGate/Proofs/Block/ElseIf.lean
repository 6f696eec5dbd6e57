import LineGate.Proofs.Block.Outline

/-! # Else-if as a nested block

An else-if branch can be written as an else branch that holds a block of its own: the branches behind
it move into that block, which needs an end of its own (`Block.nestElseIf`). The branch machine treats
the two quite differently, one with a frame that is reused, the other with a frame on top. Here they
are compared as trees.

Behind the branch, and in front of it, both versions have the same lines. So the outlines of both are
alike from the last line of the chain on (`Block.follows_behind`), then from the branch on, where two
branches have to be compared (`Block.alike_elseIf`, `Block.follows_branch`), and so from every line in
front of it on (`Block.follows_outline`). -/

namespace LineGate

variable {σ : Type}

namespace Evaluator

/-- The evaluator that **keeps a record** of the conditions it is asked for. -/
def recorded (evaluate : Evaluator σ) : Evaluator (σ × List String) :=
  fun condition line state =>
    let answer := evaluate condition line state.1
    (answer.1, (answer.2, state.2 ++ [condition]))

/-- Keeping a record does not bring the line in. -/
theorem Placeless.recorded {evaluate : Evaluator σ} (placeless : evaluate.Placeless) :
    evaluate.recorded.Placeless := by
  intro condition line line' state
  obtain ⟨result, next⟩ := placeless condition line line' state.1
  exact ⟨result, congrArg (fun s => (s, state.2 ++ [condition])) next⟩

end Evaluator

namespace Block

/-! ## The two versions -/

/-- **Nest an else-if**: line `i` becomes an else line with an opening line behind it, and one more
closing line comes in front of line `e`. -/
def nestElseIf (lines : List String) (i e : Nat) (otherwise opening closing : String) :
    List String :=
  lines.take i ++ otherwise :: opening :: ((lines.take e).drop (i + 1) ++ closing :: lines.drop e)

variable (directive? : String → Option Directive)

/-- **Else-if lines**: line `i` is an else-if with the given condition, and it belongs to the chain of
the block that starts at line `o` and ends at line `e`, not to one inside of that block. -/
structure ElseIfAt (lines : List String) (o i e : Nat) (condition : String) : Prop where
  opening : lines[o]?.any (opens directive?) = true
  ends : EndsAt directive? lines o e
  behind : o < i
  before : i < e
  direct : depth directive? lines o i = 1
  directive : (lines[i]?.bind directive?).map (·.gist) = some (.elseIf, condition)

/-- **Lines that stand in** for an else-if with the given condition. -/
structure StandIn (condition otherwise opening closing : String) : Prop where
  otherwise : (directive? otherwise).map (·.kind) = some .otherwise
  opening : (directive? opening).map (·.gist) = some (.opening, condition)
  closing : closes directive? closing = true

/-- **The texts that a parsed block keeps**: those of its lines that are not hidden, in order. -/
def keptLines (lines : List String) (start : Nat) (block : Block) : List String :=
  ((List.range' start (block.stop + 1 - start)).filter fun i => i ∉ block.hidden).map
    fun i => lines.getD i ""

/-- **Outcomes that mean the same**: both versions are parsed, with the same texts kept, or both are
rejected, with the same kind and message; on the way the same lines are kept, the same conditions
decided and the same warnings given, in the same order. -/
inductive MeanSame (lines lines' : List String) (start : Nat) :
    Except Failure Block × Progress σ → Except Failure Block × Progress σ → Prop where
  | parsed {block block' : Block} {p p' : Progress σ} :
      keptLines lines start block = keptLines lines' start block' → p.Alike lines lines' p' →
      MeanSame lines lines' start (.ok block, p) (.ok block', p')
  | rejected {r r' : Rejection} {p p' : Progress σ} :
      r.gist = r'.gist → p.Alike lines lines' p' →
      MeanSame lines lines' start (.error (.rejected r), p) (.error (.rejected r'), p')

/-- **The conditions that parsing a block asks for**, in order; one that is rejected is the last. -/
def asked (evaluate : Evaluator σ) (lines : List String) (start : Nat) (ignore : Bool) (state : σ) :
    List String :=
  (parse directive? evaluate.recorded lines start ignore (state, [])).2.state.2

variable {directive?}

/-- The state of the evaluator is the same behind both. -/
theorem MeanSame.state_eq {lines lines' : List String} {start : Nat}
    {result result' : Except Failure Block × Progress σ}
    (h : MeanSame lines lines' start result result') : result.2.state = result'.2.state := by
  cases h with
  | parsed _ alike => exact alike.state
  | rejected _ alike => exact alike.state

/-! ## The branch that is nested -/

/-- **An else-if branch does what an else branch does** that holds a block of the same branches. -/
theorem alike_elseIf {evaluate : Evaluator σ} {lines lines' : List String}
    (placeless : evaluate.Placeless) {r r' : Remainder}
    (h : r.Alike evaluate lines lines' r') (i i' j stop : Nat) (condition : String) :
    Chain.Alike evaluate lines lines' (.branch i (some condition) r.body r.rest)
      (.branch i' none (.block (.mk j condition r'.body r'.rest) .empty) (.closing stop)) := by
  intro live selected
  -- If the branch cannot be selected, all the lines are hidden in both versions.
  cases live with
  | false =>
    rw [Chain.run_false, Chain.run_false]
    exact Walk.alike_pure (LeaveSame.all _ _)
  | true =>
    cases selected with
    | true =>
      rw [Chain.run_selected, Chain.run_selected]
      exact Walk.alike_pure (LeaveSame.all _ _)
    | false =>
      simp only [Chain.run, Body.run, Tree.run, Chain.lines, Body.lines, Tree.lines, selects,
        Bool.not_false, Bool.and_true, Bool.false_or, if_true, bind_assoc, pure_bind]
      -- The else branch is taken, so its block asks for the condition of the else-if.
      refine (Walk.alike_ask placeless condition i j).bind ?_
      rintro chosen _ rfl
      refine (h.body chosen).bind fun hidden hidden' left => ?_
      refine (h.rest true chosen).bind fun later later' behind => ?_
      refine Walk.alike_pure ?_
      have inside := (left.append behind).hide_right j (some .opening)
      have closed := inside.append (LeaveSame.nil.hide_right stop (some .closing))
      simpa using closed.hide i i' (some .elseIf) (some .otherwise)

/-! ## The outlines of both versions -/

section Outlines

variable {evaluate : Evaluator σ} {lines : List String} {o i e : Nat}
variable {condition otherwise opening closing : String}

/-- Lines from one place on are those up to another place and those from there on. -/
theorem drop_eq_append {p q : Nat} (le : p ≤ q) (fits : q ≤ lines.length) :
    lines.drop p = (lines.take q).drop p ++ lines.drop q := by
  have split := List.take_append_drop q lines
  rw [← List.drop_append_of_le_length (by rwa [List.length_take_of_le fits]), split]

/-- The text of an else-if line. -/
theorem ElseIfAt.exists_text (at_i : ElseIfAt directive? lines o i e condition) :
    ∃ text, lines[i]? = some text ∧
      (directive? text).map (·.gist) = some (.elseIf, condition) := by
  have directive := at_i.directive
  cases at_text : lines[i]? with
  | none =>
    rw [at_text] at directive
    cases directive
  | some text =>
    rw [at_text] at directive
    exact ⟨text, rfl, directive⟩

/-- The lines of the branches that move open and close blocks in balance. -/
theorem ElseIfAt.balanced (at_i : ElseIfAt directive? lines o i e condition) :
    balance directive? ((lines.take e).drop (i + 1)) = 0 ∧
      ∀ n, balance directive? (((lines.take e).drop (i + 1)).drop n) ≤ 0 := by
  obtain ⟨line, at_o, ho⟩ := (Option.any_eq_true _ _).mp at_i.opening
  have behind := Nat.le_of_lt at_i.behind
  constructor
  · rw [at_i.ends.balance_drop at_o ho behind at_i.before, at_i.direct]
    rfl
  · intro n
    rw [List.drop_drop, Nat.add_right_comm]
    rcases Nat.lt_or_ge (i + n) e with lt | ge
    · have le := Nat.le_trans behind (Nat.le_add_right i n)
      have inside := at_i.ends.one_le_depth at_o ho le lt
      rw [at_i.ends.balance_drop at_o ho le lt]
      omega
    · have none : ((lines.take e).drop (i + n + 1)) = [] :=
        List.drop_eq_nil_of_le (by rw [List.length_take]; omega)
      exact Int.le_of_eq (none ▸ balance_nil directive?)

/-- Where the ends of blocks **move**: before line `i` they stay, and from line `e` on they come two
lines later. -/
def Moved (i e stop stop' : Nat) : Prop := stop < i ∧ stop' = stop ∨ e ≤ stop ∧ stop' = stop + 2

/-- The nested version from a line on that is not behind the branch. -/
theorem drop_nestElseIf (fits : i ≤ lines.length) {p : Nat} (le : p ≤ i) :
    (nestElseIf lines i e otherwise opening closing).drop p =
      (lines.take i).drop p ++
        otherwise :: opening :: ((lines.take e).drop (i + 1) ++ closing :: lines.drop e) :=
  List.drop_append_of_le_length (by rwa [List.length_take_of_le fits])

/-- The nested version behind its new opening line. -/
theorem drop_nestElseIf_inside (fits : i ≤ lines.length) :
    (nestElseIf lines i e otherwise opening closing).drop (i + 2) =
      (lines.take e).drop (i + 1) ++ closing :: lines.drop e := by
  have first : (lines.take i).drop i = [] := List.drop_eq_nil_of_le (List.length_take_le i lines)
  rw [← List.drop_drop, drop_nestElseIf fits (Nat.le_refl i), first]
  rfl

/-- The nested version from the last line of the chain on. -/
theorem drop_nestElseIf_behind (before : i < e) (fits : e ≤ lines.length) :
    (nestElseIf lines i e otherwise opening closing).drop (e + 2) = lines.drop e := by
  have count : ((lines.take e).drop (i + 1)).length = e - (i + 1) := by
    rw [List.length_drop, List.length_take_of_le fits]
  rw [show e + 2 = i + 2 + (e - (i + 1) + 1) by omega, ← List.drop_drop,
    drop_nestElseIf_inside (Nat.le_trans (Nat.le_of_lt before) fits), ← List.drop_drop,
    List.drop_left' count]
  rfl

/-- From the last line of the chain on, both versions have the same lines. -/
theorem follows_behind (placeless : evaluate.Placeless) (before : i < e) (fits : e ≤ lines.length) :
    List.Forall₂
      (Remainder.Follows evaluate lines (nestElseIf lines i e otherwise opening closing) (Moved i e))
      (outline directive? e (lines.drop e)) (outline directive? (e + 2) (lines.drop e)) := by
  rw [outline_eq_lay, outline_eq_lay]
  have rest : lines.drop e ++ [] =
      (nestElseIf lines i e otherwise opening closing).drop (e + 2) := by
    rw [drop_nestElseIf_behind before fits, List.append_nil]
  refine follows_lay placeless (List.prefix_refl _) ⟨[], rest⟩ ?_ .nil
  intro n _
  exact .inr ⟨Nat.le_add_right e n, Nat.add_right_comm e 2 n⟩

/-- The outline from the branch on. -/
theorem outline_branch {text : String} (at_text : lines[i]? = some text) (before : i < e)
    (fits : e ≤ lines.length) :
    outline directive? i (lines.drop i) =
      layLine directive? i text
        (lay directive? (i + 1) ((lines.take e).drop (i + 1))
          (outline directive? e (lines.drop e))) := by
  have count : i + 1 + ((lines.take e).drop (i + 1)).length = e := by
    rw [List.length_drop, List.length_take_of_le fits, Nat.add_sub_cancel' before]
  rw [drop_eq_cons at_text, drop_eq_append before fits, outline_cons, outline_append_eq_lay, count]

/-- The outline of the nested version from there on. -/
theorem outline_nestElseIf (before : i < e) (fits : e ≤ lines.length) :
    outline directive? i ((nestElseIf lines i e otherwise opening closing).drop i) =
      layLine directive? i otherwise
        (layLine directive? (i + 1) opening
          (lay directive? (i + 2) ((lines.take e).drop (i + 1))
            (layLine directive? (e + 1) closing (outline directive? (e + 2) (lines.drop e))))) := by
  have count : i + 2 + ((lines.take e).drop (i + 1)).length = e + 1 := by
    rw [List.length_drop, List.length_take_of_le fits]
    omega
  have fits_i := Nat.le_trans (Nat.le_of_lt before) fits
  rw [drop_nestElseIf fits_i (Nat.le_refl i),
    List.drop_eq_nil_of_le (List.length_take_le i lines), List.nil_append, outline_cons,
    outline_cons, outline_append_eq_lay, outline_cons, count]

/-- The branches that move are alike in both versions. -/
theorem alike_inside (placeless : evaluate.Placeless) (before : i < e) (fits : e ≤ lines.length)
    {r r' : Remainder}
    (laid : lay directive? (i + 1) ((lines.take e).drop (i + 1)) [⟨.empty, .closing e⟩] = [r])
    (laid' : lay directive? (i + 2) ((lines.take e).drop (i + 1)) [⟨.empty, .closing (e + 1)⟩] =
      [r']) :
    r.Alike evaluate lines (nestElseIf lines i e otherwise opening closing) r' := by
  have closed : Remainder.Follows evaluate lines (nestElseIf lines i e otherwise opening closing)
      (fun _ _ => True) ⟨.empty, .closing e⟩ ⟨.empty, .closing (e + 1)⟩ :=
    ⟨⟨alike_empty, alike_closing e (e + 1)⟩, trivial⟩
  have both : List.Forall₂ (Remainder.Follows evaluate lines
      (nestElseIf lines i e otherwise opening closing) fun _ _ => True) [r] [r'] := by
    rw [← laid, ← laid']
    exact follows_lay placeless ⟨_, (drop_eq_append before fits).symm⟩
      ⟨_, (drop_nestElseIf_inside (Nat.le_trans (Nat.le_of_lt before) fits)).symm⟩
      (fun _ _ => trivial) (.cons closed .nil)
  cases both with
  | cons first _ => exact first.alike

/-- **From the branch on** the outlines of both versions are alike. -/
theorem follows_branch (placeless : evaluate.Placeless)
    (at_i : ElseIfAt directive? lines o i e condition)
    (inner : StandIn directive? condition otherwise opening closing) :
    List.Forall₂
      (Remainder.Follows evaluate lines (nestElseIf lines i e otherwise opening closing) (Moved i e))
      (outline directive? i (lines.drop i))
      (outline directive? i ((nestElseIf lines i e otherwise opening closing).drop i)) := by
  obtain ⟨line, at_o, ho⟩ := (Option.any_eq_true _ _).mp at_i.opening
  obtain ⟨-, last, -, -, -, at_e, hc⟩ := at_i.ends.exists_last at_o ho
  obtain ⟨text, at_text, directive⟩ := at_i.exists_text
  obtain ⟨zero, small⟩ := at_i.balanced
  have before := at_i.before
  have fits := Nat.le_of_lt at_i.ends.lt_length
  -- Both outlines of the lines behind start with the last line of the chain.
  have behind : List.Forall₂ (Remainder.Follows evaluate lines
      (nestElseIf lines i e otherwise opening closing) (Moved i e))
      (outline directive? e (lines.drop e)) (outline directive? (e + 2) (lines.drop e)) :=
    follows_behind placeless before fits
  rw [outline_branch at_text before fits, outline_nestElseIf before fits]
  rw [drop_eq_cons at_e, outline_cons, outline_cons, layLine_closing hc, layLine_closing hc]
    at behind ⊢
  cases behind with
  | cons _ later =>
    -- The branches that move are one remainder, in front of that last line or of the new one.
    obtain ⟨r, stop, laid⟩ := exists_lay_single small zero (i + 1) ⟨.empty, .closing e⟩
    obtain ⟨r', -, laid'⟩ := exists_lay_single small zero (i + 2) ⟨.empty, .closing (e + 1)⟩
    have alike : r.Alike evaluate lines (nestElseIf lines i e otherwise opening closing) r' :=
      alike_inside placeless before fits (laid []) (laid' [])
    rw [layLine_closing inner.closing, laid, laid', layLine_elseIf directive,
      layLine_opening inner.opening, layLine_otherwise inner.otherwise]
    refine .cons ⟨⟨alike_empty, alike_elseIf placeless alike i i (i + 1) (e + 2) condition⟩, ?_⟩ later
    exact .inr ⟨Nat.le_of_eq stop.symm, congrArg (· + 2) stop.symm⟩

/-- **The outlines of both versions** are alike, from any line on that is not behind the branch. -/
theorem follows_outline (placeless : evaluate.Placeless)
    (at_i : ElseIfAt directive? lines o i e condition)
    (inner : StandIn directive? condition otherwise opening closing) {p : Nat} (le : p ≤ i) :
    List.Forall₂
      (Remainder.Follows evaluate lines (nestElseIf lines i e otherwise opening closing) (Moved i e))
      (outline directive? p (lines.drop p))
      (outline directive? p ((nestElseIf lines i e otherwise opening closing).drop p)) := by
  have fits : i ≤ lines.length := Nat.le_of_lt (Nat.lt_trans at_i.before at_i.ends.lt_length)
  have count : p + ((lines.take i).drop p).length = i := by
    rw [List.length_drop, List.length_take_of_le fits, Nat.add_sub_cancel' le]
  have later := follows_branch placeless at_i inner
  have before : lines.drop p = (lines.take i).drop p ++ lines.drop i := drop_eq_append le fits
  have before' : (nestElseIf lines i e otherwise opening closing).drop p = (lines.take i).drop p ++
      (nestElseIf lines i e otherwise opening closing).drop i := by
    rw [drop_nestElseIf fits le, drop_nestElseIf fits (Nat.le_refl i),
      List.drop_eq_nil_of_le (List.length_take_le i lines), List.nil_append]
  rw [before, before', outline_append_eq_lay, outline_append_eq_lay, count]
  refine follows_lay placeless ⟨_, before.symm⟩ ⟨_, before'.symm⟩ ?_ later
  intro n lt
  exact .inl ⟨by omega, rfl⟩

end Outlines

/-! ## Both versions as a whole -/

section Versions

variable {evaluate : Evaluator σ} {lines lines' : List String} {line : String} {start stop stop' : Nat}

/-- Trees are alike if the outlines behind their opening line start with remainders that are. -/
theorem alike_of_follows (placeless : evaluate.Placeless) {moved : Nat → Nat → Prop}
    (at_start : lines[start]? = some line) (at_start' : lines'[start]? = some line)
    (ho : opens directive? line = true)
    (h : List.Forall₂ (Remainder.Follows evaluate lines lines' moved)
      (outline directive? (start + 1) (lines.drop (start + 1)))
      (outline directive? (start + 1) (lines'.drop (start + 1))))
    (ends : EndsAt directive? lines start stop) :
    ∃ stop', moved stop stop' ∧ EndsAt directive? lines' start stop' ∧
      ∀ tree tree', Tree.read directive? start (lines.drop start) = some tree →
        Tree.read directive? start (lines'.drop start) = some tree' →
        tree.Alike evaluate lines lines' tree' := by
  rw [endsAt_iff_closings directive? stop at_start ho, ← map_stop_outline] at ends
  rw [drop_eq_cons at_start, drop_eq_cons at_start']
  simp only [Tree.read, if_pos ho, endsAt_iff_closings directive? _ at_start' ho,
    ← map_stop_outline]
  generalize outline directive? (start + 1) (lines.drop (start + 1)) = rs at h ends ⊢
  generalize outline directive? (start + 1) (lines'.drop (start + 1)) = rs' at h ⊢
  cases h with
  | nil => cases ends
  | @cons r r' _ _ first _ =>
    cases ends
    refine ⟨r'.stop, first.stop, rfl, ?_⟩
    intro tree tree' read read'
    cases read
    cases read'
    exact alike_mk placeless first.alike.body first.alike.rest

/-- What hidden lines leave of the lines of a block are the texts that the block keeps. -/
theorem Leaves.keptLines_eq {hidden : List Nat} {kept : List String}
    (ends : EndsAt directive? lines start stop)
    (h : Leaves lines
      (kindsFrom directive? start ((lines.drop start).take (stop + 1 - start))) hidden kept) :
    keptLines lines start ⟨stop, hidden⟩ = kept := by
  have texts := h.eq_filter (by
    rw [ends.map_fst_kindsFrom]
    exact List.nodup_range')
  rw [ends.map_fst_kindsFrom] at texts
  exact texts.symm

/-- **Blocks with trees that are alike mean the same.** -/
theorem meanSame_of_alike (at_start : lines[start]? = some line)
    (at_start' : lines'[start]? = some line) (ho : opens directive? line = true)
    (ends : EndsAt directive? lines start stop) (ends' : EndsAt directive? lines' start stop')
    (h : ∀ tree tree', Tree.read directive? start (lines.drop start) = some tree →
      Tree.read directive? start (lines'.drop start) = some tree' →
      tree.Alike evaluate lines lines' tree') (ignore : Bool) (state : σ) :
    MeanSame lines lines' start (parse directive? evaluate lines start ignore state)
      (parse directive? evaluate lines' start ignore state) := by
  obtain ⟨tree, read, rfl, spelled, runs⟩ := exists_tree directive? at_start ho ends
  obtain ⟨tree', read', rfl, spelled', runs'⟩ := exists_tree directive? at_start' ho ends'
  have walks : Walk.Alike lines lines'
      (fun block block' => keptLines lines start block = keptLines lines' start block')
      (run directive? evaluate (lines.drop start) (Machine.start start ignore))
      (run directive? evaluate (lines'.drop start) (Machine.start start ignore)) := by
    rw [runs, runs']
    refine (h tree tree' read read' (!ignore)).bind ?_
    rintro hidden hidden' ⟨kept, left, left'⟩
    rw [spelled] at left
    rw [spelled'] at left'
    exact Walk.alike_pure ((left.keptLines_eq ends).trans (left'.keptLines_eq ends').symm)
  have walked := walks { state } { state } ⟨rfl, rfl⟩
  rw [parse_of_opens directive? evaluate at_start ho,
    parse_of_opens directive? evaluate at_start' ho]
  generalize (run directive? evaluate (lines.drop start) (Machine.start start ignore)).run
    { state } = result at walked ⊢
  generalize (run directive? evaluate (lines'.drop start) (Machine.start start ignore)).run
    { state } = result' at walked ⊢
  cases walked with
  | returned same alike => exact .parsed same alike
  | rejected same alike => exact .rejected same alike

variable {o i e : Nat} {condition otherwise opening closing : String}

/-- The lines in front of the branch stay where they are. -/
theorem getElem?_nestElseIf (fits : i ≤ lines.length) (lt : start < i) :
    (nestElseIf lines i e otherwise opening closing)[start]? = lines[start]? := by
  rw [nestElseIf, List.getElem?_append_left (by rwa [List.length_take_of_le fits]),
    List.getElem?_take_of_lt lt]

/-- **An else-if can be nested**: in a block that has an end, any else-if line of any chain, the one of
the block itself or of a block inside of it, can be replaced by an else line and an opening line with
its condition, with one more closing line in front of the one that ends the chain.

The block then ends two lines later. Whatever the evaluator does with the conditions, if only it does
not look at their line, both versions ask for the same conditions in the same order, give the same
warnings and keep the same lines, and both are parsed or both are rejected for the same reason. The
evaluator of conditions is such a one in every environment (`Condition.evaluator_placeless`). -/
theorem parse_nestElseIf (first : lines[start]?.any (opens directive?) = true)
    (ends : EndsAt directive? lines start stop) (start_le : start ≤ o) (le_stop : e ≤ stop)
    (at_i : ElseIfAt directive? lines o i e condition)
    (inner : StandIn directive? condition otherwise opening closing) :
    EndsAt directive? (nestElseIf lines i e otherwise opening closing) start (stop + 2) ∧
      ∀ {σ : Type} (evaluate : Evaluator σ), evaluate.Placeless → ∀ (ignore : Bool) (state : σ),
        MeanSame lines (nestElseIf lines i e otherwise opening closing) start
          (parse directive? evaluate lines start ignore state)
          (parse directive? evaluate (nestElseIf lines i e otherwise opening closing) start ignore
            state) ∧
        asked directive? evaluate lines start ignore state =
          asked directive? evaluate (nestElseIf lines i e otherwise opening closing) start ignore
            state := by
  obtain ⟨line, at_start, ho⟩ := (Option.any_eq_true _ _).mp first
  have lt : start < i := Nat.lt_of_le_of_lt start_le at_i.behind
  have fits : i ≤ lines.length := Nat.le_of_lt (Nat.lt_trans at_i.before at_i.ends.lt_length)
  have at_start' : (nestElseIf lines i e otherwise opening closing)[start]? = some line := by
    rw [getElem?_nestElseIf fits lt, at_start]
  -- The end is a matter of the lines alone; the trees are alike whatever the evaluator.
  have versions {σ : Type} {evaluate : Evaluator σ} (placeless : evaluate.Placeless) :
      EndsAt directive? (nestElseIf lines i e otherwise opening closing) start (stop + 2) ∧
        ∀ tree tree', Tree.read directive? start (lines.drop start) = some tree →
          Tree.read directive? start
              ((nestElseIf lines i e otherwise opening closing).drop start) = some tree' →
            tree.Alike evaluate lines (nestElseIf lines i e otherwise opening closing) tree' := by
    obtain ⟨stop', moved, ends', alike⟩ := alike_of_follows placeless at_start at_start' ho
      (follows_outline placeless at_i inner lt) ends
    have eq : stop' = stop + 2 := by
      have := at_i.before
      rcases moved with ⟨before, -⟩ | ⟨-, eq⟩
      · omega
      · exact eq
    exact ⟨eq ▸ ends', alike⟩
  have constant : Evaluator.Placeless (fun _ _ s => (.ok true, s) : Evaluator Unit) :=
    fun _ _ _ _ => ⟨rfl, rfl⟩
  refine ⟨(versions constant).1, ?_⟩
  intro σ evaluate placeless ignore state
  obtain ⟨ends', alike⟩ := versions placeless
  have recorded := (versions placeless.recorded).2
  refine ⟨meanSame_of_alike at_start at_start' ho ends ends' alike ignore state, ?_⟩
  have same := meanSame_of_alike at_start at_start' ho ends ends' recorded ignore (state, [])
  exact congrArg Prod.snd same.state_eq

end Versions

/-- Directives with conditions, written as bare words. -/
def worded? (line : String) : Option Directive :=
  ([("if A", .opening, "A"), ("if B", .opening, "B"), ("elif C", .elseIf, "C"),
      ("if C", .opening, "C"), ("else", .otherwise, ""), ("endif", .closing, "")].lookup line).map
    fun (kind, expression) => { word := line, kind, expression }

/-- A block with a chain of three branches in it. -/
def chainLines : List String :=
  ["if A", "a", "if B", "b", "elif C", "c", "else", "d", "endif", "endif"]

/-- The same block with the second branch nested. -/
def nestedLines : List String :=
  ["if A", "a", "if B", "b", "else", "if C", "c", "else", "d", "endif", "endif", "endif"]

/-- Both blocks mean the same in every environment. In the one at hand the second of three conditions is
false, and all three are asked for in either block. -/
theorem parse_nestElseIf_inside :
    nestElseIf chainLines 4 8 "else" "if C" "endif" = nestedLines ∧
      EndsAt worded? nestedLines 0 11 ∧
      (∀ (fns : Functions Unit) (env : Environment) (state : Unit),
        MeanSame chainLines nestedLines 0
          (parse worded? (Condition.evaluator fns env) chainLines 0 false state)
          (parse worded? (Condition.evaluator fns env) nestedLines 0 false state)) ∧
      asked worded? (Condition.evaluator ⟨fun _ _ state => (.ok .null, state)⟩
        [("A", .bool true), ("B", .bool false), ("C", .bool true)]) nestedLines 0 false () =
          ["A", "B", "C"] := by
  have ends : EndsAt worded? chainLines 0 9 := by decide
  have at_i : ElseIfAt worded? chainLines 2 4 8 "C" :=
    ⟨by decide, by decide, by decide, by decide, by decide, by decide⟩
  have inner : StandIn worded? "C" "else" "if C" "endif" := ⟨by decide, by decide, by decide⟩
  have before : asked worded? (Condition.evaluator ⟨fun _ _ state => (.ok .null, state)⟩
      [("A", .bool true), ("B", .bool false), ("C", .bool true)]) chainLines 0 false () =
        ["A", "B", "C"] := by
    have at_start : chainLines[0]? = some "if A" := rfl
    have opens_first : opens worded? "if A" = true := by decide
    -- The walk through the block is the one through its tree, which can be computed.
    obtain ⟨tree, read, -, -, runs⟩ := exists_tree worded? at_start opens_first ends
    have told : (Tree.read worded? 0 chainLines).map (fun tree =>
        ((tree.run (Condition.evaluator ⟨fun _ _ state => (.ok .null, state)⟩
          [("A", .bool true), ("B", .bool false), ("C", .bool true)]).recorded true).run
            { state := ((), []) }).2.state.2) = some ["A", "B", "C"] := by
      decide +kernel
    rw [show Tree.read worded? 0 chainLines = some tree from read, Option.map_some,
      Option.some.injEq] at told
    rw [asked, parse_of_opens worded? _ at_start opens_first, runs, Walk.run_bind, Bool.not_false]
    rcases walked : (tree.run _ true).run { state := ((), []) } with ⟨_ | hidden, progress⟩ <;>
      rw [walked] at told <;> exact told
  obtain ⟨ends', nested⟩ := parse_nestElseIf (by decide) ends (by decide) (by decide) at_i inner
  refine ⟨rfl, ends', fun fns env state => ?_, ?_⟩
  · exact (nested _ (Condition.evaluator_placeless fns env) false state).1
  · exact ((nested _ (Condition.evaluator_placeless _ _) false ()).2.symm.trans before)

end Block

end LineGate
