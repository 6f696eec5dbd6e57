import LineGate.Proofs.Directive.Standard
import LineGate.Proofs.Document.Concatenation

/-! # Line endings

A text with a carriage return in front of every line feed is processed as the text without them, if
directives are recognised by one of the **default patterns**. Under these a carriage return at the end
of a line belongs to the blanks behind a directive (`Standard.find?_append_blank`). So the branch
machine makes the same moves on both texts, and only what is said about a line with a warning tells
them apart (`Block.run_retells`): the line is longer by one character, and so is the directive on it.
Both styles of neutralising a line keep its carriage return (`Style.render_append_return`). -/

namespace LineGate

/-! ## Carriage returns -/

/-- Change all members of a list but the last. -/
def mapInit {α : Type} (f : α → α) : List α → List α
  | [] => []
  | a :: rest => (if rest = [] then a else f a) :: mapInit f rest

section MapInit

variable {α β : Type} (f : α → α)

/-- The number of members stays. -/
@[simp] theorem length_mapInit (as : List α) : (mapInit f as).length = as.length := by
  induction as with
  | nil => rfl
  | cons a as ih => simp [mapInit, ih]

/-- What stands at an index depends on whether it is the last one. -/
theorem getElem?_mapInit (as : List α) (i : Nat) :
    (mapInit f as)[i]? = as[i]?.map fun a => if i + 1 < as.length then f a else a := by
  induction as generalizing i with
  | nil => rfl
  | cons a as ih =>
    cases i with
    | zero => cases as <;> simp [mapInit]
    | succ i => simp [mapInit, ih]

/-- The first members can be dropped before or after the change. -/
theorem drop_mapInit (as : List α) (n : Nat) : (mapInit f as).drop n = mapInit f (as.drop n) := by
  induction as generalizing n with
  | nil => simp [mapInit]
  | cons a as ih =>
    cases n with
    | zero => rfl
    | succ n => exact ih n

/-- A change that goes along with a map. -/
theorem map_mapInit {g : α → β} (f' : β → β) (h : ∀ a, g (f a) = f' (g a)) (as : List α) :
    (mapInit f as).map g = mapInit f' (as.map g) := by
  induction as with
  | nil => rfl
  | cons a as ih =>
    simp only [mapInit, List.map_cons, List.map_eq_nil_iff, ih]
    by_cases last : as = []
    · rw [if_pos last, if_pos last]
    · rw [if_neg last, if_neg last, h]

end MapInit

/-- **Lines with carriage returns** at the end of each but the last. -/
def returned (lines : List String) : List String := mapInit (· ++ "\r") lines

/-- **The text with carriage returns**, one in front of each line feed. -/
def withReturns (text : String) : String :=
  String.ofList (text.toList.flatMap fun c => if c = '\n' then ['\r', '\n'] else [c])

/-- The parts of a text with carriage returns. -/
theorem Separated.split_withReturns (cs : List Char) :
    split '\n' (cs.flatMap fun c => if c = '\n' then ['\r', '\n'] else [c]) =
      mapInit (· ++ ['\r']) (split '\n' cs) := by
  induction cs with
  | nil => rfl
  | cons c cs ih =>
    rw [List.flatMap_cons, split_cons]
    by_cases feed : c = '\n'
    · subst feed
      have more := split_ne_nil '\n' cs
      simp only [if_true, List.cons_append, List.nil_append, split_cons, ih, prepend, mapInit,
        if_neg more]
      rfl
    · rw [if_neg feed, List.singleton_append, split_cons, ih]
      cases parts : split '\n' cs with
      | nil => exact absurd parts (split_ne_nil '\n' cs)
      | cons part rest =>
        simp only [prepend, if_neg feed, mapInit]
        split <;> rfl

/-- **The lines of the text with carriage returns** are the lines with carriage returns. -/
theorem linesOf_withReturns (text : String) :
    linesOf (withReturns text) = returned (linesOf text) := by
  have ends (cs : List Char) : String.ofList (cs ++ ['\r']) = String.ofList cs ++ "\r" := by
    rw [String.ofList_append]
  rw [linesOf, withReturns, String.toList_ofList, Separated.split_withReturns,
    map_mapInit _ (· ++ "\r") ends]
  rfl

/-! ## Rendered lines -/

/-- **A carriage return stays** at the end of a neutralised line. -/
theorem Style.render_append_return (style : Style) {line : String} (plain : '\r' ∉ line.toList) :
    style.render (line ++ "\r") = style.render line ++ "\r" := by
  cases style with
  | comment marker => exact String.append_assoc.symm
  | blank =>
    have open_end : line.toList.getLast? ≠ some '\r' := fun eq =>
      plain (List.mem_of_getLast? eq)
    have chars : (line ++ "\r").toList = line.toList ++ ['\r'] := String.toList_append
    have ends : (line.toList ++ ['\r']).getLast? = some '\r' := List.getLast?_concat
    rw [render, chars, blankLine, if_pos ends, render, blankLine, if_neg open_end,
      List.length_append, List.length_singleton, Nat.add_sub_cancel, String.ofList_append]

/-- **Lines with carriage returns are rendered with them.** -/
theorem Document.renderLines_returned (style : Style) (hidden : List Nat) {lines : List String}
    (plain : ∀ line ∈ lines, '\r' ∉ line.toList) :
    renderLines style hidden (returned lines) = returned (renderLines style hidden lines) := by
  refine List.ext_getElem? fun i => ?_
  have at_i : (returned lines)[i]? = lines[i]?.map fun line =>
      if i + 1 < lines.length then line ++ "\r" else line := getElem?_mapInit _ lines i
  rw [returned.eq_def (renderLines _ _ _), getElem?_mapInit, length_renderLines]
  cases found : lines[i]? with
  | none =>
    have beyond : lines.length ≤ i := List.getElem?_eq_none_iff.mp found
    have length : (returned lines).length = lines.length := length_mapInit _ lines
    rw [List.getElem?_eq_none (by rw [length_renderLines, length]; exact beyond),
      List.getElem?_eq_none (by rw [length_renderLines]; exact beyond)]
    rfl
  | some line =>
    rw [found, Option.map_some] at at_i
    rw [getElem?_renderLines style hidden at_i, getElem?_renderLines style hidden found,
      Option.map_some]
    have render := style.render_append_return (plain line (List.mem_of_getElem? found))
    by_cases last : i + 1 < lines.length
    · simp only [if_pos last]
      by_cases mem : i ∈ hidden
      · rw [if_pos mem, if_pos mem, render]
      · rw [if_neg mem, if_neg mem]
    · simp only [if_neg last]

/-! ## Moves -/

/-- The same move, with another directive where it gives a warning. -/
def Move.reread (f : Directive → Directive) : Move → Move
  | .warn d next => .warn (f d) next
  | move => move

/-- **A move depends on the kind of a directive and on its expression**, and on nothing else. -/
theorem Machine.move_map {f : Directive → Directive} (kind : ∀ d, (f d).kind = d.kind)
    (expression : ∀ d, (f d).expression = d.expression) (m : Machine)
    (directive : Option Directive) : m.move (directive.map f) = (m.move directive).reread f := by
  cases directive with
  | none =>
    simp only [Option.map_none, move]
    split <;> rfl
  | some d =>
    simp only [Option.map_some, move, directiveMove, kind]
    cases found : d.kind with
    | opening =>
      simp only [openMove, expression]
      split
      · rfl
      · split <;> rfl
    | closing =>
      simp only [closeMove]
      split <;> rfl
    | otherwise =>
      simp only [branchMove, kind, found]
      split <;> rfl
    | elseIf =>
      simp only [branchMove, kind, found, expression]
      split
      · rfl
      · split <;> rfl
    | warning =>
      simp only [branchMove, kind, found]
      split
      · rfl
      · split <;> rfl
    | error =>
      simp only [branchMove, kind, found, expression]
      split
      · rfl
      · split <;> rfl

/-! ## Walks -/

variable {σ : Type}

/-- **What is said about a line with a carriage return**, in a text with `count` lines: the last line
has none. -/
def Diagnostic.returned (count : Nat) (d : Diagnostic) : Diagnostic :=
  if d.line < count then
    { d with length := d.length.map (· + 1), lineText := d.lineText ++ "\r" }
  else d

/-- An event on a line with a carriage return. -/
def Event.returned (count : Nat) : Event → Event
  | .warned d => .warned (d.returned count)
  | e => e

/-- Progress through a text with carriage returns. -/
def Progress.returned (count : Nat) (p : Progress σ) : Progress σ :=
  ⟨p.state, p.events.map (·.returned count)⟩

namespace Walk

variable {α β : Type}

/-- **Walks that retell another one** through a text with carriage returns: they end in the same way,
and only the warnings differ. -/
def Retells (count : Nat) (w w' : Walk σ α) : Prop :=
  ∀ p, w'.run (p.returned count) = ((w.run p).1, (w.run p).2.returned count)

variable {count : Nat}

/-- A value that is returned. -/
theorem retells_pure (a : α) : Retells count (pure a : Walk σ α) (pure a) := fun _ => rfl

/-- A rejection. -/
theorem retells_throw (r : Rejection) : Retells count (throw r : Walk σ α) (throw r) := fun _ => rfl

/-- An event. -/
theorem retells_emit (e : Event) :
    Retells count (emit e : Walk σ Unit) (emit (e.returned count)) := by
  intro p
  rw [run_emit, run_emit]
  simp only [Progress.returned, Array.map_push]

/-- A question is asked in the same words. -/
theorem retells_ask (evaluate : Evaluator σ) (condition : String) (line : Nat) :
    Retells count (ask evaluate condition line) (ask evaluate condition line) := by
  intro p
  have same : (p.returned count).state = p.state := rfl
  rw [run_ask, run_ask, same]
  rcases evaluate condition line p.state with ⟨r | result, state⟩
  · rfl
  · simp only [Progress.returned, Array.map_push]
    rfl

/-- Walks in two parts are retold part by part, the second part for all that the first one returns. -/
theorem Retells.bind_returns {w w' : Walk σ α} {next next' : α → Walk σ β} {post : α → Prop}
    (h : Retells count w w') (returns : w.Returns post)
    (hn : ∀ a, post a → Retells count (next a) (next' a)) :
    Retells count (w >>= next) (w' >>= next') := by
  intro p
  rw [run_bind, run_bind, h p]
  rcases result : w.run p with ⟨r | a, q⟩
  · rfl
  · exact hn a (returns p a (congrArg Prod.fst result)) q

/-- Walks in two parts are retold part by part. -/
theorem Retells.bind {w w' : Walk σ α} {next next' : α → Walk σ β} (h : Retells count w w')
    (hn : ∀ a, Retells count (next a) (next' a)) : Retells count (w >>= next) (w' >>= next') :=
  h.bind_returns (fun _ _ _ => trivial : w.Returns fun _ => True) fun a _ => hn a

end Walk

section Retelling

open Block

variable {directive? : String → Option Directive} {evaluate : Evaluator σ} {lines : List String}
variable (reads : ∀ line ∈ lines, directive? (line ++ "\r") = (directive? line).map Directive.longer)
include reads

/-- **A line with a carriage return** is read as the line without it, apart from the length of its
directive; the last line is the same. -/
theorem exists_reading {index : Nat} {line : String} {rest : List String}
    (h : line :: rest = lines.drop index) :
    ∃ (line' : String) (f : Directive → Directive),
      returned (line :: rest) = line' :: returned rest ∧ directive? line' = (directive? line).map f ∧
      (∀ d, (f d).kind = d.kind) ∧ (∀ d, (f d).expression = d.expression) ∧
      ∀ d, (warning d index line).returned lines.length = warning (f d) index line' := by
  obtain ⟨at_index, tail⟩ := tail_of_drop_eq h
  by_cases last : rest = []
  · have beyond : lines.length ≤ index + 1 := List.drop_eq_nil_iff.mp (tail.symm.trans last)
    refine ⟨line, id, ?_, ?_, fun _ => rfl, fun _ => rfl, fun d => ?_⟩
    · simp only [returned, mapInit, if_pos last]
    · rw [Option.map_id, id]
    · refine if_neg fun lt => ?_
      simp only [warning] at lt
      omega
  · have within : index + 1 < lines.length := by
      by_contra beyond
      exact last (tail.trans (List.drop_eq_nil_of_le (by omega)))
    refine ⟨line ++ "\r", Directive.longer, ?_, reads line (List.mem_of_getElem? at_index),
      fun _ => rfl, fun _ => rfl, fun d => ?_⟩
    · simp only [returned, mapInit, if_neg last]
    · refine if_pos ?_
      simp only [warning]
      omega

/-- A line with a carriage return opens a block if the line without it does. -/
theorem exists_opens_eq {index : Nat} {line : String} {rest : List String}
    (h : line :: rest = lines.drop index) :
    ∃ line', returned (line :: rest) = line' :: returned rest ∧
      opens directive? line' = opens directive? line := by
  obtain ⟨line', f, lines_eq, found, kind, -, -⟩ := exists_reading reads h
  refine ⟨line', lines_eq, ?_⟩
  rw [opens, opens, found, Option.any_map]
  simp only [kind]

/-- What a walk through lines with carriage returns does follows the move at the line without. -/
theorem Block.run_cons_returned {m : Machine} {line : String} {rest : List String}
    (h : line :: rest = lines.drop m.index) :
    run directive? evaluate (returned (line :: rest)) m =
      match m.move (directive? line) with
      | .nest next => run directive? evaluate (returned (line :: rest)) next
      | .pass next => run directive? evaluate (returned rest) next
      | .keep next => do
        Walk.emit (.included m.index)
        run directive? evaluate (returned rest) next
      | .ask condition next => do
        let result ← Walk.ask evaluate condition m.index
        run directive? evaluate (returned rest) (next result)
      | .warn d next => do
        Walk.emit (.warned ((warning d m.index line).returned lines.length))
        run directive? evaluate (returned rest) next
      | .reject message => throw (refused message m.index)
      | .close block => return block := by
  obtain ⟨line', f, lines_eq, found, kind, expression, warned⟩ := exists_reading reads h
  rw [lines_eq, run_cons, found, m.move_map kind expression]
  cases m.move (directive? line) with
  | warn d next => simp only [Move.reread, warned]
  | nest | pass | keep | ask | reject | close => rfl

/-- **A walk through a block is retold** on lines with carriage returns. -/
theorem Block.run_retells (rest : List String) (m : Machine) (h : rest = lines.drop m.index) :
    Walk.Retells lines.length (run directive? evaluate rest m)
      (run directive? evaluate (returned rest) m) := by
  -- Both machines are in the same state at each line, as their moves differ in warnings only.
  fun_induction run directive? evaluate rest m with
  | case1 m =>
    rw [returned, mapInit, run_nil]
    exact Walk.retells_throw _
  | case2 line rest m next move opened ih =>
    have permits := m.permits_move (directive? line)
    rw [move] at permits
    rw [run_cons_returned reads h, move]
    exact ih (h.trans (congrArg lines.drop permits.symm))
  | case3 line rest m next move ih =>
    have permits := m.permits_move (directive? line)
    rw [move] at permits
    rw [run_cons_returned reads h, move]
    exact ih ((tail_of_drop_eq h).2.trans (congrArg lines.drop permits.symm))
  | case4 line rest m next move ih =>
    have permits := m.permits_move (directive? line)
    rw [move] at permits
    rw [run_cons_returned reads h, move]
    exact (Walk.retells_emit _).bind fun _ =>
      ih ((tail_of_drop_eq h).2.trans (congrArg lines.drop permits.2.symm))
  | case5 line rest m condition next move ih =>
    have permits := m.permits_move (directive? line)
    rw [move] at permits
    rw [run_cons_returned reads h, move]
    exact (Walk.retells_ask evaluate condition m.index).bind fun result =>
      ih result ((tail_of_drop_eq h).2.trans (congrArg lines.drop (permits.2 result).symm))
  | case6 line rest m d next move ih =>
    have permits := m.permits_move (directive? line)
    rw [move] at permits
    rw [run_cons_returned reads h, move]
    exact (Walk.retells_emit _).bind fun _ =>
      ih ((tail_of_drop_eq h).2.trans (congrArg lines.drop permits.2.2.symm))
  | case7 line rest m message move =>
    rw [run_cons_returned reads h, move]
    exact Walk.retells_throw _
  | case8 line rest m block move =>
    rw [run_cons_returned reads h, move]
    exact Walk.retells_pure _

/-- **A scan is retold** on lines with carriage returns. -/
theorem Document.scan_retells (index : Nat) (rest : List String) (h : rest = lines.drop index) :
    Walk.Retells lines.length (scan directive? evaluate index rest)
      (scan directive? evaluate index (returned rest)) := by
  fun_induction scan directive? evaluate index rest with
  | case1 index =>
    rw [returned, mapInit, scan]
    exact Walk.retells_pure _
  | case2 index line rest ho ih =>
    obtain ⟨at_index, tail⟩ := tail_of_drop_eq h
    obtain ⟨line', lines_eq, opens_eq⟩ := exists_opens_eq reads h
    have walked : Walk.Retells lines.length
        (run directive? evaluate (line :: rest) (Machine.start index false)) _ :=
      run_retells reads (line :: rest) (Machine.start index false) h
    have returns : (run directive? evaluate (line :: rest) (Machine.start index false)).Returns
        (Hides directive? lines index) := by
      rw [h]
      exact run_hides at_index ho false
    rw [lines_eq] at walked ⊢
    rw [scan, if_pos (opens_eq.trans ho)]
    refine walked.bind_returns returns fun block hides => ?_
    have le := hides.ends.start_le
    have behind : rest.drop (block.stop - index) = lines.drop (block.stop + 1) := by
      rw [tail, List.drop_drop, show index + 1 + (block.stop - index) = block.stop + 1 by omega]
    have dropped : (returned rest).drop (block.stop - index) =
        returned (rest.drop (block.stop - index)) := drop_mapInit _ rest _
    rw [dropped]
    exact (ih block behind).bind fun later => Walk.retells_pure _
  | case3 index line rest ho ih =>
    obtain ⟨line', lines_eq, opens_eq⟩ := exists_opens_eq reads h
    rw [lines_eq, scan, if_neg (opens_eq ▸ ho)]
    exact ih (tail_of_drop_eq h).2

end Retelling

/-- The warnings of a text with carriage returns. -/
theorem Document.warnings_returned (file : Option String) (count : Nat) (events : List Event) :
    warnings file (events.map (·.returned count)) =
      (warnings file events).map (·.returned count) := by
  have withFile (d : Diagnostic) :
      (d.returned count).withFile file = (d.withFile file).returned count := by
    unfold Diagnostic.returned Diagnostic.withFile
    split <;> rfl
  induction events with
  | nil => rfl
  | cons e events ih =>
    cases e with
    | included => exact ih
    | evaluated => exact ih
    | warned d => exact congrArg₂ List.cons (withFile d) ih

/-! ## Gates -/

/-- The condition that an event decides, with its line and the result. -/
def Event.evaluation? : Event → Option (String × Nat × Bool)
  | .evaluated condition line result => some (condition, line, result)
  | _ => none

/-- Carriage returns do not change what is decided. -/
theorem Event.filterMap_evaluation?_returned (count : Nat) (events : List Event) :
    (events.map (·.returned count)).filterMap evaluation? = events.filterMap evaluation? := by
  rw [List.filterMap_map]
  congr
  funext e
  cases e <;> rfl

/-- The result for a text with carriage returns, from the one for the lines without. -/
def Formatted.returned (style : Style) (lines : List String) (f : Formatted) : Formatted where
  text := textOf (LineGate.returned (Document.renderLines style f.hidden lines))
  warnings := f.warnings.map (·.returned lines.length)
  hidden := f.hidden
  lineCount := f.lineCount

namespace Gate

open Document

/-- **The evaluations of a text** on its way through a gate: the conditions that are decided, with the
indices of their lines. -/
def evaluations (g : Gate σ) (file : Option String) (text : String) (state : σ) :
    List (String × Nat × Bool) :=
  (g.outcome file text state).2.events.toList.filterMap Event.evaluation?

/-- Under a default pattern a carriage return belongs to the blanks behind a directive. -/
theorem directive?_append_return {g : Gate σ} {glossary : Pattern.Glossary}
    {requireTriple : Bool}
    (standard :
      Directive.compilePattern glossary (Directive.defaultPattern requireTriple) = .ok g.pattern)
    {line : String} (clean : '\n' ∉ line.toList) :
    g.directive? (line ++ "\r") = (g.directive? line).map Directive.longer := by
  have chars : (line ++ "\r").toList = line.toList ++ ['\r'] := String.toList_append
  have clean' : '\n' ∉ (line ++ "\r").toList := by
    rw [chars]
    simpa using clean
  rw [Standard.compilePattern_default] at standard
  unfold directive?
  rw [← Except.ok.inj standard, Standard.find?_standard rfl rfl clean,
    Standard.find?_standard rfl rfl clean', chars]
  exact Standard.find?_append_blank (by decide) _ _

/-- **The outcome of a text with carriage returns**, from that of the text without. -/
theorem outcome_withReturns (g : Gate σ) {glossary : Pattern.Glossary}
    {requireTriple : Bool}
    (standard :
      Directive.compilePattern glossary (Directive.defaultPattern requireTriple) = .ok g.pattern)
    (file : Option String) {text : String} (plain : '\r' ∉ text.toList) (state : σ) :
    g.outcome file (withReturns text) state =
      (((g.outcome file text state).1.map (·.returned g.style (linesOf text))).mapError
          (located g.directive? (returned (linesOf text)) file),
        (g.outcome file text state).2.returned (linesOf text).length) := by
  have clean : ∀ line ∈ linesOf text, '\r' ∉ line.toList :=
    fun line mem inside => plain (mem_of_mem_linesOf mem inside)
  have reads : ∀ line ∈ linesOf text,
      g.directive? (line ++ "\r") = (g.directive? line).map Directive.longer :=
    fun line mem => directive?_append_return standard (not_mem_of_mem_linesOf mem)
  have retells : Walk.Retells (linesOf text).length
      (scan g.directive? g.evaluator 0 (linesOf text)) _ := scan_retells reads 0 (linesOf text) rfl
  have retold := retells { state }
  have start : Progress.returned (linesOf text).length ({ state } : Progress σ) = { state } := by
    rw [Progress.returned, Array.map_empty]
  have count : (returned (linesOf text)).length = (linesOf text).length := length_mapInit _ _
  rw [start] at retold
  unfold outcome Document.format
  dsimp only
  rw [linesOf_withReturns, retold, count]
  rcases (scan g.directive? g.evaluator 0 (linesOf text)).run { state } with ⟨r | hidden, p⟩
  · rfl
  · have rendered := renderLines_returned g.style hidden clean
    have warned := warnings_returned file (linesOf text).length p.events.toList
    simp only [rendered, Progress.returned, Array.toList_map, warned]
    rfl

/-- The evaluations of a text do not depend on a state, if no function looks at it. -/
theorem evaluations_eq_atRest {g : Gate σ} (stateless : g.functions.Stateless)
    (file : Option String) (text : String) (state start : σ) :
    g.evaluations file text state =
      (g.withFunctions (g.functions.atRest start)).evaluations file text () := by
  have projected := g.outcome_withFunctions (stateless.projects start) file text state
  rw [evaluations, evaluations, projected]
  rfl

/-- **Carriage returns make no difference** under a default pattern. Take a text without carriage
returns, and the same text with one in front of each line feed, and functions that do not look at
their state. Then the same conditions are decided on the same lines, and the one text is let through
exactly if the other is.

If they are, then the same lines are hidden, and each line of the one result is that of the other
with a carriage return at its end, except for the last. The warnings are the same, except that their
lines are longer by one character.

If they are not, then both are rejected for the same kind of thing and the same condition, with the
same message and for the same line. -/
theorem format_withReturns (g : Gate σ) {glossary : Pattern.Glossary} (requireTriple : Bool)
    (standard :
      Directive.compilePattern glossary (Directive.defaultPattern requireTriple) = .ok g.pattern)
    (stateless : g.functions.Stateless) (file : Option String) (text : String)
    (plain : '\r' ∉ text.toList) (state state' : σ) :
    g.evaluations file (withReturns text) state' = g.evaluations file text state ∧
    ((∃ f', (g.format file (withReturns text) state').result = .ok f') ↔
      ∃ f, (g.format file text state).result = .ok f) ∧
    (∀ f f', (g.format file text state).result = .ok f →
      (g.format file (withReturns text) state').result = .ok f' →
      f'.hidden = f.hidden ∧ f'.lineCount = f.lineCount ∧
      f.text = textOf (renderLines g.style f.hidden (linesOf text)) ∧
      f'.text = textOf (returned (renderLines g.style f.hidden (linesOf text))) ∧
      f'.warnings = f.warnings.map (·.returned f.lineCount)) ∧
    ∀ r r', (g.format file text state).result = .error r →
      (g.format file (withReturns text) state').result = .error r' →
      r'.kind = r.kind ∧ r'.message = r.message ∧ r'.line = r.line := by
  -- With the functions at rest there is one state only.
  rw [evaluations_eq_atRest stateless file text state state,
    evaluations_eq_atRest stateless file (withReturns text) state' state,
    result_eq_atRest stateless file text state state,
    result_eq_atRest stateless file (withReturns text) state' state]
  have pattern : (g.withFunctions (g.functions.atRest state)).pattern = g.pattern := rfl
  have style : (g.withFunctions (g.functions.atRest state)).style = g.style := rfl
  generalize g.withFunctions (g.functions.atRest state) = g' at pattern style ⊢
  rw [← pattern] at standard
  rw [← style]
  have read (f : Formatted) := g'.text_of_outcome file text () (f := f)
  refine ⟨?_, ?_⟩
  · rw [evaluations, evaluations, g'.outcome_withReturns standard file plain ()]
    simp only [Progress.returned, Array.toList_map, Event.filterMap_evaluation?_returned]
  · rw [g'.outcome_withReturns standard file plain ()]
    generalize (g'.outcome file text ()).1 = result at read ⊢
    cases result with
    | ok f =>
      obtain ⟨text_eq, count⟩ := read f rfl
      simp only [Except.map, Except.mapError]
      refine ⟨⟨fun _ => ⟨f, rfl⟩, fun _ => ⟨_, rfl⟩⟩, ?_, ?_⟩
      · intro _ _ passed passed'
        rw [← Except.ok.inj passed, ← Except.ok.inj passed', Formatted.returned, count]
        exact ⟨rfl, count ▸ rfl, text_eq, rfl, rfl⟩
      · intro _ _ rejected
        cases rejected
    | error r =>
      simp only [Except.map, Except.mapError]
      refine ⟨?_, ?_, ?_⟩
      · constructor
        · rintro ⟨_, passed⟩
          cases passed
        · rintro ⟨_, passed⟩
          cases passed
      · intro _ _ passed
        cases passed
      · intro _ _ rejected rejected'
        cases rejected
        cases rejected'
        exact ⟨rfl, rfl, rfl⟩

/-! ## A text with carriage returns -/

/-- A gate with the usual pattern. -/
def usual : Gate Unit :=
  { sample with
    pattern := ⟨Directive.triplePattern, Standard.regex 3, [("expression", 2), ("token", 1)]⟩ }

/-- A text with a warning in the selected branch, and another branch. -/
def usualText : String := "/// #if A\n///#warn W\n///#else\ny\n///#endif"

/-- All of it is hidden, and there is a warning on its second line. -/
theorem format_usual :
    (usual.format none usualText ()).result =
      .ok ⟨textOf (renderLines .blank [0, 1, 2, 3, 4] (linesOf usualText)),
        [Block.warning ⟨"warn", .warning, "W", 0, 10⟩ 1 "///#warn W"], [0, 1, 2, 3, 4], 5⟩ := by
  have lines : linesOf usualText = ["/// #if A", "///#warn W", "///#else", "y", "///#endif"] := by
    decide
  obtain ⟨first, warn, branch, content, closing⟩ :
      usual.directive? "/// #if A" = some ⟨"if", .opening, "A", 0, 9⟩ ∧
      usual.directive? "///#warn W" = some ⟨"warn", .warning, "W", 0, 10⟩ ∧
      usual.directive? "///#else" = some ⟨"else", .otherwise, "", 0, 8⟩ ∧
      usual.directive? "y" = none ∧
      usual.directive? "///#endif" = some ⟨"endif", .closing, "", 0, 9⟩ := by
    decide
  have answer : usual.evaluator "A" 0 () = (.ok true, ()) := by
    change Condition.evaluator ⟨fun _ _ s => (.ok .null, s)⟩ [("A", .bool true)] "A" 0 () = _
    exact Condition.evaluator_eq_ok (by decide +kernel) 0
  have scanned : (Document.scan usual.directive? usual.evaluator 0 (linesOf usualText)).run
      { state := () } = (.ok [0, 1, 2, 3, 4], ⟨(), #[.evaluated "A" 0 true,
        .warned (Block.warning ⟨"warn", .warning, "W", 0, 10⟩ 1 "///#warn W")]⟩) := by
    simp [lines, Document.scan, Block.opens, first, Block.run_start _ _ _ _ _ first rfl,
      Block.run_warning _ _ _ _ warn rfl, Block.run_otherwise _ _ _ _ branch rfl,
      Block.run_content _ _ _ _ content, Block.run_closing _ _ _ _ closing rfl, Machine.withTop,
      Machine.advance, Machine.hide, Frame.active, Frame.decided, Walk.run_bind, Walk.run_ask, answer]
    rfl
  have count : (linesOf usualText).length = 5 := congrArg List.length lines
  rw [format_eq_outcome, outcome, Document.format, scanned, count]
  rfl

/-- With carriage returns the directive of the warning is longer by one character. -/
theorem format_withReturns_usual :
    Directive.compilePattern .empty (Directive.defaultPattern true) = .ok usual.pattern ∧
      usual.functions.Stateless ∧ '\r' ∉ usualText.toList ∧
      ∃ f', (usual.format none (withReturns usualText) ()).result = .ok f' ∧
        f'.hidden = [0, 1, 2, 3, 4] ∧ f'.warnings.map (·.length) = [some 11] := by
  have standard : Directive.compilePattern .empty (Directive.defaultPattern true) = .ok usual.pattern :=
    Standard.compilePattern_default .empty true
  have stateless : usual.functions.Stateless := fun _ _ _ _ => rfl
  have plain : '\r' ∉ usualText.toList := by decide
  obtain ⟨-, passes, same, -⟩ :=
    format_withReturns usual true standard stateless none usualText plain () ()
  obtain ⟨f', passed⟩ := passes.mpr ⟨_, format_usual⟩
  obtain ⟨hidden, -, -, -, warned⟩ := same _ f' format_usual passed
  refine ⟨standard, stateless, plain, f', passed, hidden, ?_⟩
  rw [warned]
  rfl

end Gate

end LineGate
