import Mathlib.Logic.Basic
import LineGate.Proofs.Block.Kept
import LineGate.Proofs.Document.Sections

/-! # Verbose runs

A verbose run of a gate differs from a quiet one in its records alone, and the quiet records are the
verbose ones without those of level `info` (`Gate.records_quiet`).

What a verbose run has to tell are the **notes** on a text, one record for each line of a section that
is kept and one for each condition that is decided. That a condition is decided is not taken from the
events here, but from the evaluator: one that records every question it is asked
(`Evaluator.onRecord`) changes nothing, and if the text is let through then its record agrees with the
events (`Gate.questions_eq`). -/

namespace LineGate

variable {σ α β : Type}

/-! ## Questions -/

/-- **Questions** to an evaluator: a condition and the index of its line, with the answer. -/
structure Question where
  condition : String
  line : Nat
  answer : Except Rejection Bool

/-- **Evaluators that record their questions**, the latest last. -/
def Evaluator.onRecord (evaluate : Evaluator σ) : Evaluator (σ × List Question) :=
  fun condition line state =>
    let (answer, next) := evaluate condition line state.1
    (answer, (next, state.2 ++ [⟨condition, line, answer⟩]))

/-- Forgetting the record gives the original evaluator. -/
theorem Evaluator.onRecord_projects (evaluate : Evaluator σ) :
    Projects Prod.fst evaluate.onRecord evaluate :=
  fun _ _ _ => rfl

/-- The question that an event answers. -/
def Event.question? : Event → Option Question
  | .evaluated condition line result => some ⟨condition, line, .ok result⟩
  | _ => none

/-- A progress is **on record** if the recorded questions are those that its events answer. -/
def Progress.OnRecord (p : Progress (σ × List Question)) : Prop :=
  p.state.2 = p.events.toList.filterMap Event.question?

/-- Nothing has been asked at the beginning. -/
theorem Progress.OnRecord.start (state : σ) :
    OnRecord ({ state := (state, []) } : Progress (σ × List Question)) := rfl

namespace Walk

/-- **Walks that answer what they ask**: unless such a walk rejects, its progress stays on record. -/
def Answers (w : Walk (σ × List Question) α) : Prop :=
  ∀ p, p.OnRecord → ∀ a, (w.run p).1 = .ok a → (w.run p).2.OnRecord

/-- Events that answer nothing leave the progress on record. -/
theorem answers_emit {e : Event}
    (unasked : ∀ condition line result, e ≠ .evaluated condition line result) :
    Answers (emit e : Walk (σ × List Question) Unit) := by
  intro p kept _ _
  have quiet : e.question? = none := by
    cases e with
    | included | warned => rfl
    | evaluated condition line result => exact absurd rfl (unasked condition line result)
  rw [run_emit]
  -- The state is left alone, and the new event adds nothing to what is answered.
  show p.state.2 = _
  rw [Array.toList_push, List.filterMap_append, kept]
  simp [quiet]

/-- A question that is answered goes on record with its event. -/
theorem answers_ask (evaluate : Evaluator σ) (condition : String) (line : Nat) :
    Answers (ask evaluate.onRecord condition line) := by
  intro p kept a answered
  rw [run_ask, Evaluator.onRecord] at answered ⊢
  rcases asked : evaluate condition line p.state.1 with ⟨r | result, next⟩
  · simp [asked] at answered
  · simp only
    show p.state.2 ++ _ = _
    rw [Array.toList_push, List.filterMap_append, kept]
    rfl

/-- Walks in two parts answer if both parts do. -/
theorem Answers.bind {w : Walk (σ × List Question) α} {k : α → Walk (σ × List Question) β}
    (h : Answers w) (hk : ∀ a, Answers (k a)) : Answers (w >>= k) := by
  intro p kept b passed
  have first := h p kept
  rw [run_bind] at passed ⊢
  rcases walked : w.run p with ⟨r | a, q⟩
  · rw [walked] at passed
    simp at passed
  · rw [walked] at passed first
    exact hk a q (first a rfl) b passed

/-- To answer what is asked is a congruence. -/
theorem congruence_answers (evaluate : Evaluator σ) :
    Congruence (fun w _ => Answers w) evaluate.onRecord evaluate.onRecord where
  of_pure _ := fun _ kept _ _ => kept
  of_throw _ := fun _ _ _ passed => by cases passed
  of_emit _ unasked := answers_emit unasked
  of_ask condition line := answers_ask evaluate condition line
  of_bind h hk := h.bind hk

end Walk

/-! ## Notes -/

/-- **The note of an event**: what a verbose run reports of it, with the index of its line. -/
def Event.note? (conditions blocks : String) (file : Option String) :
    Event → Option (Nat × Log.Record)
  | .included line => some (line, Report.included blocks file line)
  | .evaluated condition line result =>
    some (line, Report.evaluated conditions condition (some line) result)
  | .warned _ => none

namespace Report

variable (conditions blocks : String) (file : Option String)

/-- Among the verbose records of an event, its note is the one of level `info`. -/
theorem filter_event_info (e : Event) :
    (event conditions blocks true file e).filter (·.level = .info) =
      (e.note? conditions blocks file).toList.map Prod.snd := by
  cases e <;> simp [event, Event.note?, included, evaluated, warned]

/-- The quiet records of an event are the verbose ones of any other level. -/
theorem event_quiet (e : Event) :
    event conditions blocks false file e =
      (event conditions blocks true file e).filter (·.level ≠ .info) := by
  cases e <;> simp [event, included, evaluated, warned]

/-- The outcome of a text is not reported at level `info`. -/
theorem level_of_mem_outcome {logger : String} {file : Option String}
    {result : Except Rejection Formatted} {record : Log.Record}
    (mem : record ∈ outcome logger file result) : record.level ≠ .info := by
  cases result with
  | error r =>
    obtain rfl : record = rejected logger file r := by simpa [outcome] using mem
    simp [rejected]
  | ok f =>
    rw [outcome, suppressed] at mem
    split at mem
    · simp at mem
    · obtain rfl := List.mem_singleton.mp mem
      simp

end Report

/-! ## The order of notes and questions -/

section Chronicles

variable {directive? : String → Option Directive} {lines : List String} {start stop : Nat}
variable {events : List Event}

/-- **Notes ascend**: there is at most one for each line, in the order of the lines. -/
theorem Chronicle.pairwise_notes (h : Chronicle directive? lines stop start events)
    (conditions blocks : String) (file : Option String) :
    (events.filterMap (Event.note? conditions blocks file)).Pairwise fun a b => a.1 < b.1 := by
  apply h.pairwise_filterMap
  intro e i note at_i noted
  cases at_i <;> simp [Event.note?] at noted <;> simp [← noted]

/-- **Questions of lines**: the condition of the directive on the line, with an answer. -/
def Question.Of (directive? : String → Option Directive) (lines : List String) (q : Question) :
    Prop :=
  ∃ line d result, lines[q.line]? = some line ∧ directive? line = some d ∧
    (d.kind = .opening ∨ d.kind = .elseIf) ∧ q.condition = d.expression ∧ q.answer = .ok result

/-- An event that answers a question answers the one of its line. -/
theorem Event.At.question {e : Event} {i : Nat} {q : Question} (h : e.At directive? lines i)
    (answers : e.question? = some q) : q.line = i ∧ q.Of directive? lines := by
  cases h with
  | included | warned => simp [Event.question?] at answers
  | @evaluated _ line d result at_i found kind =>
    obtain rfl := Option.some.inj answers
    exact ⟨rfl, line, d, result, at_i, found, kind, rfl, rfl⟩

/-- **Questions ascend**: there is at most one for each line, in the order of the lines. -/
theorem Chronicle.pairwise_questions (h : Chronicle directive? lines stop start events) :
    (events.filterMap Event.question?).Pairwise fun a b => a.line < b.line :=
  h.pairwise_filterMap fun _ _ _ at_i answers => (at_i.question answers).1

/-- The questions that are answered are those of the lines. -/
theorem Chronicle.questions_of (h : Chronicle directive? lines stop start events) :
    ∀ q ∈ events.filterMap Event.question?, q.Of directive? lines := by
  intro q mem
  obtain ⟨e, told, answers⟩ := List.mem_filterMap.mp mem
  obtain ⟨i, -, -, at_i⟩ := h.at_of_mem told
  exact (at_i.question answers).2

end Chronicles

/-- A condition is among the questions with the answer that its event has. -/
theorem mem_questions {events : List Event} {condition : String} {line : Nat} {result : Bool} :
    ⟨condition, line, .ok result⟩ ∈ events.filterMap Event.question? ↔
      .evaluated condition line result ∈ events := by
  rw [List.mem_filterMap]
  constructor
  · rintro ⟨e, told, answers⟩
    cases e with
    | included | warned => simp [Event.question?] at answers
    | evaluated =>
      cases answers
      exact told
  · exact fun told => ⟨_, told, rfl⟩

/-- **The notes** are those of the kept lines and of the conditions that are decided. -/
theorem mem_notes {conditions blocks : String} {file : Option String} {events : List Event}
    {line : Nat} {record : Log.Record} :
    (line, record) ∈ events.filterMap (Event.note? conditions blocks file) ↔
      .included line ∈ events ∧ record = Report.included blocks file line ∨
      ∃ condition result, .evaluated condition line result ∈ events ∧
        record = Report.evaluated conditions condition (some line) result := by
  rw [List.mem_filterMap]
  constructor
  · rintro ⟨e, told, noted⟩
    cases e with
    | warned => simp [Event.note?] at noted
    | included =>
      obtain ⟨rfl, rfl⟩ := Prod.mk.inj (Option.some.inj noted)
      exact .inl ⟨told, rfl⟩
    | evaluated condition line result =>
      obtain ⟨rfl, rfl⟩ := Prod.mk.inj (Option.some.inj noted)
      exact .inr ⟨condition, result, told, rfl⟩
  · rintro (⟨told, rfl⟩ | ⟨condition, result, told, rfl⟩)
    · exact ⟨_, told, rfl⟩
    · exact ⟨_, told, rfl⟩

/-! ## Kept lines -/

namespace Document

open Block

variable {directive? : String → Option Directive} {evaluate : Evaluator σ} {lines : List String}
variable {index : Nat} {state final : σ} {sections : List Section}

/-- Each section is the block that is parsed from its opening line. -/
theorem Sections.parsed (h : Sections directive? evaluate lines index state sections final) :
    ∀ s ∈ sections, lines[s.start]?.any (opens directive?) = true ∧
      ∃ before after,
        parse directive? evaluate lines s.start false before = (.ok s.block, ⟨after, s.events⟩) := by
  induction h with
  | nil => simp
  | cons first _ parsed _ ih =>
    rw [List.forall_mem_cons]
    exact ⟨⟨first.opening, _, _, parsed⟩, ih⟩

/-- **The kept lines of a text** are the lines of its sections that are not hidden. -/
theorem Sections.mem_included (h : Sections directive? evaluate lines index state sections final)
    (i : Nat) :
    .included i ∈ sections.flatMap (·.events.toList) ↔
      (∃ s ∈ sections, s.Covers i) ∧ i ∉ sections.flatMap (·.block.hidden) := by
  rw [List.mem_flatMap]
  constructor
  · -- The events of a section are of its own lines, and no other section hides any of those.
    rintro ⟨s, hs, told⟩
    obtain ⟨opening, _, _, parsed⟩ := h.parsed s hs
    obtain ⟨j, le, lt, at_j⟩ := (h.sound s hs).2.chronicle.at_of_mem told
    cases at_j
    have covers : s.Covers i := ⟨le, Nat.le_of_lt lt⟩
    rw [h.mem_hidden hs covers]
    exact ⟨⟨s, hs, covers⟩, (mem_included_iff opening parsed le covers.2).mp told⟩
  · rintro ⟨⟨s, hs, covers⟩, shown⟩
    obtain ⟨opening, _, _, parsed⟩ := h.parsed s hs
    rw [h.mem_hidden hs covers] at shown
    exact ⟨s, hs, (mem_included_iff opening parsed covers.1 covers.2).mpr shown⟩

end Document

/-! ## Gates -/

namespace Gate

open Document

/-- The same gate in a verbose or a quiet run. -/
def withVerbose (g : Gate σ) (verbose : Bool) : Gate σ := { g with verbose }

/-- **The questions of a text** on its way through a gate: the conditions that the evaluator is asked
for, in their order. -/
def questions (g : Gate σ) (file : Option String) (text : String) (state : σ) : List Question :=
  (Document.format g.directive? g.evaluator.onRecord g.style file text (state, [])).2.state.2

/-- **The notes on a text** from the events of its walk. -/
def notes (g : Gate σ) (file : Option String) (events : List Event) : List (Nat × Log.Record) :=
  events.filterMap (Event.note? (Log.childLogger g.logger "expr") (Log.childLogger g.logger "parser")
    file)

variable (g : Gate σ) (file : Option String) (text : String) (state : σ)

/-- The questions of a text that is let through are those that its events answer. -/
theorem questions_eq {f : Formatted} {progress : Progress σ}
    (passed : g.outcome file text state = (.ok f, progress)) :
    g.questions file text state = progress.events.toList.filterMap Event.question? := by
  have answers : (scan g.directive? g.evaluator.onRecord 0 (linesOf text)).Answers :=
    scan_related (Walk.congruence_answers g.evaluator) g.directive? 0 (linesOf text)
  have kept := answers _ (.start state)
  -- The recording run has the same outcome, apart from its record.
  have projected := format_projects g.directive? g.evaluator.onRecord_projects g.style file text
    (state, [])
  rw [show Document.format g.directive? g.evaluator g.style file text state = _ from passed]
    at projected
  rw [questions]
  unfold Document.format at projected ⊢
  dsimp only at projected ⊢
  rcases scanned : (scan g.directive? g.evaluator.onRecord 0 (linesOf text)).run
    { state := (state, []) } with ⟨r | hidden, q⟩
  · rw [scanned] at projected
    cases (Prod.mk.inj projected).1
  · -- A scan that succeeds ends on record, with the events of the outcome.
    rw [scanned] at projected kept
    obtain ⟨-, rfl⟩ := Prod.mk.inj projected
    exact kept hidden rfl

/-- **A verbose run reports its notes**, and nothing else at level `info`. -/
theorem filter_records_info (verbose : g.verbose = true) (events : List Event)
    (result : Except Rejection Formatted) :
    (g.records file events result).filter (·.level = .info) = (g.notes file events).map Prod.snd := by
  have silent : (Report.outcome (Log.childLogger g.logger "formatter") file result).filter
      (·.level = .info) = [] := by
    rw [List.filter_eq_nil_iff]
    intro record mem
    simpa using Report.level_of_mem_outcome mem
  rw [records, List.filter_append, silent, List.append_nil, verbose, notes]
  induction events with
  | nil => rfl
  | cons e events ih =>
    rw [List.flatMap_cons, List.filter_append, Report.filter_event_info, ih, List.filterMap_cons]
    cases e.note? (Log.childLogger g.logger "expr") (Log.childLogger g.logger "parser") file <;> rfl

/-- **A quiet run reports the rest.** -/
theorem records_quiet (events : List Event) (result : Except Rejection Formatted) :
    (g.withVerbose false).records file events result =
      ((g.withVerbose true).records file events result).filter (·.level ≠ .info) := by
  have rest : (Report.outcome (Log.childLogger g.logger "formatter") file result).filter
      (·.level ≠ .info) = Report.outcome (Log.childLogger g.logger "formatter") file result := by
    rw [List.filter_eq_self]
    intro record mem
    simpa using Report.level_of_mem_outcome mem
  rw [records, records, List.filter_append, List.filter_flatMap]
  refine congrArg₂ _ (congrArg (List.flatMap · events) (funext fun e => ?_)) rest.symm
  exact Report.event_quiet _ _ file e

/-- **Notes on a text** that a gate lets through, given the sections of the text. -/
structure Noted (f : Formatted) (sections : List Section) (notes : List (Nat × Log.Record)) :
    Prop where
  /-- The hidden lines are those of the sections. -/
  hidden_eq : f.hidden = sections.flatMap (·.block.hidden)
  /-- They are neutralised, and no other lines are. -/
  text_eq : f.text = textOf (renderLines g.style f.hidden (linesOf text))
  /-- The questions are those of opening lines and of branches with a condition, and are answered. -/
  questions_of : ∀ q ∈ g.questions file text state, q.Of g.directive? (linesOf text)
  /-- A line is asked for at most once, in the order of the lines. -/
  asked_once : (g.questions file text state).Pairwise fun q q' => q.line < q'.line
  /-- There is a note of each line of a section that is not hidden, and of each question. -/
  mem_iff : ∀ line record, (line, record) ∈ notes ↔
    ((∃ s ∈ sections, s.Covers line) ∧ line ∉ f.hidden) ∧
        record = Report.included (Log.childLogger g.logger "parser") file line ∨
      ∃ condition result, ⟨condition, line, .ok result⟩ ∈ g.questions file text state ∧
        record = Report.evaluated (Log.childLogger g.logger "expr") condition (some line) result
  /-- A line is noted at most once, in the order of the lines. -/
  noted_once : notes.Pairwise fun a b => a.1 < b.1
  /-- The notes are what is reported at level `info`. -/
  records_eq : (g.format file text state).records.filter (·.level = .info) = notes.map Prod.snd

/-- **A verbose run notes the text** that it lets through. -/
theorem exists_noted (verbose : g.verbose = true) {f : Formatted}
    (passed : (g.format file text state).result = .ok f) :
    ∃ sections notes,
      Sections g.directive? g.evaluator (linesOf text) 0 state sections
        (g.format file text state).state ∧
      g.Noted file text state f sections notes := by
  rcases outcome : g.outcome file text state with ⟨r | f', progress⟩
  · rw [format_eq_outcome, outcome] at passed
    simp at passed
  · have format_eq := g.format_eq_outcome file text state
    have asked := g.questions_eq file text state outcome
    rw [outcome] at format_eq
    obtain rfl : f' = f := by
      rw [format_eq] at passed
      simpa using passed
    obtain ⟨sections, found, told, text_eq, -, hidden_eq⟩ :=
      Document.sections_of_format file text state outcome
    -- All that is said of the order comes from the events being a chronicle of the text.
    have chronicle := found.chronicle
    rw [← told] at chronicle
    rw [← hidden_eq] at text_eq
    refine ⟨sections, g.notes file progress.events.toList, ?_, hidden_eq, text_eq, ?_, ?_, ?_, ?_, ?_⟩
    · rw [format_eq]
      exact found
    · rw [asked]
      exact chronicle.questions_of
    · rw [asked]
      exact chronicle.pairwise_questions
    · intro line record
      rw [notes, mem_notes, told, found.mem_included, ← told, ← hidden_eq, asked]
      simp only [mem_questions]
    · exact chronicle.pairwise_notes _ _ file
    · rw [format_eq]
      exact g.filter_records_info file verbose _ _

/-- **Building passes the flag on**, and makes no other use of it. -/
theorem build_withVerbose (glossary : Pattern.Glossary) (s : Settings) (functions : Functions σ)
    (environ : List (String × String)) (logger : String) (verbose : Bool) :
    build glossary { s with verbose } functions environ logger =
      ((build glossary s functions environ logger).1.map (·.withVerbose verbose),
        (build glossary s functions environ logger).2) := by
  -- Neither the pattern nor the variables are settled with a look at the flag.
  have pattern :
      Settings.directivePattern { s with verbose } glossary = s.directivePattern glossary := rfl
  have resolved : Settings.resolveVariables { s with verbose } environ = s.resolveVariables environ :=
    rfl
  rw [build, build, pattern, resolved]
  cases s.directivePattern glossary <;> rfl

/-- What is recorded when a gate is built is not of level `info`. -/
theorem level_of_mem_build {glossary : Pattern.Glossary} {s : Settings} {functions : Functions σ}
    {environ : List (String × String)} {logger : String} {record : Log.Record}
    (mem : record ∈ (build glossary s functions environ logger).2) : record.level ≠ .info := by
  have snapshot (mem : record ∈ (s.resolveVariables environ).2) : record.level ≠ .info := by
    unfold Settings.resolveVariables at mem
    split at mem
    · simp at mem
    · obtain rfl := List.mem_singleton.mp mem
      simp [Report.snapshot]
  unfold build at mem
  split at mem
  · simp at mem
  · exact snapshot mem

/-- **Verbosity only observes.** Take any settings, functions and variables, once for a verbose run and
once for a quiet one. Either both are refused for the same reason, or both give a gate, and then every
text has the same result at both gates, or is rejected alike; the functions are called alike and left in
the same state. The quiet run reports what the verbose one does, except for the records of level `info`.

Of those the verbose run has none while the gate is built. On a text that it lets through, they are the
notes: in the order of the lines, one for each line of a section that is not hidden, and one for each
condition that the evaluator is asked for. -/
theorem verbose_observes (glossary : Pattern.Glossary) (s : Settings) (functions : Functions σ)
    (environ : List (String × String)) (logger : String) :
    (build glossary { s with verbose := false } functions environ logger).2 =
      (build glossary { s with verbose := true } functions environ logger).2 ∧
    (∀ record ∈ (build glossary { s with verbose := true } functions environ logger).2,
      record.level ≠ .info) ∧
    ((∃ refusal,
        (build glossary { s with verbose := true } functions environ logger).1 = .error refusal ∧
        (build glossary { s with verbose := false } functions environ logger).1 = .error refusal) ∨
      ∃ loud quiet,
        (build glossary { s with verbose := true } functions environ logger).1 = .ok loud ∧
        (build glossary { s with verbose := false } functions environ logger).1 = .ok quiet ∧
        ∀ file text state,
          (quiet.format file text state).result = (loud.format file text state).result ∧
          (quiet.format file text state).state = (loud.format file text state).state ∧
          quiet.calls file text state = loud.calls file text state ∧
          (quiet.format file text state).records =
            (loud.format file text state).records.filter (·.level ≠ .info) ∧
          ∀ f, (loud.format file text state).result = .ok f →
            ∃ sections notes,
              Sections loud.directive? loud.evaluator (linesOf text) 0 state sections
                (loud.format file text state).state ∧
              loud.Noted file text state f sections notes) := by
  rw [build_withVerbose glossary s functions environ logger true,
    build_withVerbose glossary s functions environ logger false]
  refine ⟨rfl, fun record mem => level_of_mem_build mem, ?_⟩
  cases (build glossary s functions environ logger).1 with
  | error refusal => exact .inl ⟨refusal, rfl, rfl⟩
  | ok g =>
    refine .inr ⟨g.withVerbose true, g.withVerbose false, rfl, rfl, fun file text state => ?_⟩
    -- The walk through the text, and so all but the records, knows nothing of the flag.
    refine ⟨rfl, rfl, rfl, g.records_quiet file _ _, fun f passed => ?_⟩
    exact (g.withVerbose true).exists_noted file text state rfl passed

/-- Settings of a gate for the sample text. -/
def sampleSettings : Settings where
  pattern := some (.compiled sample.pattern)
  fillWithSpaces := true
  «variables» := some sample.variables

/-- The sample text has a note of its first condition and one of the line that is kept. -/
theorem verbose_observes_sample :
    ∃ loud quiet f sections notes,
      (build .empty { sampleSettings with verbose := true } sample.functions [] "gate").1 = .ok loud ∧
      (build .empty { sampleSettings with verbose := false } sample.functions [] "gate").1 = .ok quiet ∧
      (loud.format none sampleText ()).result = .ok f ∧ f.hidden = [0, 2, 3, 4, 5, 6, 7] ∧
      (quiet.format none sampleText ()).result = .ok f ∧
      loud.Noted none sampleText () f sections notes ∧
      notes.map (·.2.message) =
        ["Expression 'A' at line 1 resulted with True", "Including line <text>:2"] := by
  have built (verbose : Bool) :
      (build .empty { sampleSettings with verbose } sample.functions [] "gate").1 =
        .ok (sample.withVerbose verbose) := rfl
  obtain ⟨-, -, ⟨refusal, refused, -⟩ | ⟨loud, quiet, loudly, quietly, observes⟩⟩ :=
    verbose_observes .empty sampleSettings sample.functions [] "gate"
  · rw [built] at refused
    simp at refused
  · obtain rfl : sample.withVerbose true = loud := by
      rw [built] at loudly
      simpa using loudly
    obtain ⟨result, -, -, -, noted⟩ := observes none sampleText ()
    have passed := format_sample
    obtain ⟨sections, notes, -, holds⟩ := noted _ passed
    refine ⟨_, quiet, _, sections, notes, loudly, quietly, passed, rfl, result.trans passed, holds, ?_⟩
    -- What the notes say can be read off the events of the sample.
    have records := holds.records_eq
    rw [format_eq_outcome, filter_records_info _ _ rfl, outcome, Document.format,
      show (sample.withVerbose true).directive? = sample.directive? from rfl,
      show (sample.withVerbose true).evaluator = sample.evaluator from rfl, scan_sample] at records
    have messages := congrArg (List.map Log.Record.message) records
    rw [List.map_map, List.map_map] at messages
    exact messages.symm.trans (by decide)

end Gate

end LineGate
