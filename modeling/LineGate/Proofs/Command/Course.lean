import LineGate.Proofs.Command.Batch
import LineGate.Proofs.File.Entry

/-! # Courses of runs

A run handles the files of its command line in their order, and it may be cut off on the way: by a
malformed file, by a result that cannot be written, or by an interruption while it prints. This file
says what is true of every run, however it ends: it handled the files up to some point, all of them
exactly if it returned an exit status, and there is nothing else to show (`run_course`). What a file
meets when its turn comes is what the files before it left behind (`Handled.at_turn`). -/

namespace LineGate

namespace Command

/-! ## Runs that are cut off -/

section Session

variable {α β : Type} {glossary : Pattern.Glossary} (stamp : String)
variable (interruption : Option Interruption)
variable {environ : List (String × String)} {o : Options} {p : Preprocessor Unit}

/-- **Runs that are cut off**, and what they have to show then. -/
def CutOff (w : Run (StateM Session) α) (s : Session) (output : Output) : Prop :=
  ∃ e s', w.run s = (.error e, s') ∧ s'.output = output

/-- A run in two parts is cut off with its first part. -/
theorem CutOff.bind {w : Run (StateM Session) α} {s : Session} {output : Output}
    (h : CutOff w s output) (k : α → Run (StateM Session) β) : CutOff (w >>= k) s output := by
  obtain ⟨e, s', ended, shown⟩ := h
  refine ⟨e, s', ?_, shown⟩
  rw [run_bind, ended]

/-- Behind a part that returned, a run is cut off if what is left of it is. -/
theorem CutOff.after {w : Run (StateM Session) α} {s s₁ : Session} {a : α}
    (returned : w.run s = (.ok a, s₁)) {k : α → Run (StateM Session) β} {output : Output}
    (h : CutOff (k a) s₁ output) : CutOff (w >>= k) s output := by
  obtain ⟨e, s₂, ended, shown⟩ := h
  refine ⟨e, s₂, ?_, shown⟩
  rw [run_bind, returned]
  exact ended

/-! ## One file -/

/-- **A file without a fate** was accepted and read, and is malformed. -/
theorem fate?_eq_none {fs : FileSystem} {name : String} (missing : fate? p fs name = none) :
    p.acceptsPath name = true ∧ ∃ bytes fault,
      fs.read (Path.ofString name) = .ok bytes ∧ Utf8.decode bytes = .error fault := by
  unfold fate? at missing
  split at missing
  · rename_i accepted
    refine ⟨accepted, ?_⟩
    split at missing
    · cases missing
    · rename_i bytes read
      split at missing
      · rename_i fault malformed
        exact ⟨bytes, fault, read, malformed⟩
      · split at missing <;> cases missing
  · cases missing

variable (environ o) in
/-- **A malformed file** cuts the run off. -/
theorem processFile_malformed {name : String} {s : Session}
    (missing : fate? p s.files name = none) :
    CutOff (processFile (Session.host glossary stamp interruption) environ o p name) s s.output := by
  obtain ⟨accepted, bytes, fault, read, malformed⟩ := fate?_eq_none missing
  have goes_on : ¬ (!p.accepts (Path.ofString name).toString) = true := by
    simpa [Preprocessor.acceptsPath] using accepted
  have result : (p.receive environ (Path.ofString name) (.ok bytes) ()).result =
      .error (.encoding fault) := by
    rw [Preprocessor.receive]
    dsimp only
    rw [malformed]
  obtain ⟨s', same, eq⟩ :
      ComesTo (processFile (Session.host glossary stamp interruption) environ o p name) s
        (throw (.encoding fault)) := by
    -- All that comes before is to read the file, and to log that.
    unfold processFile
    dsimp only
    rw [if_neg goes_on]
    refine .of_quiet (fun _ => ⟨rfl, rfl⟩) fun s₁ _ => ?_
    rw [show ((Session.host glossary stamp interruption).readFile (Path.ofString name) s).1 =
      s.files.read (Path.ofString name) from rfl]
    refine .of_quiet (quiet_logAll stamp interruption _) fun s₂ _ => ?_
    rw [read, result]
    exact .rfl
  exact ⟨.encoding fault, s', eq, same⟩

/-- **A result is delivered**, and left behind, or the run is cut off. -/
theorem deliver_or_cutOff (path : Path) (target : Option Path) (text : String) (s : Session) :
    (∃ w, (Fate.passed text).leaves? target s.output = some w ∧
      Shows (deliver (Session.host glossary stamp interruption) path target text) s () w) ∨
    CutOff (deliver (Session.host glossary stamp interruption) path target text) s s.output := by
  cases target with
  | none =>
    cases interruption with
    | none => exact .inl ⟨_, rfl, deliver_shows stamp rfl⟩
    | some i => exact .inr ⟨.interruption i, s, rfl, rfl⟩
  | some target =>
    -- An interruption does not matter, because nothing is printed.
    change (∃ w, _ ∧
      Shows (deliver (Session.host glossary stamp none) path (some target) text) s () w) ∨
      CutOff (deliver (Session.host glossary stamp none) path (some target) text) s s.output
    cases written : s.files.write target (Utf8.encode text.toList) with
    | ok files =>
      have left : (Fate.passed text).leaves? (some target) s.output = some ⟨files, s.out⟩ := by
        simp [Fate.leaves?, Session.output, written, Except.toOption]
      exact .inl ⟨_, left, deliver_shows stamp left⟩
    | error fault =>
      refine .inr (CutOff.bind ⟨.file fault, s, ?_, rfl⟩ _)
      rw [show (Session.host glossary stamp none).writeFile target (Utf8.encode text.toList) =
        Session.changeFiles (·.write target (Utf8.encode text.toList)) from rfl, run_orEscape,
        written]

variable (environ o p) in
/-- **A file is handled, or the run is cut off** with nothing more to show. -/
theorem processFile_or_cutOff (name : String) (s : Session) :
    (∃ fate w, fate? p s.files name = some fate ∧
      fate.leaves? (o.target? (Path.ofString name)) s.output = some w ∧
      Shows (processFile (Session.host glossary stamp interruption) environ o p name) s
        (!fate.failed) w) ∨
    CutOff (processFile (Session.host glossary stamp interruption) environ o p name) s s.output := by
  cases found : fate? p s.files name with
  | none => exact .inr (processFile_malformed stamp interruption environ o found)
  | some fate =>
    obtain ⟨s', same, eq⟩ := processFile_comesTo stamp environ o interruption found
    cases fate with
    | passed text =>
      -- Only here something can still go wrong: the result has to be delivered.
      rcases deliver_or_cutOff stamp interruption (Path.ofString name)
        (o.target? (Path.ofString name)) text s' with ⟨w, left, shows⟩ | cut
      · obtain ⟨s₁, delivered, shown⟩ := shows
        obtain ⟨s₂, settled, shown₂⟩ :=
          Shows.after (k := fun _ => pure true) delivered (shows_pure true s₁)
        exact .inl ⟨_, w, rfl, same ▸ left, s₂, eq.trans settled, shown₂.trans shown⟩
      · obtain ⟨e, s₁, ended, shown⟩ := cut.bind fun _ => pure true
        exact .inr ⟨e, s₁, eq.trans ended, shown.trans same⟩
    | skipped => exact .inl ⟨_, _, rfl, rfl, s', eq, same⟩
    | unreadable => exact .inl ⟨_, _, rfl, rfl, s', eq, same⟩
    | rejected => exact .inl ⟨_, _, rfl, rfl, s', eq, same⟩

/-! ## All files -/

variable (environ o p) in
/-- **Files are handled up to some point**: all of them, or the run is cut off at the next one. -/
theorem processAll_or_cutOff (names : List String) (s : Session) :
    ∃ done rest fates w, names = done ++ rest ∧ Handled o p done s.output fates w ∧
      if rest = [] then
        Shows (processAll (Session.host glossary stamp interruption) environ o p names) s
          (!fates.any Fate.failed) w
      else CutOff (processAll (Session.host glossary stamp interruption) environ o p names) s w := by
  -- The first file is handled and the others are left to the induction, or it is where the run is cut
  -- off, and then no file is done.
  induction names generalizing s with
  | nil => exact ⟨[], [], [], s.output, rfl, .nil _, shows_pure true s⟩
  | cons name names ih =>
    rw [processAll]
    rcases processFile_or_cutOff stamp interruption environ o p name s with
      ⟨fate, next, found, left, shows⟩ | cut
    · obtain ⟨s₁, processed, shown⟩ := shows
      obtain ⟨done, rest, fates, w, rfl, handled, ends⟩ := ih s₁
      refine ⟨name :: done, rest, fate :: fates, w, rfl, .cons found left (shown ▸ handled), ?_⟩
      by_cases all : rest = []
      · rw [if_pos all] at ends ⊢
        obtain ⟨s₂, others, shown₂⟩ := ends
        rw [List.any_cons, Bool.not_or]
        exact .after processed (.after others (shown₂ ▸ shows_pure _ s₂))
      · rw [if_neg all] at ends ⊢
        exact .after processed (ends.bind _)
    · exact ⟨[], name :: names, [], s.output, rfl, .nil _, cut.bind _⟩

/-! ## Courses -/

/-- **Courses of a run** that gets to the files: no results would clash, and in the file system `fs`, in
which a directory for the results was made, the files `done` were handled, with their fates. These are
all of the files if the run returned, and then the exit status tells whether any of them failed.
Otherwise the run was cut off at the next file. -/
structure Course (o : Options) (p : Preprocessor Unit) (s : Session)
    (outcome : Except Escape Nat × Session) (fs : FileSystem) (done : List String)
    (fates : List Fate) : Prop where
  apart : ∀ directory, o.directory? = some directory → ¬ o.Clash p.accepts
  prepared : o.Prepares s.files fs
  named : done <+: o.files
  handled : Handled o p done ⟨fs, s.out⟩ fates outcome.2.output
  returned : done = o.files → outcome.1 = .ok (if fates.any Fate.failed then failure else success)
  cut : done ≠ o.files → ∃ e, outcome.1 = .error e

/-- **Runs that do not get to the files**, with a directory for the results: results would clash, or the
directory cannot be made. There is nothing to show. -/
structure Barred (o : Options) (p : Preprocessor Unit) (s : Session)
    (outcome : Except Escape Nat × Session) : Prop where
  reason : ∃ directory, o.directory? = some directory ∧
    (o.Clash p.accepts ∧ outcome.1 = .ok misuse ∨ ¬ o.Clash p.accepts ∧
      ∃ fault, s.files.makeDirectories directory = .error fault ∧ outcome.1 = .error (.file fault))
  shown : outcome.2.output = s.output

/-- The course of a run that returned. -/
theorem Course.of_returned {s : Session} {outcome : Except Escape Nat × Session} {fs : FileSystem}
    {done : List String} {fates : List Fate} (course : Course o p s outcome fs done fates)
    {status : Nat} (returned : outcome.1 = .ok status) :
    done = o.files ∧ status = if fates.any Fate.failed then failure else success := by
  have all : done = o.files := Decidable.byContradiction fun some_left => by
    obtain ⟨e, ended⟩ := course.cut some_left
    rw [returned] at ended
    cases ended
  refine ⟨all, ?_⟩
  have status_eq := course.returned all
  rw [returned] at status_eq
  exact Except.ok.inj status_eq

variable (environ) in
/-- **Processing the files takes a course** in a file system that is prepared. -/
theorem exists_course (apart : ∀ directory, o.directory? = some directory → ¬ o.Clash p.accepts)
    {s : Session} {fs : FileSystem} (prepared : o.Prepares s.files fs) :
    let outcome := (processAll (Session.host glossary stamp interruption) environ o p o.files >>=
      fun ok => pure (if ok = true then success else failure)).run { s with files := fs }
    ∃ done fates, Course o p s outcome fs done fates := by
  obtain ⟨done, rest, fates, w, files, handled, ends⟩ :=
    processAll_or_cutOff stamp interruption environ o p o.files { s with files := fs }
  have named : done <+: o.files := ⟨rest, files.symm⟩
  have all_iff : done = o.files ↔ rest = [] := by
    rw [files, List.self_eq_append_right]
  refine ⟨done, fates, ?_⟩
  by_cases all : rest = []
  · rw [if_pos all] at ends
    obtain ⟨s₁, status, shown⟩ := shows_status ends
    rw [status]
    exact ⟨apart, prepared, named, shown ▸ handled, fun _ => rfl,
      fun some_left => absurd (all_iff.mpr all) some_left⟩
  · rw [if_neg all] at ends
    obtain ⟨e, s₁, ended, shown⟩ := ends.bind fun ok =>
      pure (if ok = true then success else failure)
    rw [ended]
    exact ⟨apart, prepared, named, shown ▸ handled,
      fun all' => absurd (all_iff.mp all') all, fun _ => ⟨e, rfl⟩⟩

variable (environ o p) in
/-- **Processing the files takes a course**, unless the run does not get to them. -/
theorem processFiles_course (s : Session) :
    let outcome := (processFiles (Session.host glossary stamp interruption) environ o p).run s
    (∃ fs done fates, Course o p s outcome fs done fates) ∨ Barred o p s outcome := by
  intro outcome
  cases into : o.directory? with
  | none =>
    have apart : ∀ directory, o.directory? = some directory → ¬ o.Clash p.accepts := by
      simp [into]
    have prepared : o.Prepares s.files s.files := by
      rw [Options.Prepares, into]
    have run_eq : outcome =
        (processAll (Session.host glossary stamp interruption) environ o p o.files >>=
          fun ok => pure (if ok = true then success else failure)).run s := by
      change (processFiles (Session.host glossary stamp interruption) environ o p).run s = _
      rw [processFiles, into]
    rw [run_eq]
    exact .inl ⟨s.files, exists_course stamp interruption environ apart prepared⟩
  | some directory =>
    by_cases clash : o.Clash p.accepts
    · obtain ⟨status, files, out⟩ := processFiles_of_clash stamp interruption into clash s
      refine .inr ⟨⟨directory, into, .inl ⟨clash, status⟩⟩, ?_⟩
      rw [Session.output, files, out, Session.output]
    · -- The search for clashes passes, and what is left to fail is to make the directory.
      have none_found : o.clashes p = [] := Decidable.byContradiction fun found =>
        clash ((o.clashes_ne_nil p).mp found)
      have run_eq : outcome = (orEscape (Session.changeFiles (·.makeDirectories directory)) >>=
          fun _ => processAll (Session.host glossary stamp interruption) environ o p o.files >>=
            fun ok => pure (if ok = true then success else failure)).run s := by
        change (processFiles (Session.host glossary stamp interruption) environ o p).run s = _
        rw [processFiles, into]
        dsimp only
        rw [none_found]
        rfl
      rw [run_bind, run_orEscape] at run_eq
      cases made : s.files.makeDirectories directory with
      | error fault =>
        rw [made] at run_eq
        rw [run_eq]
        exact .inr ⟨⟨directory, into, .inr ⟨clash, fault, made, rfl⟩⟩, rfl⟩
      | ok fs =>
        rw [made] at run_eq
        rw [run_eq]
        have prepared : o.Prepares s.files fs := by
          rw [Options.Prepares, into]
          exact made
        exact .inl ⟨fs, exists_course stamp interruption environ (fun _ _ => clash) prepared⟩

end Session

/-- **A run takes a course**, however it ends, unless it does not get to the files: it handles those of
the command line up to some point, and leaves nothing else behind. -/
theorem run_course {argv : List String} {o : Options} {p : Preprocessor Unit}
    {environ : List (String × String)} (parsed : Options.parse argv = .ok o)
    (built : (o.preprocessor glossary environ).1 = .ok p) (s : Session) (stamp : String)
    (interruption : Option Interruption) (mode : Option LogMode) :
    let outcome := (run (Session.host glossary stamp interruption) environ mode argv).run s
    (∃ fs done fates, Course o p s outcome fs done fates) ∨ Barred o p s outcome := by
  obtain ⟨s', files, out, eq⟩ := run_eq_processFiles stamp interruption parsed built mode s
  have same : s'.output = s.output := by
    rw [Session.output, Session.output, files, out]
  intro outcome
  rcases processFiles_course stamp interruption environ o p s' with
    ⟨fs, done, fates, course⟩ | barred
  · rw [← eq] at course
    refine .inl ⟨fs, done, fates, course.apart, ?_, course.named, ?_, course.returned, course.cut⟩
    · exact files ▸ course.prepared
    · exact out ▸ course.handled
  · rw [← eq] at barred
    exact .inr ⟨files ▸ barred.reason, barred.shown.trans same⟩

end Command

end LineGate
