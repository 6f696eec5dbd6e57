import LineGate.Proofs.Command.Collision
import LineGate.Proofs.Text.Utf8

/-! # Batches of files

The files of a command line are handled one after the other. Each of them has its **fate**, which can
be told from the file system that it meets: it is skipped, it cannot be read, it is rejected, or it is
let through. A file that cannot be read or is rejected leaves nothing behind, and the batch goes on; a
file that is let through leaves its result. What a whole batch leaves behind (`Handled`) is decided
file by file, and the exit status tells whether any of them failed (`run_batch`).

There is one gap. A file that can be read but is **malformed**, so that its bytes are no text, has no
fate: it ends the run before the files behind it are handled (`run_escapes`). -/

namespace LineGate

namespace Command

/-! ## Fates -/

/-- **Fates** of the files of a command line. -/
inductive Fate where
  /-- The file does not concern the preprocessor. -/
  | skipped
  /-- The file cannot be read. -/
  | unreadable (fault : FileFault)
  /-- The text in the file is rejected. -/
  | rejected (r : Rejection)
  /-- The text in the file is let through, with a result. -/
  | passed (text : String)

/-- Whether a file failed. -/
def Fate.failed : Fate → Bool
  | .unreadable _ | .rejected _ => true
  | .skipped | .passed _ => false

/-- **The fate of a file** in a file system; a malformed file has none. -/
def fate? (p : Preprocessor Unit) (fs : FileSystem) (name : String) : Option Fate :=
  if p.acceptsPath name then
    match fs.read (Path.ofString name) with
    | .error fault => some (.unreadable fault)
    | .ok bytes => match Utf8.decode bytes with
      | .error _ => none
      | .ok chars =>
        match (p.gate.format (some (Path.ofString name).toString) (String.ofList chars) ()).result with
        | .error r => some (.rejected r)
        | .ok f => some (.passed f.text)
  else some .skipped

/-- **What a fate tells** about a file. -/
theorem fate?_eq_some {p : Preprocessor Unit} {fs : FileSystem} {name : String} {fate : Fate}
    (found : fate? p fs name = some fate) :
    (p.acceptsPath name = false ∧ fate = .skipped) ∨
    p.acceptsPath name = true ∧
      ((∃ fault, fs.read (Path.ofString name) = .error fault ∧ fate = .unreadable fault) ∨
      ∃ bytes chars, fs.read (Path.ofString name) = .ok bytes ∧ Utf8.decode bytes = .ok chars ∧
        match (p.gate.format (some (Path.ofString name).toString) (String.ofList chars) ()).result with
        | .error r => fate = .rejected r
        | .ok f => fate = .passed f.text) := by
  unfold fate? at found
  by_cases accepted : p.acceptsPath name = true
  · rw [if_pos accepted] at found
    refine .inr ⟨accepted, ?_⟩
    cases read : fs.read (Path.ofString name) with
    | error fault =>
      rw [read] at found
      exact .inl ⟨fault, rfl, (Option.some.inj found).symm⟩
    | ok bytes =>
      rw [read] at found
      dsimp only at found
      cases decoded : Utf8.decode bytes with
      | error fault =>
        rw [decoded] at found
        cases found
      | ok chars =>
        rw [decoded] at found
        refine .inr ⟨bytes, chars, rfl, decoded, ?_⟩
        dsimp only at found
        split at found
        · exact (Option.some.inj found).symm
        · exact (Option.some.inj found).symm
  · rw [if_neg accepted] at found
    exact .inl ⟨Bool.eq_false_iff.mpr accepted, (Option.some.inj found).symm⟩

/-- **A file that is let through** was accepted and read, and its text was formatted. -/
theorem exists_formatted {p : Preprocessor Unit} {fs : FileSystem} {name text : String}
    (found : fate? p fs name = some (.passed text)) :
    p.acceptsPath name = true ∧ ∃ bytes chars f,
      fs.read (Path.ofString name) = .ok bytes ∧ Utf8.decode bytes = .ok chars ∧
      (p.gate.format (some (Path.ofString name).toString) (String.ofList chars) ()).result = .ok f ∧
      f.text = text := by
  rcases fate?_eq_some found with
    ⟨-, eq⟩ | ⟨accepted, ⟨fault, -, eq⟩ | ⟨bytes, chars, read, decoded, outcome⟩⟩
  · cases eq
  · cases eq
  · split at outcome
    · cases outcome
    · rename_i f result
      exact ⟨accepted, bytes, chars, f, read, decoded, result, (Fate.passed.inj outcome).symm⟩

/-- **What a run leaves behind**: files, and what was printed. -/
structure Output where
  files : FileSystem
  printed : String

/-- What a session has to show. -/
def Session.output (s : Session) : Output := ⟨s.files, s.out⟩

/-- The files are among it. -/
@[simp]
theorem Session.output_files (s : Session) : s.output.files = s.files := rfl

/-- **What a file leaves behind** by its fate: a result goes to its target, or is printed. -/
def Fate.leaves? (target : Option Path) (w : Output) : Fate → Option Output
  | .passed text => match target with
    | none => some { w with printed := w.printed ++ text }
    | some target =>
      (w.files.write target (Utf8.encode text.toList)).toOption.map fun files => { w with files }
  | _ => some w

/-- **A file that failed leaves nothing behind.** -/
theorem Fate.leaves?_of_failed {fate : Fate} (failed : fate.failed = true) (target : Option Path)
    (w : Output) : fate.leaves? target w = some w := by
  cases fate with
  | unreadable => rfl
  | rejected => rfl
  | skipped => cases failed
  | passed => cases failed

/-- **What a file leaves behind** is a result that was written, or the files as they were. -/
theorem Fate.leaves?_cases {fate : Fate} {target : Option Path} {w next : Output}
    (left : fate.leaves? target w = some next) :
    (∃ text goal, fate = .passed text ∧ target = some goal ∧
      w.files.write goal (Utf8.encode text.toList) = .ok next.files) ∨
    (∀ text, fate = .passed text → target = none) ∧ next.files = w.files := by
  cases fate with
  | skipped => exact .inr ⟨nofun, by rw [Option.some.inj left]⟩
  | unreadable => exact .inr ⟨nofun, by rw [Option.some.inj left]⟩
  | rejected => exact .inr ⟨nofun, by rw [Option.some.inj left]⟩
  | passed text =>
    cases target with
    | none => exact .inr ⟨fun _ _ => rfl, by rw [← Option.some.inj left]⟩
    | some goal =>
      obtain ⟨files, written, rfl⟩ := Option.map_eq_some_iff.mp left
      exact .inl ⟨text, goal, rfl, rfl, eq_ok_of_toOption_eq_some written⟩

/-- **A file leaves something behind** if the target of its result is writable. -/
theorem Fate.exists_leaves? {fate : Fate} {target : Option Path} {w : Output}
    (writable : ∀ text goal, fate = .passed text → target = some goal → w.files.Writable goal) :
    ∃ next, fate.leaves? target w = some next := by
  cases fate with
  | skipped => exact ⟨w, rfl⟩
  | unreadable => exact ⟨w, rfl⟩
  | rejected => exact ⟨w, rfl⟩
  | passed text =>
    cases target with
    | none => exact ⟨_, rfl⟩
    | some goal =>
      obtain ⟨files, written⟩ :=
        (writable text goal rfl rfl).write_ok (Utf8.encode text.toList)
      refine ⟨{ w with files }, ?_⟩
      simp only [Fate.leaves?, written]
      rfl

/-- **Batches that are handled** in their order: which fates the files have, and what is left behind
in the end. -/
inductive Handled (o : Options) (p : Preprocessor Unit) :
    List String → Output → List Fate → Output → Prop where
  | nil (w : Output) : Handled o p [] w [] w
  | cons {name : String} {names : List String} {fate : Fate} {fates : List Fate}
      {w next final : Output} (found : fate? p w.files name = some fate)
      (left : fate.leaves? (o.target? (Path.ofString name)) w = some next)
      (rest : Handled o p names next fates final) :
      Handled o p (name :: names) w (fate :: fates) final

namespace Handled

variable {o : Options} {p : Preprocessor Unit} {names : List String} {w final : Output}
variable {fates : List Fate}

/-- It does not matter which files are named besides. -/
theorem with_files (files : List String) (h : Handled o p names w fates final) :
    Handled { o with files } p names w fates final := by
  induction h with
  | nil w => exact .nil w
  | cons found left _ ih => exact .cons found left ih

/-- Batches can be put together. -/
theorem append {more : List String} {fates' : List Fate} {next : Output}
    (h : Handled o p names w fates next) (h' : Handled o p more next fates' final) :
    Handled o p (names ++ more) w (fates ++ fates') final := by
  induction h with
  | nil => exact h'
  | cons found left _ ih => exact .cons found left (ih h')

/-- **A file at its turn** meets what the files before it left behind, and leaves behind what the files
after it meet. -/
theorem at_turn {before after : List String} {name : String}
    (h : Handled o p (before ++ name :: after) w fates final) :
    ∃ fate here next, fates[before.length]? = some fate ∧
      Handled o p before w (fates.take before.length) here ∧
      fate? p here.files name = some fate ∧
      fate.leaves? (o.target? (Path.ofString name)) here = some next ∧
      Handled o p after next (fates.drop (before.length + 1)) final := by
  induction before generalizing w fates with
  | nil =>
    cases h with
    | cons found left rest => exact ⟨_, w, _, rfl, .nil w, found, left, rest⟩
  | cons first before ih =>
    cases h with
    | cons found left rest =>
      obtain ⟨fate, here, next, at_name, earlier, found', left', later⟩ := ih rest
      exact ⟨fate, here, next, at_name, .cons found left earlier, found', left', later⟩

/-- **The files behind one that failed** go on from what the files before it left behind. -/
theorem around {before after : List String} {name : String} {fate : Fate}
    (h : Handled o p (before ++ name :: after) w fates final)
    (at_name : fates[before.length]? = some fate) (failed : fate.failed = true) :
    ∃ next, Handled o p before w (fates.take before.length) next ∧
      Handled o p after next (fates.drop (before.length + 1)) final := by
  obtain ⟨_, here, next, at_name', earlier, -, left, later⟩ := h.at_turn
  obtain rfl := Option.some.inj (at_name.symm.trans at_name')
  rw [Fate.leaves?_of_failed failed] at left
  obtain rfl := Option.some.inj left
  exact ⟨here, earlier, later⟩

end Handled

/-! ## Files that are ready -/

/-- **Ready file systems** for a batch: accepted files that can be read are text, and the targets in a
directory for the results are writable. -/
structure Options.Ready (o : Options) (p : Preprocessor Unit) (fs : FileSystem) : Prop where
  texts : ∀ name ∈ o.files, p.acceptsPath name = true →
    ∀ bytes, fs.read (Path.ofString name) = .ok bytes → ∃ chars, Utf8.decode bytes = .ok chars
  targets : ∀ directory, o.directory? = some directory → ∀ name ∈ o.files,
    p.acceptsPath name = true → fs.Writable (directory.join (Path.ofString name).name)

namespace Options.Ready

variable {o : Options} {p : Preprocessor Unit} {fs fs' : FileSystem} {name : String}

/-- A file system is still ready after a result was written. -/
theorem of_write (ready : o.Ready p fs) {target : Path} {text : List Char}
    (written : fs.write target (Utf8.encode text) = .ok fs') : o.Ready p fs' where
  texts name mem accepted bytes after := by
    rcases FileSystem.read_of_read_write written after with before | rfl
    · exact ready.texts name mem accepted bytes before
    · exact ⟨text, Utf8.decode_encode text⟩
  targets directory into name mem accepted :=
    (ready.targets directory into name mem accepted).of_write written

/-- In a ready file system each file has its fate. -/
theorem exists_fate (ready : o.Ready p fs) (mem : name ∈ o.files) :
    ∃ fate, fate? p fs name = some fate := by
  unfold fate?
  split
  · rename_i accepted
    cases read : fs.read (Path.ofString name) with
    | error fault => exact ⟨_, rfl⟩
    | ok bytes =>
      obtain ⟨chars, decoded⟩ := ready.texts name mem accepted bytes read
      dsimp only
      rw [decoded]
      dsimp only
      split
      · exact ⟨_, rfl⟩
      · exact ⟨_, rfl⟩
  · exact ⟨_, rfl⟩

/-- The target of a text that is let through is writable: in the place of its file, which was read, or
in the directory for the results. -/
theorem writable (ready : o.Ready p fs) (mem : name ∈ o.files) {text : String}
    (found : fate? p fs name = some (.passed text)) {target : Path}
    (goal : o.target? (Path.ofString name) = some target) : fs.Writable target := by
  obtain ⟨accepted, bytes, -, -, read, -⟩ := exists_formatted found
  unfold Options.target? at goal
  split at goal
  · obtain rfl := Option.some.inj goal
    exact FileSystem.writable_of_read read
  · obtain ⟨directory, into, rfl⟩ := Option.map_eq_some_iff.mp goal
    exact ready.targets directory into name mem accepted

/-- **A result finds its target** in a ready file system, and leaves a ready one behind. -/
theorem exists_leaves (ready : o.Ready p fs) (mem : name ∈ o.files) {fate : Fate}
    (found : fate? p fs name = some fate) (printed : String) :
    ∃ w, fate.leaves? (o.target? (Path.ofString name)) ⟨fs, printed⟩ = some w ∧
      o.Ready p w.files := by
  have writable : ∀ text goal, fate = .passed text → o.target? (Path.ofString name) = some goal →
      fs.Writable goal := by
    rintro text goal rfl goes
    exact ready.writable mem found goes
  obtain ⟨w, left⟩ := Fate.exists_leaves? (w := ⟨fs, printed⟩) writable
  refine ⟨w, left, ?_⟩
  rcases Fate.leaves?_cases left with ⟨text, goal, -, -, written⟩ | ⟨-, same⟩
  · exact ready.of_write written
  · rw [same]
    exact ready

/-- **A batch is handled** in a ready file system. -/
theorem exists_handled {names : List String} (mem : ∀ name ∈ names, name ∈ o.files) {w : Output}
    (ready : o.Ready p w.files) : ∃ fates final, Handled o p names w fates final := by
  induction names generalizing w with
  | nil => exact ⟨[], w, .nil w⟩
  | cons name names ih =>
    obtain ⟨fate, found⟩ := ready.exists_fate (mem name List.mem_cons_self)
    obtain ⟨next, left, still⟩ := ready.exists_leaves (mem name List.mem_cons_self) found w.printed
    obtain ⟨fates, final, rest⟩ := ih (fun n h => mem n (List.mem_cons_of_mem name h)) still
    exact ⟨fate :: fates, final, .cons found left rest⟩

end Options.Ready

/-! ## Runs -/

section Session

variable {α : Type} {glossary : Pattern.Glossary} (stamp : String)
variable {environ : List (String × String)} {o : Options}
variable {p : Preprocessor Unit}

/-- Behind a quiet action a run has the same to show. -/
theorem run_quiet_bind {β : Type} {x : StateM Session β} (quiet : Quiet x)
    (k : β → Run (StateM Session) α) (s : Session) :
    ∃ s', s'.output = s.output ∧ (ExceptT.lift x >>= k).run s = (k (x s).1).run s' := by
  obtain ⟨files, out⟩ := quiet s
  refine ⟨(x s).2, ?_, ?_⟩
  · rw [Session.output, Session.output, files, out]
  · rw [run_bind, run_lift]

/-- **Runs that return** a value, and what they have to show then. -/
def Shows (w : Run (StateM Session) α) (s : Session) (a : α) (output : Output) : Prop :=
  ∃ s', w.run s = (.ok a, s') ∧ s'.output = output

/-- A run that returns shows what there was to show. -/
theorem shows_pure (a : α) (s : Session) : Shows (pure a) s a s.output := ⟨s, rfl, rfl⟩

/-- Behind a part that returned, a run shows what is left of it does. -/
theorem Shows.after {β : Type} {w : Run (StateM Session) α} {s s₁ : Session} {a : α}
    (returned : w.run s = (.ok a, s₁)) {k : α → Run (StateM Session) β} {b : β} {output : Output}
    (h : Shows (k a) s₁ b output) : Shows (w >>= k) s b output := by
  obtain ⟨s₂, returned₂, shown⟩ := h
  refine ⟨s₂, ?_, shown⟩
  rw [run_bind, returned]
  exact returned₂

/-- **Runs that come down to another one**: what they do before is quiet. -/
def ComesTo (w : Run (StateM Session) α) (s : Session) (w' : Run (StateM Session) α) : Prop :=
  ∃ s', s'.output = s.output ∧ w.run s = w'.run s'

/-- A run comes down to itself. -/
theorem ComesTo.rfl {w : Run (StateM Session) α} {s : Session} : ComesTo w s w :=
  ⟨s, Eq.refl _, Eq.refl _⟩

/-- A quiet action can be left out. -/
theorem ComesTo.of_quiet {β : Type} {x : StateM Session β} (quiet : Quiet x)
    {k : β → Run (StateM Session) α} {s : Session} {w : Run (StateM Session) α}
    (h : ∀ s', s'.output = s.output → ComesTo (k (x s).1) s' w) :
    ComesTo (ExceptT.lift x >>= k) s w := by
  obtain ⟨s', same, eq⟩ := run_quiet_bind quiet k s
  obtain ⟨s₁, same₁, eq₁⟩ := h s' same
  exact ⟨s₁, same₁.trans same, eq.trans eq₁⟩

variable (environ p) in
/-- Text that was read gives the result of the gate, or its rejection as an error. -/
theorem receive_result (path : Path) {bytes : Bytes} {chars : List Char}
    (decoded : Utf8.decode bytes = .ok chars) :
    ∃ loader, (p.receive environ path (.ok bytes) ()).result =
      .ok ⟨loader, (p.gate.format (some path.toString) (String.ofList chars) ()).result.mapError
        fun r => r.toDiagnostic.withFile (some path.toString)⟩ := by
  refine ⟨Preprocessor.loaderOf (Path.ofString path.toString), ?_⟩
  unfold Preprocessor.receive
  dsimp only
  rw [decoded]
  dsimp only
  unfold Preprocessor.process
  dsimp only
  cases (p.gate.format (some path.toString) (String.ofList chars) ()).result <;> rfl

/-- **Delivering a result** shows what a file that is let through leaves behind. -/
theorem deliver_shows {path : Path} {target : Option Path} {text : String} {s : Session} {w : Output}
    (left : (Fate.passed text).leaves? target s.output = some w) :
    Shows (deliver (Session.host glossary stamp none) path target text) s () w := by
  unfold deliver
  cases target with
  | none =>
    obtain rfl := Option.some.inj left
    exact ⟨{ s with out := s.out ++ text }, rfl, rfl⟩
  | some target =>
    change ((s.files.write target (Utf8.encode text.toList)).toOption.map fun files =>
      { s.output with files }) = some w at left
    dsimp only
    rw [show (Session.host glossary stamp none).writeFile target (Utf8.encode text.toList) =
      Session.changeFiles (·.write target (Utf8.encode text.toList)) from rfl]
    cases written : s.files.write target (Utf8.encode text.toList) with
    | error fault =>
      rw [written] at left
      cases left
    | ok files =>
      rw [written] at left
      obtain rfl := Option.some.inj left
      let logged := (Session.host glossary stamp none).log (Command.written path target) { s with files }
      refine ⟨logged.2, ?_, rfl⟩
      rw [run_bind, run_orEscape, written]
      rfl

/-- **What is left to do** about a file whose fate is known: its result is delivered, if it has one. -/
def Fate.settle {m : Type → Type} [Monad m] (host : Host m) (path : Path) (target : Option Path) :
    Fate → Run m Bool
  | .passed text => do
    deliver host path target text
    return true
  | fate => return !fate.failed

variable (environ o) in
/-- **Processing a file** comes down to settling its fate. -/
theorem processFile_comesTo (interruption : Option Interruption) {name : String} {fate : Fate}
    {s : Session} (found : fate? p s.files name = some fate) :
    ComesTo (processFile (Session.host glossary stamp interruption) environ o p name) s
      (fate.settle (Session.host glossary stamp interruption) (Path.ofString name)
        (o.target? (Path.ofString name))) := by
  unfold processFile
  dsimp only
  rcases fate?_eq_some found with ⟨refused, rfl⟩ | ⟨accepted, loaded⟩
  · have skips : (!p.accepts (Path.ofString name).toString) = true := by
      simpa [Preprocessor.acceptsPath] using refused
    rw [if_pos skips]
    exact .of_quiet (quiet_log stamp interruption _) fun _ _ => .rfl
  · have goes_on : ¬ (!p.accepts (Path.ofString name).toString) = true := by
      simpa [Preprocessor.acceptsPath] using accepted
    rw [if_neg goes_on]
    refine .of_quiet (fun _ => ⟨rfl, rfl⟩) fun s₁ _ => ?_
    rw [show ((Session.host glossary stamp interruption).readFile (Path.ofString name) s).1 =
      s.files.read (Path.ofString name) from rfl]
    refine .of_quiet (quiet_logAll stamp interruption _) fun s₂ _ => ?_
    rcases loaded with ⟨fault, read, rfl⟩ | ⟨bytes, chars, read, decoded, outcome⟩
    · rw [read]
      exact .of_quiet (quiet_log stamp interruption _) fun _ _ => .rfl
    · obtain ⟨loader, result⟩ := receive_result environ p (Path.ofString name) decoded
      rw [read, result]
      refine .of_quiet (quiet_logAll stamp interruption _) fun s₃ _ => ?_
      split at outcome
      · rename_i r rejected
        subst outcome
        rw [rejected]
        exact .of_quiet (quiet_log stamp interruption _) fun _ _ => .rfl
      · rename_i f passed
        subst outcome
        rw [passed]
        exact .rfl

variable (environ) in
/-- **Processing a file** shows what the file leaves behind by its fate. -/
theorem processFile_shows {name : String} {fate : Fate} {s : Session} {w : Output}
    (found : fate? p s.files name = some fate)
    (left : fate.leaves? (o.target? (Path.ofString name)) s.output = some w) :
    Shows (processFile (Session.host glossary stamp none) environ o p name) s (!fate.failed) w := by
  obtain ⟨s₁, same, eq⟩ := processFile_comesTo stamp environ o none found
  rw [← same] at left
  cases fate with
  | passed text =>
    obtain ⟨s₂, delivered, shown⟩ := deliver_shows stamp left
    obtain ⟨s₃, settled, shown₃⟩ :=
      Shows.after (k := fun _ => pure true) delivered (shows_pure true s₂)
    exact ⟨s₃, eq.trans settled, shown₃.trans shown⟩
  | skipped => exact ⟨s₁, eq, Option.some.inj left⟩
  | unreadable => exact ⟨s₁, eq, Option.some.inj left⟩
  | rejected => exact ⟨s₁, eq, Option.some.inj left⟩

variable (environ) in
/-- **Processing files** shows what the batch leaves behind. -/
theorem processAll_shows {names : List String} {fates : List Fate} {s : Session} {final : Output}
    (handled : Handled o p names s.output fates final) :
    Shows (processAll (Session.host glossary stamp none) environ o p names) s (!fates.any Fate.failed)
      final := by
  induction names generalizing s fates with
  | nil =>
    cases handled
    exact shows_pure true s
  | cons name names ih =>
    cases handled with
    | cons found left rest =>
      rw [processAll, List.any_cons, Bool.not_or]
      obtain ⟨s₁, processed, shown⟩ := processFile_shows stamp environ found left
      obtain ⟨s₂, others, shown₂⟩ := ih (shown ▸ rest)
      exact .after processed (.after others (shown₂ ▸ shows_pure _ s₂))

/-- The exit status tells whether all went well. -/
theorem shows_status {w : Run (StateM Session) Bool} {failed : Bool} {s : Session} {final : Output}
    (h : Shows w s (!failed) final) :
    Shows (w >>= fun ok => pure (if ok = true then success else failure)) s
      (if failed then failure else success) final := by
  obtain ⟨s', returned, shown⟩ := h
  refine .after returned ?_
  cases failed with
  | false => exact shown ▸ shows_pure success s'
  | true => exact shown ▸ shows_pure failure s'

/-- **The file system that a batch meets**: a directory for the results is made first. -/
def Options.Prepares (o : Options) (before fs : FileSystem) : Prop :=
  match o.directory? with
  | some directory => before.makeDirectories directory = .ok fs
  | none => fs = before

variable (environ) in
/-- Unless results would clash, a run shows what its batch leaves behind. -/
theorem processFiles_shows
    (apart : ∀ directory, o.directory? = some directory → ¬ o.Clash p.accepts) {s : Session}
    {fs : FileSystem} (prepared : o.Prepares s.files fs) {fates : List Fate} {final : Output}
    (handled : Handled o p o.files ⟨fs, s.out⟩ fates final) :
    Shows (processFiles (Session.host glossary stamp none) environ o p) s
      (if fates.any Fate.failed then failure else success) final := by
  obtain ⟨s', status, shown⟩ :=
    shows_status (processAll_shows stamp environ (s := { s with files := fs }) handled)
  refine ⟨s', ?_, shown⟩
  unfold Options.Prepares at prepared
  unfold processFiles
  cases into : o.directory? with
  | none =>
    rw [into] at prepared
    subst prepared
    exact status
  | some directory =>
    rw [into] at prepared
    have none_found : o.clashes p = [] := Decidable.byContradiction fun found =>
      apart directory into ((o.clashes_ne_nil p).mp found)
    dsimp only
    rw [none_found, if_neg (by simp), run_bind,
      show (Session.host glossary stamp none).makeDirectories directory =
        Session.changeFiles (·.makeDirectories directory) from rfl, run_orEscape, prepared]
    exact status

/-- A run shows what its batch leaves behind. -/
theorem run_shows {argv : List String} (parsed : Options.parse argv = .ok o)
    (built : (o.preprocessor glossary environ).1 = .ok p)
    (apart : ∀ directory, o.directory? = some directory → ¬ o.Clash p.accepts) {s : Session}
    {fs : FileSystem} (prepared : o.Prepares s.files fs) (mode : Option LogMode)
    {fates : List Fate} {final : Output} (handled : Handled o p o.files ⟨fs, s.out⟩ fates final) :
    Shows (run (Session.host glossary stamp none) environ mode argv) s
      (if fates.any Fate.failed then failure else success) final := by
  obtain ⟨s', files, out, eq⟩ := run_eq_processFiles stamp none parsed built mode s
  rw [← files] at prepared
  rw [← out] at handled
  obtain ⟨s₁, returned, shown⟩ := processFiles_shows stamp environ apart prepared handled
  exact ⟨s₁, eq.trans returned, shown⟩

end Session

/-- **A batch is handled file by file**, if the targets are writable, and if the accepted files that
can be read are text.

Unless results would clash, a run handles every file in the order of the command line, and returns an
exit status: failure exactly if one of the files failed, because it could not be read or was rejected.
A file that failed leaves nothing behind, neither in the files nor on the standard output. It does not
matter to the others, either: a command line without it leaves the same behind. -/
theorem run_batch {argv : List String} {o : Options} {p : Preprocessor Unit}
    {environ : List (String × String)} (parsed : Options.parse argv = .ok o)
    (built : (o.preprocessor glossary environ).1 = .ok p)
    (apart : ∀ directory, o.directory? = some directory → ¬ o.Clash p.accepts) (s : Session)
    {fs : FileSystem} (prepared : o.Prepares s.files fs) (ready : o.Ready p fs) (stamp : String)
    (mode : Option LogMode) :
    let outcome := (run (Session.host glossary stamp none) environ mode argv).run s
    ∃ fates, Handled o p o.files ⟨fs, s.out⟩ fates outcome.2.output ∧
      outcome.1 = .ok (if fates.any Fate.failed then failure else success) ∧
      ∀ before name after fate, o.files = before ++ name :: after →
        fates[before.length]? = some fate → fate.failed = true →
        (∃ next, Handled o p before ⟨fs, s.out⟩ (fates.take before.length) next ∧
          Handled o p after next (fates.drop (before.length + 1)) outcome.2.output) ∧
        ∀ argv', Options.parse argv' = .ok { o with files := before ++ after } →
          let outcome' := (run (Session.host glossary stamp none) environ mode argv').run s
          outcome'.1 =
            .ok (if (fates.eraseIdx before.length).any Fate.failed then failure else success) ∧
          outcome'.2.output = outcome.2.output := by
  obtain ⟨fates, final, handled⟩ := ready.exists_handled (fun _ mem => mem) (w := ⟨fs, s.out⟩)
  obtain ⟨s', returned, shown⟩ := run_shows stamp parsed built apart prepared mode handled
  rw [returned]
  subst shown
  refine ⟨fates, handled, rfl, ?_⟩
  intro before name after fate files at_name failed
  rw [files] at handled
  obtain ⟨next, earlier, later⟩ := handled.around at_name failed
  refine ⟨⟨next, earlier, later⟩, ?_⟩
  intro argv' parsed'
  have apart' : ∀ directory, o.directory? = some directory →
      ¬ { o with files := before ++ after }.Clash p.accepts := by
    rintro directory into ⟨a, ha, b, hb, clash⟩
    have mem {c : String} (hc : c ∈ before ++ after) : c ∈ o.files := by
      rw [files]
      simp only [List.mem_append, List.mem_cons] at hc ⊢
      exact hc.imp_right .inr
    exact apart directory into ⟨a, mem ha, b, mem hb, clash⟩
  obtain ⟨s₁, returned', shown'⟩ := run_shows stamp parsed' built apart' prepared mode
    ((earlier.append later).with_files _)
  rw [returned', List.eraseIdx_eq_take_drop_succ]
  exact ⟨rfl, shown'⟩

/-! ## Files that fail, and a file that is malformed -/

/-- A command line without switches that matter here. -/
def plainLine (files : List String) : List String := files ++ ["--no-env"]

/-- What it asks for. -/
def plainOptions (files : List String) : Options := { files, noEnv := true }

/-- A session with a text that is rejected, one that is let through, and a malformed file. -/
def mixedSession : Session where
  files :=
    { entries :=
        [(["err.ts"], .file (Utf8.encode "///#if A\n".toList)),
          (["good.ts"], .file (Utf8.encode "ok\n".toList)), (["bad.ts"], .file [0xFF])] }

/-- Reading the command line gives the options. -/
theorem parse_plain {files : List String} (nonempty : files ≠ [])
    (undashed : ∀ name ∈ files, name.toList.head? ≠ some '-') :
    Options.parse (plainLine files) = .ok (plainOptions files) := by
  have classified : Argument.classify ["--no-env"] =
      .ok [⟨"--no-env", .switch .noEnv false none⟩] := eq_ok_of_toOption_eq_some (by decide)
  rw [plainLine, Options.parse_files nonempty undashed classified (by decide)]
  simp only [Reading.read]
  rfl

/-- The command line asks for the usual preprocessor. -/
theorem plain_preprocessor (files : List String) :
    (plainOptions files).preprocessor .empty [] = (.ok .usual, []) :=
  Options.preprocessor_usual rfl

/-- **A missing file** makes the run fail, and does not matter to the files behind it. -/
theorem run_batch_mixed :
    let outcome := (run (Session.host .empty "" none) [] none
      (plainLine ["gone.ts", "err.ts", "good.ts"])).run mixedSession
    let outcome' := (run (Session.host .empty "" none) [] none
      (plainLine ["err.ts", "good.ts"])).run mixedSession
    outcome.1 = .ok failure ∧ outcome'.2.output = outcome.2.output := by
  have parsed : Options.parse (plainLine ["gone.ts", "err.ts", "good.ts"]) =
      .ok (plainOptions ["gone.ts", "err.ts", "good.ts"]) := parse_plain (by decide) (by decide)
  have parsed' : Options.parse (plainLine ["err.ts", "good.ts"]) =
      .ok (plainOptions ["err.ts", "good.ts"]) := parse_plain (by decide) (by decide)
  have built := congrArg Prod.fst (plain_preprocessor ["gone.ts", "err.ts", "good.ts"])
  have accepted : Preprocessor.usual.acceptsPath "gone.ts" = true := by
    decide
  have missing (bytes : Bytes) :
      mixedSession.files.read (Path.ofString "gone.ts") ≠ .ok bytes := by
    have none_found : (mixedSession.files.read (Path.ofString "gone.ts")).toOption = none := by
      decide
    intro read
    rw [read] at none_found
    cases none_found
  have ready : (plainOptions ["gone.ts", "err.ts", "good.ts"]).Ready .usual mixedSession.files :=
    { texts := by
        intro name mem _ bytes read
        simp only [plainOptions, List.mem_cons, List.not_mem_nil, or_false] at mem
        obtain rfl | rfl | rfl := mem
        · exact absurd read (missing bytes)
        · have found : mixedSession.files.read (Path.ofString "err.ts") =
              .ok (Utf8.encode "///#if A\n".toList) := eq_ok_of_toOption_eq_some (by decide)
          rw [← Except.ok.inj (found.symm.trans read)]
          exact ⟨_, Utf8.decode_encode _⟩
        · have found : mixedSession.files.read (Path.ofString "good.ts") =
              .ok (Utf8.encode "ok\n".toList) := eq_ok_of_toOption_eq_some (by decide)
          rw [← Except.ok.inj (found.symm.trans read)]
          exact ⟨_, Utf8.decode_encode _⟩
      targets := nofun }
  obtain ⟨fates, handled, status, others⟩ :=
    run_batch parsed built nofun mixedSession rfl ready "" none
  -- The first file is missing, so that its fate is known.
  obtain ⟨fate, at_name, failed⟩ : ∃ fate, fates[0]? = some fate ∧ fate.failed = true := by
    generalize ((run (Session.host .empty "" none) [] none _).run mixedSession).2.output = final
      at handled
    cases handled with
    | cons found left rest =>
      rcases fate?_eq_some found with ⟨refused, -⟩ | ⟨-, ⟨fault, -, rfl⟩ | ⟨bytes, chars, read, -⟩⟩
      · rw [accepted] at refused
        cases refused
      · exact ⟨_, rfl, rfl⟩
      · exact absurd read (missing bytes)
  have any : fates.any Fate.failed = true :=
    List.any_eq_true.mpr ⟨fate, List.mem_of_getElem? at_name, failed⟩
  rw [any, if_pos rfl] at status
  exact ⟨status, ((others [] "gone.ts" ["err.ts", "good.ts"] fate rfl at_name failed).2 _ parsed').2⟩

/-- **A malformed file ends the run**: it has no fate, there is no exit status, and the file behind it,
which would have been let through, is not handled. -/
theorem run_escapes :
    ∃ s, (run (Session.host .empty "" none) [] none (plainLine ["bad.ts", "good.ts"])).run
        mixedSession =
        (.error (.encoding ⟨0xFF, 0, 1, .start⟩), s) ∧ s.out = "" ∧
      ((run (Session.host .empty "" none) [] none (plainLine ["good.ts"])).run mixedSession).2.out =
        "ok\n" := by
  have parsed : Options.parse (plainLine ["bad.ts", "good.ts"]) =
      .ok (plainOptions ["bad.ts", "good.ts"]) := parse_plain (by decide) (by decide)
  have parsed' : Options.parse (plainLine ["good.ts"]) = .ok (plainOptions ["good.ts"]) :=
    parse_plain (by decide) (by decide)
  have done : (let (status, s) :=
        (run (Session.host .empty "" none) [] none (plainLine ["bad.ts", "good.ts"])).run mixedSession
      (match status with | .error e => some e | .ok _ => none, s.out)) =
      (some (.encoding ⟨0xFF, 0, 1, .start⟩), "") := by
    rw [run_of_built "" none parsed (plain_preprocessor _)]
    decide
  have alone : ((run (Session.host .empty "" none) [] none (plainLine ["good.ts"])).run
      mixedSession).2.out = "ok\n" := by
    rw [run_of_built "" none parsed' (plain_preprocessor _)]
    decide +kernel
  rcases eq : (run (Session.host .empty "" none) [] none (plainLine ["bad.ts", "good.ts"])).run
    mixedSession with ⟨status, s⟩
  rw [eq] at done
  simp only [Prod.mk.injEq] at done
  obtain ⟨escaped, printed⟩ := done
  cases status with
  | ok status => cases escaped
  | error e => exact ⟨s, by rw [Option.some.inj escaped], printed, alone⟩

end Command

end LineGate
