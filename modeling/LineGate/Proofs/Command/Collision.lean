import LineGate.Command.Run
import LineGate.Proofs.Command.Arguments
import LineGate.Proofs.Document.Marked
import LineGate.Proofs.File.System

/-! # Results in one directory

With a directory for the results, the result for a file is written under the last name of its path.
Files of the same name would overwrite each other's results, and so the command looks for **clashes**
before it writes anything: two different paths of the same name among the files that are accepted.

This file says what that guards against. What a run writes is described by its **deliveries**, one for
each result that reached its target (`Delivered`), each of which comes from a file that was accepted
(`Delivery.Of`). If no accepted paths clash, two deliveries to the same target come from the same path,
so that no result is lost to another one; and if some do, the run ends as misuse, and nothing is written
(`run_into_directory`).

There is one gap. The search for clashes accepts files by their **spelling** on the command line, while
the files are processed by their **path**, so that a file filter which tells the spellings of a path
apart can hide a clash (`run_overwrites`). -/

namespace LineGate

/-- Whether a file is accepted **by its path**, however it is spelled. -/
def Preprocessor.acceptsPath {σ : Type} (p : Preprocessor σ) (name : String) : Bool :=
  p.accepts (Path.ofString name).toString

namespace Command

/-! ## Clashes -/

/-- Clashes that were found stay found. -/
theorem clashesFrom_ne_nil (seen : List (String × Path)) {found : List String} (h : found ≠ [])
    (paths : List Path) : clashesFrom seen found paths ≠ [] := by
  induction paths generalizing seen found with
  | nil => exact fun eq => h (List.reverse_eq_nil_iff.mp eq)
  | cons p rest ih =>
    rw [clashesFrom]
    split
    · exact ih _ h
    · split
      · exact ih _ h
      · exact ih _ (List.cons_ne_nil _ _)

/-- A path **fits** the paths that were seen if it is the one that was seen under its name. -/
def Fits (seen : List (String × Path)) (p : Path) : Prop :=
  ∀ earlier, seen.lookup p.name = some earlier → earlier = p

/-- To fit one more path is not to clash with it. -/
theorem fits_cons {seen : List (String × Path)} {p : Path} (fresh : seen.lookup p.name = none)
    (q : Path) : Fits ((p.name, p) :: seen) q ↔ (p.name = q.name → p = q) ∧ Fits seen q := by
  unfold Fits
  rw [List.lookup_cons]
  by_cases same : q.name = p.name
  · simp [same, fresh]
  · simp [beq_false_of_ne same, Ne.symm same]

/-- No clash is found exactly if all paths fit those that were seen, and each other. -/
theorem clashesFrom_eq_nil (seen : List (String × Path)) (paths : List Path) :
    clashesFrom seen [] paths = [] ↔
      (∀ p ∈ paths, Fits seen p) ∧ paths.Pairwise fun p q => p.name = q.name → p = q := by
  induction paths generalizing seen with
  | nil => simp [clashesFrom]
  | cons p rest ih =>
    rw [clashesFrom, List.forall_mem_cons, List.pairwise_cons]
    cases found : seen.lookup p.name with
    | none =>
      -- From now on `p` is the path seen under its name.
      have fits : Fits seen p := fun earlier eq => by
        rw [found] at eq
        cases eq
      have now : (∀ q ∈ rest, Fits ((p.name, p) :: seen) q) ↔
          (∀ q ∈ rest, p.name = q.name → p = q) ∧ ∀ q ∈ rest, Fits seen q := by
        simp only [fits_cons found, forall_and]
      dsimp only
      rw [ih, now]
      constructor
      · rintro ⟨⟨apart, earlier⟩, later⟩
        exact ⟨⟨fits, earlier⟩, apart, later⟩
      · rintro ⟨⟨-, earlier⟩, apart, later⟩
        exact ⟨⟨apart, earlier⟩, later⟩
    | some earlier =>
      dsimp only
      by_cases eq : earlier = p
      · subst eq
        have fits : Fits seen earlier := fun other eq => by
          rw [found] at eq
          exact (Option.some.inj eq).symm
        rw [if_pos (.inl rfl), ih]
        constructor
        · rintro ⟨others, later⟩
          refine ⟨⟨fits, others⟩, fun q hq same => others q hq earlier ?_, later⟩
          rw [← same, found]
        · rintro ⟨⟨-, others⟩, -, later⟩
          exact ⟨others, later⟩
      · -- The path clashes with the one seen before.
        have fresh : ¬ (earlier = p ∨ ([] : List String).contains p.name = true) := by
          rintro (same | listed)
          · exact eq same
          · cases listed
        rw [if_neg fresh]
        constructor
        · intro none
          exact absurd none (clashesFrom_ne_nil seen (List.cons_ne_nil _ _) rest)
        · rintro ⟨⟨fits, -⟩, -⟩
          exact absurd (fits earlier found) eq

/-- **There is no clash** exactly if paths of the same name are the same. -/
theorem clashes_eq_nil (paths : List Path) :
    clashes paths = [] ↔ ∀ p ∈ paths, ∀ q ∈ paths, p.name = q.name → p = q := by
  have fits (p : Path) : Fits [] p := fun _ eq => nomatch eq
  rw [clashes, clashesFrom_eq_nil, and_iff_right fun p _ => fits p]
  constructor
  · intro apart
    refine fun p hp q hq => apart.forall_of_forall_of_flip (fun _ _ _ => rfl) ?_ hp hq
    exact apart.imp fun h same => (h same.symm).symm
  · exact List.pairwise_of_forall_mem_list

/-- **Clashes of files**: two files are accepted that have the same name, but different paths. -/
def Options.Clash (o : Options) (accepts : String → Bool) : Prop :=
  ∃ a ∈ o.files, ∃ b ∈ o.files, accepts a = true ∧ accepts b = true ∧
    (Path.ofString a).name = (Path.ofString b).name ∧ Path.ofString a ≠ Path.ofString b

/-- Files clash also if more files are accepted. -/
theorem Options.Clash.mono {o : Options} {accepts more : String → Bool} (h : o.Clash accepts)
    (le : ∀ name ∈ o.files, accepts name = true → more name = true) : o.Clash more := by
  obtain ⟨a, ha, b, hb, accept_a, accept_b, clash⟩ := h
  exact ⟨a, ha, b, hb, le a ha accept_a, le b hb accept_b, clash⟩

/-- The command finds the clashes of the files that are accepted by their spelling. -/
theorem Options.clashes_ne_nil (o : Options) (p : Preprocessor Unit) :
    o.clashes p ≠ [] ↔ o.Clash p.accepts := by
  rw [Options.clashes, Ne, clashes_eq_nil]
  constructor
  · refine fun clash => Classical.byContradiction fun none => clash fun x hx y hy same => ?_
    obtain ⟨a, ha, rfl⟩ := List.mem_map.mp hx
    obtain ⟨b, hb, rfl⟩ := List.mem_map.mp hy
    obtain ⟨ha, accept_a⟩ := List.mem_filter.mp ha
    obtain ⟨hb, accept_b⟩ := List.mem_filter.mp hb
    refine Decidable.byContradiction fun ne => ?_
    exact none ⟨a, ha, b, hb, accept_a, accept_b, same, ne⟩
  · rintro ⟨a, ha, b, hb, accept_a, accept_b, same, ne⟩ none
    refine ne (none _ ?_ _ ?_ same)
    · exact List.mem_map.mpr ⟨a, List.mem_filter.mpr ⟨ha, accept_a⟩, rfl⟩
    · exact List.mem_map.mpr ⟨b, List.mem_filter.mpr ⟨hb, accept_b⟩, rfl⟩

/-! ## Deliveries -/

/-- **Deliveries**: the result for an input, which was written to a target. -/
structure Delivery where
  input : Path
  target : Path
  content : Bytes

/-- **What deliveries make of a file system**, one after the other. -/
inductive Delivered : FileSystem → List Delivery → FileSystem → Prop where
  | nil (fs : FileSystem) : Delivered fs [] fs
  | cons {fs next final : FileSystem} {d : Delivery} {ds : List Delivery}
      (written : fs.write d.target d.content = .ok next) (rest : Delivered next ds final) :
      Delivered fs (d :: ds) final

/-- Deliveries can be put together. -/
theorem Delivered.append {fs next final : FileSystem} {ds more : List Delivery}
    (h : Delivered fs ds next) (hm : Delivered next more final) : Delivered fs (ds ++ more) final := by
  induction h with
  | nil fs => exact hm
  | cons written _ ih => exact .cons written (ih hm)

/-- What is read from a file in a directory after deliveries into it was there before, or is the
content of one of those with this target. -/
theorem Delivered.read_or {directory target : Path} {fs final : FileSystem} {ds : List Delivery}
    (h : Delivered fs ds final) (into : ∀ d ∈ ds, d.target.In directory) (inside : target.In directory)
    {content : Bytes} (before : fs.read target = .ok content) :
    final.read target = .ok content ∨
      ∃ d ∈ ds, d.target = target ∧ final.read target = .ok d.content := by
  induction h generalizing content with
  | nil fs => exact .inl before
  | @cons fs next final d ds written _ ih =>
    have ih := @ih fun d' hd => into d' (List.mem_cons_of_mem d hd)
    have later : (∃ d' ∈ ds, d'.target = target ∧ final.read target = .ok d'.content) →
        ∃ d' ∈ d :: ds, d'.target = target ∧ final.read target = .ok d'.content := by
      rintro ⟨d', hd, found⟩
      exact ⟨d', List.mem_cons_of_mem d hd, found⟩
    by_cases eq : d.target = target
    · -- The content is replaced by that of the delivery.
      rw [eq] at written
      rcases ih (FileSystem.read_of_write written) with left | found
      · exact .inr ⟨d, List.mem_cons_self, eq, left⟩
      · exact .inr (later found)
    · have kept : next.read target = .ok content :=
        FileSystem.read_write_of_in (into d List.mem_cons_self) inside eq written before
      exact (ih kept).imp_right later

/-- **What was delivered is still there**, unless something else was delivered to the same target. -/
theorem Delivered.read {directory : Path} {fs final : FileSystem} {ds : List Delivery}
    (h : Delivered fs ds final) (into : ∀ d ∈ ds, d.target.In directory) :
    ∀ d ∈ ds, ∃ d' ∈ ds, d'.target = d.target ∧ final.read d.target = .ok d'.content := by
  induction h with
  | nil fs => exact fun _ h => nomatch h
  | @cons fs next final d ds written rest ih =>
    have into_rest : ∀ d' ∈ ds, d'.target.In directory :=
      fun d' hd => into d' (List.mem_cons_of_mem d hd)
    intro d' mem
    rcases List.mem_cons.mp mem with rfl | hd
    · rcases rest.read_or into_rest (into d' List.mem_cons_self) (FileSystem.read_of_write written)
        with left | ⟨later, hl, found⟩
      · exact ⟨d', List.mem_cons_self, rfl, left⟩
      · exact ⟨later, List.mem_cons_of_mem d' hl, found⟩
    · obtain ⟨later, hl, found⟩ := ih into_rest d' hd
      exact ⟨later, List.mem_cons_of_mem d hl, found⟩

/-- **Deliveries of a run** into a directory: the input is one of the files and accepted by its path,
the target is under its name in the directory, and the content is the result of loading it. -/
structure Delivery.Of (environ : List (String × String)) (o : Options) (p : Preprocessor Unit)
    (directory : Path) (d : Delivery) : Prop where
  named : ∃ name ∈ o.files, p.acceptsPath name = true ∧ d.input = Path.ofString name
  target_eq : d.target = directory.join d.input.name
  content_eq : ∃ fs loader f, (p.load environ fs d.input ()).result = .ok ⟨loader, .ok f⟩ ∧
    d.content = Utf8.encode f.text.toList

/-- Deliveries of a run go into the directory. -/
theorem Delivery.Of.target_in {environ : List (String × String)} {o : Options}
    {p : Preprocessor Unit} {directory : Path} {d : Delivery} (h : d.Of environ o p directory) :
    d.target.In directory := by
  obtain ⟨name, -, -, eq⟩ := h.named
  exact ⟨name, by rw [h.target_eq, eq]⟩

/-- **Deliveries do not overwrite each other's results** if no accepted paths clash. -/
theorem Delivery.Of.input_eq {environ : List (String × String)} {o : Options}
    {p : Preprocessor Unit} {directory : Path} {d d' : Delivery} (none : ¬ o.Clash p.acceptsPath)
    (h : d.Of environ o p directory) (h' : d'.Of environ o p directory)
    (same : d.target = d'.target) : d.input = d'.input := by
  obtain ⟨a, ha, accept_a, eq_a⟩ := h.named
  obtain ⟨b, hb, accept_b, eq_b⟩ := h'.named
  rw [h.target_eq, h'.target_eq, eq_a, eq_b] at same
  rw [eq_a, eq_b]
  refine Decidable.byContradiction fun ne => ?_
  exact none ⟨a, ha, b, hb, accept_a, accept_b, Path.name_eq_of_join_eq same, ne⟩

/-! ## Actions of a session -/

section Session

variable {α β : Type}

/-- A run in two parts goes on with its second part where the first one ended. -/
theorem run_bind (w : Run (StateM Session) α) (k : α → Run (StateM Session) β) (s : Session) :
    (w >>= k).run s =
      match w.run s with
      | (.ok a, s') => (k a).run s'
      | (.error e, s') => (.error e, s') := by
  change (ExceptT.bindCont k (w.run s).1 : StateM Session _) (w.run s).2 = _
  rcases w.run s with ⟨_ | _, s'⟩ <;> rfl

/-- An action of the session does not end a run. -/
theorem run_lift (x : StateM Session α) (s : Session) :
    (ExceptT.lift x : Run (StateM Session) α).run s = (.ok (x s).1, (x s).2) :=
  rfl

/-- **Quiet actions** touch neither the files nor the standard output. -/
def Quiet (x : StateM Session α) : Prop :=
  ∀ s, (x s).2.files = s.files ∧ (x s).2.out = s.out

variable {glossary : Pattern.Glossary} (stamp : String) (interruption : Option Interruption)

/-- Writing to the log is quiet. -/
theorem quiet_log (r : Log.Record) : Quiet ((Session.host glossary stamp interruption).log r) :=
  fun _ => ⟨rfl, rfl⟩

/-- Writing several records to the log is quiet. -/
theorem quiet_logAll (records : List Log.Record) :
    Quiet (logAll (Session.host glossary stamp interruption) records) := by
  induction records with
  | nil => exact fun _ => ⟨rfl, rfl⟩
  | cons r rest ih =>
    intro s
    obtain ⟨files, out⟩ := ih ((Session.host glossary stamp interruption).log r s).2
    exact ⟨files, out⟩

/-- **Runs that deliver** nothing but what is said. -/
def Delivers (only : Delivery → Prop) (w : Run (StateM Session) α) : Prop :=
  ∀ s, ∃ ds, Delivered s.files ds (w.run s).2.files ∧ ∀ d ∈ ds, only d

variable {only : Delivery → Prop}

/-- A run that returns delivers nothing. -/
theorem delivers_pure (a : α) : Delivers only (pure a : Run (StateM Session) α) :=
  fun s => ⟨[], .nil s.files, fun _ h => nomatch h⟩

/-- A run that ends before its time delivers nothing. -/
theorem delivers_throw (e : Escape) : Delivers only (throw e : Run (StateM Session) α) :=
  fun s => ⟨[], .nil s.files, fun _ h => nomatch h⟩

/-- A quiet action delivers nothing. -/
theorem Quiet.delivers {x : StateM Session α} (h : Quiet x) :
    Delivers only (ExceptT.lift x : Run (StateM Session) α) := by
  intro s
  refine ⟨[], ?_, fun _ h => nomatch h⟩
  change Delivered s.files [] (x s).2.files
  rw [(h s).1]
  exact .nil s.files

/-- A run in two parts delivers what both parts deliver. -/
theorem Delivers.bind {w : Run (StateM Session) α} {k : α → Run (StateM Session) β}
    (h : Delivers only w) (hk : ∀ a, Delivers only (k a)) : Delivers only (w >>= k) := by
  intro s
  obtain ⟨ds, delivered, all⟩ := h s
  rw [run_bind]
  rcases result : w.run s with ⟨e | a, s'⟩
  · rw [result] at delivered
    exact ⟨ds, delivered, all⟩
  · rw [result] at delivered
    obtain ⟨more, later, all'⟩ := hk a s'
    refine ⟨ds ++ more, delivered.append later, fun d hd => ?_⟩
    exact (List.mem_append.mp hd).elim (all d) (all' d)

/-- What is read is read from some file system. -/
theorem delivers_readFile_bind {path : Path} {k : Except FileFault Bytes → Run (StateM Session) α}
    (h : ∀ fs : FileSystem, Delivers only (k (fs.read path))) :
    Delivers only (ExceptT.lift ((Session.host glossary stamp interruption).readFile path) >>= k) := by
  intro s
  obtain ⟨ds, delivered, all⟩ := h s.files s
  exact ⟨ds, delivered, all⟩

/-- Changing the files ends the run if it fails. -/
theorem run_orEscape (change : FileSystem → Except FileFault FileSystem) (s : Session) :
    (orEscape (Session.changeFiles change)).run s =
      match change s.files with
      | .ok files => (.ok (), { s with files })
      | .error fault => (.error (.file fault), s) := by
  have changed : Session.changeFiles change s =
      match change s.files with
      | .ok files => (.ok (), { s with files })
      | .error fault => (.error fault, s) := by
    change (match change s.files with
      | .ok files => _
      | .error fault => _ : StateM Session (Except FileFault Unit)) s = _
    cases change s.files <;> rfl
  rw [orEscape, run_bind, run_lift, changed]
  cases change s.files <;> rfl

/-- Writing a file is a delivery, unless it fails. -/
theorem delivers_writeFile (d : Delivery) (h : only d) :
    Delivers only
      (orEscape ((Session.host glossary stamp interruption).writeFile d.target d.content)) := by
  intro s
  rw [show (Session.host glossary stamp interruption).writeFile d.target d.content =
    Session.changeFiles (·.write d.target d.content) from rfl, run_orEscape]
  cases written : s.files.write d.target d.content with
  | error fault => exact ⟨[], .nil s.files, fun _ h => nomatch h⟩
  | ok files =>
    refine ⟨[d], .cons written (.nil files), fun d' hd => ?_⟩
    rwa [List.mem_singleton.mp hd]

/-! ## Processing files -/

variable {environ : List (String × String)} {o : Options} {p : Preprocessor Unit} {directory : Path}

/-- With a directory for the results, every result has a target in it. -/
theorem target?_of_directory? (into : o.directory? = some directory) (path : Path) :
    o.target? path = some (directory.join path.name) := by
  unfold Options.target?
  rw [into, if_neg]
  · rfl
  · intro inPlace
    rw [Options.directory?, inPlace] at into
    cases into

/-- **Processing a file** delivers nothing but its result. -/
theorem processFile_delivers (into : o.directory? = some directory) {name : String}
    (mem : name ∈ o.files) :
    Delivers (Delivery.Of environ o p directory)
      (processFile (Session.host glossary stamp interruption) environ o p name) := by
  unfold processFile
  dsimp only
  split
  · exact (quiet_log stamp interruption _).delivers.bind fun _ => delivers_pure true
  · rename_i accepted
    refine delivers_readFile_bind stamp interruption fun fs => ?_
    refine (quiet_logAll stamp interruption _).delivers.bind fun _ => ?_
    split
    · exact (quiet_log stamp interruption _).delivers.bind fun _ => delivers_pure false
    · exact delivers_throw _
    · rename_i result loaded
      refine (quiet_logAll stamp interruption _).delivers.bind fun _ => ?_
      split
      · exact (quiet_log stamp interruption _).delivers.bind fun _ => delivers_pure false
      · rename_i f passed
        refine Delivers.bind ?_ fun _ => delivers_pure true
        rw [target?_of_directory? into, deliver]
        refine Delivers.bind ?_ fun _ => (quiet_log stamp interruption _).delivers
        -- The only way to here: the file was accepted by its path, and loading it gave a result.
        refine delivers_writeFile stamp interruption
          ⟨Path.ofString name, directory.join (Path.ofString name).name, _⟩
          ⟨⟨name, mem, by simpa [Preprocessor.acceptsPath] using accepted, rfl⟩, rfl, fs,
            result.loader, f, ?_, rfl⟩
        rw [Preprocessor.load, loaded]
        obtain ⟨loader, outcome⟩ := result
        cases passed
        rfl

/-- **Processing files** delivers nothing but their results. -/
theorem processAll_delivers (into : o.directory? = some directory) {names : List String}
    (mem : ∀ name ∈ names, name ∈ o.files) :
    Delivers (Delivery.Of environ o p directory)
      (processAll (Session.host glossary stamp interruption) environ o p names) := by
  induction names with
  | nil => exact delivers_pure true
  | cons name rest ih =>
    rw [processAll]
    refine (processFile_delivers stamp interruption into (mem name List.mem_cons_self)).bind
      fun ok => ?_
    refine (ih fun other h => mem other (List.mem_cons_of_mem name h)).bind fun others => ?_
    exact delivers_pure _

/-! ## The command -/

/-- **What a run does** with options that give a preprocessor. -/
theorem run_of_built {argv : List String} (parsed : Options.parse argv = .ok o)
    (built : o.preprocessor glossary environ = (.ok p, records)) (mode : Option LogMode) :
    let host := Session.host glossary stamp interruption
    let log := mode.getD (o.logMode environ)
    run host environ mode argv = (do
      ExceptT.lift (host.setUpLog log.json log.threshold)
      ExceptT.lift (logAll host records)
      processFiles host environ o p) := by
  intro host log
  rw [run, parsed]
  dsimp only
  rw [runWith, Session.host_glossary, built]

/-- A run gets to the files without touching them. -/
theorem run_eq_processFiles {argv : List String} (parsed : Options.parse argv = .ok o)
    (built : (o.preprocessor glossary environ).1 = .ok p) (mode : Option LogMode) (s : Session) :
    ∃ s', s'.files = s.files ∧ s'.out = s.out ∧
      (run (Session.host glossary stamp interruption) environ mode argv).run s =
        (processFiles (Session.host glossary stamp interruption) environ o p).run s' := by
  rcases eq : o.preprocessor glossary environ with ⟨result, records⟩
  rw [eq] at built
  cases built
  rw [run_of_built stamp interruption parsed eq, run_bind, run_lift]
  dsimp only
  rw [run_bind, run_lift]
  -- What comes before the files is to set up the log and to write to it.
  obtain ⟨files, out⟩ := quiet_logAll stamp interruption records
    ((Session.host glossary stamp interruption).setUpLog (mode.getD (o.logMode environ)).json
      (mode.getD (o.logMode environ)).threshold s).2
  exact ⟨_, files, out, rfl⟩

/-- **Options with a marker and a file filter** give the gate with the filter. -/
theorem Options.preprocessor_marked {source : String} {filter : Pattern} {marker : String}
    (settled : o.settings environ = (.ok (Gate.filtering marker source), records))
    (compiled : Pattern.compile glossary source = .ok filter) :
    o.preprocessor glossary environ = (.ok ⟨filter, Gate.marked marker⟩, records) := by
  -- The functions of the gate are those of the command: there are none.
  have built : Preprocessor.build glossary (Gate.filtering marker source) noFunctions environ =
      (.ok ⟨filter, Gate.marked marker⟩, []) :=
    Preprocessor.build_filtering compiled marker environ
  rw [Options.preprocessor, settled]
  dsimp only
  rw [built]
  dsimp only
  rw [List.append_nil]

/-- Options without any settings of their own give the usual preprocessor. -/
theorem Options.preprocessor_usual
    (settled : o.settings environ = (.ok (Gate.marking "//"), records)) :
    o.preprocessor glossary environ = (.ok .usual, records) :=
  Options.preprocessor_marked settled (Pattern.compile_scripts glossary)

/-- **Clashes are misuse**, and nothing is written. -/
theorem processFiles_of_clash (into : o.directory? = some directory) (clash : o.Clash p.accepts)
    (s : Session) :
    ((processFiles (Session.host glossary stamp interruption) environ o p).run s).1 = .ok misuse ∧
      ((processFiles (Session.host glossary stamp interruption) environ o p).run s).2.files = s.files ∧
      ((processFiles (Session.host glossary stamp interruption) environ o p).run s).2.out = s.out := by
  have found : (o.clashes p).isEmpty = false :=
    List.isEmpty_eq_false_iff.mpr ((o.clashes_ne_nil p).mpr clash)
  rw [processFiles, into]
  dsimp only
  rw [found]
  exact ⟨rfl, rfl, rfl⟩

variable (environ p) in
/-- Unless there are clashes, the directory is made, and then the results are delivered. -/
theorem processFiles_delivers (into : o.directory? = some directory) (s : Session) :
    ∃ fs ds, (fs = s.files ∨ s.files.makeDirectories directory = .ok fs) ∧
      Delivered fs ds
        ((processFiles (Session.host glossary stamp interruption) environ o p).run s).2.files ∧
      ∀ d ∈ ds, d.Of environ o p directory ∧ ¬ o.Clash p.accepts := by
  have all : Delivers (Delivery.Of environ o p directory) (do
      let ok ← processAll (Session.host glossary stamp interruption) environ o p o.files
      return if ok then success else failure) :=
    (processAll_delivers stamp interruption into fun _ h => h).bind fun _ => delivers_pure _
  rw [processFiles, into]
  dsimp only
  split
  · exact ⟨s.files, [], .inl rfl, .nil s.files, fun _ h => nomatch h⟩
  · rename_i passed
    -- The one place where something is delivered lies behind the search for clashes.
    have none : ¬ o.Clash p.accepts := by
      rw [← o.clashes_ne_nil p]
      simpa using passed
    rw [show (Session.host glossary stamp interruption).makeDirectories directory =
      Session.changeFiles (·.makeDirectories directory) from rfl, run_bind, run_orEscape]
    cases made : s.files.makeDirectories directory with
    | error fault => exact ⟨s.files, [], .inl rfl, .nil s.files, fun _ h => nomatch h⟩
    | ok fs =>
      obtain ⟨ds, delivered, of⟩ := all { s with files := fs }
      exact ⟨fs, ds, .inr rfl, delivered, fun d hd => ⟨of d hd, none⟩⟩

end Session

/-- **Results in one directory are safe**, if files that are accepted by their path are accepted as
they are spelled. A run on files that clash ends as misuse, and touches neither the files nor the
standard output. What any run does to the files is to make the directory and to deliver results; no two
results with the same target are those of different inputs, and in the end every target holds a result
of the input that it is for. -/
theorem run_into_directory {argv : List String} {o : Options} {directory : Path}
    {p : Preprocessor Unit} {environ : List (String × String)} (parsed : Options.parse argv = .ok o)
    (into : o.directory? = some directory) (built : (o.preprocessor glossary environ).1 = .ok p)
    (spelled : ∀ name ∈ o.files, p.acceptsPath name = true → p.accepts name = true)
    (stamp : String) (interruption : Option Interruption) (mode : Option LogMode) (s : Session) :
    let outcome := (run (Session.host glossary stamp interruption) environ mode argv).run s
    (o.Clash p.acceptsPath →
      outcome.1 = .ok misuse ∧ outcome.2.files = s.files ∧ outcome.2.out = s.out) ∧
    ∃ fs ds, (fs = s.files ∨ s.files.makeDirectories directory = .ok fs) ∧
      Delivered fs ds outcome.2.files ∧ (∀ d ∈ ds, d.Of environ o p directory) ∧
      (∀ d ∈ ds, ∀ d' ∈ ds, d.target = d'.target → d.input = d'.input) ∧
      ∀ d ∈ ds, ∃ d' ∈ ds, d'.input = d.input ∧
        outcome.2.files.read d.target = .ok d'.content := by
  obtain ⟨s', files, out, eq⟩ := run_eq_processFiles stamp interruption parsed built mode s
  rw [eq, ← files, ← out]
  constructor
  · intro clash
    exact processFiles_of_clash stamp interruption into (clash.mono spelled) s'
  · obtain ⟨fs, ds, made, delivered, of⟩ :=
      processFiles_delivers stamp interruption environ p into s'
    have same : ∀ d ∈ ds, ∀ d' ∈ ds, d.target = d'.target → d.input = d'.input := by
      intro d hd d' hd'
      have none : ¬ o.Clash p.acceptsPath := fun clash => (of d hd).2 (clash.mono spelled)
      exact (of d hd).1.input_eq none (of d' hd').1
    refine ⟨fs, ds, made, delivered, fun d hd => (of d hd).1, same, fun d hd => ?_⟩
    obtain ⟨d', hd', target, left⟩ := delivered.read (fun d hd => (of d hd).1.target_in) d hd
    exact ⟨d', hd', same d' hd' d hd target, left⟩

/-! ## Twins

Two files of the same name, of which the first one is spelled in one way or the other, under a filter
that tells the spellings apart. -/

/-- The command line for twins. -/
def twins (first : String) : List String :=
  [first, "b/x.ts", "--no-env", "--filter", "^[ab]/", "-o", "out"]

/-- What the command line for twins asks for. -/
def twinOptions (first : String) : Options where
  files := [first, "b/x.ts"]
  noEnv := true
  filter := some "^[ab]/"
  destination := .directory "out"

/-- A session with twins. -/
def twinSession : Session where
  files :=
    { entries :=
        [(["a"], .directory), (["a", "x.ts"], .file (Utf8.encode "first\n".toList)),
          (["b"], .directory), (["b", "x.ts"], .file (Utf8.encode "second\n".toList))] }

/-- Reading the command line gives the options. -/
theorem parse_twins {first : String} (undashed : first.toList.head? ≠ some '-') :
    Options.parse (twins first) = .ok (twinOptions first) := by
  have classified : Argument.classify ["--no-env", "--filter", "^[ab]/", "-o", "out"] =
      .ok [⟨"--no-env", .switch .noEnv false none⟩, ⟨"--filter", .switch .filter false none⟩,
        ⟨"^[ab]/", .plain⟩, ⟨"-o", .switch .outDir true none⟩, ⟨"out", .plain⟩] :=
    eq_ok_of_toOption_eq_some (by decide +kernel)
  have all : ∀ name ∈ [first, "b/x.ts"], name.toList.head? ≠ some '-' := by
    intro name mem
    obtain rfl | rfl := List.mem_pair.mp mem
    · exact undashed
    · decide
  refine (Options.parse_files (List.cons_ne_nil _ _) all classified (by decide)).trans ?_
  simp only [Reading.read]
  rfl

/-- The preprocessor for twins. -/
def twinPreprocessor : Preprocessor Unit where
  filter :=
    { source := "^[ab]/"
      regex := .seq (.assert .start) (.seq (.set false [.code 97, .code 98]) (.char '/'))
      names := [] }
  gate := Gate.marked "//"

/-- The command line for twins asks for it. -/
theorem twins_preprocessor (first : String) :
    (twinOptions first).preprocessor .empty [] = (.ok twinPreprocessor, []) :=
  Options.preprocessor_marked rfl
    (Standard.compile_eq_ok (by decide +kernel) (by decide +kernel) .empty)

/-- The preprocessor takes a path that starts with a single dot for another one. -/
theorem twins_accepts :
    twinPreprocessor.accepts "a/x.ts" = true ∧ twinPreprocessor.accepts "./a/x.ts" = false ∧
      twinPreprocessor.accepts "b/x.ts" = true := by
  decide +kernel

/-- Spelled alike, twins clash. -/
theorem run_into_directory_twins :
    let outcome := (run (Session.host .empty "" none) [] none (twins "a/x.ts")).run twinSession
    outcome.1 = .ok misuse ∧ outcome.2.files = twinSession.files ∧ outcome.2.out = "" := by
  have parsed : Options.parse (twins "a/x.ts") = .ok (twinOptions "a/x.ts") :=
    parse_twins (by decide)
  have built := congrArg Prod.fst (twins_preprocessor "a/x.ts")
  obtain ⟨accept_a, -, accept_b⟩ := twins_accepts
  have spelled : ∀ name ∈ (twinOptions "a/x.ts").files,
      twinPreprocessor.acceptsPath name = true → twinPreprocessor.accepts name = true := by
    intro name mem _
    simp only [twinOptions, List.mem_cons, List.not_mem_nil, or_false] at mem
    obtain rfl | rfl := mem
    · exact accept_a
    · exact accept_b
  have clash : (twinOptions "a/x.ts").Clash twinPreprocessor.acceptsPath :=
    ⟨"a/x.ts", by decide, "b/x.ts", by decide, accept_a, accept_b, by decide, by decide⟩
  exact (run_into_directory parsed rfl built spelled "" none none
    twinSession).1 clash

/-- **Spelled differently, twins overwrite each other's results.** They clash by their paths, but not
by their spelling; the run succeeds, both results are written, and the second one is left. -/
theorem run_overwrites :
    ∃ p s, Options.parse (twins "./a/x.ts") = .ok (twinOptions "./a/x.ts") ∧
      (twinOptions "./a/x.ts").directory? = some (Path.ofString "out") ∧
      ((twinOptions "./a/x.ts").preprocessor .empty []).1 = .ok p ∧
      (twinOptions "./a/x.ts").Clash p.acceptsPath ∧ ¬ (twinOptions "./a/x.ts").Clash p.accepts ∧
      (run (Session.host .empty "" none) [] none (twins "./a/x.ts")).run twinSession =
        (.ok success, s) ∧
      s.err = "INFO: ✔ a/x.ts → out/x.ts\nINFO: ✔ b/x.ts → out/x.ts\n" ∧
      s.files.read (Path.ofString "out/x.ts") = .ok (Utf8.encode "second\n".toList) := by
  have parsed : Options.parse (twins "./a/x.ts") = .ok (twinOptions "./a/x.ts") :=
    parse_twins (by decide)
  have built := twins_preprocessor "./a/x.ts"
  obtain ⟨accept_a, refuse_a, accept_b⟩ := twins_accepts
  have clash : (twinOptions "./a/x.ts").Clash twinPreprocessor.acceptsPath :=
    ⟨"./a/x.ts", by decide, "b/x.ts", by decide, accept_a, accept_b, by decide, by decide⟩
  -- The search for clashes gets to see the second file only.
  have unseen : ¬ (twinOptions "./a/x.ts").Clash twinPreprocessor.accepts := by
    rw [← Options.clashes_ne_nil, Options.clashes, twinOptions]
    simp only [List.filter_cons, refuse_a, accept_b, List.filter_nil]
    decide
  have done : (let (status, s) :=
        (run (Session.host .empty "" none) [] none (twins "./a/x.ts")).run twinSession
      (status.toOption, s.err, (s.files.read (Path.ofString "out/x.ts")).toOption)) =
      (some success, "INFO: ✔ a/x.ts → out/x.ts\nINFO: ✔ b/x.ts → out/x.ts\n",
        some (Utf8.encode "second\n".toList)) := by
    rw [run_of_built "" none parsed built]
    decide +kernel
  rcases eq : (run (Session.host .empty "" none) [] none (twins "./a/x.ts")).run twinSession with
    ⟨status, s⟩
  rw [eq] at done
  simp only [Prod.mk.injEq] at done
  obtain ⟨succeeded, logged, left⟩ := done
  rw [eq_ok_of_toOption_eq_some succeeded]
  exact ⟨twinPreprocessor, s, parsed, rfl, congrArg Prod.fst built, clash, unseen, rfl, logged,
    eq_ok_of_toOption_eq_some left⟩

end Command

end LineGate
