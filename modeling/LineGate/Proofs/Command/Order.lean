import Mathlib.Data.List.Pairwise
import Mathlib.Data.Option.Basic
import LineGate.Proofs.Command.Steady

/-! # The order of the files

As long as files spare each other, each is processed as it was before the run, and what becomes of an
entry of the file system is told by the files alone, however often and in which order they are named
(`run_order`). Files that do not clash spare each other where lines are filled with spaces, because a
text with blanked lines goes through as it is (`Options.spares_of_blank`).

Where lines are commented out, a file that is named twice and written over is commented out twice. And a
result that cannot be written cuts the run off. So names and their order do matter in general
(`run_order_matters`). -/

namespace LineGate

namespace Command

variable {o : Options} {p : Preprocessor Unit} {fs : FileSystem} {a b name : String}
variable {glossary : Pattern.Glossary}

/-! ## Command lines that name the same files -/

/-- **Files do not disturb each other** if each spares all others, named before or behind it. A file that
is named twice must spare itself. -/
def Options.Undisturbed (o : Options) (p : Preprocessor Unit) (fs : FileSystem)
    (files : List String) : Prop :=
  files.Pairwise fun a b => o.Spares p fs a b ∧ o.Spares p fs b a

/-- Files with the same path fill the same entry. -/
theorem Options.Fills.of_path_eq {entry : List String} {content : Bytes}
    (h : o.Fills p fs a entry content) (same : Path.ofString a = Path.ofString b) :
    o.Fills p fs b entry content := by
  unfold Options.Fills at h ⊢
  rwa [← fate?_of_path_eq same, ← same]

/-- **An entry is filled in one way**, if the files do not disturb each other and do not clash. -/
theorem Options.Fills.unique (undisturbed : o.Undisturbed p fs o.files)
    (apart : ∀ directory, o.directory? = some directory → ¬ o.Clash p.acceptsPath)
    (ha : a ∈ o.files) (hb : b ∈ o.files) {entry : List String} {content content' : Bytes}
    (h : o.Fills p fs a entry content) (h' : o.Fills p fs b entry content') :
    content = content' := by
  by_cases same : Path.ofString a = Path.ofString b
  · obtain ⟨text, -, passed, -, -, rfl⟩ := h.of_path_eq same
    obtain ⟨text', -, passed', -, -, rfl⟩ := h'
    rw [Fate.passed.inj (Option.some.inj (passed.symm.trans passed'))]
  · obtain ⟨text, goal, passed, goes, leads, rfl⟩ := h
    obtain ⟨text', goal', passed', goes', leads', rfl⟩ := h'
    obtain ⟨accepted, bytes, -, -, read, -⟩ := exists_formatted passed
    obtain ⟨accepted', bytes', -, -, read', -⟩ := exists_formatted passed'
    by_cases inPlace : o.destination = .inPlace
    · -- Both results go to the place of their file, so that the one lasts in the other's.
      have here (path : Path) : o.target? path = some path := by
        rw [Options.target?, if_pos inPlace]
      obtain rfl := Option.some.inj ((here _).symm.trans goes')
      have symm : Std.Symm fun a b => o.Spares p fs a b ∧ o.Spares p fs b a :=
        ⟨fun _ _ both => both.symm⟩
      have ne : a ≠ b := fun eq => same (congrArg Path.ofString eq)
      obtain ⟨lasts, -⟩ := (List.Pairwise.forall undisturbed ha hb ne).1 accepted' text passed
        ⟨goal, goes, entry, leads, leads'⟩
      rw [Fate.passed.inj (Option.some.inj (lasts.symm.trans passed'))]
    · -- Both results go into one directory, and so under the same name.
      rw [Options.target?, if_neg inPlace] at goes goes'
      obtain ⟨directory, into, rfl⟩ := Option.map_eq_some_iff.mp goes
      obtain ⟨_, into', rfl⟩ := Option.map_eq_some_iff.mp goes'
      obtain rfl := Option.some.inj (into.symm.trans into')
      have names_eq := FileSystem.name_eq_of_resolve leads leads' read read'
      exact absurd ⟨a, ha, b, hb, accepted, accepted', names_eq, same⟩ (apart directory into)

/-- Files are legible after a directory for the results was made, and have the same fates. -/
theorem Options.Prepares.keeps {before : FileSystem} (h : o.Prepares before fs)
    (legible : Legible p before name) :
    Legible p fs name ∧ fate? p fs name = fate? p before name := by
  have still {q : Path} {bytes : Bytes} (read : before.read q = .ok bytes) :
      fs.read q = .ok bytes := by
    unfold Options.Prepares at h
    split at h
    · exact FileSystem.read_of_makeDirectories h read
    · rw [h]
      exact read
  constructor
  · intro accepted
    obtain ⟨bytes, chars, read, decoded⟩ := legible accepted
    exact ⟨bytes, chars, still read, decoded⟩
  · refine fate?_of_read_eq fun accepted => ?_
    obtain ⟨bytes, -, read, -⟩ := legible accepted
    rw [read, still read]

/-! ## Lines that are filled with spaces -/

/-- **A blanked text lasts** in each file that holds what it came from. -/
theorem lasts_of_blank (blanks : p.gate.style = .blank) {text : String}
    (passed : fate? p fs a = some (.passed text)) (accepted : p.acceptsPath b = true)
    {bytes : Bytes} (read : fs.read (Path.ofString b) = .ok bytes)
    (same : fs.read (Path.ofString a) = .ok bytes) : Lasts p fs b text := by
  obtain ⟨-, _, chars, f, read_a, decoded, result, rfl⟩ := exists_formatted passed
  obtain rfl := Except.ok.inj (read_a.symm.trans same)
  obtain ⟨f', result', text_eq⟩ := p.gate.text_of_file result (some (Path.ofString b).toString)
  constructor
  · rw [← text_eq]
    refine fate?_of_text accepted ?_ result'
    rw [String.toList_ofList, Utf8.encode_of_decode decoded]
    exact read
  · -- It has no line left that opens a block.
    have still := p.gate.still_of_blanked blanks _ _ _ result
    obtain ⟨format_eq, -⟩ := p.gate.format_of_still still (some (Path.ofString b).toString) ()
    exact ⟨_, congrArg Gate.Passage.result format_eq, rfl⟩

/-- **Filled with spaces, files spare each other**, unless they clash. -/
theorem Options.spares_of_blank (blanks : p.gate.style = .blank)
    (apart : ∀ directory, o.directory? = some directory → ¬ o.Clash p.acceptsPath)
    (ha : a ∈ o.files) (hb : b ∈ o.files) (legible : Legible p fs b) : o.Spares p fs a b := by
  rintro accepted text passed ⟨goal, goes, hit⟩
  obtain ⟨bytes, -, read, -⟩ := legible accepted
  refine lasts_of_blank blanks passed accepted read ?_
  by_cases inPlace : o.destination = .inPlace
  · rw [Options.target?, if_pos inPlace] at goes
    obtain rfl := Option.some.inj goes
    exact hit.read read
  · -- In a directory the result has the name of its file, so that the two files are the same.
    rw [Options.target?, if_neg inPlace] at goes
    obtain ⟨directory, into, rfl⟩ := Option.map_eq_some_iff.mp goes
    obtain ⟨accepted_a, bytes_a, -, -, read_a, -⟩ := exists_formatted passed
    have names_eq := FileSystem.name_eq_of_sameEntry hit read_a read
    have paths_eq : Path.ofString a = Path.ofString b := Decidable.byContradiction fun ne =>
      apart directory into ⟨a, ha, b, hb, accepted_a, accepted, names_eq, ne⟩
    rw [paths_eq]
    exact read

/-- **Files do not disturb each other** where lines are filled with spaces, unless they clash. -/
theorem Options.undisturbed_of_style (styled : p.gate.style = o.style)
    (legible : ∀ name ∈ o.files, Legible p fs name)
    (apart : ∀ directory, o.directory? = some directory → ¬ o.Clash p.acceptsPath)
    (commented : o.fillSpaces = false → o.Undisturbed p fs o.files) :
    o.Undisturbed p fs o.files := by
  cases fills : o.fillSpaces with
  | false => exact commented fills
  | true =>
    have blanks : p.gate.style = .blank := by
      rw [styled, Options.style, if_pos fills]
    exact List.pairwise_of_forall_mem_list fun a ha b hb =>
      ⟨Options.spares_of_blank blanks apart ha hb (legible b hb),
        Options.spares_of_blank blanks apart hb ha (legible a ha)⟩

/-! ## The same files, named anew -/

/-- **Files that are covered** by others: each has the path of one of them. -/
def Covered (files others : List String) : Prop :=
  ∀ b ∈ files, ∃ a ∈ others, Path.ofString a = Path.ofString b

/-- Files whose paths are among those of others are covered by them. -/
theorem covered_of_paths {files others : List String}
    (among : ∀ path, path ∈ files.map Path.ofString → path ∈ others.map Path.ofString) :
    Covered files others :=
  fun _ mem => List.mem_map.mp (among _ (List.mem_map_of_mem mem))

section Covered

variable {names files : List String}

/-- Files that are covered by legible ones are legible. -/
theorem legible_of_covered (legible : ∀ name ∈ names, Legible p fs name)
    (covered : Covered files names) : ∀ name ∈ files, Legible p fs name := by
  intro b mem
  obtain ⟨a, mem_a, eq⟩ := covered b mem
  exact (legible a mem_a).of_path_eq eq

/-- Files that clash do so as well under other spellings. -/
theorem Options.Clash.of_covered (h : { o with files }.Clash p.acceptsPath)
    (covered : Covered files o.files) : o.Clash p.acceptsPath := by
  obtain ⟨a, ha, b, hb, accepted, accepted', names_eq, ne⟩ := h
  obtain ⟨a', ha', eq⟩ := covered a ha
  obtain ⟨b', hb', eq'⟩ := covered b hb
  refine ⟨a', ha', b', hb', (acceptsPath_congr eq).trans accepted,
    (acceptsPath_congr eq').trans accepted', ?_, ?_⟩
  · rw [eq, eq']
    exact names_eq
  · rw [eq, eq']
    exact ne

/-- The fates of a batch are those of its files. -/
theorem mem_fates_iff {fates : List Fate} (fates_eq : names.map (fate? p fs) = fates.map some)
    (fate : Fate) : fate ∈ fates ↔ ∃ name ∈ names, fate? p fs name = some fate := by
  rw [← List.mem_map, fates_eq, List.mem_map_of_injective (Option.some_injective Fate)]

/-- **A batch fails** if files that it covers fail. -/
theorem any_failed_of_covered {fates fates' : List Fate}
    (fates_eq : names.map (fate? p fs) = fates.map some)
    (fates_eq' : files.map (fate? p fs) = fates'.map some) (covered : Covered files names)
    (failed : fates'.any Fate.failed = true) : fates.any Fate.failed = true := by
  obtain ⟨fate, mem, failed⟩ := List.any_eq_true.mp failed
  obtain ⟨b, mem_b, found⟩ := (mem_fates_iff fates_eq' fate).mp mem
  obtain ⟨a, mem_a, eq⟩ := covered b mem_b
  refine List.any_eq_true.mpr ⟨fate, (mem_fates_iff fates_eq fate).mpr ⟨a, mem_a, ?_⟩, failed⟩
  exact (fate?_of_path_eq eq fs).trans found

/-- **Files that are covered by a batch are handled**, too. -/
theorem Handled.exists_of_covered {w final : Output} {fates : List Fate}
    (h : Handled o p names w fates final) (steady : Steady o p fs names w.files)
    (steady' : Steady o p fs files w.files) (covered : Covered files names) :
    ∃ fates' final', Handled o p files w fates' final' := by
  refine steady'.exists_handled fun b mem => ?_
  obtain ⟨a, mem_a, eq⟩ := covered b mem
  obtain ⟨fate, -, found⟩ : ∃ fate ∈ fates, some fate = fate? p fs a := by
    rw [← List.mem_map, ← h.fates_eq steady]
    exact List.mem_map_of_mem mem_a
  refine ⟨fate, (fate?_of_path_eq eq fs).symm.trans found.symm, ?_⟩
  rintro text goal rfl goes
  exact h.writable steady a mem_a text goal found.symm (eq ▸ goes)

end Covered

/-- **Files named anew**, in another order or more or less often, are handled to the same end. -/
theorem Handled.again {w final : Output} {fates : List Fate}
    (h : Handled o p o.files w fates final) (legible : ∀ name ∈ o.files, Legible p w.files name)
    (undisturbed : o.Undisturbed p w.files o.files)
    (apart : ∀ directory, o.directory? = some directory → ¬ o.Clash p.acceptsPath)
    {files : List String} (covered : Covered files o.files) (covers : Covered o.files files)
    (undisturbed' : o.Undisturbed p w.files files) :
    ∃ fates' final', Handled o p files w fates' final' ∧
      (fates'.any Fate.failed = true ↔ fates.any Fate.failed = true) ∧
      ∀ entry, final'.files.node? entry = final.files.node? entry := by
  have steady : Steady o p w.files o.files w.files := .refl legible (undisturbed.imp And.left)
  have steady' : Steady o p w.files files w.files :=
    .refl (legible_of_covered legible covered) (undisturbed'.imp And.left)
  obtain ⟨fates', final', h'⟩ := h.exists_of_covered steady steady' covered
  refine ⟨fates', final', h', ?_, fun entry => ?_⟩
  · have fates_eq := h.fates_eq steady
    have fates_eq' := h'.fates_eq steady'
    exact ⟨any_failed_of_covered fates_eq fates_eq' covered,
      any_failed_of_covered fates_eq' fates_eq covers⟩
  · -- An entry that is filled in one of the batches is filled in the other one, with the same content.
    rcases h.node?_or steady entry with ⟨a, mem, content, fills, node⟩ | ⟨empty, node⟩
    · obtain ⟨b, mem_b, eq⟩ := covers a mem
      rcases h'.node?_or steady' entry with
        ⟨b', mem_b', content', fills', node'⟩ | ⟨empty', -⟩
      · obtain ⟨a', mem_a', eq'⟩ := covered b' mem_b'
        rw [node, node',
          fills.unique undisturbed apart mem mem_a' (fills'.of_path_eq eq'.symm)]
      · exact absurd (fills.of_path_eq eq.symm) (empty' b mem_b content)
    · rcases h'.node?_or steady' entry with ⟨b, mem_b, content', fills', -⟩ | ⟨-, node'⟩
      · obtain ⟨a, mem_a, eq⟩ := covered b mem_b
        exact absurd (fills'.of_path_eq eq.symm) (empty a mem_a content')
      · rw [node, node']

/-! ## Runs -/

/-- **A file has the fate that it had before the run** if no result but one that lasts went over it
before its turn. -/
theorem Course.fate_eq {s : Session} {outcome : Except Escape Nat × Session} {done : List String}
    {fates : List Fate} (course : Course o p s outcome fs done fates)
    (legible : ∀ name ∈ o.files, Legible p s.files name) {before after : List String}
    (split : done = before ++ name :: after)
    (spared : ∀ (i : Nat) earlier text, before[i]? = some earlier →
      fates[i]? = some (.passed text) → o.GoesOver fs earlier name → Lasts p fs name text) :
    fates[before.length]? = fate? p s.files name := by
  have handled := course.handled
  rw [split] at handled
  obtain ⟨fate, here, -, at_name, earlier, found, -, -⟩ := handled.at_turn
  have named : name ∈ o.files := course.named.subset (by simp [split])
  obtain ⟨legible_fs, prepared⟩ := course.prepared.keeps (legible name named)
  rw [at_name, ← found, ← prepared]
  refine earlier.keeps legible_fs fun i first text at_i passed hit => ?_
  rw [List.getElem?_take] at passed
  split_ifs at passed
  exact spared i first text at_i passed hit

/-- **All files have the fates that they had before the run** if they do not disturb each other. -/
theorem Course.fates_eq {s : Session} {outcome : Except Escape Nat × Session} {done : List String}
    {fates : List Fate} (course : Course o p s outcome fs done fates)
    (legible : ∀ name ∈ o.files, Legible p s.files name)
    (undisturbed : o.Undisturbed p fs o.files) :
    done.map (fate? p s.files) = fates.map some := by
  have keeps (name : String) (mem : name ∈ done) :
      Legible p fs name ∧ fate? p fs name = fate? p s.files name :=
    course.prepared.keeps (legible name (course.named.subset mem))
  have spares : done.Pairwise (o.Spares p fs) :=
    (undisturbed.imp And.left).sublist course.named.sublist
  rw [← course.handled.fates_eq (.refl (fun name mem => (keeps name mem).1) spares)]
  exact List.map_congr_left fun name mem => (keeps name mem).2.symm

/-- **A run processes its files as they were**, and their order does not matter, as far as results do not
go over files that are still to be read.

If no results would clash, and the files that are accepted are legible, a run takes a course, unless the
directory for the results cannot be made. On its course each file has the fate that it has before the
run, unless the result of an earlier one went over it and does not last there.

Suppose that no paths that are accepted clash, and that either lines are filled with spaces or the files
do not disturb each other. Then all files have the fates that they have before the run. And if the run
returns, then every command line with the same options and the same paths, for whose files the same
holds, gives the same exit status and leaves the same in each entry of the file system. -/
theorem run_order {argv : List String} {environ : List (String × String)}
    (parsed : Options.parse argv = .ok o) (built : (o.preprocessor glossary environ).1 = .ok p)
    (apart : ∀ directory, o.directory? = some directory → ¬ o.Clash p.accepts) {s : Session}
    (legible : ∀ name ∈ o.files, Legible p s.files name) (stamp : String) (mode : Option LogMode) :
    let outcome := (run (Session.host glossary stamp none) environ mode argv).run s
    (∃ directory fault, o.directory? = some directory ∧
      s.files.makeDirectories directory = .error fault ∧ outcome.1 = .error (.file fault)) ∨
    ∃ fs done fates, Course o p s outcome fs done fates ∧
      (∀ before name after, done = before ++ name :: after →
        (∀ (i : Nat) earlier text, before[i]? = some earlier → fates[i]? = some (.passed text) →
          o.GoesOver fs earlier name → Lasts p fs name text) →
        fates[before.length]? = fate? p s.files name) ∧
      ((∀ directory, o.directory? = some directory → ¬ o.Clash p.acceptsPath) →
        (o.fillSpaces = false → o.Undisturbed p fs o.files) →
        done.map (fate? p s.files) = fates.map some ∧
        ∀ status, outcome.1 = .ok status →
          ∀ argv' files, Options.parse argv' = .ok { o with files } →
            (∀ path, path ∈ files.map Path.ofString ↔ path ∈ o.files.map Path.ofString) →
            (∀ directory, o.directory? = some directory → ¬ { o with files }.Clash p.accepts) →
            (o.fillSpaces = false → o.Undisturbed p fs files) →
            let outcome' := (run (Session.host glossary stamp none) environ mode argv').run s
            outcome'.1 = .ok status ∧
              ∀ entry, outcome'.2.files.node? entry = outcome.2.files.node? entry) := by
  intro outcome
  rcases run_course parsed built s stamp none mode with ⟨fs, done, fates, course⟩ | barred
  · refine .inr ⟨fs, done, fates, course, ?_, ?_⟩
    · intro before name after split spared
      exact course.fate_eq legible split spared
    · intro apart_paths commented
      have styled : p.gate.style = o.style := Options.style_of_preprocessor built
      have legible_fs : ∀ name ∈ o.files, Legible p fs name := fun name mem =>
        (course.prepared.keeps (legible name mem)).1
      have undisturbed : o.Undisturbed p fs o.files :=
        Options.undisturbed_of_style styled legible_fs apart_paths commented
      refine ⟨course.fates_eq legible undisturbed, ?_⟩
      intro status returned argv' files parsed' same apart' commented'
      obtain ⟨rfl, status_eq⟩ := course.of_returned returned
      have covered : Covered files o.files := covered_of_paths fun path => (same path).mp
      have covers : Covered o.files files := covered_of_paths fun path => (same path).mpr
      have undisturbed' : { o with files }.Undisturbed p fs files :=
        Options.undisturbed_of_style styled (legible_of_covered legible_fs covered)
          (fun directory into clash => apart_paths directory into (clash.of_covered covered))
          commented'
      obtain ⟨fates', final', handled', failed_iff, nodes⟩ :=
        course.handled.again legible_fs undisturbed apart_paths covered covers undisturbed'
      obtain ⟨s', returned', shown⟩ := run_shows stamp parsed' built apart' course.prepared mode
        (handled'.with_files files)
      have status_eq' : (if fates'.any Fate.failed then failure else success) = status := by
        rw [status_eq]
        simp only [failed_iff]
      rw [returned', status_eq']
      refine ⟨rfl, fun entry => ?_⟩
      exact (congrArg (·.files.node? entry) shown).trans (nodes entry)
  · obtain ⟨directory, into, ⟨clash, -⟩ | ⟨-, fault, made, ended⟩⟩ := barred.reason
    · exact absurd clash (apart directory into)
    · exact .inl ⟨directory, fault, into, made, ended⟩

/-! ## Files that are named in another order -/

/-- A command line that writes the results into a directory. -/
def intoLine (files : List String) : List String := files ++ ["-o", "out", "--no-env"]

/-- What it asks for. -/
def intoOptions (files : List String) : Options :=
  { files, noEnv := true, destination := .directory "out" }

/-- A session with two files. -/
def pairSession : Session where
  files :=
    { entries := [(["a.ts"], .file (Utf8.encode "one\n".toList)),
        (["b.ts"], .file (Utf8.encode "two\n".toList))] }

/-- The files of the session together with the directory. -/
def pairDirectory : FileSystem where
  entries := pairSession.files.entries ++ [(["out"], .directory)]

/-- Reading the command line gives the options. -/
theorem parse_into {files : List String} (nonempty : files ≠ [])
    (undashed : ∀ name ∈ files, name.toList.head? ≠ some '-') :
    Options.parse (intoLine files) = .ok (intoOptions files) := by
  have classified : Argument.classify ["-o", "out", "--no-env"] =
      .ok [⟨"-o", .switch .outDir true none⟩, ⟨"out", .plain⟩,
        ⟨"--no-env", .switch .noEnv false none⟩] := eq_ok_of_toOption_eq_some (by decide)
  rw [intoLine, Options.parse_files nonempty undashed classified (by decide)]
  simp only [Reading.read]
  rfl

/-- The command line asks for the usual preprocessor. -/
theorem into_preprocessor (files : List String) :
    (intoOptions files).preprocessor .empty [] = (.ok .usual, []) :=
  Options.preprocessor_usual rfl

/-- Files of different names do not clash. -/
theorem not_clash_pair {files : List String} (pair : ∀ name ∈ files, name ∈ ["a.ts", "b.ts"])
    (accepts : String → Bool) : ¬ (intoOptions files).Clash accepts := by
  rintro ⟨a, ha, b, hb, -, -, same, ne⟩
  have apart : ∀ a ∈ ["a.ts", "b.ts"], ∀ b ∈ ["a.ts", "b.ts"],
      (Path.ofString a).name = (Path.ofString b).name → Path.ofString a = Path.ofString b := by
    decide
  exact ne (apart a (pair a ha) b (pair b hb) same)

/-- Results that go into the directory go over neither of the two files. -/
theorem undisturbed_pair (p : Preprocessor Unit) {names files : List String}
    (pair : ∀ name ∈ files, name ∈ ["a.ts", "b.ts"])
    (made : (intoOptions names).Prepares pairSession.files fs) :
    (intoOptions names).Undisturbed p fs files := by
  have made : pairSession.files.makeDirectories (Path.ofString "out") = .ok fs := made
  have made_eq : (pairSession.files.makeDirectories (Path.ofString "out")).toOption.map
      (fun fs => (fs.home, fs.entries)) = some (pairDirectory.home, pairDirectory.entries) := by
    decide
  rw [made, Except.toOption, Option.map_some, Option.some.injEq, Prod.mk.injEq] at made_eq
  obtain rfl : fs = pairDirectory := congrArg₂ FileSystem.mk made_eq.1 made_eq.2
  have apart : ∀ a ∈ ["a.ts", "b.ts"], ∀ b ∈ ["a.ts", "b.ts"],
      (pairDirectory.resolve ((Path.ofString "out").join (Path.ofString a).name)).toOption ≠
        (pairDirectory.resolve (Path.ofString b)).toOption := by
    decide
  have spares (a : String) (ha : a ∈ files) (b : String) (hb : b ∈ files) :
      (intoOptions names).Spares p pairDirectory a b := by
    have into : (intoOptions names).directory? = some (Path.ofString "out") := rfl
    rintro - text - ⟨goal, goes, entry, leads, there⟩
    rw [target?_of_directory? into] at goes
    obtain rfl := Option.some.inj goes
    exact absurd (by rw [leads, there]) (apart a (pair a ha) b (pair b hb))
  exact List.pairwise_of_forall_mem_list fun a ha b hb => ⟨spares a ha b hb, spares b hb a ha⟩

/-- **The two files can be named in another order**, and one of them twice. -/
theorem run_order_pair :
    let outcome :=
      (run (Session.host .empty "" none) [] none (intoLine ["a.ts", "b.ts"])).run pairSession
    let outcome' :=
      (run (Session.host .empty "" none) [] none (intoLine ["b.ts", "a.ts", "b.ts"])).run pairSession
    outcome.1 = .ok success ∧ outcome'.1 = .ok success ∧
      ∀ entry, outcome'.2.files.node? entry = outcome.2.files.node? entry := by
  have parsed : Options.parse (intoLine ["a.ts", "b.ts"]) = .ok (intoOptions ["a.ts", "b.ts"]) :=
    parse_into (by decide) (by decide)
  have parsed' : Options.parse (intoLine ["b.ts", "a.ts", "b.ts"]) =
      .ok (intoOptions ["b.ts", "a.ts", "b.ts"]) := parse_into (by decide) (by decide)
  have built := into_preprocessor ["a.ts", "b.ts"]
  have status : ((run (Session.host .empty "" none) [] none (intoLine ["a.ts", "b.ts"])).run
      pairSession).1 = .ok success := by
    rw [run_of_built "" none parsed built]
    exact eq_ok_of_toOption_eq_some (by decide +kernel)
  have legible : ∀ name ∈ (intoOptions ["a.ts", "b.ts"]).files,
      Legible .usual pairSession.files name := by
    intro name mem _
    rcases List.mem_cons.mp mem with rfl | mem
    · have read : pairSession.files.read (Path.ofString "a.ts") =
          .ok (Utf8.encode "one\n".toList) := eq_ok_of_toOption_eq_some (by decide)
      exact ⟨_, _, read, Utf8.decode_encode _⟩
    · obtain rfl := List.mem_singleton.mp mem
      have read : pairSession.files.read (Path.ofString "b.ts") =
          .ok (Utf8.encode "two\n".toList) := eq_ok_of_toOption_eq_some (by decide)
      exact ⟨_, _, read, Utf8.decode_encode _⟩
  have pair : ∀ name ∈ ["a.ts", "b.ts"], name ∈ ["a.ts", "b.ts"] := fun _ mem => mem
  have pair' : ∀ name ∈ ["b.ts", "a.ts", "b.ts"], name ∈ ["a.ts", "b.ts"] := by decide
  rcases run_order parsed (congrArg Prod.fst built) (fun _ _ => not_clash_pair pair _) legible ""
    none with
    ⟨_, fault, -, -, ended⟩ | ⟨fs, done, fates, course, -, again⟩
  · rw [status] at ended
    cases ended
  · have same : ∀ path, path ∈ ["b.ts", "a.ts", "b.ts"].map Path.ofString ↔
        path ∈ ["a.ts", "b.ts"].map Path.ofString := by
      intro path
      simp only [List.map_cons, List.map_nil, List.mem_cons, List.not_mem_nil, or_false]
      rw [or_left_comm, or_self]
    obtain ⟨-, again⟩ := again (fun _ _ => not_clash_pair pair _)
      fun _ => undisturbed_pair _ pair course.prepared
    obtain ⟨status', nodes⟩ := again success status _ _ parsed' same
      (fun _ _ => not_clash_pair pair' _)
      fun _ => undisturbed_pair _ pair' course.prepared
    exact ⟨status, status', nodes⟩

/-! ## Results that go over files

Written over itself, a file that is named twice is processed twice. -/

/-- The text of a block, each of whose directives has been commented out a number of times. -/
def commented (times : Nat) : String :=
  let marks := String.ofList (List.replicate (2 * times) '/')
  textOf [marks ++ "///#if true", "x", marks ++ "///#endif"]

/-- The text is commented out once more by each of the first two passages. -/
theorem format_commented (file : Option String) {times : Nat} (few : times = 0 ∨ times = 1) :
    ∃ f, ((Gate.marked "//").format file (commented times) ()).result = .ok f ∧
      f.text = commented (times + 1) := by
  rcases few with rfl | rfl
  · have lines : linesOf (commented 0) = ["///#if true", "x", "///#endif"] := by decide
    obtain ⟨opening, content, closing⟩ :
        (Gate.marked "//").directive? "///#if true" = some ⟨"if", .opening, "true", 0, 11⟩ ∧
        (Gate.marked "//").directive? "x" = none ∧
        (Gate.marked "//").directive? "///#endif" = some ⟨"endif", .closing, "", 0, 9⟩ := by
      decide
    refine ⟨_, Gate.format_block "//" file lines opening rfl rfl content closing rfl, ?_⟩
    decide
  · have lines : linesOf (commented 1) = ["/////#if true", "x", "/////#endif"] := by decide
    obtain ⟨opening, content, closing⟩ :
        (Gate.marked "//").directive? "/////#if true" = some ⟨"if", .opening, "true", 2, 11⟩ ∧
        (Gate.marked "//").directive? "x" = none ∧
        (Gate.marked "//").directive? "/////#endif" = some ⟨"endif", .closing, "", 2, 9⟩ := by
      decide
    refine ⟨_, Gate.format_block "//" file lines opening rfl rfl content closing rfl, ?_⟩
    decide

/-- A session with a file that has a block. -/
def blockSession : Session where
  files := { entries := [(["a.ts"], .file (Utf8.encode (commented 0).toList))] }

/-- **Named once, a file is commented out once, and named twice, twice.** -/
theorem run_inPlace_twice :
    let once := (run (Session.host .empty "" none) [] none (inPlaceLine ["a.ts"])).run blockSession
    let twice :=
      (run (Session.host .empty "" none) [] none (inPlaceLine ["a.ts", "a.ts"])).run blockSession
    once.1 = .ok success ∧ twice.1 = .ok success ∧
      once.2.files.read (Path.ofString "a.ts") = .ok (Utf8.encode (commented 1).toList) ∧
      twice.2.files.read (Path.ofString "a.ts") = .ok (Utf8.encode (commented 2).toList) := by
  have parsed : Options.parse (inPlaceLine ["a.ts"]) = .ok (inPlaceOptions ["a.ts"]) :=
    parse_inPlace (by decide) (by decide)
  have parsed' : Options.parse (inPlaceLine ["a.ts", "a.ts"]) =
      .ok (inPlaceOptions ["a.ts", "a.ts"]) := parse_inPlace (by decide) (by decide)
  have passage (times : Nat) (few : times = 0 ∨ times = 1) :
      ∃ f, (Preprocessor.usual.gate.format (some (Path.ofString "a.ts").toString)
        (commented times) ()).result = .ok f ∧ f.text = commented (times + 1) :=
    format_commented _ few
  -- What the first passage leaves behind, and then the second one.
  have there : blockSession.output.files.read (Path.ofString "a.ts") =
      .ok (Utf8.encode (commented 0).toList) := eq_ok_of_toOption_eq_some (by decide)
  obtain ⟨f, result, text_eq⟩ := passage 0 (.inl rfl)
  obtain ⟨w, found, left, after⟩ := exists_written_over [] usual_accepts there result
  rw [text_eq] at after
  obtain ⟨f', result', text_eq'⟩ := passage 1 (.inr rfl)
  obtain ⟨w', found', left', after'⟩ := exists_written_over [] usual_accepts after result'
  rw [text_eq'] at after'
  have once : Handled (inPlaceOptions []) .usual ["a.ts"] blockSession.output [_] w :=
    .cons found left (.nil w)
  have twice : Handled (inPlaceOptions []) .usual ["a.ts", "a.ts"] blockSession.output [_, _] w' :=
    .cons found left (.cons found' left' (.nil w'))
  have prepared (files : List String) :
      (inPlaceOptions files).Prepares blockSession.files blockSession.files := rfl
  obtain ⟨s₁, returned₁, shown₁⟩ := run_shows "" parsed (inPlace_preprocessor _) nofun (prepared _) none
    (once.with_files ["a.ts"])
  obtain ⟨s₂, returned₂, shown₂⟩ := run_shows "" parsed' (inPlace_preprocessor _) nofun (prepared _) none
    (twice.with_files ["a.ts", "a.ts"])
  subst shown₁ shown₂
  rw [returned₁, returned₂]
  exact ⟨rfl, rfl, after, after'⟩

/-- A session in which a result cannot be written: there is a directory in its place. -/
def blockedSession : Session where
  files :=
    { entries := pairSession.files.entries ++
        [(["out"], .directory), (["out", "a.ts"], .directory)] }

/-- **A run that is cut off** leaves what it got to, which depends on the order of the files. -/
theorem run_into_blocked :
    let first :=
      (run (Session.host .empty "" none) [] none (intoLine ["a.ts", "b.ts"])).run blockedSession
    let second :=
      (run (Session.host .empty "" none) [] none (intoLine ["b.ts", "a.ts"])).run blockedSession
    first.1.toOption = none ∧ second.1.toOption = none ∧
      first.2.files.node? ["out", "b.ts"] = none ∧
      second.2.files.node? ["out", "b.ts"] = some (.file (Utf8.encode "two\n".toList)) := by
  have parsed : Options.parse (intoLine ["a.ts", "b.ts"]) = .ok (intoOptions ["a.ts", "b.ts"]) :=
    parse_into (by decide) (by decide)
  have parsed' : Options.parse (intoLine ["b.ts", "a.ts"]) = .ok (intoOptions ["b.ts", "a.ts"]) :=
    parse_into (by decide) (by decide)
  rw [run_of_built "" none parsed (into_preprocessor _),
    run_of_built "" none parsed' (into_preprocessor _)]
  decide +kernel

/-- **The names on a command line matter**: to name a file twice changes what becomes of it if its result
goes over it, and the order of files changes what is left behind if a result cannot be written. -/
theorem run_order_matters :
    (let once := (run (Session.host .empty "" none) [] none (inPlaceLine ["a.ts"])).run blockSession
     let twice :=
      (run (Session.host .empty "" none) [] none (inPlaceLine ["a.ts", "a.ts"])).run blockSession
     once.1 = .ok success ∧ twice.1 = .ok success ∧
      once.2.files.read (Path.ofString "a.ts") = .ok (Utf8.encode (commented 1).toList) ∧
      twice.2.files.read (Path.ofString "a.ts") = .ok (Utf8.encode (commented 2).toList) ∧
      commented 1 = "/////#if true\nx\n/////#endif" ∧
      commented 2 = "///////#if true\nx\n///////#endif") ∧
    (let first :=
      (run (Session.host .empty "" none) [] none (intoLine ["a.ts", "b.ts"])).run blockedSession
     let second :=
      (run (Session.host .empty "" none) [] none (intoLine ["b.ts", "a.ts"])).run blockedSession
     first.2.files.node? ["out", "b.ts"] = none ∧
      second.2.files.node? ["out", "b.ts"] = some (.file (Utf8.encode "two\n".toList))) := by
  obtain ⟨once, twice, one, two⟩ := run_inPlace_twice
  obtain ⟨-, -, first, second⟩ := run_into_blocked
  exact ⟨⟨once, twice, one, two, by decide, by decide⟩, first, second⟩

end Command

end LineGate
