import Mathlib.Data.List.Basic
import LineGate.Proofs.File.System

/-! # Paths to one entry

Different paths can lead to the same entry of a file system (`FileSystem.SameEntry`), by double dots in
them. That tells what a write changes: what is read under the paths that lead to the entry
(`FileSystem.read_write_of_sameEntry`), and nothing else (`FileSystem.read_write_of_apart`). A directory
that is made leaves all files alone (`FileSystem.read_of_makeDirectories`).

If the entry is a file, all paths to it have the same last name, because double dots only lead to
directories (`FileSystem.getLast?_of_read`). -/

namespace LineGate

namespace FileSystem

variable {fs fs' : FileSystem} {content bytes : Bytes} {p q : Path}

/-- **Paths to one entry** of a file system. -/
def SameEntry (fs : FileSystem) (p q : Path) : Prop :=
  ∃ names, fs.resolve p = .ok names ∧ fs.resolve q = .ok names

/-- A file that can be read is an entry. -/
theorem exists_resolve_of_read (h : fs.read p = .ok bytes) :
    ∃ names, fs.resolve p = .ok names ∧ fs.node? names = some (.file bytes) := by
  cases resolved : fs.resolve p with
  | error fault =>
    rw [read, resolved] at h
    cases h
  | ok names =>
    refine ⟨names, rfl, ?_⟩
    rw [read_of_resolve resolved] at h
    split at h
    · rename_i found
      rw [found, Except.ok.inj h]
    · cases h
    · cases h

/-- A path to an entry that is a file can be read. -/
theorem read_of_node? {names : List String} (resolved : fs.resolve p = .ok names)
    (found : fs.node? names = some (.file bytes)) : fs.read p = .ok bytes := by
  rw [read_of_resolve resolved, found]

/-- A file that can be read under one path can be read under every path to its entry. -/
theorem SameEntry.read (h : fs.SameEntry p q) (read : fs.read q = .ok bytes) :
    fs.read p = .ok bytes := by
  obtain ⟨names, at_p, at_q⟩ := h
  obtain ⟨there, resolved, found⟩ := exists_resolve_of_read read
  obtain rfl := Except.ok.inj (at_q.symm.trans resolved)
  exact read_of_node? at_p found

/-! ## Names of files -/

/-- **Places that are reached**: they are directories, as are all of those above them. -/
def Reached (fs : FileSystem) (here : List String) : Prop :=
  ∀ names, names <+: here → fs.node? names = some .directory

/-- **Names are followed through directories**, and double dots lead to one of them. -/
theorem Reached.follow {here there rest : List String} (reached : fs.Reached here)
    (h : fs.follow here rest = .ok there) (back : ∀ name ∈ rest.getLast?, name = "..") :
    fs.Reached there := by
  -- A proper name leads on through a directory, unless it is the last one, and double dots lead back to
  -- a directory that was reached before.
  fun_induction FileSystem.follow fs here rest with
  | case1 here => exact Except.ok.inj h ▸ reached
  | case2 here rest ih =>
    refine ih (fun names above => reached names (above.trans (List.dropLast_prefix here))) h ?_
    intro name last
    refine back name ?_
    rw [List.getLast?_cons, Option.mem_def.mp last]
    rfl
  | case3 here name rest proper there empty =>
    refine absurd (back name ?_) proper
    rw [List.isEmpty_iff.mp empty]
    rfl
  | case4 here name rest proper there nonempty missing => cases h
  | case5 here name rest proper there nonempty old file => cases h
  | case6 here name rest proper there nonempty directory ih =>
    refine ih (fun names above => ?_) h fun last mem => ?_
    · rcases List.prefix_concat_iff.mp above with rfl | above
      · exact directory
      · exact reached names above
    · refine back last ?_
      rw [List.getLast?_cons, Option.mem_def.mp mem]
      rfl

/-- The directory that a path starts from is reached. -/
theorem reached_start (fs : FileSystem) (p : Path) : fs.Reached (fs.start p) := by
  intro names above
  have home : names <+: fs.home := by
    unfold start at above
    split at above
    · exact above
    · exact List.prefix_nil.mp above ▸ List.nil_prefix
  exact if_pos (List.isPrefixOf_iff_prefix.mpr home)

/-- The path to a file has a name. -/
theorem parts_ne_nil_of_read (read : fs.read p = .ok bytes) : p.parts ≠ [] := by
  intro empty
  obtain ⟨names, resolved, found⟩ := exists_resolve_of_read read
  have followed := resolve_eq_ok.mp resolved
  rw [empty] at followed
  obtain rfl := Except.ok.inj followed
  rw [fs.reached_start p _ List.prefix_rfl] at found
  cases found

/-- **The path to a file ends in its name.** -/
theorem getLast?_of_read {names : List String} (read : fs.read p = .ok bytes)
    (resolved : fs.resolve p = .ok names) : names.getLast? = p.parts.getLast? := by
  obtain ⟨there, at_p, found⟩ := exists_resolve_of_read read
  obtain rfl := Except.ok.inj (at_p.symm.trans resolved)
  have followed := resolve_eq_ok.mp resolved
  have apart : ¬ fs.Reached there := by
    intro reached
    rw [reached there List.prefix_rfl] at found
    cases found
  rcases List.eq_nil_or_concat' p.parts with empty | ⟨rest, name, parts⟩
  · exact absurd empty (parts_ne_nil_of_read read)
  · rw [parts] at followed ⊢
    obtain ⟨place, -, ahead | ⟨rfl, -⟩⟩ := follow_concat followed
    · rw [ahead, List.getLast?_concat, List.getLast?_concat]
    · refine absurd ((fs.reached_start p).follow followed fun name last => ?_) apart
      rw [List.getLast?_concat] at last
      exact (Option.some.inj last).symm

/-- **A file in a directory has the name of its path**: if the path of a file in a directory, under the
name of the file `a`, leads to the file `b`, then the two have the same name. -/
theorem name_eq_of_sameEntry {directory : Path} {a b : String} {other : Bytes}
    (h : fs.SameEntry (directory.join (Path.ofString a).name) (Path.ofString b))
    (read_a : fs.read (Path.ofString a) = .ok other)
    (read_b : fs.read (Path.ofString b) = .ok bytes) :
    (Path.ofString a).name = (Path.ofString b).name := by
  have read := h.read read_b
  obtain ⟨names, there, at_b⟩ := h
  have last := (getLast?_of_read read there).symm.trans (getLast?_of_read read_b at_b)
  have last_a := List.getLast?_eq_some_getLast (parts_ne_nil_of_read read_a)
  rw [Path.parts_join_name, last_a, Option.toList_some, List.getLast?_concat] at last
  rw [Path.name_eq_getD, Path.name_eq_getD, last_a, last]

/-- **Files of different names stay apart in a directory**: if the paths of two results, under the names
of the files `a` and `b`, lead to one entry, then the two have the same name. -/
theorem name_eq_of_resolve {directory : Path} {a b : String} {other : Bytes} {names : List String}
    (leads : fs.resolve (directory.join (Path.ofString a).name) = .ok names)
    (leads' : fs.resolve (directory.join (Path.ofString b).name) = .ok names)
    (read_a : fs.read (Path.ofString a) = .ok other)
    (read_b : fs.read (Path.ofString b) = .ok bytes) :
    (Path.ofString a).name = (Path.ofString b).name := by
  have follows := resolve_eq_ok.mp leads
  have follows' := resolve_eq_ok.mp leads'
  change fs.follow (fs.start directory) _ = _ at follows follows'
  have last := List.getLast?_eq_some_getLast (parts_ne_nil_of_read read_a)
  have last' := List.getLast?_eq_some_getLast (parts_ne_nil_of_read read_b)
  rw [Path.parts_join_name, last, Option.toList_some] at follows
  rw [Path.parts_join_name, last', Option.toList_some] at follows'
  rw [Path.name_eq_getD, Path.name_eq_getD, last, last', follow_concat_inj follows follows']

/-! ## Writing -/

/-- **A write leaves a file alone** that the written path does not lead to. -/
theorem read_write_of_apart (h : fs.write p content = .ok fs') (apart : ¬ fs.SameEntry p q)
    (before : fs.read q = .ok bytes) : fs'.read q = .ok bytes := by
  obtain ⟨names, at_q, -⟩ := exists_resolve_of_read before
  rw [read_write_of_ne h at_q fun at_p => apart ⟨names, at_p, at_q⟩]
  exact before

/-- **What was written can be read** under every path to the entry. -/
theorem read_write_of_sameEntry (h : fs.write p content = .ok fs') (same : fs.SameEntry p q) :
    fs'.read q = .ok content := by
  obtain ⟨names, at_p, at_q⟩ := same
  refine read_of_node? ((resolve_write h).mpr at_q) ?_
  rw [node?_write h at_p, if_pos rfl]

/-- The path of a file that was written is writable. -/
theorem writable_of_write (h : fs.write p content = .ok fs') : fs.Writable p := by
  obtain ⟨names, at_p, apart, -⟩ := write_eq_ok h
  exact ⟨names, at_p, apart⟩

/-- **A write does not change which paths are writable.** -/
theorem writable_write {written : Path} (h : fs.write written content = .ok fs') :
    fs'.Writable q ↔ fs.Writable q := by
  refine ⟨?_, fun before => before.of_write h⟩
  rintro ⟨names, at_q, after⟩
  obtain ⟨there, resolved, apart, -⟩ := write_eq_ok h
  refine ⟨names, (resolve_write h).mp at_q, ?_⟩
  by_cases same : names = there
  · exact same ▸ apart
  · rw [node?_write h resolved, if_neg same] at after
    exact after

/-! ## Making directories -/

/-- Making a directory in an existing one leaves files alone. -/
theorem read_of_makeDirectory (h : fs.makeDirectory p = .ok fs') (before : fs.read q = .ok bytes) :
    fs'.read q = .ok bytes := by
  unfold makeDirectory at h
  cases resolved : fs.resolve p with
  | error fault =>
    rw [resolved] at h
    cases h
  | ok names =>
    rw [resolved] at h
    dsimp only [bind, Except.bind] at h
    split at h
    · cases h
    · rename_i missing
      obtain rfl := Except.ok.inj h
      obtain ⟨there, at_q, found⟩ := exists_resolve_of_read before
      -- The directory is put where there was nothing, and so neither on the way nor at the file.
      have no_directory : fs.node? names ≠ some .directory := by simp [missing]
      have apart : there ≠ names := by
        rintro rfl
        rw [missing] at found
        cases found
      refine read_of_node?
        (resolve_eq_ok.mpr (follow_put no_directory .directory (resolve_eq_ok.mp at_q))) ?_
      rw [node?_put no_directory, if_neg apart]
      exact found

/-- A directory that is there already changes nothing. -/
theorem unlessPresent_eq_ok {outcome : Except FileFault FileSystem}
    (h : fs.unlessPresent p outcome = .ok fs') : outcome = .ok fs' ∨ fs' = fs := by
  unfold unlessPresent at h
  split at h
  · exact .inl h
  · split at h
    · exact .inr (Except.ok.inj h).symm
    · cases h

/-- Making a directory with some of those above it leaves files alone. -/
theorem read_of_makeDirectoriesUpTo (depth : Nat) (h : fs.makeDirectoriesUpTo depth p = .ok fs')
    (before : fs.read q = .ok bytes) : fs'.read q = .ok bytes := by
  -- The last directory to be made, in a file system in which the file is still there.
  have last {fs fs' : FileSystem} {p : Path} (before : fs.read q = .ok bytes)
      (h : fs.unlessPresent p (fs.makeDirectory p) = .ok fs') : fs'.read q = .ok bytes := by
    rcases unlessPresent_eq_ok h with made | rfl
    · exact read_of_makeDirectory made before
    · exact before
  induction depth generalizing p fs' with
  | zero => exact last before h
  | succ depth ih =>
    rw [makeDirectoriesUpTo] at h
    split at h
    · -- Those above it come first.
      cases above : fs.makeDirectoriesUpTo depth p.parent with
      | error fault =>
        rw [above] at h
        cases h
      | ok next =>
        rw [above] at h
        exact last (ih above) h
    · exact last before h

/-- **Making a directory leaves all files alone.** -/
theorem read_of_makeDirectories (h : fs.makeDirectories p = .ok fs')
    (before : fs.read q = .ok bytes) : fs'.read q = .ok bytes :=
  read_of_makeDirectoriesUpTo p.parts.length h before

end FileSystem

end LineGate
