import LineGate.File.System
import LineGate.Proofs.Text.Lines

/-! # Reading what was written

A file that was written can be read back (`FileSystem.read_of_write`), and a write leaves alone every
file that is another entry of the file system (`FileSystem.read_write_of_ne`). Paths with double dots
in them can lead to the same entry in several ways. The files of one directory, though, are different
entries if they have different names (`FileSystem.read_write_of_in`). -/

namespace LineGate

/-! ## Names of paths -/

namespace Path

/-- The names in a path are proper names. -/
theorem mem_parts_ofString {s n : String} (h : n ∈ (ofString s).parts) :
    '/' ∉ n.toList ∧ n ≠ "" ∧ n ≠ "." := by
  obtain ⟨mem, proper⟩ := List.mem_filter.mp h
  obtain ⟨part, in_split, rfl⟩ := List.mem_map.mp mem
  rw [String.toList_ofList]
  simp only [Bool.and_eq_true, decide_eq_true_eq] at proper
  exact ⟨Separated.not_mem_of_mem_split '/' in_split, proper⟩

/-- A proper name is a path of its own. -/
theorem parts_ofString_of_proper {n : String} (slash : '/' ∉ n.toList) (ne : n ≠ "" ∧ n ≠ ".") :
    (ofString n).parts = [n] := by
  change ((Separated.split '/' n.toList).map String.ofList).filter _ = [n]
  rw [Separated.split_of_not_mem '/' slash, List.map_singleton, String.ofList_toList,
    List.filter_eq_self]
  intro part mem
  rw [List.mem_singleton.mp mem, decide_eq_true ne.1, decide_eq_true ne.2]
  rfl

/-- The name of a path without names is empty. -/
theorem name_eq_getD (p : Path) : p.name = p.parts.getLast?.getD "" :=
  List.getLastD_eq_getLast?

/-- The last name of a path is its last part, or empty. -/
theorem parts_ofString_name (s : String) :
    (ofString (ofString s).name).parts = (ofString s).parts.getLast?.toList := by
  rw [name_eq_getD]
  cases last : (ofString s).parts.getLast? with
  | none => decide
  | some n =>
    obtain ⟨slash, ne⟩ := mem_parts_ofString (List.mem_of_getLast? last)
    rw [Option.getD_some, parts_ofString_of_proper slash ne]
    rfl

/-- **Paths of files in a directory**, under the name of some path. -/
def In (p directory : Path) : Prop := ∃ s, p = directory.join (ofString s).name

/-- The names in the path of a file in a directory. -/
theorem parts_join_name (directory : Path) (s : String) :
    (directory.join (ofString s).name).parts =
      directory.parts ++ (ofString s).parts.getLast?.toList := by
  rw [join, parts_ofString_name]

/-- **Files of different names have different paths** in a directory. -/
theorem name_eq_of_join_eq {directory : Path} {a b : String}
    (h : directory.join (ofString a).name = directory.join (ofString b).name) :
    (ofString a).name = (ofString b).name := by
  have parts := congrArg Path.parts h
  rw [parts_join_name, parts_join_name] at parts
  have last : (ofString a).parts.getLast? = (ofString b).parts.getLast? := by
    have heads := congrArg List.head? (List.append_cancel_left parts)
    rwa [Option.head?_toList, Option.head?_toList] at heads
  rw [name_eq_getD, name_eq_getD, last]

end Path

namespace FileSystem

variable {fs fs' : FileSystem} {names : List String} {content : Bytes}

/-! ## Entries -/

/-- Looking up names after an entry was replaced. -/
theorem lookup_replace (entries : List (List String × FileNode)) (names other : List String)
    (node : FileNode) :
    (entries.map fun e => if e.1 = names then (names, node) else e).lookup other =
      if other = names then (entries.lookup names).map fun _ => node else entries.lookup other := by
  induction entries with
  | nil => simp
  | cons e rest ih =>
    rw [List.map_cons, List.lookup_cons, List.lookup_cons, List.lookup_cons, ih]
    by_cases same : e.1 = names
    · by_cases eq : other = names
      · simp [same, eq]
      · simp [same, eq, beq_false_of_ne eq]
    · by_cases eq : other = names
      · simp [same, eq, beq_false_of_ne (Ne.symm same)]
      · simp [same, eq]

/-- Looking up names after an entry was put. -/
theorem lookup_put (fs : FileSystem) (names other : List String) (node : FileNode) :
    (fs.put names node).entries.lookup other =
      if other = names then some node else fs.entries.lookup other := by
  by_cases present : fs.entries.any (·.1 == names) = true
  · have found : (fs.entries.lookup names).isSome = true := by
      obtain ⟨e, mem, eq⟩ := List.any_eq_true.mp present
      exact List.lookup_isSome_iff.mpr ⟨e, mem, by rwa [BEq.comm]⟩
    obtain ⟨old, eq⟩ := Option.isSome_iff_exists.mp found
    rw [put, if_pos present, lookup_replace, eq, Option.map_some]
  · have missing : fs.entries.lookup names = none := by
      refine List.lookup_eq_none_iff.mpr fun e mem => ?_
      refine bne_iff_ne.mpr fun eq => present (List.any_eq_true.mpr ⟨e, mem, ?_⟩)
      exact beq_iff_eq.mpr eq.symm
    rw [put, if_neg present, List.lookup_append]
    by_cases eq : other = names
    · rw [if_pos eq, eq, missing, List.lookup_cons_self, Option.none_or]
    · rw [if_neg eq, List.lookup_cons, beq_false_of_ne eq]
      exact Option.or_none

/-- **An entry that was put** is there, and the others are as before, if it is not in the place of a
directory. -/
theorem node?_put (apart : fs.node? names ≠ some .directory) (node : FileNode)
    (other : List String) :
    (fs.put names node).node? other = if other = names then some node else fs.node? other := by
  have home : (fs.put names node).home = fs.home := rfl
  rw [node?, node?, lookup_put, home]
  by_cases above : other.isPrefixOf fs.home = true
  · have ne : other ≠ names := by
      rintro rfl
      exact apart (if_pos above)
    rw [if_pos above, if_pos above, if_neg ne]
  · rw [if_neg above, if_neg above]

/-- The root is a directory. -/
theorem ne_nil_of_node? (apart : fs.node? names ≠ some .directory) : names ≠ [] := by
  rintro rfl
  exact apart rfl

/-! ## Writing -/

/-- **What a write does**: it puts a file where the path leads to, and no directory was there. -/
theorem write_eq_ok {p : Path} (h : fs.write p content = .ok fs') :
    ∃ names, fs.resolve p = .ok names ∧ fs.node? names ≠ some .directory ∧
      fs' = fs.put names (.file content) := by
  unfold write at h
  cases resolved : fs.resolve p with
  | error fault =>
    rw [resolved] at h
    cases h
  | ok names =>
    rw [resolved] at h
    dsimp only [bind, Except.bind] at h
    have apart : fs.node? names ≠ some .directory := fun eq => by
      rw [eq] at h
      cases h
    refine ⟨names, rfl, apart, ?_⟩
    split at h
    · contradiction
    · exact (Except.ok.inj h).symm

/-- A path that leads somewhere still does so after an entry was put, if that is not in the place of a
directory. -/
theorem follow_put (apart : fs.node? names ≠ some .directory) (node : FileNode)
    {here there rest : List String} (h : fs.follow here rest = .ok there) :
    (fs.put names node).follow here rest = .ok there := by
  fun_induction follow fs here rest with
  | case1 here => exact h
  | case2 here rest ih =>
    rw [follow, if_pos rfl]
    exact ih h
  | case3 here name rest proper there empty =>
    rw [follow, if_neg proper, if_pos empty]
    exact h
  | case4 here name rest proper there nonempty missing => cases h
  | case5 here name rest proper there nonempty old file => cases h
  | case6 here name rest proper there nonempty directory ih =>
    -- The names lead through directories, and the entry is not in the place of one.
    have kept : (fs.put names node).node? (here ++ [name]) = some .directory := by
      rw [node?_put apart, if_neg fun eq : here ++ [name] = names => apart (eq ▸ directory)]
      exact directory
    rw [follow, if_neg proper]
    dsimp only
    rw [if_neg nonempty, kept]
    exact ih h

/-- Where a path leads to. -/
theorem resolve_eq_ok {p : Path} :
    fs.resolve p = .ok names ↔ fs.follow (fs.start p) p.parts = .ok names := by
  unfold resolve
  cases fs.follow (fs.start p) p.parts with
  | error cause => exact iff_of_false (by rintro ⟨⟩) (by rintro ⟨⟩)
  | ok there =>
    change Except.ok there = Except.ok names ↔ _
    rw [Except.ok.injEq, Except.ok.injEq]

/-- A path leads to the same entry after a file was written. -/
theorem resolve_of_write {p q : Path} (h : fs.write p content = .ok fs')
    (resolved : fs.resolve q = .ok names) : fs'.resolve q = .ok names := by
  obtain ⟨_, -, apart, rfl⟩ := write_eq_ok h
  exact resolve_eq_ok.mpr (follow_put apart _ (resolve_eq_ok.mp resolved))

/-- Reading is looking up an entry. -/
theorem read_of_resolve {p : Path} (resolved : fs.resolve p = .ok names) :
    fs.read p = match fs.node? names with
      | some (.file content) => .ok content
      | some .directory => .error ⟨.isDirectory, p⟩
      | none => .error ⟨.notFound, p⟩ := by
  rw [read, resolved]
  rfl

/-- **What was written can be read.** -/
theorem read_of_write {p : Path} (h : fs.write p content = .ok fs') : fs'.read p = .ok content := by
  obtain ⟨names, resolved, apart, rfl⟩ := write_eq_ok h
  rw [read_of_resolve (resolve_of_write h resolved), node?_put apart, if_pos rfl]

/-- **A write leaves other files alone.** -/
theorem read_write_of_ne {p q : Path} (h : fs.write p content = .ok fs')
    (resolved : fs.resolve q = .ok names) (other : fs.resolve p ≠ .ok names) :
    fs'.read q = fs.read q := by
  rw [read_of_resolve (resolve_of_write h resolved), read_of_resolve resolved]
  obtain ⟨written, at_p, apart, rfl⟩ := write_eq_ok h
  rw [node?_put apart, if_neg fun eq : names = written => other (eq ▸ at_p)]

/-! ## Files in one directory -/

/-- **Following one more name** leads to an entry of the directory, or back. -/
theorem follow_concat {here there rest : List String} {name : String}
    (h : fs.follow here (rest ++ [name]) = .ok there) :
    ∃ place, fs.follow here rest = .ok place ∧
      (there = place ++ [name] ∨ name = ".." ∧ there = place.dropLast) := by
  induction rest generalizing here with
  | nil =>
    refine ⟨here, rfl, ?_⟩
    rw [List.nil_append, follow] at h
    split at h
    · rename_i back
      exact .inr ⟨back, (Except.ok.inj h).symm⟩
    · exact .inl (Except.ok.inj h).symm
  | cons first rest ih =>
    rw [List.cons_append, follow] at h
    rw [follow]
    split at h
    · rename_i back
      rw [if_pos back]
      exact ih h
    · rename_i proper
      rw [if_neg proper]
      dsimp only at h ⊢
      rw [if_neg (by simp)] at h
      split at h
      · cases h
      · cases h
      · obtain ⟨place, followed, leads⟩ := ih h
        refine ⟨place, ?_, leads⟩
        -- Without the last name the directory may be the place itself, and is not looked at.
        split
        · rename_i empty
          rw [List.isEmpty_iff.mp empty] at followed
          exact followed
        · exact followed

/-- One more name does not lead to the same entry, except from the root. -/
theorem follow_concat_ne {here there rest : List String} {name : String}
    (h : fs.follow here (rest ++ [name]) = .ok there) (nonempty : there ≠ []) :
    fs.follow here rest ≠ .ok there := by
  intro same
  obtain ⟨place, followed, leads⟩ := follow_concat h
  obtain rfl := Except.ok.inj (same.symm.trans followed)
  rcases leads with ahead | ⟨-, back⟩
  · have lengths := congrArg List.length ahead
    rw [List.length_append, List.length_singleton] at lengths
    omega
  · have lengths := congrArg List.length back
    rw [List.length_dropLast] at lengths
    have pos := List.length_pos_iff.mpr nonempty
    omega

/-- Different names lead to different entries. -/
theorem follow_concat_inj {here there rest : List String} {name name' : String}
    (h : fs.follow here (rest ++ [name]) = .ok there)
    (h' : fs.follow here (rest ++ [name']) = .ok there) : name = name' := by
  obtain ⟨place, followed, leads⟩ := follow_concat h
  obtain ⟨place', followed', leads'⟩ := follow_concat h'
  obtain rfl := Except.ok.inj (followed.symm.trans followed')
  have shorter : place.dropLast.length < place.length + 1 := by
    rw [List.length_dropLast]
    omega
  rcases leads with rfl | ⟨rfl, rfl⟩
  · rcases leads' with eq | ⟨-, eq⟩
    · simpa using eq
    · rw [← eq, List.length_append, List.length_singleton] at shorter
      omega
  · rcases leads' with eq | ⟨rfl, -⟩
    · rw [eq, List.length_append, List.length_singleton] at shorter
      omega
    · rfl

/-- **Different files of one directory are different entries.** -/
theorem eq_of_resolve_eq_ok {directory p q : Path} (hp : p.In directory) (hq : q.In directory)
    (h : fs.resolve p = .ok names) (h' : fs.resolve q = .ok names)
    (apart : fs.node? names ≠ some .directory) : p = q := by
  obtain ⟨a, rfl⟩ := hp
  obtain ⟨b, rfl⟩ := hq
  have nonempty := ne_nil_of_node? apart
  have follows := resolve_eq_ok.mp h
  have follows' := resolve_eq_ok.mp h'
  change fs.follow (fs.start directory) _ = _ at follows follows'
  rw [Path.parts_join_name] at follows follows'
  have names_eq : (Path.ofString a).name = (Path.ofString b).name := by
    rw [Path.name_eq_getD, Path.name_eq_getD]
    -- Each of the two has at most one name behind those of the directory.
    cases last : (Path.ofString a).parts.getLast? with
    | none =>
      rw [last, Option.toList_none, List.append_nil] at follows
      cases last' : (Path.ofString b).parts.getLast? with
      | none => rfl
      | some name' =>
        rw [last', Option.toList_some] at follows'
        exact absurd follows (follow_concat_ne follows' nonempty)
    | some name =>
      rw [last, Option.toList_some] at follows
      cases last' : (Path.ofString b).parts.getLast? with
      | none =>
        rw [last', Option.toList_none, List.append_nil] at follows'
        exact absurd follows' (follow_concat_ne follows nonempty)
      | some name' =>
        rw [last', Option.toList_some] at follows'
        rw [follow_concat_inj follows follows']
  rw [names_eq]

/-- **A write leaves the other files of a directory alone.** -/
theorem read_write_of_in {directory p q : Path} (hp : p.In directory) (hq : q.In directory)
    (ne : p ≠ q) (h : fs.write p content = .ok fs') {old : Bytes} (before : fs.read q = .ok old) :
    fs'.read q = .ok old := by
  cases resolved : fs.resolve q with
  | error fault =>
    rw [read, resolved] at before
    cases before
  | ok names =>
    have apart : fs.node? names ≠ some .directory := by
      intro directory
      rw [read_of_resolve resolved, directory] at before
      cases before
    rw [read_write_of_ne h resolved fun at_p => ne (eq_of_resolve_eq_ok hp hq at_p resolved apart)]
    exact before

/-! ## Writable files -/

/-- A path leads where it leads if the directories on the way are there. -/
theorem follow_of_directories
    (kept : ∀ names, fs'.node? names = some .directory → fs.node? names = some .directory)
    {here there rest : List String} (h : fs'.follow here rest = .ok there) :
    fs.follow here rest = .ok there := by
  fun_induction follow fs' here rest with
  | case1 here => exact h
  | case2 here rest ih =>
    rw [follow, if_pos rfl]
    exact ih h
  | case3 here name rest proper there empty =>
    rw [follow, if_neg proper, if_pos empty]
    exact h
  | case4 here name rest proper there nonempty missing => cases h
  | case5 here name rest proper there nonempty old file => cases h
  | case6 here name rest proper there nonempty directory ih =>
    rw [follow, if_neg proper]
    dsimp only
    rw [if_neg nonempty, kept _ directory]
    exact ih h

/-- **A write moves no path**: each leads to the same entry before and after. -/
theorem resolve_write {p q : Path} (h : fs.write p content = .ok fs') :
    fs'.resolve q = .ok names ↔ fs.resolve q = .ok names := by
  refine ⟨fun resolved => ?_, resolve_of_write h⟩
  obtain ⟨written, -, apart, rfl⟩ := write_eq_ok h
  -- A file does not make a directory, so that the path led there before.
  have kept (names : List String)
      (found : (fs.put written (.file content)).node? names = some .directory) :
      fs.node? names = some .directory := by
    rw [node?_put apart] at found
    split at found
    · cases found
    · exact found
  exact resolve_eq_ok.mpr (follow_of_directories kept (resolve_eq_ok.mp resolved))

/-- **The entries after a write**: the one that the path leads to is the file. -/
theorem node?_write {p : Path} (h : fs.write p content = .ok fs')
    (resolved : fs.resolve p = .ok names) (other : List String) :
    fs'.node? other = if other = names then some (.file content) else fs.node? other := by
  obtain ⟨written, at_p, apart, rfl⟩ := write_eq_ok h
  obtain rfl := Except.ok.inj (at_p.symm.trans resolved)
  exact node?_put apart _ other

/-- **What is read after a write** was there before, or is what was written. -/
theorem read_of_read_write {p q : Path} (h : fs.write p content = .ok fs') {bytes : Bytes}
    (after : fs'.read q = .ok bytes) : fs.read q = .ok bytes ∨ bytes = content := by
  obtain ⟨written, at_p, -⟩ := write_eq_ok h
  cases resolved : fs'.resolve q with
  | error fault =>
    rw [read, resolved] at after
    cases after
  | ok names =>
    have before : fs.resolve q = .ok names := (resolve_write h).mp resolved
    rw [read_of_resolve resolved, node?_write h at_p] at after
    by_cases same : names = written
    · rw [if_pos same] at after
      exact .inr (Except.ok.inj after).symm
    · rw [if_neg same] at after
      rw [read_of_resolve before]
      exact .inl after

/-- **Writable paths** lead to a place where there is no directory. -/
def Writable (fs : FileSystem) (p : Path) : Prop :=
  ∃ names, fs.resolve p = .ok names ∧ fs.node? names ≠ some .directory

/-- Writing to a writable path succeeds. -/
theorem Writable.write_ok {p : Path} (h : fs.Writable p) (content : Bytes) :
    ∃ fs', fs.write p content = .ok fs' := by
  obtain ⟨names, resolved, apart⟩ := h
  refine ⟨fs.put names (.file content), ?_⟩
  rw [write, resolved]
  dsimp only [bind, Except.bind]
  split
  · contradiction
  · rfl

/-- What can be read can be written. -/
theorem writable_of_read {p : Path} (h : fs.read p = .ok content) : fs.Writable p := by
  cases resolved : fs.resolve p with
  | error fault =>
    rw [read, resolved] at h
    cases h
  | ok names =>
    refine ⟨names, resolved, fun directory => ?_⟩
    rw [read_of_resolve resolved, directory] at h
    cases h

/-- A path is still writable after a write. -/
theorem Writable.of_write {p q : Path} (h : fs.Writable q) (written : fs.write p content = .ok fs') :
    fs'.Writable q := by
  obtain ⟨names, resolved, apart⟩ := h
  refine ⟨names, resolve_of_write written resolved, ?_⟩
  obtain ⟨there, -, missing, rfl⟩ := write_eq_ok written
  rw [node?_put missing]
  split
  · exact fun eq => nomatch eq
  · exact apart

end FileSystem

end LineGate
