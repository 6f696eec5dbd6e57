import LineGate.Proofs.Command.WrittenBytes

/-! # Files that spare each other

Files are read and written in turn, so that a result can go over a file that is still to be read. That
does no harm if it **lasts** there: if it is the result of that file, too, and is let through as it is.
A file whose results do not go over another one, but for those that last, **spares** that one
(`Options.Spares`), and the other one keeps its fate (`Fate.keeps_of_leaves?`, `Handled.keeps`).

A batch in which each file spares the later ones is **steady**: nothing changes for the files that are
still to come (`Steady.step`). What it comes to is told by the files as they were before it: their fates
(`Handled.fates_eq`), and each entry of the file system (`Handled.node?_or`). -/

namespace LineGate

namespace Command

variable {o : Options} {p : Preprocessor Unit} {fs fs' : FileSystem} {a b name : String}

/-! ## Files by their paths -/

/-- Files with the same path are accepted alike. -/
theorem acceptsPath_congr (same : Path.ofString a = Path.ofString b) :
    p.acceptsPath a = p.acceptsPath b := by
  rw [Preprocessor.acceptsPath, Preprocessor.acceptsPath, same]

/-- **Files with the same path** have the same fate. -/
theorem fate?_of_path_eq (same : Path.ofString a = Path.ofString b) (fs : FileSystem) :
    fate? p fs a = fate? p fs b := by
  unfold fate?
  rw [acceptsPath_congr same, same]

/-- **The fate of a file** depends on what is read from it, if it is accepted. -/
theorem fate?_of_read_eq (same : p.acceptsPath name = true →
    fs'.read (Path.ofString name) = fs.read (Path.ofString name)) :
    fate? p fs' name = fate? p fs name := by
  unfold fate?
  by_cases accepted : p.acceptsPath name = true
  · rw [same accepted]
  · rw [if_neg accepted, if_neg accepted]

/-- **Legible files**: if such a file is accepted, it can be read, and is text. -/
def Legible (p : Preprocessor Unit) (fs : FileSystem) (name : String) : Prop :=
  p.acceptsPath name = true →
    ∃ bytes chars, fs.read (Path.ofString name) = .ok bytes ∧ Utf8.decode bytes = .ok chars

/-- Files with the same path are legible alike. -/
theorem Legible.of_path_eq (h : Legible p fs a) (same : Path.ofString a = Path.ofString b) :
    Legible p fs b := by
  intro accepted
  rw [← same]
  exact h ((acceptsPath_congr same).trans accepted)

/-! ## Files that spare each other -/

/-- **A result goes over a file** if its target is the same entry. -/
def Options.GoesOver (o : Options) (fs : FileSystem) (a b : String) : Prop :=
  ∃ target, o.target? (Path.ofString a) = some target ∧ fs.SameEntry target (Path.ofString b)

/-- **A text lasts in a file** if it is the result of the file, and is let through as it is. -/
def Lasts (p : Preprocessor Unit) (fs : FileSystem) (name text : String) : Prop :=
  fate? p fs name = some (.passed text) ∧
    ∃ f, (p.gate.format (some (Path.ofString name).toString) text ()).result = .ok f ∧ f.text = text

/-- **A file spares another one**, if that one is accepted, when no result of it goes over that one, but
for a text that lasts there. -/
def Options.Spares (o : Options) (p : Preprocessor Unit) (fs : FileSystem) (a b : String) : Prop :=
  p.acceptsPath b = true → ∀ text, fate? p fs a = some (.passed text) → o.GoesOver fs a b →
    Lasts p fs b text

/-! ## What a file leaves behind -/

section Leaves

variable {fate : Fate} {target : Option Path} {w next : Output}

/-- Paths lead where they led before. -/
theorem Fate.resolve_of_leaves? (left : fate.leaves? target w = some next) {q : Path}
    {entry : List String} : next.files.resolve q = .ok entry ↔ w.files.resolve q = .ok entry := by
  rcases Fate.leaves?_cases left with ⟨text, goal, -, -, written⟩ | ⟨-, same⟩
  · exact FileSystem.resolve_write written
  · rw [same]

/-- Paths are writable that were so before. -/
theorem Fate.writable_of_leaves? (left : fate.leaves? target w = some next) {q : Path} :
    next.files.Writable q ↔ w.files.Writable q := by
  rcases Fate.leaves?_cases left with ⟨text, goal, -, -, written⟩ | ⟨-, same⟩
  · exact FileSystem.writable_write written
  · rw [same]

/-- **A file keeps its fate**, and is still legible, if nothing goes over it but a text that lasts. -/
theorem Fate.keeps_of_leaves? (left : fate.leaves? target w = some next)
    (legible : Legible p w.files name)
    (spared : p.acceptsPath name = true → ∀ text goal, fate = .passed text → target = some goal →
      w.files.SameEntry goal (Path.ofString name) → Lasts p w.files name text) :
    Legible p next.files name ∧ fate? p next.files name = fate? p w.files name := by
  by_cases accepted : p.acceptsPath name = true
  · rcases Fate.leaves?_cases left with ⟨text, goal, passed, goes, written⟩ | ⟨-, same⟩
    · by_cases hit : w.files.SameEntry goal (Path.ofString name)
      · obtain ⟨before, f, result, unchanged⟩ := spared accepted text goal passed goes hit
        have read := FileSystem.read_write_of_sameEntry written hit
        refine ⟨fun _ => ⟨_, _, read, Utf8.decode_encode _⟩, ?_⟩
        rw [fate?_of_text accepted read result, unchanged, before]
      · obtain ⟨bytes, chars, read, decoded⟩ := legible accepted
        have still := FileSystem.read_write_of_apart written hit read
        exact ⟨fun _ => ⟨bytes, chars, still, decoded⟩,
          fate?_of_read_eq fun _ => still.trans read.symm⟩
    · rw [same]
      exact ⟨legible, rfl⟩
  · exact ⟨fun accepts => absurd accepts accepted,
      fate?_of_read_eq fun accepts => absurd accepts accepted⟩

end Leaves

/-! ## Batches -/

namespace Handled

variable {names : List String} {w final : Output} {fates : List Fate}

/-- **A file keeps its fate** behind a batch of which nothing went over it but texts that last. -/
theorem keeps (h : Handled o p names w fates final) {b : String} (legible : Legible p w.files b)
    (spared : ∀ (i : Nat) earlier text, names[i]? = some earlier →
      fates[i]? = some (.passed text) → o.GoesOver w.files earlier b → Lasts p w.files b text) :
    fate? p final.files b = fate? p w.files b := by
  induction h with
  | nil w => rfl
  | @cons name names fate fates w next final found left _ ih =>
    obtain ⟨legible', kept⟩ := Fate.keeps_of_leaves? left legible
      fun _ text goal passed goes hit =>
        spared 0 name text rfl (congrArg some passed) ⟨goal, goes, hit⟩
    rw [← kept]
    refine ih legible' fun i earlier text at_i passed hit => ?_
    -- Which paths lead to one entry was not changed by the first file.
    obtain ⟨goal, goes, same⟩ := hit
    simp only [FileSystem.SameEntry, Fate.resolve_of_leaves? left] at same
    obtain ⟨before, unchanged⟩ := spared (i + 1) earlier text at_i passed ⟨goal, goes, same⟩
    exact ⟨kept.trans before, unchanged⟩

end Handled

/-- **Steady batches**: each of the files spares the later ones in `fs`, and in `fs'`, which is what
earlier files made of `fs`, nothing has changed for them. Paths lead to the same entries, the same paths
are writable, and the files are legible and have the same fates. -/
structure Steady (o : Options) (p : Preprocessor Unit) (fs : FileSystem) (names : List String)
    (fs' : FileSystem) : Prop where
  spares : names.Pairwise (o.Spares p fs)
  resolve : ∀ q entry, fs'.resolve q = .ok entry ↔ fs.resolve q = .ok entry
  writable : ∀ q, fs'.Writable q ↔ fs.Writable q
  legible : ∀ name ∈ names, Legible p fs' name
  fates : ∀ name ∈ names, fate? p fs' name = fate? p fs name

namespace Steady

variable {names : List String} {w next : Output} {fate : Fate}

/-- At first nothing has changed. -/
theorem refl (legible : ∀ name ∈ names, Legible p fs name) (spares : names.Pairwise (o.Spares p fs)) :
    Steady o p fs names fs :=
  ⟨spares, fun _ _ => .rfl, fun _ => .rfl, legible, fun _ _ => rfl⟩

/-- The first file still has the fate that it had at first. -/
theorem head (h : Steady o p fs (name :: names) fs') : fate? p fs' name = fate? p fs name :=
  h.fates name List.mem_cons_self

/-- **A steady batch is steady behind its first file.** -/
theorem step (h : Steady o p fs (name :: names) w.files) (found : fate? p w.files name = some fate)
    (left : fate.leaves? (o.target? (Path.ofString name)) w = some next) :
    Steady o p fs names next.files := by
  have keeps (b : String) (mem : b ∈ names) :
      Legible p next.files b ∧ fate? p next.files b = fate? p w.files b := by
    have later : b ∈ name :: names := List.mem_cons_of_mem name mem
    refine Fate.keeps_of_leaves? left (h.legible b later) fun accepted text goal passed goes hit => ?_
    -- It spares the later ones as it was at first, and so does it now.
    simp only [FileSystem.SameEntry, h.resolve] at hit
    rw [h.head, passed] at found
    obtain ⟨before, unchanged⟩ :=
      List.rel_of_pairwise_cons h.spares mem accepted text found ⟨goal, goes, hit⟩
    exact ⟨(h.fates b later).trans before, unchanged⟩
  exact ⟨h.spares.tail, fun q entry => (Fate.resolve_of_leaves? left).trans (h.resolve q entry),
    fun q => (Fate.writable_of_leaves? left).trans (h.writable q),
    fun b mem => (keeps b mem).1,
    fun b mem => (keeps b mem).2.trans (h.fates b (List.mem_cons_of_mem name mem))⟩

end Steady

/-- **A file fills an entry** with a content, if it is let through and its result belongs there. -/
def Options.Fills (o : Options) (p : Preprocessor Unit) (fs : FileSystem) (name : String)
    (entry : List String) (content : Bytes) : Prop :=
  ∃ text goal, fate? p fs name = some (.passed text) ∧
    o.target? (Path.ofString name) = some goal ∧ fs.resolve goal = .ok entry ∧
    content = Utf8.encode text.toList

namespace Handled

variable {names : List String} {w final : Output} {fates : List Fate}

/-- **Files are processed as they were** in a steady batch. -/
theorem fates_eq (h : Handled o p names w fates final) (steady : Steady o p fs names w.files) :
    names.map (fate? p fs) = fates.map some := by
  induction h with
  | nil w => rfl
  | cons found left _ ih =>
    rw [List.map_cons, List.map_cons, ← steady.head, found,
      ih (steady.step found left)]

/-- A target that was written to is writable from the start. -/
theorem writable (h : Handled o p names w fates final) (steady : Steady o p fs names w.files) :
    ∀ name ∈ names, ∀ text goal, fate? p fs name = some (.passed text) →
      o.target? (Path.ofString name) = some goal → fs.Writable goal := by
  induction h with
  | nil w => exact nofun
  | cons found left _ ih =>
    intro name mem text goal passed goes
    rcases List.mem_cons.mp mem with rfl | mem
    · rw [steady.head, passed] at found
      obtain rfl := Option.some.inj found
      rw [goes] at left
      rcases Fate.leaves?_cases left with ⟨_, _, -, same, written⟩ | ⟨nowhere, -⟩
      · obtain rfl := Option.some.inj same
        exact (steady.writable goal).mp (FileSystem.writable_of_write written)
      · cases nowhere text rfl
    · exact ih (steady.step found left) name mem text goal passed goes

/-- **What becomes of an entry**: it holds what one of the files fills it with, or none of them does and
it is as it was. -/
theorem node?_or (h : Handled o p names w fates final) (steady : Steady o p fs names w.files)
    (entry : List String) :
    (∃ name ∈ names, ∃ content, o.Fills p fs name entry content ∧
      final.files.node? entry = some (.file content)) ∨
    (∀ name ∈ names, ∀ content, ¬ o.Fills p fs name entry content) ∧
      final.files.node? entry = w.files.node? entry := by
  induction h with
  | nil w => exact .inr ⟨nofun, rfl⟩
  | @cons first names fate fates w next final found left _ ih =>
    have fate_eq : fate? p fs first = some fate :=
      steady.head.symm.trans found
    rcases ih (steady.step found left) with
      ⟨name, mem, content, fills, last⟩ | ⟨none_later, kept⟩
    · exact .inl ⟨name, List.mem_cons_of_mem first mem, content, fills, last⟩
    · -- No later file fills the entry, so that the first one decides.
      rcases Fate.leaves?_cases left with ⟨text, goal, rfl, goes, written⟩ | ⟨nowhere, same⟩
      · obtain ⟨there, resolved, -⟩ := FileSystem.write_eq_ok written
        have node := FileSystem.node?_write written resolved entry
        have leads : fs.resolve goal = .ok there := (steady.resolve goal there).mp resolved
        by_cases eq : entry = there
        · rw [if_pos eq] at node
          refine .inl ⟨first, List.mem_cons_self, _, ?_, kept.trans node⟩
          exact ⟨text, goal, fate_eq, goes, eq ▸ leads, rfl⟩
        · rw [if_neg eq] at node
          refine .inr ⟨List.forall_mem_cons.mpr ⟨?_, none_later⟩, kept.trans node⟩
          rintro content ⟨_, goal', -, goes', leads', -⟩
          obtain rfl := Option.some.inj (goes.symm.trans goes')
          exact eq (Except.ok.inj (leads'.symm.trans leads))
      · refine .inr ⟨List.forall_mem_cons.mpr ⟨?_, none_later⟩, kept.trans (by rw [same])⟩
        rintro content ⟨text, goal, passed, goes, -, -⟩
        rw [nowhere text (Option.some.inj (fate_eq.symm.trans passed))] at goes
        cases goes

end Handled

/-- **A steady batch is handled** if each file has its fate and a writable target. -/
theorem Steady.exists_handled {names : List String} {w : Output}
    (steady : Steady o p fs names w.files)
    (ready : ∀ name ∈ names, ∃ fate, fate? p fs name = some fate ∧ ∀ text goal,
      fate = .passed text → o.target? (Path.ofString name) = some goal → fs.Writable goal) :
    ∃ fates final, Handled o p names w fates final := by
  induction names generalizing w with
  | nil => exact ⟨[], w, .nil w⟩
  | cons name names ih =>
    obtain ⟨fate, fate_eq, writable⟩ := ready name List.mem_cons_self
    have found : fate? p w.files name = some fate :=
      steady.head.trans fate_eq
    obtain ⟨next, left⟩ := Fate.exists_leaves? (w := w) fun text goal passed goes =>
      (steady.writable goal).mpr (writable text goal passed goes)
    obtain ⟨fates, final, rest⟩ := ih (steady.step found left) fun b mem =>
      ready b (List.mem_cons_of_mem name mem)
    exact ⟨fate :: fates, final, .cons found left rest⟩

end Command

end LineGate
