import LineGate.Proofs.Command.Course
import LineGate.Proofs.Document.Encoded
import LineGate.Proofs.Document.LineCount

/-! # Bytes that are written

A file is decoded, its text goes through the gate, and the result is encoded again. This file says what
becomes of the bytes on the way (`run_writes_bytes`): the bytes that are written are those that were
read, with the stretches between line feeds that belong to hidden lines neutralised. All others are
byte for byte as they were, whatever bytes they are, and a file in which no line opens a block is written
back as it is. -/

namespace LineGate

namespace Command

/-- **The style that options ask for**: hidden lines are blanked, or put behind a marker, which is two
slashes unless options name another one. -/
def Options.style (o : Options) : Style :=
  if o.fillSpaces then .blank else .comment (o.commentMarker.getD "//")

variable {o : Options} {p : Preprocessor Unit} {environ : List (String × String)}
variable {glossary : Pattern.Glossary}

/-- The gate of a preprocessor is built from settings as the options ask for them. -/
theorem Options.gate_of_preprocessor (built : (o.preprocessor glossary environ).1 = .ok p) :
    ∃ env, (Gate.build glossary (o.settingsWith env) noFunctions environ Log.baseLogger).1 =
      .ok p.gate := by
  unfold Options.preprocessor Options.settings at built
  dsimp only at built
  split at built
  · cases built
  · rename_i settings records eq
    split at eq
    · cases eq
    · rename_i env _
      cases eq
      refine ⟨env, ?_⟩
      unfold Preprocessor.build at built
      split at built
      · rename_i p' more found
        cases built
        split at found
        · cases found
        · split at found
          · rename_i gate _ eq
            cases found
            rw [eq]
          · cases found
      · cases built
    · cases eq

/-- The gate of a preprocessor neutralises lines in the style that the options ask for. -/
theorem Options.style_of_preprocessor (built : (o.preprocessor glossary environ).1 = .ok p) :
    p.gate.style = o.style := by
  obtain ⟨env, gate⟩ := Options.gate_of_preprocessor built
  rw [Gate.style_of_build gate]
  rfl

/-! ## One file -/

/-- **A file is written as bytes**: those under the path are a text, which the gate lets through with
some lines hidden, and those that are written to the target have the stretches of these lines
neutralised. If no line opens a block, they are the bytes that were read. -/
def Options.WritesBytes (o : Options) (p : Preprocessor Unit) (path target : Path)
    (fs next : FileSystem) : Prop :=
  ∃ bytes chars f, fs.read path = .ok bytes ∧ Utf8.decode bytes = .ok chars ∧
    (p.gate.format (some path.toString) (String.ofList chars) ()).result = .ok f ∧
    fs.write target (Document.renderBytes o.style f.hidden bytes) = .ok next ∧
    (Document.Still p.gate.directive? (linesOf (String.ofList chars)) →
      Document.renderBytes o.style f.hidden bytes = bytes)

/-- The fate of a file with a text that is let through. -/
theorem fate?_of_text {fs : FileSystem} {name text : String} {f : Formatted}
    (accepted : p.acceptsPath name = true)
    (read : fs.read (Path.ofString name) = .ok (Utf8.encode text.toList))
    (result : (p.gate.format (some (Path.ofString name).toString) text ()).result = .ok f) :
    fate? p fs name = some (.passed f.text) := by
  unfold fate?
  rw [if_pos accepted, read]
  dsimp only
  rw [Utf8.decode_encode]
  dsimp only
  rw [String.ofList_toList, result]

/-- **A file that is let through** to a target is written as bytes. -/
theorem Options.writesBytes_of_passed (styled : p.gate.style = o.style) {name text : String}
    {target : Path} {here next : Output} (found : fate? p here.files name = some (.passed text))
    (left : (Fate.passed text).leaves? (some target) here = some next) :
    o.WritesBytes p (Path.ofString name) target here.files next.files := by
  obtain ⟨files, written, rfl⟩ := Option.map_eq_some_iff.mp left
  have written : here.files.write target (Utf8.encode text.toList) = .ok files :=
    eq_ok_of_toOption_eq_some written
  obtain ⟨-, bytes, chars, f, read, decoded, result, rfl⟩ := exists_formatted found
  have passed : (p.gate.outcome (some (Path.ofString name).toString) (String.ofList chars) ()).1 =
      .ok f := by
    rw [← result, Gate.format_eq_outcome]
  have encoded := p.gate.encode_of_outcome _ _ _ passed
  rw [String.toList_ofList, Utf8.encode_of_decode decoded, styled] at encoded
  refine ⟨bytes, chars, f, read, decoded, result, encoded ▸ written, fun still => ?_⟩
  rw [Gate.hidden_of_still still _ _ passed, Document.renderBytes_nil]

/-! ## All files -/

/-- **What a run writes, as bytes.** Whatever file system a run starts in, it takes a course, or it does
not get to the files. On its course every file that is let through and has a target, in a directory or
in the place of the file, is written as bytes: what it meets at its turn is what the files before it
left behind, and what was written is what the files behind it meet. -/
theorem run_writes_bytes {argv : List String} (parsed : Options.parse argv = .ok o)
    (built : (o.preprocessor glossary environ).1 = .ok p) (s : Session) (stamp : String)
    (interruption : Option Interruption) (mode : Option LogMode) :
    let outcome := (run (Session.host glossary stamp interruption) environ mode argv).run s
    Barred o p s outcome ∨ ∃ fs done fates, Course o p s outcome fs done fates ∧
      ∀ before name after text target, done = before ++ name :: after →
        fates[before.length]? = some (.passed text) →
        o.target? (Path.ofString name) = some target →
        ∃ here next, Handled o p before ⟨fs, s.out⟩ (fates.take before.length) here ∧
          o.WritesBytes p (Path.ofString name) target here.files next.files ∧
          Handled o p after next (fates.drop (before.length + 1)) outcome.2.output := by
  intro outcome
  rcases run_course parsed built s stamp interruption mode with ⟨fs, done, fates, course⟩ | barred
  · refine .inr ⟨fs, done, fates, course, ?_⟩
    intro before name after text target split at_name goal
    have handled := course.handled
    rw [split] at handled
    obtain ⟨fate, here, next, at_name', earlier, found, left, later⟩ := handled.at_turn
    obtain rfl := Option.some.inj (at_name.symm.trans at_name')
    rw [goal] at left
    have styled : p.gate.style = o.style := Options.style_of_preprocessor built
    exact ⟨here, next, earlier, Options.writesBytes_of_passed styled found left, later⟩
  · exact .inl barred

/-! ## A file of odd bytes -/

/-- A command line that writes the results over the files. -/
def inPlaceLine (files : List String) : List String := files ++ ["--in-place", "--no-env"]

/-- What it asks for. -/
def inPlaceOptions (files : List String) : Options :=
  { files, noEnv := true, destination := .inPlace }

/-- Reading the command line gives the options. -/
theorem parse_inPlace {files : List String} (nonempty : files ≠ [])
    (undashed : ∀ name ∈ files, name.toList.head? ≠ some '-') :
    Options.parse (inPlaceLine files) = .ok (inPlaceOptions files) := by
  have classified : Argument.classify ["--in-place", "--no-env"] =
      .ok [⟨"--in-place", .switch .inPlace false none⟩, ⟨"--no-env", .switch .noEnv false none⟩] :=
    eq_ok_of_toOption_eq_some (by decide)
  rw [inPlaceLine, Options.parse_files nonempty undashed classified (by decide)]
  simp only [Reading.read]
  rfl

/-- The command line asks for the usual preprocessor. -/
theorem inPlace_preprocessor (files : List String) :
    ((inPlaceOptions files).preprocessor .empty []).1 = .ok .usual :=
  congrArg Prod.fst (Options.preprocessor_usual rfl)

/-- The usual preprocessor accepts the file. -/
theorem usual_accepts : Preprocessor.usual.acceptsPath "a.ts" = true := by
  decide

/-- **A file is written over with its result.** -/
theorem exists_written_over (files : List String) {name text : String}
    (accepted : p.acceptsPath name = true) {w : Output} {f : Formatted}
    (read : w.files.read (Path.ofString name) = .ok (Utf8.encode text.toList))
    (result : (p.gate.format (some (Path.ofString name).toString) text ()).result = .ok f) :
    ∃ next, fate? p w.files name = some (.passed f.text) ∧
      (Fate.passed f.text).leaves? ((inPlaceOptions files).target? (Path.ofString name)) w =
        some next ∧
      next.files.read (Path.ofString name) = .ok (Utf8.encode f.text.toList) := by
  have goes : (inPlaceOptions files).target? (Path.ofString name) = some (Path.ofString name) := rfl
  have writable : ∀ text goal, Fate.passed f.text = .passed text →
      some (Path.ofString name) = some goal → w.files.Writable goal := by
    intro _ goal _ here
    rw [← Option.some.inj here]
    exact FileSystem.writable_of_read read
  obtain ⟨next, left⟩ := Fate.exists_leaves? writable
  refine ⟨next, fate?_of_text accepted read result, goes ▸ left, ?_⟩
  rcases Fate.leaves?_cases left with ⟨_, _, same, here, written⟩ | ⟨nowhere, -⟩
  · cases same
    cases here
    exact FileSystem.read_of_write written
  · cases nowhere _ rfl

/-- Lines with a byte-order mark, both bytes of a line end, a null character and a character of two
bytes. The last three are a block, and have a marker in front. -/
def oddLines (marker : String) : List String :=
  ["\ufeffa\r", marker ++ "///#if false", marker ++ "\x00é\r", marker ++ "///#endif"]

/-- The bytes of the lines, with those of the marker. -/
def oddBytes (marker : Bytes) : Bytes :=
  [0xEF, 0xBB, 0xBF, 0x61, 0x0D, 0x0A] ++
    marker ++ [0x2F, 0x2F, 0x2F, 0x23, 0x69, 0x66, 0x20, 0x66, 0x61, 0x6C, 0x73, 0x65, 0x0A] ++
    marker ++ [0x00, 0xC3, 0xA9, 0x0D, 0x0A] ++
    marker ++ [0x2F, 0x2F, 0x2F, 0x23, 0x65, 0x6E, 0x64, 0x69, 0x66]

/-- A session with a file of these bytes. -/
def oddSession : Session where
  files := { entries := [(["a.ts"], .file (oddBytes []))] }

/-- All lines of the file but the first one are hidden. -/
theorem format_odd (file : Option String) :
    ∃ f, ((Gate.marked "//").format file (textOf (oddLines "")) ()).result = .ok f ∧
      f.hidden = [1, 2, 3] := by
  have lines : linesOf (textOf (oddLines "")) = oddLines "" := by
    decide
  obtain ⟨first, opening, content, closing⟩ :
      (Gate.marked "//").directive? "\ufeffa\r" = none ∧
      (Gate.marked "//").directive? "///#if false" = some ⟨"if", .opening, "false", 0, 12⟩ ∧
      (Gate.marked "//").directive? "\x00é\r" = none ∧
      (Gate.marked "//").directive? "///#endif" = some ⟨"endif", .closing, "", 0, 9⟩ := by
    decide
  have still : ¬ Block.opens (Gate.marked "//").directive? "\ufeffa\r" = true := by
    rw [Block.opens, first]
    exact Bool.false_ne_true
  refine ⟨⟨textOf (Document.renderLines (.comment "//") [1, 2, 3] (oddLines "")), [], [1, 2, 3], 4⟩,
    ?_, rfl⟩
  rw [Gate.format_eq_outcome, Gate.outcome, Document.format, lines]
  have scanned : (Document.scan (Gate.marked "//").directive? (Gate.marked "//").evaluator 0
      (oddLines "")).run { state := () } =
        (.ok [1, 2, 3], ⟨(), #[.evaluated "false" 1 false]⟩) := by
    rw [oddLines, Document.scan, if_neg still]
    exact Gate.scan_block "//" false 1 opening rfl rfl content closing rfl
  rw [scanned]
  rfl

/-- **The bytes of the file are still the same** after it was written over with its result, but for the
markers in front of the hidden lines. -/
theorem run_writes_bytes_odd :
    let outcome := (run (Session.host .empty "" none) [] none (inPlaceLine ["a.ts"])).run oddSession
    outcome.1 = .ok success ∧
      outcome.2.files.read (Path.ofString "a.ts") = .ok (oddBytes [0x2F, 0x2F]) := by
  have parsed : Options.parse (inPlaceLine ["a.ts"]) = .ok (inPlaceOptions ["a.ts"]) :=
    parse_inPlace (by decide) (by decide)
  obtain ⟨f, result, hides⟩ := format_odd (some (Path.ofString "a.ts").toString)
  have there : oddSession.output.files.read (Path.ofString "a.ts") = .ok (oddBytes []) :=
    eq_ok_of_toOption_eq_some (by decide)
  have text_eq : Utf8.decode (oddBytes []) = .ok (textOf (oddLines "")).toList :=
    eq_ok_of_toOption_eq_some (by decide)
  -- The run returns, because the file is let through and can be written over.
  have there_text := there
  rw [← Utf8.encode_of_decode text_eq] at there_text
  obtain ⟨w, found, left, -⟩ := exists_written_over [] usual_accepts there_text result
  have handled : Handled (inPlaceOptions ["a.ts"]) .usual ["a.ts"] oddSession.output [_] w :=
    .cons found left (.nil w)
  obtain ⟨s, returned, -⟩ := run_shows "" parsed (inPlace_preprocessor _) nofun
    (show Options.Prepares _ _ _ from rfl) none handled
  have status : ((run (Session.host .empty "" none) [] none (inPlaceLine ["a.ts"])).run
      oddSession).1 = .ok success := congrArg Prod.fst returned
  refine ⟨status, ?_⟩
  rcases run_writes_bytes parsed (inPlace_preprocessor _) oddSession "" none none with
    barred | ⟨fs, done, fates, course, written⟩
  · obtain ⟨directory, into, -⟩ := barred.reason
    cases into
  · obtain ⟨rfl, -⟩ := course.of_returned status
    obtain rfl : fs = oddSession.files := course.prepared
    obtain ⟨fate, _, _, at_name, earlier, found', -, -⟩ :=
      (show Handled _ .usual ([] ++ "a.ts" :: []) _ fates _ from course.handled).at_turn
    cases earlier
    obtain rfl := Option.some.inj (found'.symm.trans found)
    obtain ⟨_, next, start, ⟨bytes, chars, f', read, decoded, result', left', -⟩, ending⟩ :=
      written [] "a.ts" [] _ (Path.ofString "a.ts") rfl at_name rfl
    -- There is nothing before the file and nothing behind it.
    generalize List.drop _ fates = none_left at ending
    cases start
    cases ending
    obtain rfl := Except.ok.inj (read.symm.trans there)
    obtain rfl := Except.ok.inj (decoded.symm.trans text_eq)
    rw [String.ofList_toList] at result'
    obtain rfl := Except.ok.inj (result'.symm.trans result)
    have rendered : Document.renderBytes (inPlaceOptions ["a.ts"]).style [1, 2, 3] (oddBytes []) =
        oddBytes [0x2F, 0x2F] := by
      decide
    rw [hides, rendered] at left'
    have final := FileSystem.read_of_write left'
    rw [Session.output_files] at final
    exact final

end Command

end LineGate
