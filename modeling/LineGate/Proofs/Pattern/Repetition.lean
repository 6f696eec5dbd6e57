import LineGate.Pattern.Search

/-! # Repetitions of characters

What a repetition of single characters comes to, with something that has to follow it. A **greedy**
repetition takes the whole run of characters that satisfy its test, if what follows succeeds there or
fails everywhere before (`further_greedy`). A **lazy** one takes the shortest run behind which what
follows succeeds (`further_lazy`).

The text before a cursor matters to word boundaries, to the starts of lines, to looks back and to
references only. It is left open here, as a cursor's position, its rest and its spans say all that the
other patterns can depend on. -/

namespace LineGate

namespace Pattern

/-! ## Single characters -/

/-- Match **one character** that satisfies a test. -/
def single (test : Char → Bool) : Matcher := fun s k => (s.step? test).bind k

/-- Any character but a line feed is a single character. -/
theorem run_any : Regex.any.run = single (· != '\n') := by
  funext s k
  rfl

/-- A given character is a single character. -/
theorem run_char (c : Char) : (Regex.char c).run = single (· == c) := by
  funext s k
  rfl

/-- The class of blanks. -/
def blanks : Regex := .set false [.cls .unicode .space false]

/-- A blank is a single character. -/
theorem run_blanks : blanks.run = single isBlank := by
  have test : (fun c => ([Member.cls .unicode .space false].any (·.contains c)) != false) = isBlank := by
    funext c
    simp [Member.contains, Class.contains]
  funext s k
  change (s.step? fun c => ([Member.cls .unicode .space false].any (·.contains c)) != false).bind k = _
  rw [test]
  rfl

section Single

variable (test : Char → Bool) (k : Continuation) (position : Nat) (before : List Char)
variable (spans : List (Nat × Nat × Nat))

/-- The next character is passed if it satisfies the test. -/
theorem single_cons (c : Char) (rest : List Char) :
    single test ⟨position, before, c :: rest, spans⟩ k =
      if test c = true then k ⟨position + 1, c :: before, rest, spans⟩ else none := by
  unfold single Cursor.step?
  by_cases holds : test c = true
  · simp [holds]
  · simp [holds]

/-- A repetition ends at the end of the text. -/
theorem further_single_nil (greedy : Bool) (fuel : Nat) :
    further (single test) greedy fuel none ⟨position, before, [], spans⟩ k =
      k ⟨position, before, [], spans⟩ := by
  cases fuel with
  | zero => rfl
  | succ fuel =>
    unfold further
    cases greedy with
    | true => rfl
    | false =>
      change orElse (k _) (fun _ => none) = _
      cases k ⟨position, before, [], spans⟩ <;> rfl

/-- One more repetition moves on by one character. -/
theorem further_single_cons (greedy : Bool) (fuel : Nat) (c : Char) (rest : List Char) :
    further (single test) greedy (fuel + 1) none ⟨position, before, c :: rest, spans⟩ k =
      let again := if test c = true then
          further (single test) greedy fuel none ⟨position + 1, c :: before, rest, spans⟩ k
        else none
      if greedy then orElse again fun _ => k ⟨position, before, c :: rest, spans⟩
      else orElse (k ⟨position, before, c :: rest, spans⟩) fun _ => again := by
  have moved : position + 1 ≠ position := by omega
  rw [further]
  · simp only [single_cons, Option.map_none, moved, if_false]
  · exact nofun

end Single

/-! ## Repetitions -/

/-- A repetition of any number of times. -/
theorem run_rep (body : Regex) (greedy : Bool) (s : Cursor) (k : Continuation) :
    (Regex.rep body 0 none greedy).run s k =
      further body.run greedy (s.rest.length + 1) none s k := rfl

/-- **An optional part** is matched once if it can be, else not at all. -/
theorem run_optional (body : Regex) (s : Cursor) (k : Continuation) :
    (Regex.rep body 0 (some 1) true).run s k = orElse (body.run s k) fun _ => k s := by
  have finished (fuel : Nat) (t : Cursor) : further body.run true fuel (some 0) t k = k t := by
    cases fuel <;> rfl
  change further body.run true (s.rest.length + 1) (some 1) s k = _
  rw [further]
  · simp only [Option.map_some, Nat.sub_self, finished, ite_self, if_true]
  · exact nofun

/-! ## Greedy repetitions -/

section Greedy

variable {test : Char → Bool} {k : Continuation} {spans : List (Nat × Nat × Nat)}

/-- **A greedy repetition takes the whole run**, if wherever the run could go on, what follows fails
there or succeeds behind the run. -/
theorem further_greedy {fuel position : Nat} {before : List Char} {text : List Char}
    (enough : text.length ≤ fuel)
    (longest : ∀ n b c rest, c :: rest <:+ text → test c = true → k ⟨n, b, c :: rest, spans⟩ = none ∨
      ∀ b, (k ⟨position + (text.takeWhile test).length, b, text.dropWhile test, spans⟩).isSome) :
    ∃ b, further (single test) true fuel none ⟨position, before, text, spans⟩ k =
      k ⟨position + (text.takeWhile test).length, b, text.dropWhile test, spans⟩ := by
  induction text generalizing fuel position before with
  | nil => exact ⟨before, further_single_nil test k position before spans true fuel⟩
  | cons c rest ih =>
    obtain ⟨fuel, rfl⟩ : ∃ n, fuel = n + 1 := ⟨fuel - 1, by simp at enough; omega⟩
    have fits : rest.length ≤ fuel := by simpa using enough
    rw [further_single_cons]
    by_cases holds : test c = true
    · have moved : position + ((rest.takeWhile test).length + 1) =
          position + 1 + (rest.takeWhile test).length := by omega
      rw [List.takeWhile_cons_of_pos holds, List.dropWhile_cons_of_pos holds, List.length_cons,
        moved] at longest ⊢
      obtain ⟨b, eq⟩ := @ih fuel (position + 1) (c :: before) fits
        fun n b d more suffix => longest n b d more (suffix.trans (List.suffix_cons c rest))
      refine ⟨b, ?_⟩
      simp only [holds, if_true, eq]
      -- The run goes on here: stopping is not tried, or it fails.
      rcases longest position before c rest List.suffix_rfl holds with here | ends
      · rw [here]
        cases k _ <;> rfl
      · obtain ⟨t, found⟩ := Option.isSome_iff_exists.mp (ends b)
        rw [found]
        rfl
    · simp only [List.takeWhile_cons_of_neg holds, List.dropWhile_cons_of_neg holds,
        List.length_nil, Nat.add_zero]
      exact ⟨before, by simp only [holds, if_true, orElse, Bool.false_eq_true, if_false]⟩

/-- The whole run is taken if what follows succeeds behind it. -/
theorem further_greedy_of_ends {fuel position : Nat} {before : List Char} {text : List Char}
    (enough : text.length ≤ fuel)
    (ends : ∀ b, (k ⟨position + (text.takeWhile test).length, b, text.dropWhile test, spans⟩).isSome) :
    ∃ b, further (single test) true fuel none ⟨position, before, text, spans⟩ k =
      k ⟨position + (text.takeWhile test).length, b, text.dropWhile test, spans⟩ :=
  further_greedy enough fun _ _ _ _ _ _ => .inr ends

/-- The whole run is taken if what follows fails wherever the run could go on. -/
theorem further_greedy_of_fails {fuel position : Nat} {before : List Char} {text : List Char}
    (enough : text.length ≤ fuel)
    (fails : ∀ n b c rest, c :: rest <:+ text → test c = true → k ⟨n, b, c :: rest, spans⟩ = none) :
    ∃ b, further (single test) true fuel none ⟨position, before, text, spans⟩ k =
      k ⟨position + (text.takeWhile test).length, b, text.dropWhile test, spans⟩ :=
  further_greedy enough fun n b c rest suffix holds => .inl (fails n b c rest suffix holds)

end Greedy

/-! ## Lazy repetitions -/

/-- **A lazy repetition takes the shortest run** behind which what follows succeeds. -/
theorem further_lazy {test : Char → Bool} {k : Continuation} {spans : List (Nat × Nat × Nat)}
    {fuel position : Nat} {before : List Char} (front behind : List Char)
    (enough : front.length ≤ fuel) (holds : ∀ c ∈ front, test c = true)
    (fails : ∀ b passed c left, front = passed ++ c :: left →
      k ⟨position + passed.length, b, c :: left ++ behind, spans⟩ = none)
    (ends : ∀ b, (k ⟨position + front.length, b, behind, spans⟩).isSome) :
    ∃ b, further (single test) false fuel none ⟨position, before, front ++ behind, spans⟩ k =
      k ⟨position + front.length, b, behind, spans⟩ := by
  induction front generalizing fuel position before with
  | nil =>
    obtain ⟨t, found⟩ := Option.isSome_iff_exists.mp (ends before)
    refine ⟨before, ?_⟩
    rw [List.nil_append]
    rw [List.length_nil, Nat.add_zero] at found ⊢
    cases behind with
    | nil => rw [further_single_nil]
    | cons c rest =>
      cases fuel with
      | zero => rfl
      | succ fuel =>
        rw [further_single_cons]
        simp only [found, orElse, Bool.false_eq_true, if_false]
  | cons c rest ih =>
    obtain ⟨fuel, rfl⟩ : ∃ n, fuel = n + 1 := ⟨fuel - 1, by simp at enough; omega⟩
    have fits : rest.length ≤ fuel := by simpa using enough
    have moved (n : Nat) : position + (n + 1) = position + 1 + n := by omega
    have here : k ⟨position, before, c :: (rest ++ behind), spans⟩ = none := by
      simpa using fails before [] c rest rfl
    rw [List.length_cons, moved] at ends ⊢
    obtain ⟨b, eq⟩ := @ih fuel (position + 1) (c :: before) fits
      (fun d inside => holds d (List.mem_cons_of_mem c inside))
      (fun b passed d left split => by
        have later := fails b (c :: passed) d left (by rw [split]; rfl)
        rwa [List.length_cons, moved] at later)
      ends
    refine ⟨b, ?_⟩
    rw [List.cons_append, further_single_cons]
    simp only [here, holds c List.mem_cons_self, orElse, eq, if_true, Bool.false_eq_true, if_false]

end Pattern

end LineGate
