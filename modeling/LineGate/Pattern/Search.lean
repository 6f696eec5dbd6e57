import LineGate.Pattern.Syntax

/-! # Searching with patterns

A search tries every place of the text from left to right, and at each place the ways in which the
pattern can match in order of preference: the first alternative before the second, more repetitions
before fewer (or the reverse where a repetition is lazy). The first way that leads through the whole
pattern is the match.

Matching is written in continuation-passing style: an expression is matched at a place together with
what has to follow, and the result is that of the first way in which both succeed.
-/

namespace LineGate

namespace Pattern

/-- The piece of a text between two places. -/
def slice (text : List Char) (start stop : Nat) : List Char := (text.drop start).take (stop - start)

/-- **Cursors**: a place in the text, the text before it (latest first) and the text behind it, and the
spans that groups have recorded on the way, latest first. -/
structure Cursor where
  position : Nat
  before : List Char
  rest : List Char
  spans : List (Nat × Nat × Nat) := []
  deriving DecidableEq, Repr

namespace Cursor

/-- Move over one character that satisfies a test. -/
def step? (test : Char → Bool) (s : Cursor) : Option Cursor :=
  match s.rest with
  | c :: rest => if test c then some ⟨s.position + 1, c :: s.before, rest, s.spans⟩ else none
  | [] => none

/-- Record the span of a group. -/
def record (index : Option Nat) (opened : Nat) (s : Cursor) : Cursor :=
  match index with
  | some i => { s with spans := (i, opened, s.position) :: s.spans }
  | none => s

/-- Move over characters one by one that are the same as given ones. -/
def follow? (same : Char → Char → Bool) : List Char → Cursor → Option Cursor
  | [], s => some s
  | c :: more, s => (s.step? (same c)).bind (follow? same more)

/-- Move back by a number of characters. -/
def back? (n : Nat) (s : Cursor) : Option Cursor :=
  if n ≤ s.before.length then
    some ⟨s.position - n, s.before.drop n, (s.before.take n).reverse ++ s.rest, s.spans⟩
  else none

/-- The text of the span that a group recorded last. -/
def recorded? (s : Cursor) (index : Nat) : Option (List Char) := do
  let (start, stop) ← s.spans.lookup index
  return slice (s.before.reverse ++ s.rest) start stop

end Cursor

/-- Whether a word starts or ends at a place. -/
def atBoundary (a : Alphabet) (s : Cursor) : Bool :=
  s.before.head?.any (Class.word.contains a) != s.rest.head?.any (Class.word.contains a)

/-- Whether the text is empty; an empty text has neither boundaries nor places without one. -/
def inEmptyText (s : Cursor) : Bool := s.before.isEmpty && s.rest.isEmpty

/-- Whether an assertion holds at a place. -/
def Assertion.holds : Assertion → Cursor → Bool
  | .start, s => s.before.isEmpty
  | .ending, s => s.rest.isEmpty || s.rest == ['\n']
  | .close, s => s.rest.isEmpty
  | .lineStart, s => s.before.head?.all (· == '\n')
  | .lineEnd, s => s.rest.head?.all (· == '\n')
  | .boundary a, s => atBoundary a s
  | .noBoundary a, s => !atBoundary a s && !inEmptyText s

/-- What has to follow: it gives the end of the whole match, if there is one. -/
abbrev Continuation := Cursor → Option Cursor

/-- A way to match from a cursor on, with what has to follow. -/
abbrev Matcher := Cursor → Continuation → Option Cursor

/-- The first result, else the second. -/
def orElse (first : Option Cursor) (second : Unit → Option Cursor) : Option Cursor :=
  match first with
  | some s => some s
  | none => second ()

/-- Match in the first possible way only. -/
def once (body : Matcher) : Matcher := fun s k => (body s some).bind k

/-- Match `n` times in a row. -/
def times (body : Matcher) : Nat → Matcher
  | 0, s, k => k s
  | n + 1, s, k => body s fun t => times body n t k

/-- Match any number of further times, at most `limit` if there is a limit. A repetition that does
not move is the last one, so there are no more repetitions than characters left, and one. -/
def further (body : Matcher) (greedy : Bool) : Nat → Option Nat → Matcher
  | 0, _, s, k => k s
  | _, some 0, s, k => k s
  | fuel + 1, limit, s, k =>
    let again := fun _ => body s fun t =>
      if t.position = s.position then k t
      else further body greedy fuel (limit.map (· - 1)) t k
    if greedy then orElse (again ()) fun _ => k s else orElse (k s) again

/-- Match a number of times within bounds. -/
def repeated (body : Matcher) (min : Nat) (max : Option Nat) (greedy : Bool) : Matcher := fun s k =>
  times body min s fun t =>
    further body greedy (t.rest.length + 1) (max.map (· - min)) t k

/-- Look whether there is a match from a cursor on, if there is a cursor. The spans that it records are
kept, unless there must not be a match. -/
def looking (body : Matcher) (negated : Bool) (place : Option Cursor) : Matcher := fun s k =>
  match place.bind (body · some), negated with
  | some t, false => k { s with spans := t.spans }
  | none, true => k s
  | _, _ => none

/-- Whether two characters are the same, in either case if an alphabet is given. -/
def sameLetter (letters : Option Alphabet) (c d : Char) : Bool :=
  match letters with
  | some a => a.lower c.toNat == a.lower d.toNat
  | none => c == d

/-- **Match an expression** from a cursor on, with what has to follow. -/
def Regex.run : Regex → Matcher
  | .empty, s, k => k s
  | .char c, s, k => (s.step? (· == c)).bind k
  | .any, s, k => (s.step? (· != '\n')).bind k
  | .all, s, k => (s.step? fun _ => true).bind k
  | .set negated members, s, k => (s.step? fun c => (members.any (·.contains c)) != negated).bind k
  | .loose a negated members, s, k =>
    (s.step? fun c => (members.any (·.containsLower a (a.lower c.toNat))) != negated).bind k
  | .assert a, s, k => if a.holds s then k s else none
  | .seq first second, s, k => first.run s fun t => second.run t k
  | .alt first second, s, k => orElse (first.run s k) fun _ => second.run s k
  | .group index body, s, k => body.run s fun t => k (t.record index s.position)
  | .rep body min max greedy, s, k => repeated body.run min max greedy s k
  | .possessive body min max, s, k => once (repeated (once body.run) min max true) s k
  | .atomic body, s, k => once body.run s k
  | .look behind negated body, s, k =>
    looking body.run negated (match behind with | some w => s.back? w.low | none => some s) s k
  | .ref letters index, s, k =>
    ((s.recorded? index).bind fun text => s.follow? (sameLetter letters) text).bind k
  | .ifGroup index yes no, s, k =>
    if (s.spans.lookup index).isSome then yes.run s k else no.run s k

/-- The match at the cursor's place, or at the first later place that has one: where it starts, and
the cursor at its end. -/
def Regex.searchFrom (r : Regex) (position : Nat) (before : List Char) :
    List Char → Option (Nat × Cursor)
  | [] => (r.run ⟨position, before, [], []⟩ some).map (position, ·)
  | c :: rest =>
    match r.run ⟨position, before, c :: rest, []⟩ some with
    | some s => some (position, s)
    | none => r.searchFrom (position + 1) (c :: before) rest

/-- **Matches**: where a match starts and ends in a text, and the spans of the groups. -/
structure Match where
  start : Nat
  stop : Nat
  spans : List (Nat × Nat × Nat)
  deriving DecidableEq, Repr

end Pattern

namespace Pattern

/-- **Search** a text for a pattern. -/
def search? (p : Pattern) (text : List Char) : Option Match :=
  (p.regex.searchFrom 0 [] text).map fun (start, s) => ⟨start, s.position, s.spans⟩

/-- Whether a pattern occurs in a text. -/
def occursIn (p : Pattern) (text : String) : Bool := (p.search? text.toList).isSome

/-- Whether the pattern has a group of a given name. -/
def hasGroup (p : Pattern) (name : String) : Bool := (p.names.lookup name).isSome

/-- What the group of a given name matched, if it took part. -/
def groupText? (p : Pattern) (text : List Char) (m : Match) (name : String) : Option (List Char) := do
  let index ← p.names.lookup name
  let (start, stop) ← m.spans.lookup index
  return slice text start stop

end Pattern

end LineGate
