import LineGate.Number.Numeral
import LineGate.Text.Blank
import LineGate.Text.Case
import LineGate.Text.Word
import LineGate.Text.Quoted

/-! # Patterns

Directives are recognised, and files selected, by patterns: regular expressions with groups. A
pattern is kept as a tree together with its source and the names of its groups.
-/

namespace LineGate

namespace Pattern

/-! ## Sets of characters -/

/-- **Character classes** that have a letter of their own. -/
inductive Class where
  | digit
  | space
  | word
  deriving DecidableEq, Repr

/-- Whether a character of an alphabet is in a class. -/
def Class.contains : Class → Alphabet → Char → Bool
  | .digit, .unicode, c => isDecimal c
  | .digit, .ascii, c => c.isDigit
  | .space, .unicode, c => isBlank c
  | .space, .ascii, c => c == ' ' || '\t' ≤ c && c ≤ '\r'
  | .word, .unicode, c => isWord c
  | .word, .ascii, c => c.isAlphanum || c == '_'

/-- **Members of a set**: a code point, a range of code points, a class or its complement. A code point
that stands for no character is a member like any other; no character of a text matches it. -/
inductive Member where
  | code (n : Nat)
  | range (low high : Nat)
  | cls (a : Alphabet) (c : Class) (negated : Bool)
  deriving DecidableEq, Repr

namespace Member

/-- Whether a character is covered by a member. -/
def contains : Member → Char → Bool
  | .code n, c => c.toNat == n
  | .range low high, c => low ≤ c.toNat && c.toNat ≤ high
  | .cls a k negated, c => k.contains a c != negated

/-- The first code point that does not fit into two bytes. Sets that ignore case treat the code points
from there on separately. -/
def wide : Nat := 0x10000

/-- Whether a member covers code points that have another case. The wide ones count as such. -/
def isCased (a : Alphabet) : Member → Bool
  | .code n => wide ≤ a.lower n || a.isCased n
  | .range low high => wide ≤ high || (List.range' low (high + 1 - low)).any a.isCased
  | .cls .. => false

/-- Whether a lower-case code point is covered by a member when case is ignored: it has to be the lower
case of a covered code point, or a twin of it. A wide code point is compared as it is written, a wide
range covers what it covers in either case. -/
def containsLower (a : Alphabet) (n : Nat) : Member → Bool
  | .code m =>
    if a.lower m < wide then n == a.lower m || (a.twins n).contains (a.lower m) else n == m
  | .range low high =>
    ((n :: a.twins n).flatMap a.origins).any (fun m => low ≤ m && m ≤ high && m < wide) ||
      wide ≤ high && [n, Alphabet.unicode.upper n].any fun m => low ≤ m && m ≤ high
  | .cls b k negated => k.contains b (Char.ofNat n) != negated

end Member

/-! ## Expressions -/

/-- **Assertions** about a place between two characters. -/
inductive Assertion where
  /-- At the start of the text. -/
  | start
  /-- At the end of the text, or before a line feed that ends it. -/
  | ending
  /-- At the very end of the text. -/
  | close
  /-- At the start of a line. -/
  | lineStart
  /-- At the end of a line. -/
  | lineEnd
  /-- Where a word starts or ends. -/
  | boundary (a : Alphabet)
  /-- Where no word starts or ends. -/
  | noBoundary (a : Alphabet)
  deriving DecidableEq, Repr

/-- **Widths**: how many characters an expression takes at least, and at most if there is a limit. -/
structure Width where
  low : Nat
  high : Option Nat
  deriving DecidableEq, Repr

/-- **Regular expressions**. -/
inductive Regex where
  /-- Nothing at all. -/
  | empty
  /-- One given character. -/
  | char (c : Char)
  /-- Any one character but a line feed. -/
  | any
  /-- Any one character. -/
  | all
  /-- One character of a set, or of its complement. -/
  | set (negated : Bool) (members : List Member)
  /-- One character of a set, or of its complement, in either case. -/
  | loose (a : Alphabet) (negated : Bool) (members : List Member)
  /-- A condition on the place. -/
  | assert (a : Assertion)
  /-- One expression after another. -/
  | seq (first second : Regex)
  /-- The first expression that leads to a match. -/
  | alt (first second : Regex)
  /-- A group, which records what it matched if it has a number. -/
  | group (index : Option Nat) (body : Regex)
  /-- A repetition of at least `min` and at most `max` times, as often or as rarely as possible. -/
  | rep (body : Regex) (min : Nat) (max : Option Nat) (greedy : Bool)
  /-- A repetition as often as possible that gives nothing back. -/
  | possessive (body : Regex) (min : Nat) (max : Option Nat)
  /-- An expression that is matched in the first possible way only. -/
  | atomic (body : Regex)
  /-- A look at what follows or, for an expression of a given width, at what stands before. -/
  | look (behind : Option Width) (negated : Bool) (body : Regex)
  /-- What a group has matched once more, in either case if an alphabet is given. -/
  | ref (letters : Option Alphabet) (index : Nat)
  /-- One expression if a group has matched, else the other. -/
  | ifGroup (index : Nat) (yes no : Regex)
  deriving DecidableEq, Repr, Inhabited

/-! ## Faults -/

/-- What can be wrong with **flags** inside a pattern. -/
inductive FlagFault where
  | locale
  | alphabets
  | unknown
  | missingEnd
  | missingFlag
  | missingColon
  | globalOn
  | globalOff
  | alphabetOff
  | onAndOff
  deriving DecidableEq, Repr

/-- The wording of a fault of flags. -/
def FlagFault.words : FlagFault → String
  | .locale => "bad inline flags: cannot use 'L' flag with a str pattern"
  | .alphabets => "bad inline flags: flags 'a', 'u' and 'L' are incompatible"
  | .unknown => "unknown flag"
  | .missingEnd => "missing -, : or )"
  | .missingFlag => "missing flag"
  | .missingColon => "missing :"
  | .globalOn => "bad inline flags: cannot turn on global flag"
  | .globalOff => "bad inline flags: cannot turn off global flag"
  | .alphabetOff => "bad inline flags: cannot turn off flags 'a', 'u' and 'L'"
  | .onAndOff => "bad inline flags: flag turned on and off"

/-- **Rules** of patterns that a text can break. -/
inductive Reason where
  | trailingBackslash
  | unclosedGroup
  | unclosedComment
  | unbalanced
  | unclosedSet
  | nothingToRepeat
  | multipleRepeat
  | badRange (low high : String)
  | crossedBounds
  | redefined (name : String) (index earlier : Nat)
  | badName (name : String)
  | missing (what : String)
  | unclosedName (terminator : Char)
  | unknownGroup (name : String)
  | openGroup
  | sameLookBehind
  | badNumber
  | badReference (number : Nat)
  | manyBranches
  | badEscape (text : String)
  | incompleteEscape (text : String)
  | octalRange (text : String)
  | unknownCharacter (name : String)
  | unknownExtension (text : String)
  | unexpectedEnd
  | flags (f : FlagFault)
  | lateFlags
  | looksTooFar
  | variableWidth
  | template (operator : String)
  deriving DecidableEq, Repr

/-- The wording of a broken rule. -/
def Reason.words : Reason → String
  | .trailingBackslash => "bad escape (end of pattern)"
  | .unclosedGroup => "missing ), unterminated subpattern"
  | .unclosedComment => "missing ), unterminated comment"
  | .unbalanced => "unbalanced parenthesis"
  | .unclosedSet => "unterminated character set"
  | .nothingToRepeat => "nothing to repeat"
  | .multipleRepeat => "multiple repeat"
  | .badRange low high => "bad character range " ++ low ++ "-" ++ high
  | .crossedBounds => "min repeat greater than max repeat"
  | .redefined name index earlier =>
    "redefinition of group name " ++ quoted name ++ " as group " ++ toString index ++
      "; was group " ++ toString earlier
  | .badName name => "bad character in group name " ++ quoted name
  | .missing what => "missing " ++ what
  | .unclosedName terminator => "missing " ++ String.singleton terminator ++ ", unterminated name"
  | .unknownGroup name => "unknown group name " ++ quoted name
  | .openGroup => "cannot refer to an open group"
  | .sameLookBehind => "cannot refer to group defined in the same lookbehind subpattern"
  | .badNumber => "bad group number"
  | .badReference number => "invalid group reference " ++ toString number
  | .manyBranches => "conditional backref with more than two branches"
  | .badEscape text => "bad escape " ++ text
  | .incompleteEscape text => "incomplete escape " ++ text
  | .octalRange text => "octal escape value " ++ text ++ " outside of range 0-0o377"
  | .unknownCharacter name => "undefined character name " ++ quoted name
  | .unknownExtension text => "unknown extension ?" ++ text
  | .unexpectedEnd => "unexpected end of pattern"
  | .flags f => f.words
  | .lateFlags => "global flags not at the start of the expression"
  | .looksTooFar => "looks too much behind"
  | .variableWidth => "look-behind requires fixed-width pattern"
  | .template operator => "internal: unsupported template operator " ++ operator

/-- **Overflows**: numbers in a pattern that are too large to be told apart from others. -/
inductive Overflow where
  /-- A number of repetitions. -/
  | repetition
  /-- The number of a character. -/
  | code
  deriving DecidableEq, Repr

/-- The wording of an overflow. -/
def Overflow.words : Overflow → String
  | .repetition => "the repetition number is too large"
  | .code => "the character number is too large"

/-- **Faults** that keep a text from being a pattern. -/
inductive Fault where
  /-- A rule is broken, at a place in the text if one is to blame, counted in characters from zero. -/
  | broken (reason : Reason) (position : Option Nat)
  /-- A number of repetitions has too many digits. -/
  | digits (fault : TooManyDigits)
  /-- The flags of the whole pattern ask for both alphabets. -/
  | alphabets
  /-- A number is too large. -/
  | overflow (o : Overflow)
  deriving DecidableEq, Repr

/-- A place in a pattern as messages give it; in a pattern of several lines also by line and column. -/
def placeWords (source : String) (position : Nat) : String :=
  let words := " at position " ++ toString position
  let before := source.toList.take position
  if source.toList.contains '\n' then
    words ++ " (line " ++ toString (before.count '\n' + 1) ++ ", column " ++
      toString ((before.reverse.takeWhile (· ≠ '\n')).length + 1) ++ ")"
  else words

/-- The message for a fault in the pattern `source`. -/
def Fault.message (source : String) : Fault → String
  | .broken reason position => reason.words ++ (position.map (placeWords source)).getD ""
  | .digits fault => fault.message
  | .alphabets => "ASCII and UNICODE flags are incompatible"
  | .overflow o => o.words

end Pattern

/-- **Patterns**: a regular expression, its source and the numbers of its named groups. -/
structure Pattern where
  source : String
  regex : Pattern.Regex
  names : List (String × Nat)
  deriving Repr

end LineGate
