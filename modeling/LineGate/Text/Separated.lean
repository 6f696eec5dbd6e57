/-! # Separated text

A text cut at every occurrence of a separator, and put together again, or cut at the first occurrence
only. A text with `n` separators has `n + 1` parts, some of which may be empty.
-/

namespace LineGate

namespace Separated

/-- Put one more character in front of a text that is already cut. -/
def prepend (sep c : Char) (parts : List (List Char)) : List (List Char) :=
  if c = sep then [] :: parts
  else match parts with
    | [] => [[c]]
    | part :: rest => (c :: part) :: rest

/-- **Cut** a text at its separators. -/
def split (sep : Char) (cs : List Char) : List (List Char) := cs.foldr (prepend sep) [[]]

/-- **Join** parts with a separator between neighbours. -/
def join (sep : Char) (parts : List (List Char)) : List Char := [sep].intercalate parts

/-- **Cut once**: what stands before the first separator, and what stands behind it, if there is
one. -/
def cut (sep : Char) (cs : List Char) : List Char × Option (List Char) :=
  let before := cs.takeWhile (· ≠ sep)
  match cs.dropWhile (· ≠ sep) with
  | [] => (before, none)
  | _ :: behind => (before, some behind)

/-- The empty text has one part, which is empty. -/
@[simp] theorem split_nil (sep : Char) : split sep [] = [[]] := rfl

/-- Cutting reads the text from its end. -/
@[simp] theorem split_cons (sep c : Char) (cs : List Char) :
    split sep (c :: cs) = prepend sep c (split sep cs) := rfl

/-- A text has at least one part. -/
theorem split_ne_nil (sep : Char) (cs : List Char) : split sep cs ≠ [] := by
  cases cs with
  | nil => simp
  | cons c cs =>
    simp only [split_cons, prepend]
    split
    · simp
    · split <;> simp

end Separated

end LineGate
