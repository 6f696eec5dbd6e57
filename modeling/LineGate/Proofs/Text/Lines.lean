import Mathlib.Algebra.GroupWithZero.Nat
import LineGate.Text.Lines

/-! # Lines of texts

Cutting a text into lines and putting lines together are inverse to each other (`textOf_linesOf`), and
both turn a line feed between two texts into an append of their lines (`linesOf_append`,
`textOf_append`). Where a line begins in its text depends on the lengths of the lines before it alone
(`drop_offset_textOf`), so lines that are replaced by others of the same length move nothing. -/

namespace LineGate

namespace Separated

variable (sep : Char)

/-! ## Parts -/

/-- Cutting is the splitting of a list at its separators. -/
theorem split_eq_splitOn (cs : List Char) : split sep cs = cs.splitOn sep := by
  induction cs with
  | nil => rfl
  | cons c cs ih =>
    rw [split_cons, List.splitOn_cons_eq_if_modifyHead, ← ih, prepend.eq_def]
    by_cases h : c = sep
    · rw [if_pos h, if_pos (beq_iff_eq.mpr h)]
    · rw [if_neg h, if_neg (fun eq => h (beq_iff_eq.mp eq))]
      cases parts : split sep cs with
      | nil => exact absurd parts (split_ne_nil sep cs)
      | cons part rest => rfl

/-- A text that is cut and joined again is the same. -/
theorem join_split (cs : List Char) : join sep (split sep cs) = cs := by
  rw [split_eq_splitOn, join, List.intercalate_splitOn]

/-- One more character in front changes the first part only. -/
theorem prepend_append (c : Char) {parts : List (List Char)} (h : parts ≠ [])
    (more : List (List Char)) : prepend sep c (parts ++ more) = prepend sep c parts ++ more := by
  cases parts with
  | nil => exact absurd rfl h
  | cons part rest =>
    unfold prepend
    split <;> rfl

/-- **Two texts with a separator between them** are cut one after the other. -/
theorem split_append (a b : List Char) : split sep (a ++ sep :: b) = split sep a ++ split sep b := by
  induction a with
  | nil =>
    rw [List.nil_append, split_cons, prepend.eq_def, if_pos rfl]
    rfl
  | cons c a ih =>
    rw [List.cons_append, split_cons, ih, prepend_append sep c (split_ne_nil sep a), ← split_cons]

/-- A text without separators is a single part. -/
theorem split_of_not_mem {cs : List Char} (h : sep ∉ cs) : split sep cs = [cs] := by
  induction cs with
  | nil => rfl
  | cons c cs ih =>
    have ne : sep ≠ c := List.ne_of_not_mem_cons h
    rw [split_cons, ih (List.not_mem_of_not_mem_cons h), prepend.eq_def, if_neg (Ne.symm ne)]

/-- No part has a separator in it. -/
theorem not_mem_of_mem_split {cs part : List Char} (h : part ∈ split sep cs) : sep ∉ part := by
  induction cs generalizing part with
  | nil =>
    rw [List.mem_singleton.mp h]
    exact List.not_mem_nil
  | cons c cs ih =>
    rw [split_cons, prepend.eq_def] at h
    split at h
    · rcases List.mem_cons.mp h with rfl | mem
      · exact List.not_mem_nil
      · exact ih mem
    · rename_i ne
      cases parts : split sep cs with
      | nil => exact absurd parts (split_ne_nil sep cs)
      | cons first rest =>
        rw [parts] at h ih
        rcases List.mem_cons.mp h with rfl | mem
        · exact List.not_mem_cons_of_ne_of_not_mem (Ne.symm ne) (ih List.mem_cons_self)
        · exact ih (List.mem_cons_of_mem first mem)

/-- Joining puts a separator behind the first part, if there are others. -/
theorem join_cons {more : List (List Char)} (h : more ≠ []) (part : List Char) :
    join sep (part :: more) = part ++ sep :: join sep more := by
  cases more with
  | nil => exact absurd rfl h
  | cons next rest =>
    rw [join, List.intercalate_cons_cons, List.append_assoc]
    rfl

/-- A single part is joined to itself. -/
theorem join_singleton (part : List Char) : join sep [part] = part := List.intercalate_singleton

/-- What is in a part is in the joined text. -/
theorem mem_join {parts : List (List Char)} {part : List Char} {d : Char} (h : part ∈ parts)
    (mem : d ∈ part) : d ∈ join sep parts := by
  induction parts with
  | nil => cases h
  | cons first rest ih =>
    by_cases last : rest = []
    · subst last
      rw [join_singleton, ← List.mem_singleton.mp h]
      exact mem
    · rw [join_cons sep last]
      rcases List.mem_cons.mp h with rfl | later
      · exact List.mem_append_left _ mem
      · exact List.mem_append_right _ (List.mem_cons_of_mem _ (ih later))

/-- **Two lists of parts** are joined with a separator between them. -/
theorem join_append {parts more : List (List Char)} (h : parts ≠ []) (hm : more ≠ []) :
    join sep (parts ++ more) = join sep parts ++ sep :: join sep more := by
  induction parts with
  | nil => exact absurd rfl h
  | cons part rest ih =>
    cases rest with
    | nil =>
      rw [List.singleton_append, join_cons sep hm, join_singleton]
    | cons next rest =>
      have ne : next :: rest ≠ [] := List.cons_ne_nil next rest
      rw [List.cons_append, join_cons sep (List.append_ne_nil_of_left_ne_nil ne more), ih ne,
        join_cons sep ne, List.append_assoc]
      rfl

/-- **Parts without separators** are found again in what they are joined to. -/
theorem split_join {parts : List (List Char)} (h : parts ≠ [])
    (clean : ∀ part ∈ parts, sep ∉ part) : split sep (join sep parts) = parts := by
  rw [split_eq_splitOn, join, List.splitOn_intercalate sep clean h]

/-- Where a part begins, by the lengths of the parts before it. -/
theorem drop_join {parts : List (List Char)} {k : Nat} (h : k < parts.length) :
    (join sep parts).drop ((parts.take k).map (·.length + 1)).sum = join sep (parts.drop k) := by
  induction parts generalizing k with
  | nil => cases h
  | cons part rest ih =>
    cases k with
    | zero => rfl
    | succ k =>
      have lt : k < rest.length := Nat.lt_of_succ_lt_succ h
      have ne : rest ≠ [] := List.ne_nil_of_length_pos (Nat.zero_lt_of_lt lt)
      rw [List.take_succ_cons, List.map_cons, List.sum_cons, List.drop_succ_cons, join_cons sep ne,
        ← List.drop_drop, ← List.singleton_append, ← List.append_assoc,
        List.drop_left' (by simp), ih lt]

/-- Parts of the same lengths are joined to texts of the same length. -/
theorem length_join_congr {parts parts' : List (List Char)}
    (h : parts.map List.length = parts'.map List.length) :
    (join sep parts).length = (join sep parts').length := by
  induction parts generalizing parts' with
  | nil =>
    rw [List.map_eq_nil_iff.mp h.symm]
  | cons part rest ih =>
    cases parts' with
    | nil => cases h
    | cons part' rest' =>
      obtain ⟨same, lengths⟩ := List.cons.inj h
      cases rest with
      | nil =>
        rw [List.map_eq_nil_iff.mp lengths.symm, join_singleton, join_singleton, same]
      | cons next more =>
        cases rest' with
        | nil => cases lengths
        | cons next' more' =>
          rw [join_cons sep (List.cons_ne_nil _ _), join_cons sep (List.cons_ne_nil _ _),
            List.length_append, List.length_append, List.length_cons, List.length_cons, same,
            ih lengths]

end Separated

/-! ## Lines -/

/-- A text has at least one line. -/
theorem linesOf_ne_nil (text : String) : linesOf text ≠ [] := by
  intro h
  exact Separated.split_ne_nil '\n' text.toList (List.map_eq_nil_iff.mp h)

/-- The characters of the lines of a text. -/
theorem map_toList_linesOf (text : String) :
    (linesOf text).map String.toList = Separated.split '\n' text.toList := by
  rw [linesOf, List.map_map]
  exact List.map_id'' (fun cs => String.toList_ofList) _

/-- The characters of the text of some lines. -/
theorem toList_textOf (lines : List String) :
    (textOf lines).toList = Separated.join '\n' (lines.map String.toList) :=
  String.toList_ofList

/-- **The lines of a text make up the text.** -/
theorem textOf_linesOf (text : String) : textOf (linesOf text) = text := by
  rw [textOf, map_toList_linesOf, Separated.join_split, String.ofList_toList]

/-- No line of a text has a line feed in it. -/
theorem not_mem_of_mem_linesOf {text line : String} (h : line ∈ linesOf text) :
    '\n' ∉ line.toList := by
  obtain ⟨part, mem, rfl⟩ := List.mem_map.mp h
  rw [String.toList_ofList]
  exact Separated.not_mem_of_mem_split '\n' mem

/-- What is in a line is in the text. -/
theorem mem_of_mem_linesOf {text line : String} {c : Char} (h : line ∈ linesOf text)
    (mem : c ∈ line.toList) : c ∈ text.toList := by
  rw [← textOf_linesOf text, toList_textOf]
  exact Separated.mem_join '\n' (List.mem_map_of_mem h) mem

/-- **Lines without line feeds** are the lines of their text. -/
theorem linesOf_textOf {lines : List String} (h : lines ≠ [])
    (clean : ∀ line ∈ lines, '\n' ∉ line.toList) : linesOf (textOf lines) = lines := by
  have parts : lines.map String.toList ≠ [] := fun eq => h (List.map_eq_nil_iff.mp eq)
  have inside : ∀ part ∈ lines.map String.toList, '\n' ∉ part := by
    intro part mem
    obtain ⟨line, inside, rfl⟩ := List.mem_map.mp mem
    exact clean line inside
  rw [linesOf, toList_textOf, Separated.split_join '\n' parts inside, List.map_map]
  exact List.map_id'' (fun line => String.ofList_toList) _

/-- **The lines of two texts** with a line feed between them. -/
theorem linesOf_append (a b : String) : linesOf (a ++ "\n" ++ b) = linesOf a ++ linesOf b := by
  have chars : (a ++ "\n" ++ b).toList = a.toList ++ '\n' :: b.toList := by
    rw [String.toList_append, String.toList_append, List.append_assoc]
    rfl
  rw [linesOf, chars, Separated.split_append, List.map_append]
  rfl

/-- **The text of two lists of lines** has a line feed between them. -/
theorem textOf_append {lines more : List String} (h : lines ≠ []) (hm : more ≠ []) :
    textOf (lines ++ more) = textOf lines ++ "\n" ++ textOf more := by
  have ne {ls : List String} (hl : ls ≠ []) : ls.map String.toList ≠ [] :=
    fun eq => hl (List.map_eq_nil_iff.mp eq)
  apply String.toList_injective
  rw [toList_textOf, List.map_append, Separated.join_append _ (ne h) (ne hm),
    String.toList_append, String.toList_append, toList_textOf, toList_textOf, List.append_assoc]
  rfl

/-- The **offset** of line `k`: how many characters of the text come before it. -/
def offset (lines : List String) (k : Nat) : Nat := ((lines.take k).map (·.length + 1)).sum

/-- **A line begins at its offset.** -/
theorem drop_offset_textOf {lines : List String} {k : Nat} (h : k < lines.length) :
    (textOf lines).toList.drop (offset lines k) = (textOf (lines.drop k)).toList := by
  have lengths : (lines.take k).map (·.length + 1) =
      ((lines.map String.toList).take k).map (·.length + 1) := by
    rw [← List.map_take, List.map_map]
    rfl
  rw [offset, lengths, toList_textOf, Separated.drop_join _ (by simpa using h), toList_textOf,
    List.map_drop]

/-- The text from the offset of a line on starts with the line. -/
theorem prefix_drop_offset {lines : List String} {k : Nat} {line : String}
    (h : lines[k]? = some line) :
    line.toList <+: (textOf lines).toList.drop (offset lines k) := by
  obtain ⟨lt, eq⟩ := List.getElem?_eq_some_iff.mp h
  rw [drop_offset_textOf lt, List.drop_eq_getElem_cons lt, eq, toList_textOf, List.map_cons]
  cases lines.drop (k + 1) with
  | nil => simp only [List.map_nil, Separated.join_singleton, List.prefix_rfl]
  | cons next rest =>
    rw [List.map_cons, Separated.join_cons _ (List.cons_ne_nil _ _)]
    exact List.prefix_append _ _

section SameLengths

variable {lines lines' : List String} (h : lines.map String.length = lines'.map String.length)
include h

/-- Lines of the same lengths have the same offsets. -/
theorem offset_congr (k : Nat) : offset lines k = offset lines' k := by
  have successors (ls : List String) :
      (ls.take k).map (·.length + 1) = ((ls.map String.length).take k).map (· + 1) := by
    rw [← List.map_take, List.map_map]
    rfl
  rw [offset, offset, successors, successors, h]

/-- Lines of the same lengths make up texts of the same length. -/
theorem length_textOf_congr : (textOf lines).length = (textOf lines').length := by
  have lengths : (lines.map String.toList).map List.length =
      (lines'.map String.toList).map List.length := by
    rw [List.map_map, List.map_map]
    exact h
  rw [← String.length_toList, ← String.length_toList, toList_textOf, toList_textOf,
    Separated.length_join_congr '\n' lengths]

end SameLengths

end LineGate
