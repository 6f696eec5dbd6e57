import LineGate.Proofs.Number.Signed
import LineGate.Proofs.Value.Equality

/-! # Integers against their decimal texts

A number and a text are compared as doubles. The double of a decimal text is the nearest one of the
integer (`Value.textNumber_toString`), so an integer and the text of another one compare as their
nearest doubles do. Nearest doubles are in the order of the integers and may coincide, so the
comparison is by value exactly where they are apart (`Value.comparesByValue_iff`), which they are as
soon as one of the two magnitudes is below `2 ^ 53`. An integer beyond the range of doubles compares
with no text at all. -/

namespace LineGate

open Numeral

namespace Value

/-! ## Texts of integers -/

/-- The double of a run of digits is the nearest one of their value. -/
theorem toDouble_toDigits (negative : Bool) (n : Nat) :
    (Decimal.plain (Nat.toDigits 10 n)).toDouble negative = Double.ofRatio negative n 1 := by
  have digits : (Decimal.plain (Nat.toDigits 10 n)).digits = Nat.toDigits 10 n := by
    simp [Decimal.digits, Decimal.plain]
  change Double.ofDecimal negative (natural (Decimal.plain (Nat.toDigits 10 n)).digits) 0 = _
  rw [digits, natural_toDigits]
  unfold Double.ofDecimal
  by_cases zero : n = 0
  · rw [if_pos zero, Double.ofRatio, if_pos zero]
  · rw [if_neg zero, if_neg (by decide), if_neg (by simp)]
    exact congrArg (Double.ofRatio negative · 1) (Nat.mul_one n)

/-- **The decimal text of an integer**: a minus sign for a negative one, and the digits of its
magnitude. -/
theorem toList_toString (m : Int) : ∃ sign ∈ signs, isMinus sign = decide (m < 0) ∧
    (toString m).toList = sign ++ (Decimal.plain (Nat.toDigits 10 m.natAbs)).text := by
  rw [Decimal.text_plain]
  cases m with
  | ofNat n => exact ⟨[], by decide, by simp [isMinus], String.toList_ofList⟩
  | negSucc n =>
    refine ⟨['-'], by decide, by simp [isMinus], ?_⟩
    change ("-" ++ String.ofList (Nat.toDigits 10 (n + 1))).toList = _
    rw [String.toList_append, String.toList_ofList (l := Nat.toDigits 10 (n + 1))]
    rfl

/-- No character of a signed numeral is blank. -/
theorem isBlank_of_mem_signed {sign : List Char} {d : Decimal} (isSign : sign ∈ signs)
    (wf : d.WellFormed) {c : Char} (inside : c ∈ sign ++ d.text) : isBlank c = false := by
  rcases List.mem_append.mp inside with inside | inside
  · have visible : signs.all (fun sign => sign.all fun c => !isBlank c) = true := by decide
    have ofSign := List.all_eq_true.mp visible sign isSign
    simpa using List.all_eq_true.mp ofSign c inside
  · rcases wf.of_mem_text inside with digit | other
    · exact isBlank_of_isDecimal digit
    · have visible : ['.', 'e', 'E', '+', '-'].all (fun c => !isBlank c) = true := by decide
      simpa using List.all_eq_true.mp visible c other

/-- **The double of an integer's decimal text** is the nearest one of the integer. -/
theorem textNumber_toString (m : Int) : textNumber (toString m) = some (Double.nearest m) := by
  obtain ⟨sign, isSign, minus, chars⟩ := toList_toString m
  have wf := Decimal.wellFormed_toDigits m.natAbs
  have trimmed : trim (sign ++ (Decimal.plain (Nat.toDigits 10 m.natAbs)).text) = _ :=
    trim_eq_self (fun c first => isBlank_of_mem_signed isSign wf (List.mem_of_head? first))
      (fun c last => isBlank_of_mem_signed isSign wf (List.mem_of_getLast? last))
  rw [textNumber, chars, trimmed, readDouble?_text isSign wf, toDouble_toDigits, minus]
  rfl

/-! ## Comparing as doubles -/

section Comparing

variable {n : Int} (m : Int)

/-- An integer within the range of doubles has a double, and so has a decimal text. -/
theorem toDouble?_eq_nearest (within : n.natAbs < Double.overflow) :
    toDouble? (.int n) = some (some (Double.nearest n)) ∧
      toDouble? (.str (toString m)) = some (some (Double.nearest m)) := by
  constructor
  · rw [toDouble?, Double.ofInt?_eq_some within, Option.map_some]
  · rw [toDouble?, textNumber_toString]

/-- An integer within the range of doubles equals a decimal text if their nearest doubles are equal. -/
theorem looseEqual_toString (within : n.natAbs < Double.overflow) :
    looseEqual (.int n) (.str (toString m)) =
      .ok (decide ((Double.nearest n).key = (Double.nearest m).key)) := by
  obtain ⟨double, double'⟩ := toDouble?_eq_nearest m within
  rw [looseEqual_of_comparesAsDoubles rfl, double, double']
  exact congrArg Except.ok (Bool.beq_eq_decide_eq _ _)

/-- A number is ordered against a text as a double, if it has one. -/
theorem looseOrder_of_number_text {a b : Value} {op : OrderOp} (number : a.isNumber = true)
    (text : b.isText = true) :
    looseOrder op a b = match a.toDouble?, b.toDouble? with
      | some x, some y => .ok (orderDoubles op x y)
      | _, _ => .error .beyondDouble := by
  rw [looseOrder, number, text]
  rfl

/-- An integer within the range of doubles is ordered against a decimal text as their nearest doubles
are. -/
theorem looseOrder_toString (within : n.natAbs < Double.overflow) (op : OrderOp) :
    looseOrder op (.int n) (.str (toString m)) =
      .ok (op.holds (compare (Double.nearest n).key (Double.nearest m).key)) := by
  obtain ⟨double, double'⟩ := toDouble?_eq_nearest m within
  rw [looseOrder_of_number_text rfl rfl, double, double']
  rfl

/-- An integer beyond the range of doubles compares with no text. -/
theorem compare_text_of_overflow (beyond : Double.overflow ≤ n.natAbs) (s : String) :
    looseEqual (.int n) (.str s) = .error .beyondDouble ∧
      ∀ op, looseOrder op (.int n) (.str s) = .error .beyondDouble := by
  have none : toDouble? (.int n) = none := (toDouble?_eq_none_iff _).mpr ⟨n, rfl, beyond⟩
  constructor
  · rw [looseEqual_of_comparesAsDoubles rfl, none]
  · intro op
    rw [looseOrder_of_number_text rfl rfl, none]

end Comparing

/-! ## Comparing by value -/

/-- An integer and the decimal text of an integer **compare by value**: loose equality and the four
orders give what the two integers do. -/
structure ComparesByValue (n m : Int) : Prop where
  /-- They are equal if the integers are. -/
  equal : looseEqual (.int n) (.str (toString m)) = .ok (decide (n = m))
  /-- They are in the order of the integers. -/
  order : ∀ op : OrderOp,
    looseOrder op (.int n) (.str (toString m)) = .ok (op.holds (compare n m))

/-- Nearest doubles that differ are in the order of the integers. -/
theorem compare_nearest {n m : Int} (apart : (Double.nearest n).key ≠ (Double.nearest m).key) :
    compare (Double.nearest n).key (Double.nearest m).key = compare n m := by
  rcases Int.lt_trichotomy n m with lt | rfl | gt
  · have keys := Double.key_nearest_le (Int.le_of_lt lt)
    rw [Int.compare_eq_lt.mpr lt, Int.compare_eq_lt.mpr (by omega)]
  · exact absurd rfl apart
  · have keys := Double.key_nearest_le (Int.le_of_lt gt)
    rw [Int.compare_eq_gt.mpr gt, Int.compare_eq_gt.mpr (by omega)]

/-- **Comparing by value** takes an integer within the range of doubles, and two integers that are the
same or have different nearest doubles. -/
theorem comparesByValue_iff (n m : Int) : ComparesByValue n m ↔
    n.natAbs < Double.overflow ∧
      (n = m ∨ (Double.nearest n).key ≠ (Double.nearest m).key) := by
  constructor
  · intro byValue
    have within : n.natAbs < Double.overflow := by
      refine Nat.lt_of_not_le fun beyond => ?_
      have fails := (compare_text_of_overflow beyond (toString m)).1
      rw [byValue.equal] at fails
      cases fails
    refine ⟨within, ?_⟩
    have same := byValue.equal
    rw [looseEqual_toString m within] at same
    have iff := decide_eq_decide.mp (Except.ok.inj same)
    rw [ne_eq, iff]
    exact Decidable.em (n = m)
  · rintro ⟨within, rfl | apart⟩
    · refine ⟨?_, fun op => ?_⟩
      · rw [looseEqual_toString n within, decide_eq_true rfl, decide_eq_true rfl]
      · rw [looseOrder_toString n within, Int.compare_eq_eq.mpr rfl, Int.compare_eq_eq.mpr rfl]
    · have differ : n ≠ m := fun same => apart (by rw [same])
      refine ⟨?_, fun op => ?_⟩
      · rw [looseEqual_toString m within, decide_eq_false apart, decide_eq_false differ]
      · rw [looseOrder_toString m within, compare_nearest apart]

/-- Integers compare by value if the magnitude of one of them is below `2 ^ 53`. -/
theorem comparesByValue_of_small {n m : Int} (within : n.natAbs < Double.overflow)
    (small : n.natAbs < Nat.pow 2 53 ∨ m.natAbs < Nat.pow 2 53) : ComparesByValue n m := by
  refine (comparesByValue_iff n m).mpr ⟨within, ?_⟩
  rcases Int.lt_trichotomy n m with lt | same | gt
  · have keys := Double.key_nearest_lt lt small
    exact .inr (by omega)
  · exact .inl same
  · have keys := Double.key_nearest_lt gt small.symm
    exact .inr (by omega)

/-- **No order is turned round**: an integer within the range of doubles is at most a decimal text, and
not greater, if the integers are so, and likewise the other way. -/
theorem looseOrder_toString_of_le {n : Int} (m : Int) (within : n.natAbs < Double.overflow) :
    (n ≤ m → looseOrder .lessEq (.int n) (.str (toString m)) = .ok true ∧
      looseOrder .greater (.int n) (.str (toString m)) = .ok false) ∧
    (m ≤ n → looseOrder .greaterEq (.int n) (.str (toString m)) = .ok true ∧
      looseOrder .less (.int n) (.str (toString m)) = .ok false) := by
  simp only [looseOrder_toString m within, Except.ok.injEq]
  constructor
  · intro le
    have notGreater := Int.compare_ne_gt.mpr (Double.key_nearest_le le)
    exact ⟨bne_iff_ne.mpr notGreater, beq_eq_false_iff_ne.mpr notGreater⟩
  · intro le
    have notLess := Int.compare_ne_lt.mpr (Double.key_nearest_le le)
    exact ⟨bne_iff_ne.mpr notLess, beq_eq_false_iff_ne.mpr notLess⟩

/-- **An integer against the decimal text of an integer**, whatever the two are. Beyond the range of
doubles no comparison gives a result. Within it the two compare as their nearest doubles do, and no
order is turned round. They compare by value exactly if they are the same or have different nearest
doubles, which is so as soon as one of the two magnitudes is below `2 ^ 53`. -/
theorem integer_against_text (n m : Int) :
    (Double.overflow ≤ n.natAbs →
      looseEqual (.int n) (.str (toString m)) = .error .beyondDouble ∧
        ∀ op, looseOrder op (.int n) (.str (toString m)) = .error .beyondDouble) ∧
    (n.natAbs < Double.overflow →
      looseEqual (.int n) (.str (toString m)) =
          .ok (decide ((Double.nearest n).key = (Double.nearest m).key)) ∧
        (∀ op, looseOrder op (.int n) (.str (toString m)) =
          .ok (OrderOp.holds op (compare (Double.nearest n).key (Double.nearest m).key))) ∧
        (n ≤ m → looseOrder .lessEq (.int n) (.str (toString m)) = .ok true ∧
          looseOrder .greater (.int n) (.str (toString m)) = .ok false) ∧
        (m ≤ n → looseOrder .greaterEq (.int n) (.str (toString m)) = .ok true ∧
          looseOrder .less (.int n) (.str (toString m)) = .ok false)) ∧
    (ComparesByValue n m ↔ n.natAbs < Double.overflow ∧
      (n = m ∨ (Double.nearest n).key ≠ (Double.nearest m).key)) ∧
    (n.natAbs < Double.overflow → n.natAbs < Nat.pow 2 53 ∨ m.natAbs < Nat.pow 2 53 →
      ComparesByValue n m) :=
  ⟨fun beyond => compare_text_of_overflow beyond _,
    fun within => ⟨looseEqual_toString m within, looseOrder_toString m within,
      looseOrder_toString_of_le m within⟩,
    comparesByValue_iff n m, comparesByValue_of_small⟩

/-- A negative integer against the text of a large one: they compare by value, and the integer is less. -/
theorem integer_against_text_far : Int.natAbs (-5) < Double.overflow ∧
    ComparesByValue (-5) (Nat.pow 10 400) ∧
    looseOrder .less (.int (-5)) (.str (toString (Nat.pow 10 400 : Int))) = .ok true := by
  have within : Int.natAbs (-5) < Double.overflow := by decide +kernel
  have byValue := (integer_against_text (-5) (Nat.pow 10 400)).2.2.2 within (.inl (by decide))
  exact ⟨within, byValue, byValue.order .less⟩

/-- **Neighbours above `2 ^ 53` do not compare by value**: an odd integer equals the text of the even one
below it, and is not greater. -/
theorem not_comparesByValue_neighbours :
    ¬ComparesByValue 9007199254740993 9007199254740992 ∧
    looseEqual (.int 9007199254740993) (.str (toString (9007199254740992 : Int))) = .ok true ∧
    looseOrder .greater (.int 9007199254740993) (.str (toString (9007199254740992 : Int))) =
      .ok false := by
  have within : Int.natAbs 9007199254740993 < Double.overflow := by decide +kernel
  have same : (Double.nearest 9007199254740993).key = (Double.nearest 9007199254740992).key := by
    decide +kernel
  refine ⟨fun byValue => ?_, ?_, ?_⟩
  · obtain ⟨-, eq | apart⟩ := (comparesByValue_iff _ _).mp byValue
    · cases eq
    · exact apart same
  · rw [looseEqual_toString _ within, decide_eq_true same]
  · rw [looseOrder_toString _ within, same, Int.compare_eq_eq.mpr rfl]
    rfl

end Value

end LineGate
