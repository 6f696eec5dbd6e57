import LineGate.Number.Double

/-! # Nearest doubles of integers

An integer becomes a double by rounding its magnitude to 53 significant bits. Rounding keeps the order
of integers but may make two of them equal (`Double.key_nearest_le`). It never does so when one of the
two has a magnitude below `2 ^ 53` (`Double.key_nearest_lt`), and the magnitudes that round to infinity
are those from half a place below `2 ^ 1024` on (`Double.ofInt?_eq_none_iff`). -/

namespace LineGate

namespace Double

/-! ## Rounded quotients -/

/-- A quotient that is a natural number stays as it is. -/
theorem roundQuotient_mul (q : Nat) {den : Nat} (pos : 0 < den) :
    roundQuotient (q * den) den = q := by
  have exact : 2 * (q * den % den) < den := by
    rw [Nat.mul_mod_left]
    exact pos
  rw [roundQuotient, if_pos (.inl exact), Nat.mul_div_cancel q pos]

/-- Rounding keeps the order of quotients. -/
theorem roundQuotient_le {num num' : Nat} (den : Nat) (le : num ≤ num') :
    roundQuotient num den ≤ roundQuotient num' den := by
  have floors : num / den ≤ num' / den := Nat.div_le_div_right le
  unfold roundQuotient
  dsimp only
  rcases Nat.lt_or_eq_of_le floors with lt | eq
  · split <;> split <;> omega
  · -- Quotients with the same floor are ordered by their remainders.
    have parts := Nat.div_add_mod num den
    have parts' := Nat.div_add_mod num' den
    rw [← eq] at parts' ⊢
    split <;> split <;> omega

/-! ## Ranks of natural numbers -/

/-- The significand of a natural number: its first 53 bits, the last one rounded. -/
def significand (n : Nat) : Nat :=
  roundQuotient (n * Nat.pow 2 (52 - n.log2)) (Nat.pow 2 (n.log2 - 52))

variable {m n : Nat}

/-- The significand of an integer keeps 53 bits. -/
theorem lastPlace_one (nonzero : n ≠ 0) : lastPlace n 1 = (n.log2 : Int) - 52 := by
  have one : Nat.log2 1 = 0 := by decide
  have place : (53 : Int) + ((n.log2 : Int) - (0 : Nat) - 53) = n.log2 := by omega
  have fine : 1 * Nat.pow 2 n.log2 ≤ n * Nat.pow 2 0 := by
    have := Nat.log2_self_le nonzero
    simpa using this
  unfold lastPlace
  simp only [one, place, Int.toNat_natCast, Int.toNat_neg_natCast, if_pos fine]
  omega

/-- **The rank of a natural number**: its binary exponent counts powers of two, and its significand the
places between them. -/
theorem rankOfRatio_one (nonzero : n ≠ 0) :
    rankOfRatio n 1 = (n.log2 + 1022) * Nat.pow 2 52 + significand n := by
  have power : ((n.log2 : Int) - 52 + 1074).toNat = n.log2 + 1022 := by omega
  have down : (-((n.log2 : Int) - 52)).toNat = 52 - n.log2 := by omega
  have up : ((n.log2 : Int) - 52).toNat = n.log2 - 52 := by omega
  rw [rankOfRatio, lastPlace_one nonzero]
  simp only [power, down, up, Nat.one_mul, significand]

/-- A place is worth as much on either side of the point. -/
theorem pow_mul_pow_log2 (k l : Nat) :
    Nat.pow 2 (52 + k) * Nat.pow 2 (l - 52) = Nat.pow 2 (l + k) * Nat.pow 2 (52 - l) := by
  change 2 ^ (52 + k) * 2 ^ (l - 52) = 2 ^ (l + k) * 2 ^ (52 - l)
  rw [← Nat.pow_add, ← Nat.pow_add]
  congr 1
  omega

/-- A significand has 53 bits, or is the next power of two. -/
theorem significand_bounds (nonzero : n ≠ 0) :
    Nat.pow 2 52 ≤ significand n ∧ significand n ≤ Nat.pow 2 53 := by
  have pos : 0 < Nat.pow 2 (n.log2 - 52) := Nat.two_pow_pos _
  have low := pow_mul_pow_log2 0 n.log2
  have high := pow_mul_pow_log2 1 n.log2
  constructor
  · rw [← roundQuotient_mul (Nat.pow 2 52) pos, low]
    exact roundQuotient_le _ (Nat.mul_le_mul_right _ (Nat.log2_self_le nonzero))
  · rw [← roundQuotient_mul (Nat.pow 2 53) pos, high]
    exact roundQuotient_le _ (Nat.mul_le_mul_right _ (Nat.le_of_lt Nat.lt_log2_self))

/-- Binary exponents are ordered as the numbers. -/
theorem log2_le_log2 (nonzero : m ≠ 0) (le : m ≤ n) : m.log2 ≤ n.log2 := by
  rw [Nat.le_log2 (by omega)]
  exact Nat.le_trans (Nat.log2_self_le nonzero) le

/-- **Ranks are ordered as the numbers.** -/
theorem rankOfRatio_one_le (nonzero : m ≠ 0) (le : m ≤ n) :
    rankOfRatio m 1 ≤ rankOfRatio n 1 := by
  have nonzero' : n ≠ 0 := by omega
  rw [rankOfRatio_one nonzero, rankOfRatio_one nonzero']
  rcases Nat.lt_or_eq_of_le (log2_le_log2 nonzero le) with lt | eq
  · -- The larger exponent outweighs any significand.
    have upper := (significand_bounds nonzero).2
    have lower := (significand_bounds nonzero').1
    have unit : Nat.pow 2 52 = 4503599627370496 := rfl
    have double : Nat.pow 2 53 = 9007199254740992 := rfl
    rw [unit] at lower ⊢
    omega
  · have significands : significand m ≤ significand n := by
      unfold significand
      rw [eq]
      exact roundQuotient_le _ (Nat.mul_le_mul_right _ le)
    rw [eq]
    exact Nat.add_le_add_left significands _

/-- The significand of a number below `2 ^ 53` is not rounded. -/
theorem significand_of_lt (nonzero : n ≠ 0) (lt : n < Nat.pow 2 53) :
    significand n = n * Nat.pow 2 (52 - n.log2) := by
  have few : n.log2 - 52 = 0 := by
    have := (Nat.log2_lt nonzero).mpr lt
    omega
  have exact := roundQuotient_mul (n * Nat.pow 2 (52 - n.log2)) Nat.one_pos
  rw [Nat.mul_one] at exact
  rw [significand, few]
  exact exact

/-- **Numbers below `2 ^ 53` have ranks of their own.** -/
theorem rankOfRatio_one_lt (nonzero : m ≠ 0) (lt : m < n) (small : m < Nat.pow 2 53) :
    rankOfRatio m 1 < rankOfRatio n 1 := by
  have nonzero' : n ≠ 0 := by omega
  have scale : 0 < Nat.pow 2 (52 - m.log2) := Nat.two_pow_pos _
  rw [rankOfRatio_one nonzero, rankOfRatio_one nonzero']
  rcases Nat.lt_or_eq_of_le (log2_le_log2 nonzero (Nat.le_of_lt lt)) with less | eq
  · -- Without rounding up, the significand stays below the next power of two.
    have upper : significand m < Nat.pow 2 53 := by
      have few := (Nat.log2_lt nonzero).mpr small
      have whole := pow_mul_pow_log2 1 m.log2
      rw [show m.log2 - 52 = 0 by omega] at whole
      rw [significand_of_lt nonzero small]
      refine Nat.lt_of_lt_of_eq (Nat.mul_lt_mul_of_pos_right Nat.lt_log2_self scale) ?_
      exact whole.symm
    have lower := (significand_bounds nonzero').1
    have unit : Nat.pow 2 52 = 4503599627370496 := rfl
    have double : Nat.pow 2 53 = 9007199254740992 := rfl
    rw [unit] at lower ⊢
    omega
  · -- With the same exponent the larger number is not rounded either.
    have small' : n < Nat.pow 2 53 := by
      have few := (Nat.log2_lt nonzero).mpr small
      rw [eq] at few
      exact (Nat.log2_lt nonzero').mp few
    rw [significand_of_lt nonzero small, significand_of_lt nonzero' small', ← eq]
    exact Nat.add_lt_add_left (Nat.mul_lt_mul_of_pos_right lt scale) _

/-- **The least magnitude beyond the range of doubles**: half a place below `2 ^ 1024`, from where on a
magnitude is rounded up to that power. -/
def overflow : Nat := Nat.pow 2 1024 - Nat.pow 2 970

/-- A natural number has an infinite rank exactly if it is beyond the range. -/
theorem infinityRank_le_iff (nonzero : n ≠ 0) :
    infinityRank ≤ rankOfRatio n 1 ↔ overflow ≤ n := by
  -- Ranks are ordered, so that the two numbers at the border decide.
  have above : infinityRank ≤ rankOfRatio overflow 1 := by decide +kernel
  have below : rankOfRatio (overflow - 1) 1 < infinityRank := by decide +kernel
  have pos : overflow ≠ 0 := by decide +kernel
  constructor
  · intro infinite
    refine Nat.le_of_not_lt fun less => ?_
    have rank := rankOfRatio_one_le (n := overflow - 1) nonzero (by omega)
    omega
  · intro beyond
    exact Nat.le_trans above (rankOfRatio_one_le pos beyond)

/-! ## Integers -/

/-- **The nearest double** to an integer, which is infinite if the integer is beyond the range. -/
def nearest (n : Int) : Double := ofRatio (n < 0) n.natAbs 1

/-- The rank of a magnitude; none is above infinity. -/
def magnitudeRank (n : Nat) : Nat := if n = 0 then 0 else min (rankOfRatio n 1) infinityRank

/-- Zero has the least rank of all magnitudes. -/
theorem magnitudeRank_zero : magnitudeRank 0 = 0 := rfl

/-- Other magnitudes have a rank of their own, up to infinity. -/
theorem magnitudeRank_of_ne (nonzero : n ≠ 0) :
    magnitudeRank n = min (rankOfRatio n 1) infinityRank := if_neg nonzero

/-- The rank of the nearest double is that of the magnitude. -/
theorem rank_nearest (n : Int) : (nearest n).rank = magnitudeRank n.natAbs := by
  unfold nearest ofRatio magnitudeRank
  split <;> rfl

/-- The nearest double has the sign of the integer. -/
theorem negative_nearest (n : Int) : (nearest n).negative = decide (n < 0) := by
  unfold nearest ofRatio
  split <;> rfl

/-- The signed rank of the nearest double. -/
theorem key_nearest (n : Int) :
    (nearest n).key =
      if n < 0 then -(magnitudeRank n.natAbs : Int) else magnitudeRank n.natAbs := by
  unfold key
  rw [rank_nearest, negative_nearest]
  by_cases below : n < 0 <;> simp [below]

/-- An integer has a double exactly if it is within the range. -/
theorem isInfinite_nearest_iff (n : Int) :
    (nearest n).isInfinite = true ↔ overflow ≤ n.natAbs := by
  unfold isInfinite
  rw [rank_nearest, beq_iff_eq]
  by_cases zero : n.natAbs = 0
  · rw [zero]
    decide +kernel
  · rw [magnitudeRank_of_ne zero, ← infinityRank_le_iff zero]
    omega

/-- **Integers beyond the range of doubles.** -/
theorem ofInt?_eq_none_iff (n : Int) : ofInt? n = none ↔ overflow ≤ n.natAbs := by
  rw [← isInfinite_nearest_iff]
  change (if (nearest n).isInfinite = true then none else some (nearest n)) = none ↔ _
  split <;> simp [*]

/-- **Integers within the range** become their nearest doubles. -/
theorem ofInt?_eq_some {n : Int} (within : n.natAbs < overflow) :
    ofInt? n = some (nearest n) := by
  have finite : ¬(nearest n).isInfinite = true := by
    rw [isInfinite_nearest_iff]
    omega
  exact if_neg finite

/-! ## Order -/

/-- Ranks of magnitudes are ordered as the magnitudes. -/
theorem magnitudeRank_le (le : m ≤ n) : magnitudeRank m ≤ magnitudeRank n := by
  by_cases zero : m = 0
  · rw [zero, magnitudeRank_zero]
    exact Nat.zero_le _
  · rw [magnitudeRank_of_ne zero, magnitudeRank_of_ne (by omega)]
    have ranks := rankOfRatio_one_le zero le
    omega

/-- A magnitude below `2 ^ 53` has a smaller rank than any larger one. -/
theorem magnitudeRank_lt (lt : m < n) (small : m < Nat.pow 2 53) :
    magnitudeRank m < magnitudeRank n := by
  by_cases zero : m = 0
  · have least : magnitudeRank 1 ≤ magnitudeRank n := magnitudeRank_le (by omega)
    have pos : 0 < magnitudeRank 1 := by decide +kernel
    rw [zero, magnitudeRank_zero]
    omega
  · have ranks := rankOfRatio_one_lt zero lt small
    have finite : ¬infinityRank ≤ rankOfRatio m 1 := by
      have border : Nat.pow 2 53 ≤ overflow := by decide +kernel
      rw [infinityRank_le_iff zero]
      omega
    rw [magnitudeRank_of_ne zero, magnitudeRank_of_ne (by omega)]
    omega

/-- **Rounding keeps the order of integers.** -/
theorem key_nearest_le {m n : Int} (le : m ≤ n) : (nearest m).key ≤ (nearest n).key := by
  rw [key_nearest, key_nearest]
  by_cases low : m < 0
  · by_cases high : n < 0
    · have ranks := magnitudeRank_le (m := n.natAbs) (n := m.natAbs) (by omega)
      rw [if_pos low, if_pos high]
      omega
    · rw [if_pos low, if_neg high]
      omega
  · have ranks := magnitudeRank_le (m := m.natAbs) (n := n.natAbs) (by omega)
    rw [if_neg low, if_neg (by omega)]
    omega

/-- **Rounding keeps integers apart** if the magnitude of one of them is below `2 ^ 53`. -/
theorem key_nearest_lt {m n : Int} (lt : m < n)
    (small : m.natAbs < Nat.pow 2 53 ∨ n.natAbs < Nat.pow 2 53) :
    (nearest m).key < (nearest n).key := by
  rw [key_nearest, key_nearest]
  by_cases low : m < 0
  · by_cases high : n < 0
    · have ranks := magnitudeRank_lt (m := n.natAbs) (n := m.natAbs) (by omega) (by omega)
      rw [if_pos low, if_pos high]
      omega
    · have ranks := magnitudeRank_lt (m := 0) (n := m.natAbs) (by omega) (by decide)
      rw [magnitudeRank_zero] at ranks
      rw [if_pos low, if_neg high]
      omega
  · have ranks := magnitudeRank_lt (m := m.natAbs) (n := n.natAbs) (by omega) (by omega)
    rw [if_neg low, if_neg (by omega)]
    omega

end Double

end LineGate
