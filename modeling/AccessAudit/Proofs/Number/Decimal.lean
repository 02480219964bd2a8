import AccessAudit.Proofs.Number.Rounding

/-!
# Decimals and the numbers nearest to them

This file proves that `Decimal.shortest` finds a decimal that is rounded back to the number it was
made for, and that it is an integer if and only if the number is.

A decimal is rounded to the rank nearest to its value (`Decimal.rank`), whether or not its size is
told by its digits alone. The finest grid that is tried is finer than any two magnitudes are apart,
so some grid always has a decimal that is rounded back. Whole numbers are on the grid of the
integers themselves, so none that is finer is tried for them; and an integer is never rounded to a
number with a fraction.
-/

namespace AccessAudit
namespace Decimal

open Number

theorem lt_pow_digitCount (value : Nat) : value < 10 ^ digitCount value :=
  (Nat.length_toDigits_le_iff (by decide) (List.length_pos_of_ne_nil Nat.toDigits_ne_nil)).mp le_rfl

theorem pow_le_of_lt_digitCount {value power : Nat} (nonzero : value ≠ 0)
    (shorter : power < digitCount value) : 10 ^ power ≤ value := by
  cases power with
  | zero => simpa using Nat.one_le_iff_ne_zero.mpr nonzero
  | succ power =>
      by_contra less
      have short := (Nat.length_toDigits_le_iff (by decide) power.succ_pos).mpr (not_le.mp less)
      exact absurd shorter (not_lt.mpr short)

/-- The rank nearest to a decimal. -/
def rank (decimal : Decimal) : Nat :=
  nearestRank (decimal.coefficient * 10 ^ decimal.exponent.toNat * unitsOfOne)
    (10 ^ (-decimal.exponent).toNat)

theorem rank_of_zero {decimal : Decimal} (zero : decimal.coefficient = 0) : decimal.rank = 0 := by
  have ofZero := nearestRank_units (show 0 < 10 ^ (-decimal.exponent).toNat by positivity) 0
  simpa [rank, zero, units_zero] using ofZero

theorem coefficient_mul_pow_le {decimal : Decimal} {places : Nat}
    (tiny : (digitCount decimal.coefficient : Int) + decimal.exponent ≤ -places) :
    decimal.coefficient * 10 ^ places ≤ 10 ^ (-decimal.exponent).toNat := by
  calc decimal.coefficient * 10 ^ places
      ≤ 10 ^ digitCount decimal.coefficient * 10 ^ places :=
        Nat.mul_le_mul_right _ (lt_pow_digitCount _).le
    _ = 10 ^ (digitCount decimal.coefficient + places) := (Nat.pow_add _ _ _).symm
    _ ≤ 10 ^ (-decimal.exponent).toNat := Nat.pow_le_pow_right (by decide) (by omega)

theorem rank_of_tiny {decimal : Decimal}
    (tiny : (digitCount decimal.coefficient : Int) + decimal.exponent < -330) :
    decimal.rank = 0 := by
  have atBound : nearestRank unitsOfOne (10 ^ 330) = 0 := by
    decide +kernel
  have noFactor : decimal.exponent.toNat = 0 := by omega
  have small : decimal.coefficient * 10 ^ 330 ≤ 10 ^ (-decimal.exponent).toNat :=
    coefficient_mul_pow_le tiny.le
  have le : decimal.rank ≤ nearestRank unitsOfOne (10 ^ 330) := by
    rw [rank, noFactor, Nat.pow_zero, Nat.mul_one]
    apply nearestRank_mono (by positivity) (by positivity)
    rw [Nat.mul_right_comm, Nat.mul_comm unitsOfOne]
    exact Nat.mul_le_mul_right _ small
  omega

theorem pow_mul_pow_le {decimal : Decimal} {places : Nat} (nonzero : decimal.coefficient ≠ 0)
    (huge : places < (digitCount decimal.coefficient : Int) + decimal.exponent) :
    10 ^ places * 10 ^ (-decimal.exponent).toNat ≤
      decimal.coefficient * 10 ^ decimal.exponent.toNat := by
  by_cases factor : places ≤ decimal.exponent
  · have noDivisor : (-decimal.exponent).toNat = 0 := by omega
    rw [noDivisor, Nat.pow_zero, Nat.mul_one]
    calc 10 ^ places ≤ 10 ^ decimal.exponent.toNat := Nat.pow_le_pow_right (by decide) (by omega)
      _ ≤ decimal.coefficient * 10 ^ decimal.exponent.toNat :=
        Nat.le_mul_of_pos_left _ (Nat.pos_of_ne_zero nonzero)
  · have digits : 10 ^ (places - decimal.exponent).toNat ≤ decimal.coefficient :=
      pow_le_of_lt_digitCount nonzero (by omega)
    calc 10 ^ places * 10 ^ (-decimal.exponent).toNat
        = 10 ^ (places - decimal.exponent).toNat * 10 ^ decimal.exponent.toNat := by
          rw [← Nat.pow_add, ← Nat.pow_add]
          congr 1
          omega
      _ ≤ decimal.coefficient * 10 ^ decimal.exponent.toNat := Nat.mul_le_mul_right _ digits

theorem rankBound_le_rank_of_huge {decimal : Decimal} (nonzero : decimal.coefficient ≠ 0)
    (huge : 310 < (digitCount decimal.coefficient : Int) + decimal.exponent) :
    rankBound ≤ decimal.rank := by
  have atBound : rankBound ≤ nearestRank (10 ^ 310 * unitsOfOne) 1 := by
    decide +kernel
  have large : 10 ^ 310 * 10 ^ (-decimal.exponent).toNat ≤
      decimal.coefficient * 10 ^ decimal.exponent.toNat :=
    pow_mul_pow_le nonzero huge
  apply atBound.trans
  apply nearestRank_mono Nat.one_pos (by positivity)
  rw [Nat.mul_one, Nat.mul_right_comm]
  exact Nat.mul_le_mul_right _ large

/-- The digit count gives the same number as rounding would. -/
theorem toNumber_eq (negative : Bool) (decimal : Decimal) :
    decimal.toNumber negative = ofRank negative decimal.rank := by
  simp only [toNumber]
  split
  · rename_i small
    have zero : decimal.rank = 0 := by
      rcases Bool.or_eq_true_iff.mp small with zero | tiny
      · exact rank_of_zero (by simpa using zero)
      · exact rank_of_tiny (by simpa using tiny)
    rw [zero]
  · rename_i notSmall
    split
    · rename_i huge
      have nonzero : decimal.coefficient ≠ 0 := by
        intro zero
        simp [zero] at notSmall
      have overflow := rankBound_le_rank_of_huge nonzero huge
      rw [ofRank, dif_neg (by omega)]
    · cases exponent : decimal.exponent with
      | ofNat power => simp [rank, exponent, ofRatio, ofUnits]
      | negSucc power => simp [rank, exponent, ofRatio, ofUnits]

/-- Decimals of the same value are rounded to the same number. -/
theorem rank_eq_nearestRank {decimal : Decimal} {numerator denominator : Nat}
    (positive : 0 < denominator)
    (same : decimal.coefficient * 10 ^ decimal.exponent.toNat * unitsOfOne * denominator =
      numerator * 10 ^ (-decimal.exponent).toNat) :
    decimal.rank = nearestRank numerator denominator :=
  nearestRank_congr (by positivity) positive same

theorem stripZeros_mul_pow (fuel coefficient : Nat) :
    (stripZeros fuel coefficient).1 * 10 ^ (stripZeros fuel coefficient).2 = coefficient := by
  induction fuel generalizing coefficient with
  | zero => simp [stripZeros]
  | succ fuel ih =>
      rw [stripZeros]
      split
      · rename_i divisible
        rw [Nat.pow_succ, ← Nat.mul_assoc, ih]
        omega
      · simp

theorem gridStep_eq (power : Nat) : gridStep power = unitsOfOne * 10 ^ power := rfl

theorem gridScale_eq : gridScale = 10 ^ gridDepth := by
  decide +kernel

theorem gridScale_pos : 0 < gridScale := by
  decide +kernel

theorem roundsBack_iff {rank power multiple : Nat} :
    roundsBack rank power multiple = true ↔
      nearestRank (multiple * gridStep power) gridScale = rank := by
  rw [roundsBack, beq_iff_eq]

theorem rank_normalize_of_roundsBack {rank power multiple : Nat}
    (back : roundsBack rank power multiple = true) :
    (normalize multiple (power - gridDepth : Int)).rank = rank := by
  have stripped := stripZeros_mul_pow (digitCount multiple - 1) multiple
  set parts := stripZeros (digitCount multiple - 1) multiple
  have form : normalize multiple (power - gridDepth : Int) =
      ⟨parts.1, power - gridDepth + parts.2⟩ := rfl
  have exponents : (power - gridDepth + parts.2 : Int).toNat + gridDepth =
      parts.2 + power + (-(power - gridDepth + parts.2 : Int)).toNat := by
    omega
  rw [form]
  refine (rank_eq_nearestRank gridScale_pos ?_).trans (roundsBack_iff.mp back)
  calc parts.1 * 10 ^ (power - gridDepth + parts.2 : Int).toNat * unitsOfOne * gridScale
      = parts.1 * unitsOfOne * 10 ^ ((power - gridDepth + parts.2 : Int).toNat + gridDepth) := by
        rw [gridScale_eq, Nat.pow_add]
        ring
    _ = parts.1 * 10 ^ parts.2 * (unitsOfOne * 10 ^ power) *
          10 ^ (-(power - gridDepth + parts.2 : Int)).toNat := by
        rw [exponents, Nat.pow_add, Nat.pow_add]
        ring
    _ = multiple * gridStep power * 10 ^ (-(power - gridDepth + parts.2 : Int)).toNat := by
        rw [stripped, gridStep_eq]

theorem nearer?_cases (tie : Tie) (accepted : Nat → Bool) (value step : Nat) :
    (nearer? tie accepted value step = none ∧ accepted (value / step) = false) ∨
      ∃ multiple, nearer? tie accepted value step = some multiple ∧ accepted multiple = true := by
  simp only [nearer?]
  generalize value / step = next
  cases below : accepted next <;> cases above : accepted (next + 1)
  · exact .inl ⟨rfl, rfl⟩
  · exact .inr ⟨next + 1, rfl, above⟩
  · exact .inr ⟨next, rfl, below⟩
  · right
    dsimp only
    split_ifs
    · exact ⟨next, rfl, below⟩
    · exact ⟨next + 1, rfl, above⟩
    · cases tie with
      | up => exact ⟨next + 1, rfl, above⟩
      | even =>
          rcases Nat.mod_two_eq_zero_or_one next with isEven | isOdd
          · exact ⟨next, by simp [isEven], below⟩
          · exact ⟨next + 1, by simp [isOdd], above⟩

/-- The multiple of a grid step next below the magnitude of a rank. -/
def nextBelow (rank power : Nat) : Nat :=
  units rank * gridScale / gridStep power

theorem onGrid?_cases (tie : Tie) (rank power : Nat) :
    (onGrid? tie rank power = none ∧ roundsBack rank power (nextBelow rank power) = false) ∨
      ∃ multiple, onGrid? tie rank power = some multiple ∧ roundsBack rank power multiple = true :=
  nearer?_cases tie (roundsBack rank power) (units rank * gridScale) (gridStep power)

/-- The finest grid is finer than any two magnitudes are apart. -/
theorem roundsBack_finest (rank : Nat) : roundsBack rank 0 (nextBelow rank 0) = true := by
  have fine : 4 * unitsOfOne ≤ gridScale := by
    decide +kernel
  have split := Nat.div_add_mod (units rank * gridScale) unitsOfOne
  have small := Nat.mod_lt (units rank * gridScale) unitsOfOne_pos
  rw [roundsBack_iff, nextBelow, gridStep_eq, Nat.pow_zero, Nat.mul_one]
  apply nearestRank_of_near gridScale_pos
  · exact Nat.div_mul_le_self _ _
  · rw [Nat.mul_comm unitsOfOne] at split
    omega

theorem nextBelow_integers {rank value : Nat} (whole : units rank = value * unitsOfOne) :
    nextBelow rank gridDepth = value := by
  rw [nextBelow, whole, Nat.mul_assoc, gridStep_eq, ← gridScale_eq]
  exact Nat.mul_div_cancel _ (Nat.mul_pos unitsOfOne_pos gridScale_pos)

/-- The magnitude of a whole number is itself on the grid of the integers. -/
theorem roundsBack_integers {rank value : Nat} (whole : units rank = value * unitsOfOne) :
    roundsBack rank gridDepth (nextBelow rank gridDepth) = true := by
  rw [roundsBack_iff, nextBelow_integers whole, gridStep_eq, ← Nat.mul_assoc, ← whole,
    ← gridScale_eq]
  exact nearestRank_units gridScale_pos rank

theorem units_ne_zero {rank : Nat} (nonzero : rank ≠ 0) : units rank ≠ 0 := by
  intro noUnits
  have same := nearestRank_units_one rank
  rw [noUnits, ← units_zero, nearestRank_units_one] at same
  exact nonzero same.symm

theorem nextBelow_finest (rank : Nat) :
    nextBelow rank 0 = units rank * gridScale / unitsOfOne := by
  rw [nextBelow, gridStep_eq, Nat.pow_zero, Nat.mul_one]

theorem mem_earlier {length index other : Nat} {earlier later : List Nat}
    (split : List.range length = earlier ++ index :: later) (less : other < index) :
    other ∈ earlier := by
  have ordered : (earlier ++ index :: later).Pairwise (· < ·) := split ▸ List.pairwise_lt_range
  have inRange : index < length := by
    rw [← List.mem_range, split]
    simp
  have listed : other ∈ earlier ++ index :: later := by
    rw [← split, List.mem_range]
    omega
  have above := (List.pairwise_cons.mp (List.pairwise_append.mp ordered).2.1).1
  rcases List.mem_append.mp listed with isEarlier | isLater
  · exact isEarlier
  · rcases List.mem_cons.mp isLater with rfl | isLater
    · omega
    · have := above other isLater
      omega

/-- The grids are tried from the coarsest one down, and the first one that has a decimal which is
rounded back gives it. -/
theorem exists_shortest_eq (tie : Tie) {rank : Nat} (nonzero : rank ≠ 0) :
    ∃ power multiple : Nat, shortest tie rank = normalize multiple (power - gridDepth : Int) ∧
      roundsBack rank power multiple = true ∧
      ∀ coarser, power < coarser → coarser < digitCount (nextBelow rank 0) →
        onGrid? tie rank coarser = none := by
  rw [shortest, if_neg nonzero, ← nextBelow_finest]
  generalize length_eq : digitCount (nextBelow rank 0) = length
  have someDigit : 0 < length := by
    rw [← length_eq]
    exact List.length_pos_of_ne_nil Nat.toDigits_ne_nil
  generalize search : (List.range length).findSome? _ = found
  cases found with
  | none =>
      rw [List.findSome?_eq_none_iff] at search
      have finest := search (length - 1) (by simp; omega)
      rcases onGrid?_cases tie rank 0 with ⟨_, refused⟩ | ⟨multiple, isFound, _⟩
      · rw [roundsBack_finest] at refused
        cases refused
      · simp [show length - (length - 1 + 1) = 0 by omega, isFound] at finest
  | some decimal =>
      rcases List.findSome?_eq_some_iff.mp search with ⟨earlier, index, later, split, here, before⟩
      rcases Option.map_eq_some_iff.mp here with ⟨multiple, isFound, rfl⟩
      rcases onGrid?_cases tie rank (length - (index + 1)) with ⟨nothing, _⟩ | ⟨_, same, back⟩
      · rw [nothing] at isFound
        cases isFound
      · rw [isFound] at same
        cases same
        refine ⟨length - (index + 1), multiple, rfl, back, ?_⟩
        intro coarser above inside
        have tried := before (length - (coarser + 1)) (mem_earlier split (by omega))
        rwa [show length - (length - (coarser + 1) + 1) = coarser by omega,
          Option.map_eq_none_iff] at tried

/-- The shortest decimal reads back. -/
theorem rank_shortest (tie : Tie) (rank : Nat) : (shortest tie rank).rank = rank := by
  by_cases zero : rank = 0
  · rw [shortest, if_pos zero, rank_of_zero rfl, zero]
  · rcases exists_shortest_eq tie zero with ⟨power, multiple, isShortest, back, _⟩
    rw [isShortest]
    exact rank_normalize_of_roundsBack back

theorem isWhole_rank {decimal : Decimal} (whole : 0 ≤ decimal.exponent) :
    isWhole decimal.rank = true := by
  rw [rank, show (-decimal.exponent).toNat = 0 by omega, Nat.pow_zero]
  exact isWhole_nearestRank _

theorem gridDepth_lt_digitCount {rank value : Nat} (whole : units rank = value * unitsOfOne)
    (nonzero : value ≠ 0) : gridDepth < digitCount (nextBelow rank 0) := by
  have finest : nextBelow rank 0 = value * gridScale := by
    rw [nextBelow_finest, whole, Nat.mul_right_comm, Nat.mul_div_cancel _ unitsOfOne_pos]
  have atLeast : 10 ^ gridDepth ≤ nextBelow rank 0 := by
    rw [finest, ← gridScale_eq]
    exact Nat.le_mul_of_pos_left _ (Nat.pos_of_ne_zero nonzero)
  exact (Nat.pow_lt_pow_iff_right (by decide)).mp (atLeast.trans_lt (lt_pow_digitCount _))

/-- The shortest decimal is an integer if and only if the number is one. -/
theorem exponent_shortest_nonneg_iff (tie : Tie) (rank : Nat) :
    0 ≤ (shortest tie rank).exponent ↔ isWhole rank = true := by
  constructor
  · intro whole
    rw [← rank_shortest tie rank]
    exact isWhole_rank whole
  · intro whole
    rcases isWhole_iff.mp whole with ⟨value, whole⟩
    by_cases zero : rank = 0
    · rw [shortest, if_pos zero]
    · have nonzero : value ≠ 0 := by
        rintro rfl
        exact units_ne_zero zero (by rw [whole, Nat.zero_mul])
      rcases exists_shortest_eq tie zero with ⟨power, multiple, isShortest, _, none⟩
      have notFiner : ¬power < gridDepth := by
        intro finer
        have nothing := none gridDepth finer (gridDepth_lt_digitCount whole nonzero)
        rcases onGrid?_cases tie rank gridDepth with ⟨_, refused⟩ | ⟨_, isFound, _⟩
        · rw [roundsBack_integers whole] at refused
          cases refused
        · rw [nothing] at isFound
          cases isFound
      rw [isShortest]
      simp only [normalize]
      omega

end Decimal
end AccessAudit
