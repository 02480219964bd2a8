import AccessAudit.Proofs.Number.Rounding

/-!
# Integers among the numbers

The integers below the 53rd power of two are numbers themselves, so rounding leaves them as they
are. From that power on the spacing of the numbers is two or more, and all of them are even.
-/

namespace AccessAudit
namespace Number

variable {value exponent places : Nat}

theorem lt_add_of_pow_le (small : value < 2 ^ 53) (atLeast : 2 ^ exponent ≤ value * 2 ^ places) :
    exponent < 53 + places := by
  have below : value * 2 ^ places < 2 ^ (53 + places) := by
    rw [Nat.pow_add]
    exact (Nat.mul_lt_mul_right (by positivity)).mpr small
  exact (Nat.pow_lt_pow_iff_right (by decide)).mp (atLeast.trans_lt below)

theorem shiftOf_le_of_small (small : value < 2 ^ 53) :
    shiftOf (value * unitsOfOne) 1 ≤ 1074 := by
  by_cases unshifted : shiftOf (value * unitsOfOne) 1 = 0
  · omega
  · have atLeast := le_div_of_shiftOf unshifted
    rw [Nat.div_one, binadeSize_eq, ← Nat.pow_add] at atLeast
    generalize shiftOf (value * unitsOfOne) 1 = shift at atLeast
    rw [unitsOfOne_eq] at atLeast
    have exponents := lt_add_of_pow_le small atLeast
    omega

/-- The number is this integer and nothing but it; a zero is the positive one. -/
def IsExactly (number : Number) (value : Int) : Prop :=
  ∃ rank, number = .finite (decide (value < 0)) rank ∧ units rank = value.natAbs * unitsOfOne

theorem IsExactly.unique {number : Number} {left right : Int} (isLeft : IsExactly number left)
    (isRight : IsExactly number right) : left = right := by
  rcases isLeft with ⟨rank, rfl, leftUnits⟩
  rcases isRight with ⟨otherRank, same, rightUnits⟩
  simp only [finite.injEq, decide_eq_decide] at same
  rcases same with ⟨sameSign, rfl⟩
  have sameMagnitude : left.natAbs = right.natAbs := by
    apply Nat.eq_of_mul_eq_mul_right unitsOfOne_pos
    rw [← leftUnits, rightUnits]
  omega

/-- An integer that is a number is the number nearest to itself. -/
theorem IsExactly.eq_ofInt {number : Number} {value : Int} (isExactly : IsExactly number value) :
    number = ofInt value := by
  rcases isExactly with ⟨rank, rfl, whole⟩
  have nearest : nearestRank (value.natAbs * unitsOfOne) 1 = rank := by
    rw [← whole, nearestRank_units_one]
  rw [ofInt, ofRatio, ofUnits, nearest, ofRank, dif_pos rank.isLt]

theorem isExactly_ofInt {value : Int} (small : value.natAbs < 2 ^ 53) :
    IsExactly (ofInt value) value := by
  have bound : 2 ^ 53 < overflowBound := by
    decide +kernel
  have bounded : nearestRank (value.natAbs * unitsOfOne) 1 < rankBound := by
    apply (nearestRank_lt_rankBound_iff _).mpr
    omega
  refine ⟨⟨_, bounded⟩, ?_, ?_⟩
  · simp [ofInt, ofRatio, ofUnits, ofRank, bounded]
  · apply units_nearestRank_integer
    exact shiftOf_le_of_small small

theorem two_dvd_mul_pow_div {significand shift : Nat} (small : significand < 2 ^ 53)
    (large : 2 ^ 53 ≤ significand * 2 ^ shift / 2 ^ places) :
    2 ∣ significand * 2 ^ shift / 2 ^ places := by
  rw [Nat.le_div_iff_mul_le (by positivity), ← Nat.pow_add] at large
  have exponents := lt_add_of_pow_le small large
  have coarse : shift = shift - places - 1 + 1 + places := by omega
  have split : significand * 2 ^ shift =
      significand * 2 ^ (shift - places - 1) * 2 * 2 ^ places := by
    nth_rewrite 1 [coarse]
    rw [Nat.pow_add, Nat.pow_succ]
    ring
  rw [split, Nat.mul_div_cancel _ (by positivity)]
  exact Nat.dvd_mul_left ..

theorem two_dvd_of_large {rank : Nat} (large : 2 ^ 53 ≤ units rank / unitsOfOne) :
    2 ∣ units rank / unitsOfOne := by
  rcases exists_fits rank with ⟨shift, significand, rfl, fits, below⟩
  rw [units_of_fits fits, unitsOfOne_eq] at *
  apply two_dvd_mul_pow_div _ large
  rw [binadeSize_eq] at below
  omega

end Number
end AccessAudit
