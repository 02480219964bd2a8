import AccessAudit.Number.Decimal
import Mathlib.Data.Nat.Log
import Mathlib.Tactic.Linarith
import Mathlib.Tactic.Positivity
import Mathlib.Tactic.Ring
import Mathlib.Tactic.Zify

/-!
# Rounding to numbers

This file proves that rounding a quotient of units to the nearest rank is monotone, and that it
leaves the finite magnitudes as they are.

A rank is a shift, which gives the spacing of its binade, and a significand. The shift of a quotient
is read off its leading digit, and the significand is the quotient rounded to that spacing. A
greater quotient has a greater shift or the same one, and rounding to one spacing is monotone. All
that is said about the range of the finite numbers follows from this by looking at single quotients.
-/

namespace AccessAudit
namespace Number

variable {numerator denominator otherNumerator otherDenominator : Nat}

theorem div_le_roundHalfEven (numerator denominator : Nat) :
    numerator / denominator ≤ roundHalfEven numerator denominator := by
  simp only [roundHalfEven]
  split_ifs <;> omega

theorem roundHalfEven_le_div_succ (numerator denominator : Nat) :
    roundHalfEven numerator denominator ≤ numerator / denominator + 1 := by
  simp only [roundHalfEven]
  split_ifs <;> omega

theorem roundHalfEven_mul (positive : 0 < denominator) (value : Nat) :
    roundHalfEven (value * denominator) denominator = value := by
  simp [roundHalfEven, positive]

/-- A little less than an integer is rounded up to it. -/
theorem roundHalfEven_mul_sub_one {value : Nat} (someValue : 0 < value)
    (coarse : 2 < denominator) :
    roundHalfEven (value * denominator - 1) denominator = value := by
  have split : value * denominator - 1 = (denominator - 1) + denominator * (value - 1) := by
    cases value with
    | zero => cases someValue
    | succ value =>
        rw [Nat.add_sub_cancel, Nat.succ_mul, Nat.mul_comm]
        omega
  have quotient : (value * denominator - 1) / denominator = value - 1 := by
    rw [split, Nat.add_mul_div_left _ _ (by omega), Nat.div_eq_of_lt (by omega), Nat.zero_add]
  have remainder : (value * denominator - 1) % denominator = denominator - 1 := by
    rw [split, Nat.add_mul_mod_self_left, Nat.mod_eq_of_lt (by omega)]
  simp only [roundHalfEven, quotient, remainder]
  split_ifs <;> omega

theorem div_le_div_of_ratio_le (positive : 0 < denominator) (otherPositive : 0 < otherDenominator)
    (le : numerator * otherDenominator ≤ otherNumerator * denominator) :
    numerator / denominator ≤ otherNumerator / otherDenominator := by
  rw [Nat.le_div_iff_mul_le otherPositive]
  apply Nat.le_of_mul_le_mul_right _ positive
  calc numerator / denominator * otherDenominator * denominator
      = numerator / denominator * denominator * otherDenominator := by ring
    _ ≤ numerator * otherDenominator := Nat.mul_le_mul_right _ (Nat.div_mul_le_self _ _)
    _ ≤ otherNumerator * denominator := le

theorem roundHalfEven_mono (positive : 0 < denominator) (otherPositive : 0 < otherDenominator)
    (le : numerator * otherDenominator ≤ otherNumerator * denominator) :
    roundHalfEven numerator denominator ≤ roundHalfEven otherNumerator otherDenominator := by
  have quotients := div_le_div_of_ratio_le positive otherPositive le
  rcases quotients.lt_or_eq with less | same
  · calc roundHalfEven numerator denominator
        ≤ numerator / denominator + 1 := roundHalfEven_le_div_succ _ _
      _ ≤ otherNumerator / otherDenominator := less
      _ ≤ roundHalfEven otherNumerator otherDenominator := div_le_roundHalfEven _ _
  · have numeratorSplit := Nat.div_add_mod numerator denominator
    have otherSplit := Nat.div_add_mod otherNumerator otherDenominator
    rw [← same] at otherSplit
    set remainder := numerator % denominator
    set otherRemainder := otherNumerator % otherDenominator
    set quotient := numerator / denominator
    have remainders : remainder * otherDenominator ≤ otherRemainder * denominator := by
      rw [← numeratorSplit, ← otherSplit] at le
      linarith [show denominator * quotient * otherDenominator =
        otherDenominator * quotient * denominator by ring]
    have atLeastHalf : denominator ≤ 2 * remainder → otherDenominator ≤ 2 * otherRemainder := by
      intro half
      nlinarith
    have overHalf : denominator < 2 * remainder → otherDenominator < 2 * otherRemainder := by
      intro half
      nlinarith
    simp only [roundHalfEven, ← same]
    split_ifs <;> omega

/-- How often the spacing doubles up to the binade of a quotient. -/
def shiftOf (numerator denominator : Nat) : Nat :=
  Nat.log2 (numerator / denominator) - 52

theorem nearestRank_eq (numerator denominator : Nat) :
    nearestRank numerator denominator =
      shiftOf numerator denominator * binadeSize +
        roundHalfEven numerator (denominator * 2 ^ shiftOf numerator denominator) :=
  rfl

theorem binadeSize_eq : binadeSize = 2 ^ 52 := rfl

/-- A significand that the shift leaves as it is: all are where nothing is shifted, and otherwise
those of one binade and the first one of the next. -/
structure Fits (shift significand : Nat) : Prop where
  lower : shift = 0 ∨ binadeSize ≤ significand
  upper : significand ≤ 2 * binadeSize

theorem units_of_fits {shift significand : Nat} (fits : Fits shift significand) :
    units (shift * binadeSize + significand) = significand * 2 ^ shift := by
  rcases fits with ⟨lower, upper⟩
  have positive : 0 < binadeSize := by decide
  rcases Nat.lt_or_ge significand binadeSize with small | normal
  · have unshifted : shift = 0 := by omega
    simp [unshifted, units, small]
  · have large : ¬shift * binadeSize + significand < binadeSize := by omega
    rcases upper.lt_or_eq with inside | isNext
    · have split : shift * binadeSize + significand =
          (significand - binadeSize) + binadeSize * (shift + 1) := by
        rw [Nat.mul_comm binadeSize, Nat.succ_mul]
        omega
      have quotient : (shift * binadeSize + significand) / binadeSize = shift + 1 := by
        rw [split, Nat.add_mul_div_left _ _ positive, Nat.div_eq_of_lt (by omega), Nat.zero_add]
      have remainder : (shift * binadeSize + significand) % binadeSize =
          significand - binadeSize := by
        rw [split, Nat.add_mul_mod_self_left, Nat.mod_eq_of_lt (by omega)]
      have whole : binadeSize + (significand - binadeSize) = significand := by omega
      rw [units, if_neg large, quotient, remainder, Nat.add_sub_cancel, Nat.pow_eq, whole]
    · have split : shift * binadeSize + significand = binadeSize * (shift + 2) := by
        rw [isNext]
        ring
      have doubled : shift + 2 - 1 = shift + 1 := by omega
      rw [units, if_neg large, split, Nat.mul_mod_right, Nat.mul_div_cancel_left _ positive, isNext,
        doubled, Nat.pow_eq]
      ring

theorem units_zero : units 0 = 0 := rfl

theorem exists_fits (rank : Nat) :
    ∃ shift significand, rank = shift * binadeSize + significand ∧
      Fits shift significand ∧ significand < 2 * binadeSize := by
  have split := Nat.div_add_mod rank binadeSize
  have small := Nat.mod_lt rank (show 0 < binadeSize by decide)
  rcases index : rank / binadeSize with _ | shift
  · rw [index, Nat.mul_zero] at split
    exact ⟨0, rank, by simp, ⟨.inl rfl, by omega⟩, by omega⟩
  · rw [index, Nat.mul_succ, Nat.mul_comm] at split
    exact ⟨shift, binadeSize + rank % binadeSize, by omega, ⟨.inr (by omega), by omega⟩, by omega⟩

/-- The lowest magnitude of a binade is also the one behind the last of the binade below. -/
theorem exists_fits_above (rank : Nat) :
    ∃ shift significand, rank = shift * binadeSize + significand ∧
      Fits shift significand ∧ (shift = 0 ∨ binadeSize < significand) := by
  rcases exists_fits rank with ⟨shift, significand, rfl, fits, _⟩
  by_cases above : shift = 0 ∨ binadeSize < significand
  · exact ⟨shift, significand, rfl, fits, above⟩
  · have positive : 0 < binadeSize := by decide
    rcases fits with ⟨lower, _⟩
    cases shift with
    | zero => exact absurd (.inl rfl) above
    | succ shift =>
        refine ⟨shift, 2 * binadeSize, ?_, ⟨.inr (by omega), le_rfl⟩, .inr (by omega)⟩
        rw [Nat.succ_mul]
        omega

theorem div_lt_of_shiftOf (numerator denominator : Nat) :
    numerator / denominator < 2 * binadeSize * 2 ^ shiftOf numerator denominator := by
  have below := Nat.lt_log2_self (n := numerator / denominator)
  have exponent : (numerator / denominator).log2 + 1 ≤ 53 + shiftOf numerator denominator := by
    unfold shiftOf
    omega
  calc numerator / denominator
      < 2 ^ ((numerator / denominator).log2 + 1) := below
    _ ≤ 2 ^ (53 + shiftOf numerator denominator) := Nat.pow_le_pow_right (by decide) exponent
    _ = 2 * binadeSize * 2 ^ shiftOf numerator denominator := by
      rw [binadeSize_eq]
      ring

theorem le_div_of_shiftOf (shifted : shiftOf numerator denominator ≠ 0) :
    binadeSize * 2 ^ shiftOf numerator denominator ≤ numerator / denominator := by
  have exponent : (numerator / denominator).log2 = 52 + shiftOf numerator denominator := by
    unfold shiftOf at *
    omega
  have nonzero : numerator / denominator ≠ 0 := by
    intro zero
    rw [zero, Nat.log2_zero] at exponent
    omega
  calc binadeSize * 2 ^ shiftOf numerator denominator
      = 2 ^ (numerator / denominator).log2 := by
        rw [exponent, binadeSize_eq]
        ring
    _ ≤ numerator / denominator := Nat.log2_self_le nonzero

theorem shiftOf_eq {shift : Nat}
    (lower : shift = 0 ∨ binadeSize * 2 ^ shift ≤ numerator / denominator)
    (upper : numerator / denominator < 2 * binadeSize * 2 ^ shift) :
    shiftOf numerator denominator = shift := by
  have upperPower : 2 * binadeSize * 2 ^ shift = 2 ^ (53 + shift) := by
    rw [binadeSize_eq]
    ring
  have lowerPower : binadeSize * 2 ^ shift = 2 ^ (52 + shift) := by
    rw [binadeSize_eq]
    ring
  rw [upperPower] at upper
  rw [lowerPower] at lower
  unfold shiftOf
  by_cases zero : numerator / denominator = 0
  · have power : 0 < 2 ^ (52 + shift) := by positivity
    rw [zero, Nat.log2_zero]
    omega
  · have below := (Nat.log2_lt zero).mpr upper
    rcases lower with rfl | atLeast
    · omega
    · have above := (Nat.le_log2 zero).mpr atLeast
      omega

theorem fits_roundHalfEven (numerator denominator : Nat) :
    Fits (shiftOf numerator denominator)
      (roundHalfEven numerator (denominator * 2 ^ shiftOf numerator denominator)) := by
  have power : 0 < 2 ^ shiftOf numerator denominator := by positivity
  have quotient := div_le_roundHalfEven numerator (denominator * 2 ^ shiftOf numerator denominator)
  have upper := roundHalfEven_le_div_succ numerator
    (denominator * 2 ^ shiftOf numerator denominator)
  rw [← Nat.div_div_eq_div_mul] at quotient upper
  constructor
  · by_cases unshifted : shiftOf numerator denominator = 0
    · exact .inl unshifted
    · right
      exact ((Nat.le_div_iff_mul_le power).mpr (le_div_of_shiftOf unshifted)).trans quotient
  · have below := (Nat.div_lt_iff_lt_mul power).mpr (div_lt_of_shiftOf numerator denominator)
    omega

/-- The magnitude that a quotient is rounded to. -/
theorem units_nearestRank (numerator denominator : Nat) :
    units (nearestRank numerator denominator) =
      roundHalfEven numerator (denominator * 2 ^ shiftOf numerator denominator) *
        2 ^ shiftOf numerator denominator :=
  units_of_fits (fits_roundHalfEven numerator denominator)

theorem nearestRank_mono (positive : 0 < denominator) (otherPositive : 0 < otherDenominator)
    (le : numerator * otherDenominator ≤ otherNumerator * denominator) :
    nearestRank numerator denominator ≤ nearestRank otherNumerator otherDenominator := by
  have shifts : shiftOf numerator denominator ≤ shiftOf otherNumerator otherDenominator := by
    have quotients := div_le_div_of_ratio_le positive otherPositive le
    have logs := Nat.log_mono_right (b := 2) quotients
    simp only [← Nat.log2_eq_log_two] at logs
    unfold shiftOf
    omega
  have fits := fits_roundHalfEven numerator denominator
  have otherFits := fits_roundHalfEven otherNumerator otherDenominator
  rw [nearestRank_eq, nearestRank_eq]
  rcases shifts.lt_or_eq with less | same
  · have lower := otherFits.lower
    have upper := fits.upper
    have step : shiftOf numerator denominator * binadeSize + binadeSize ≤
        shiftOf otherNumerator otherDenominator * binadeSize := by
      rw [← Nat.succ_mul]
      exact Nat.mul_le_mul_right _ less
    omega
  · rw [same]
    apply Nat.add_le_add_left
    have power : 0 < 2 ^ shiftOf otherNumerator otherDenominator := by positivity
    apply roundHalfEven_mono (by positivity) (by positivity)
    rw [← Nat.mul_assoc, ← Nat.mul_assoc]
    exact Nat.mul_le_mul_right _ le

theorem nearestRank_congr (positive : 0 < denominator) (otherPositive : 0 < otherDenominator)
    (same : numerator * otherDenominator = otherNumerator * denominator) :
    nearestRank numerator denominator = nearestRank otherNumerator otherDenominator :=
  Nat.le_antisymm (nearestRank_mono positive otherPositive same.le)
    (nearestRank_mono otherPositive positive same.ge)

theorem nearestRank_le_nearestRank {value other : Nat} (le : value ≤ other) :
    nearestRank value 1 ≤ nearestRank other 1 :=
  nearestRank_mono Nat.one_pos Nat.one_pos (Nat.mul_le_mul_right 1 le)

/-- The finite magnitudes are left as they are. -/
theorem nearestRank_units (positive : 0 < denominator) (rank : Nat) :
    nearestRank (units rank * denominator) denominator = rank := by
  rcases exists_fits rank with ⟨shift, significand, rfl, fits, below⟩
  have power : 0 < 2 ^ shift := by positivity
  have value := units_of_fits fits
  have shifted : shiftOf (units (shift * binadeSize + significand) * denominator) denominator =
      shift := by
    apply shiftOf_eq
    · rw [Nat.mul_div_cancel _ positive, value]
      rcases fits.lower with unshifted | normal
      · exact .inl unshifted
      · exact .inr (Nat.mul_le_mul_right _ normal)
    · rw [Nat.mul_div_cancel _ positive, value]
      exact (Nat.mul_lt_mul_right power).mpr below
  have exact : units (shift * binadeSize + significand) * denominator =
      significand * (denominator * 2 ^ shift) := by
    rw [value]
    ring
  rw [nearestRank_eq, shifted, exact, roundHalfEven_mul (by positivity)]

theorem nearestRank_units_one (rank : Nat) : nearestRank (units rank) 1 = rank := by
  simpa using nearestRank_units Nat.one_pos rank

/-- A quarter of a unit below a magnitude is still rounded to it. -/
theorem nearestRank_quarter_below {rank : Nat} (nonzero : 0 < rank) :
    nearestRank (units rank * 4 - 1) 4 = rank := by
  rcases exists_fits_above rank with ⟨shift, significand, rfl, fits, above⟩
  have value := units_of_fits fits
  have power : 0 < 2 ^ shift := by positivity
  have someSignificand : 0 < significand := by
    rcases above with rfl | above <;> omega
  have quotient : (units (shift * binadeSize + significand) * 4 - 1) / 4 =
      significand * 2 ^ shift - 1 := by
    omega
  have shifted : shiftOf (units (shift * binadeSize + significand) * 4 - 1) 4 = shift := by
    apply shiftOf_eq
    · rcases above with unshifted | above
      · exact .inl unshifted
      · right
        have step : (binadeSize + 1) * 2 ^ shift ≤ significand * 2 ^ shift :=
          Nat.mul_le_mul_right _ above
        rw [Nat.succ_mul] at step
        omega
    · have step : significand * 2 ^ shift ≤ 2 * binadeSize * 2 ^ shift :=
        Nat.mul_le_mul_right _ fits.upper
      have some : 0 < significand * 2 ^ shift := Nat.mul_pos someSignificand power
      omega
  have rescaled : units (shift * binadeSize + significand) * 4 - 1 =
      significand * (4 * 2 ^ shift) - 1 := by
    rw [value]
    ring_nf
  rw [nearestRank_eq, shifted, rescaled, roundHalfEven_mul_sub_one someSignificand (by omega)]

theorem nearestRank_of_near {rank : Nat} (positive : 0 < denominator)
    (atMost : numerator ≤ units rank * denominator)
    (near : units rank * denominator * 4 ≤ numerator * 4 + denominator) :
    nearestRank numerator denominator = rank := by
  apply Nat.le_antisymm
  · calc nearestRank numerator denominator
        ≤ nearestRank (units rank * denominator) denominator :=
          nearestRank_mono positive positive (Nat.mul_le_mul_right _ atMost)
      _ = rank := nearestRank_units positive rank
  · rcases Nat.eq_zero_or_pos rank with rfl | nonzero
    · exact Nat.zero_le _
    · calc rank = nearestRank (units rank * 4 - 1) 4 := (nearestRank_quarter_below nonzero).symm
        _ ≤ nearestRank numerator denominator := by
          apply nearestRank_mono (by decide) positive
          rw [Nat.sub_mul, Nat.one_mul]
          have swap : units rank * 4 * denominator = units rank * denominator * 4 := by ring
          omega

theorem unitsOfOne_eq : unitsOfOne = 2 ^ 1074 := by
  decide +kernel

theorem unitsOfOne_pos : 0 < unitsOfOne := by
  rw [unitsOfOne_eq]
  positivity

theorem isWhole_iff {rank : Nat} :
    isWhole rank = true ↔ ∃ value, units rank = value * unitsOfOne := by
  rw [isWhole, beq_iff_eq, ← Nat.dvd_iff_mod_eq_zero, dvd_iff_exists_eq_mul_left]

/-- An integer is left as it is where the spacing of the numbers is at most one. -/
theorem units_nearestRank_integer {value : Nat}
    (fine : shiftOf (value * unitsOfOne) 1 ≤ 1074) :
    units (nearestRank (value * unitsOfOne) 1) = value * unitsOfOne := by
  rw [units_nearestRank, Nat.one_mul]
  generalize shiftOf (value * unitsOfOne) 1 = shift at fine
  have split : (2 : Nat) ^ 1074 = 2 ^ (1074 - shift) * 2 ^ shift := by
    rw [← Nat.pow_add]
    congr 1
    omega
  rw [unitsOfOne_eq, split, ← Nat.mul_assoc, roundHalfEven_mul (by positivity)]

/-- An integer is rounded to a number without a fraction. -/
theorem isWhole_nearestRank (value : Nat) :
    isWhole (nearestRank (value * unitsOfOne) 1) = true := by
  rw [isWhole_iff]
  rcases Nat.le_total (shiftOf (value * unitsOfOne) 1) 1074 with fine | coarse
  · exact ⟨value, units_nearestRank_integer fine⟩
  · rw [units_nearestRank, Nat.one_mul]
    generalize shiftOf (value * unitsOfOne) 1 = shift at coarse
    have split : (2 : Nat) ^ shift = 2 ^ (shift - 1074) * unitsOfOne := by
      rw [unitsOfOne_eq, ← Nat.pow_add]
      congr 1
      omega
    refine ⟨roundHalfEven (value * unitsOfOne) (2 ^ shift) * 2 ^ (shift - 1074), ?_⟩
    rw [Nat.mul_assoc, ← split]

/-- The least integer that is rounded to an infinity: it is half a spacing above the greatest finite
number. -/
def overflowBound : Nat := 2 ^ 1024 - 2 ^ 970

theorem nearestRank_lt_rankBound_iff (value : Nat) :
    nearestRank (value * unitsOfOne) 1 < rankBound ↔ value < overflowBound := by
  have atBound : nearestRank (overflowBound * unitsOfOne) 1 = rankBound := by
    decide +kernel
  have belowBound : nearestRank (overflowBound * unitsOfOne - 1) 1 < rankBound := by
    decide +kernel
  constructor
  · intro finite
    by_contra large
    have step : overflowBound * unitsOfOne ≤ value * unitsOfOne :=
      Nat.mul_le_mul_right unitsOfOne (not_lt.mp large)
    have le := nearestRank_le_nearestRank step
    omega
  · intro small
    have step : value * unitsOfOne < overflowBound * unitsOfOne :=
      (Nat.mul_lt_mul_right unitsOfOne_pos).mpr small
    have le := nearestRank_le_nearestRank (Nat.le_sub_one_of_lt step)
    exact lt_of_le_of_lt le belowBound

end Number
end AccessAudit
