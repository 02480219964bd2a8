import AccessAudit.Proofs.Number.Rounding
import Mathlib.Data.Nat.Dist

/-!
# The nearest magnitude

This file proves that rounding a number of units finds the magnitude nearest to it, and of two that
are equally near the one of the even rank.

Two neighbouring magnitudes are equally near at their midpoint, so the nearest rank is told by
comparing with the midpoints (`NearestTo.lt_iff`), and there is only one. From a power of two on the
magnitudes are multiples of a fixed spacing, and so is twice a midpoint. Adding less than half of
this spacing to a multiple of it makes no difference, unless that multiple is a midpoint.
-/

namespace AccessAudit
namespace Number

variable {value other rank otherRank denominator places : Nat}

theorem units_strictMono : StrictMono units := by
  apply strictMono_nat_of_lt_succ
  intro rank
  rcases exists_fits rank with ⟨shift, significand, rfl, fits, below⟩
  have nextFits : Fits shift (significand + 1) := ⟨fits.lower.imp id Nat.le_succ_of_le, below⟩
  rw [Nat.add_assoc, units_of_fits nextFits, units_of_fits fits]
  exact (Nat.mul_lt_mul_right (by positivity)).mpr (Nat.lt_succ_self significand)

/-- Twice the point halfway between a magnitude and the next one. -/
def twiceMidpoint (rank : Nat) : Nat := units rank + units (rank + 1)

/-- No magnitude is nearer to this many units than the one of the rank, and if another one is
equally near, then the rank is even. The ranks of the finite numbers are not the only ones here: a
nearest rank outside of them stands for overflow. -/
structure NearestTo (rank value : Nat) : Prop where
  nearest : ∀ other, Nat.dist (units rank) value ≤ Nat.dist (units other) value
  even : ∀ other, other ≠ rank → Nat.dist (units other) value = Nat.dist (units rank) value →
    rank % 2 = 0

/-- The nearest rank is above another one if the midpoint behind that one is passed. On the midpoint
the even rank is the nearest. -/
theorem NearestTo.lt_iff (isNearest : NearestTo rank value) :
    other < rank ↔
      twiceMidpoint other < 2 * value ∨ twiceMidpoint other = 2 * value ∧ other % 2 = 1 := by
  rcases isNearest with ⟨nearest, even⟩
  have step := units_strictMono (Nat.lt_add_one other)
  have fromBelow := nearest other
  have fromAbove := nearest (other + 1)
  unfold twiceMidpoint
  unfold Nat.dist at *
  constructor
  · intro less
    have atLeast := units_strictMono.monotone (show other + 1 ≤ rank from less)
    by_contra notPassed
    have onMidpoint : units other + units (other + 1) = 2 * value := by omega
    have isNext : units rank = units (other + 1) := by omega
    have next : rank = other + 1 := units_strictMono.injective isNext
    have evenRank := even other (by omega) (by omega)
    omega
  · intro passed
    by_contra notLess
    have atMost := units_strictMono.monotone (not_lt.mp notLess)
    have isOther : units rank = units other := by omega
    have same : rank = other := units_strictMono.injective isOther
    have evenRank := even (other + 1) (by omega) (by omega)
    omega

theorem NearestTo.unique (isNearest : NearestTo rank value) (isOther : NearestTo otherRank value) :
    rank = otherRank := by
  by_contra different
  rcases Nat.lt_or_gt_of_ne different with less | greater
  · exact lt_irrefl rank (isNearest.lt_iff.mpr (isOther.lt_iff.mp less))
  · exact lt_irrefl otherRank (isOther.lt_iff.mpr (isNearest.lt_iff.mp greater))

/-- Rounding moves a value by at most half a step, and by half a step only to an even multiple. -/
theorem roundHalfEven_error (positive : 0 < denominator) (value : Nat) :
    2 * Nat.dist (roundHalfEven value denominator * denominator) value ≤ denominator ∧
      (2 * Nat.dist (roundHalfEven value denominator * denominator) value = denominator →
        roundHalfEven value denominator % 2 = 0) := by
  have split := Nat.div_add_mod' value denominator
  have small := Nat.mod_lt value positive
  have next := Nat.add_one_mul (value / denominator) denominator
  simp only [roundHalfEven]
  unfold Nat.dist
  split_ifs with low high
  · omega
  · omega
  · rcases Nat.mod_two_eq_zero_or_one (value / denominator) with even | odd
    · rw [even, Nat.add_zero]
      omega
    · rw [odd]
      omega

theorem roundHalfEven_nearest (positive : 0 < denominator) (value multiple : Nat) :
    Nat.dist (roundHalfEven value denominator * denominator) value ≤
        Nat.dist (multiple * denominator) value ∧
      (multiple ≠ roundHalfEven value denominator →
        Nat.dist (multiple * denominator) value =
          Nat.dist (roundHalfEven value denominator * denominator) value →
        roundHalfEven value denominator % 2 = 0) := by
  rcases roundHalfEven_error positive value with ⟨error, even⟩
  by_cases same : multiple = roundHalfEven value denominator
  · subst same
    exact ⟨le_rfl, fun different => absurd rfl different⟩
  · have apart : denominator ≤
        Nat.dist (multiple * denominator) (roundHalfEven value denominator * denominator) := by
      rw [Nat.dist_mul_right]
      exact Nat.le_mul_of_pos_left _ (Nat.dist_pos_of_ne same)
    have triangle := Nat.dist.triangle_inequality (multiple * denominator) value
      (roundHalfEven value denominator * denominator)
    rw [Nat.dist_comm value] at triangle
    refine ⟨by omega, ?_⟩
    intro _ equal
    exact even (by omega)

/-- The magnitudes are multiples of a spacing from the binade of that spacing on. -/
theorem exists_multiple_or_lt (rank shift : Nat) :
    (∃ multiple, units rank = multiple * 2 ^ shift) ∨
      shift ≠ 0 ∧ units rank < binadeSize * 2 ^ shift := by
  rcases exists_fits rank with ⟨ownShift, significand, rfl, fits, below⟩
  rw [units_of_fits fits]
  rcases Nat.lt_or_ge ownShift shift with finer | coarser
  · right
    refine ⟨by omega, ?_⟩
    calc significand * 2 ^ ownShift
        < 2 * binadeSize * 2 ^ ownShift := (Nat.mul_lt_mul_right (by positivity)).mpr below
      _ = binadeSize * 2 ^ (ownShift + 1) := by ring
      _ ≤ binadeSize * 2 ^ shift :=
        Nat.mul_le_mul_left _ (Nat.pow_le_pow_right (by decide) finer)
  · left
    refine ⟨significand * 2 ^ (ownShift - shift), ?_⟩
    rw [Nat.mul_assoc, ← Nat.pow_add, Nat.sub_add_cancel coarser]

theorem nearestTo_nearestRank (value : Nat) : NearestTo (nearestRank value 1) value := by
  have magnitude := units_nearestRank value 1
  have parity : nearestRank value 1 % 2 = roundHalfEven value (2 ^ shiftOf value 1) % 2 := by
    rw [nearestRank_eq, Nat.one_mul, binadeSize_eq]
    omega
  have lower : shiftOf value 1 ≠ 0 → binadeSize * 2 ^ shiftOf value 1 ≤ value / 1 :=
    le_div_of_shiftOf
  rw [Nat.one_mul] at magnitude
  rw [Nat.div_one] at lower
  generalize shiftOf value 1 = shift at *
  have onGrid := roundHalfEven_nearest (show 0 < 2 ^ shift by positivity) value
  rw [← magnitude] at onGrid
  have cases : ∀ other, (∃ multiple, units other = multiple * 2 ^ shift) ∨
      Nat.dist (units (nearestRank value 1)) value < Nat.dist (units other) value := by
    intro other
    refine (exists_multiple_or_lt other shift).imp id ?_
    rintro ⟨shifted, below⟩
    have lowest := (onGrid binadeSize).1
    have atLeast := lower shifted
    unfold Nat.dist at *
    omega
  constructor
  · intro other
    rcases cases other with ⟨multiple, isMultiple⟩ | farther
    · rw [isMultiple]
      exact (onGrid multiple).1
    · exact farther.le
  · intro other different equal
    rcases cases other with ⟨multiple, isMultiple⟩ | farther
    · rw [parity]
      rw [isMultiple] at equal
      apply (onGrid multiple).2 _ equal
      rintro rfl
      exact different (units_strictMono.injective (isMultiple.trans magnitude.symm))
    · omega

theorem lt_nearestRank_iff :
    other < nearestRank value 1 ↔
      twiceMidpoint other < 2 * value ∨ twiceMidpoint other = 2 * value ∧ other % 2 = 1 :=
  (nearestTo_nearestRank value).lt_iff

/-- From a magnitude up to the midpoint behind it, all is rounded down to it. -/
theorem nearestRank_of_lt_midpoint (atLeast : units rank ≤ value)
    (below : 2 * value < twiceMidpoint rank) : nearestRank value 1 = rank := by
  apply Nat.le_antisymm
  · rw [← not_lt, lt_nearestRank_iff]
    omega
  · have le := nearestRank_le_nearestRank atLeast
    rwa [nearestRank_units_one] at le

theorem roundHalfEven_mul_mul {factor : Nat} (positive : 0 < denominator) (somewhat : 0 < factor)
    (value : Nat) :
    roundHalfEven (value * factor) (denominator * factor) = roundHalfEven value denominator := by
  have product : 0 < denominator * factor := Nat.mul_pos positive somewhat
  have same : value * factor * denominator = value * (denominator * factor) := by ring
  exact Nat.le_antisymm (roundHalfEven_mono product positive same.le)
    (roundHalfEven_mono positive product same.ge)

/-- A magnitude so many binades above another one is that power of two times as large. -/
theorem units_add_mul_binadeSize (normal : binadeSize ≤ rank) (places : Nat) :
    units (rank + places * binadeSize) = units rank * 2 ^ places := by
  rcases exists_fits rank with ⟨shift, significand, rfl, fits, _⟩
  have higherFits : Fits (shift + places) significand := by
    refine ⟨.inr ?_, fits.upper⟩
    rcases fits.lower with rfl | inBinade
    · omega
    · exact inBinade
  have regroup : shift * binadeSize + significand + places * binadeSize =
      (shift + places) * binadeSize + significand := by ring
  rw [regroup, units_of_fits higherFits, units_of_fits fits, Nat.pow_add, Nat.mul_assoc]

theorem twiceMidpoint_add_mul_binadeSize (normal : binadeSize ≤ rank) (places : Nat) :
    twiceMidpoint (rank + places * binadeSize) = twiceMidpoint rank * 2 ^ places := by
  have next : rank + places * binadeSize + 1 = rank + 1 + places * binadeSize := by omega
  rw [twiceMidpoint, next, units_add_mul_binadeSize normal,
    units_add_mul_binadeSize (normal.trans (Nat.le_succ _)), twiceMidpoint, Nat.add_mul]

/-- Rounding a power of two times as much gives the rank so many binades above. -/
theorem nearestRank_mul_pow (normal : binadeSize ≤ value) (places : Nat) :
    nearestRank (value * 2 ^ places) 1 = nearestRank value 1 + places * binadeSize := by
  have power : 0 < 2 ^ places := by positivity
  have below := div_lt_of_shiftOf value 1
  have shifted : shiftOf (value * 2 ^ places) 1 = shiftOf value 1 + places := by
    apply shiftOf_eq
    · right
      rw [Nat.div_one, Nat.pow_add, ← Nat.mul_assoc]
      apply Nat.mul_le_mul_right
      by_cases unshifted : shiftOf value 1 = 0
      · simpa [unshifted] using normal
      · simpa using le_div_of_shiftOf unshifted
    · rw [Nat.div_one] at *
      rw [Nat.pow_add, ← Nat.mul_assoc]
      exact (Nat.mul_lt_mul_right power).mpr below
  rw [nearestRank_eq, nearestRank_eq, shifted, Nat.pow_add, ← Nat.mul_assoc,
    roundHalfEven_mul_mul (by positivity) power]
  ring

theorem le_nearestRank (atLeast : binadeSize * 2 ^ places ≤ value) :
    (places + 1) * binadeSize ≤ nearestRank value 1 := by
  have lowest : nearestRank binadeSize 1 = binadeSize := nearestRank_units_one binadeSize
  calc (places + 1) * binadeSize
      = nearestRank binadeSize 1 + places * binadeSize := by rw [lowest]; ring
    _ = nearestRank (binadeSize * 2 ^ places) 1 := (nearestRank_mul_pow le_rfl places).symm
    _ ≤ nearestRank value 1 := nearestRank_le_nearestRank atLeast

/-- The magnitudes of the higher binades are multiples of the spacing there. -/
theorem pow_dvd_units (atLeast : (places + 1) * binadeSize ≤ rank) : 2 ^ places ∣ units rank := by
  rcases exists_fits rank with ⟨shift, significand, rfl, fits, below⟩
  have binades : (places + 1) * binadeSize < (shift + 2) * binadeSize := by
    calc (places + 1) * binadeSize
        ≤ shift * binadeSize + significand := atLeast
      _ < shift * binadeSize + 2 * binadeSize := Nat.add_lt_add_left below _
      _ = (shift + 2) * binadeSize := by ring
  have shifts := Nat.lt_of_mul_lt_mul_right binades
  rw [units_of_fits fits]
  exact (Nat.pow_dvd_pow 2 (by omega)).mul_left significand

/-- In the higher binades twice a midpoint is a multiple of the spacing, too. -/
theorem pow_dvd_twiceMidpoint (atLeast : (places + 1) * binadeSize ≤ rank) :
    2 ^ places ∣ twiceMidpoint rank :=
  (pow_dvd_units atLeast).add (pow_dvd_units (atLeast.trans (Nat.le_succ _)))

/-- What is added to a power of two times a magnitude is lost if it is less than half the spacing
there. -/
theorem nearestRank_units_mul_add {width low : Nat} (atLeast : (places + 1) * binadeSize ≤ rank)
    (little : 2 * low < 2 ^ places * 2 ^ width) :
    nearestRank (units rank * 2 ^ width + low) 1 = rank + width * binadeSize := by
  have normal : binadeSize ≤ rank := by
    rw [Nat.succ_mul] at atLeast
    omega
  have step : 2 ^ places ≤ units (rank + 1) - units rank := by
    apply Nat.le_of_dvd (Nat.sub_pos_of_lt (units_strictMono rank.lt_succ_self))
    exact Nat.dvd_sub (pow_dvd_units (atLeast.trans (Nat.le_succ _))) (pow_dvd_units atLeast)
  apply nearestRank_of_lt_midpoint
  · rw [units_add_mul_binadeSize normal]
    exact Nat.le_add_right _ _
  · have spaced : 2 * units rank + 2 ^ places ≤ twiceMidpoint rank := by
      have power : 0 < 2 ^ places := by positivity
      unfold twiceMidpoint
      omega
    rw [twiceMidpoint_add_mul_binadeSize normal]
    calc 2 * (units rank * 2 ^ width + low)
        = 2 * units rank * 2 ^ width + 2 * low := by ring
      _ < 2 * units rank * 2 ^ width + 2 ^ places * 2 ^ width := Nat.add_lt_add_left little _
      _ = (2 * units rank + 2 ^ places) * 2 ^ width := (Nat.add_mul _ _ _).symm
      _ ≤ twiceMidpoint rank * 2 ^ width := Nat.mul_le_mul_right _ spaced

/-- What is added below the spacing of a coarse value makes no difference to its rank, unless the
value stands on a midpoint from which it would be rounded down. -/
theorem midpoint_of_nearestRank_ne (coarse : binadeSize * 2 ^ (places + 1) ≤ value)
    (multiple : 2 ^ places ∣ value) (atLeast : value ≤ other) (little : other < value + 2 ^ places)
    (different : nearestRank value 1 ≠ nearestRank other 1) :
    twiceMidpoint (nearestRank value 1) = 2 * value ∧ nearestRank value 1 % 2 = 0 ∧
      value < other := by
  have high := le_nearestRank coarse
  have greater : nearestRank value 1 < nearestRank other 1 :=
    lt_of_le_of_ne (nearestRank_le_nearestRank atLeast) different
  have passed := lt_nearestRank_iff.mp greater
  have notPassed := mt lt_nearestRank_iff.mpr (lt_irrefl (nearestRank value 1))
  generalize nearestRank value 1 = rank at *
  have spacing : 2 ^ (places + 1) ∣ twiceMidpoint rank - 2 * value := by
    apply Nat.dvd_sub (pow_dvd_twiceMidpoint high)
    rw [Nat.pow_succ']
    exact Nat.mul_dvd_mul_left 2 multiple
  have onMidpoint : twiceMidpoint rank - 2 * value = 0 := by
    apply Nat.eq_zero_of_dvd_of_lt spacing
    rw [Nat.pow_succ']
    omega
  omega

/-- The number is the one nearest to an integer: what is halfway between two numbers goes to the
even one, and what is out of range to the infinity. -/
def IsNearest (number : Number) (value : Nat) : Prop :=
  ∃ rank, NearestTo rank (value * unitsOfOne) ∧ number = ofRank false rank

theorem isNearest_ofRatio (value : Nat) : IsNearest (ofRatio false value 1) value :=
  ⟨_, nearestTo_nearestRank _, rfl⟩

theorem IsNearest.unique {number otherNumber : Number} (isNearest : IsNearest number value)
    (isOther : IsNearest otherNumber value) : number = otherNumber := by
  rcases isNearest with ⟨rank, nearest, rfl⟩
  rcases isOther with ⟨otherRank, otherNearest, rfl⟩
  rw [nearest.unique otherNearest]

end Number
end AccessAudit
