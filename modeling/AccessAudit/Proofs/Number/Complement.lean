import AccessAudit.Proofs.Number.Integer

/-!
# Bitwise complement

Scripts take the complement of the signed 32-bit integer that is congruent to the integer part of a
number. `Number.complement` clamps the integer part to a 64-bit word before it reduces it, and this
file proves for which numbers the two agree: for all integer parts that fit the word, and below the
word for the multiples of the 32nd power of two, since these are seen as zero either way. Above the
word there is no agreement at all, since numbers of that size are even and the word they are
clamped to is odd.
-/

namespace AccessAudit
namespace Number

variable {negative : Bool} {rank : Fin rankBound} {value view : Int}

/-- The view is the signed 32-bit integer that is congruent to the value. -/
structure IsWordView (value view : Int) : Prop where
  lower : -2 ^ 31 ≤ view
  upper : view < 2 ^ 31
  congruent : (2 : Int) ^ 32 ∣ value - view

theorem IsWordView.eq_bmod (isView : IsWordView value view) :
    view = Int.bmod value 0x100000000 := by
  rcases isView with ⟨lower, upper, congruent⟩
  rw [Int.bmod_def]
  omega

theorem isWordView_bmod (value : Int) : IsWordView value (Int.bmod value 0x100000000) := by
  constructor <;> rw [Int.bmod_def] <;> omega

theorem complement_finite (negative : Bool) (rank : Fin rankBound) :
    complement (.finite negative rank) =
      ofInt (-(Int.bmod (clampWord (integerPart negative rank)) 0x100000000) - 1) :=
  rfl

theorem isExactly_complement
    (isView : IsWordView (clampWord (integerPart negative rank)) view) :
    IsExactly (complement (.finite negative rank)) (-view - 1) := by
  rw [complement_finite, ← isView.eq_bmod]
  apply isExactly_ofInt
  have lower := isView.lower
  have upper := isView.upper
  omega

theorem natAbs_integerPart (negative : Bool) (rank : Nat) :
    (integerPart negative rank).natAbs = units rank / unitsOfOne := by
  unfold integerPart
  generalize units rank / unitsOfOne = whole
  cases negative <;> simp

theorem two_dvd_integerPart (large : 2 ^ 53 ≤ (integerPart negative rank).natAbs) :
    2 ∣ integerPart negative rank := by
  rw [natAbs_integerPart] at large
  have even := two_dvd_of_large large
  rw [← natAbs_integerPart negative] at even
  omega

/-- With `view` for the 32-bit view of the integer part, the complement is the integer `-view - 1`
exactly if the integer part lies below the 63rd power of two, and not below its negative unless it
is a multiple of the 32nd one. From the 63rd power of two on the complement is zero, and below its
negative it is minus one. -/
theorem complement_agrees_iff (negative : Bool) (rank : Fin rankBound) (view : Int)
    (isView : IsWordView (integerPart negative rank) view) :
    (IsExactly (complement (.finite negative rank)) (-view - 1) ↔
      integerPart negative rank < 2 ^ 63 ∧
        (-2 ^ 63 ≤ integerPart negative rank ∨ (2 : Int) ^ 32 ∣ integerPart negative rank)) ∧
    (2 ^ 63 ≤ integerPart negative rank → IsExactly (complement (.finite negative rank)) 0) ∧
    (integerPart negative rank < -2 ^ 63 →
      IsExactly (complement (.finite negative rank)) (-1)) := by
  have even : 2 ^ 63 ≤ integerPart negative rank → 2 ∣ integerPart negative rank := by
    intro large
    apply two_dvd_integerPart
    omega
  have isClampedView := isWordView_bmod (clampWord (integerPart negative rank))
  have isComplement := isExactly_complement isClampedView
  generalize Int.bmod (clampWord (integerPart negative rank)) 0x100000000 = clampedView at *
  generalize integerPart negative rank = value at *
  have agrees_iff : IsExactly (complement (.finite negative rank)) (-view - 1) ↔
      view = clampedView := by
    constructor
    · intro agrees
      have same := agrees.unique isComplement
      omega
    · rintro rfl
      exact isComplement
  rcases isView with ⟨lower, upper, congruent⟩
  rcases isClampedView with ⟨clampedLower, clampedUpper, clampedCongruent⟩
  unfold clampWord at clampedCongruent
  refine ⟨?_, ?_, ?_⟩
  · rw [agrees_iff]
    omega
  · intro above
    have allOnes : clampedView = -1 := by omega
    simpa [allOnes] using isComplement
  · intro below
    have allZeros : clampedView = 0 := by omega
    simpa [allZeros] using isComplement

theorem complement_agrees_iff_fraction :
    let rank : Fin rankBound := ⟨0x41e65a0bc0180000, by decide⟩
    IsWordView (integerPart true rank) 1294967296 ∧
      IsExactly (complement (.finite true rank)) (-1294967297) := by
  intro rank
  have part : integerPart true rank = -3000000000 := by
    decide +kernel
  have isView : IsWordView (integerPart true rank) 1294967296 := by
    rw [part]
    constructor <;> decide
  refine ⟨isView, (complement_agrees_iff true rank 1294967296 isView).1.mpr ?_⟩
  rw [part]
  decide

/-- The 63rd power of two is seen as zero, and yet its complement is not minus one. -/
theorem complement_disagrees_above_word :
    let rank : Fin rankBound := ⟨0x43e0000000000000, by decide⟩
    integerPart false rank = 2 ^ 63 ∧ IsWordView (integerPart false rank) 0 ∧
      ¬IsExactly (complement (.finite false rank)) (-1) := by
  intro rank
  have part : integerPart false rank = 2 ^ 63 := by
    decide +kernel
  have isView : IsWordView (integerPart false rank) 0 := by
    rw [part]
    constructor <;> decide
  have isClampedView : IsWordView (clampWord (integerPart false rank)) (-1) := by
    rw [part]
    constructor <;> decide
  refine ⟨part, isView, ?_⟩
  intro minusOne
  have same := minusOne.unique (isExactly_complement isClampedView)
  omega

end Number
end AccessAudit
