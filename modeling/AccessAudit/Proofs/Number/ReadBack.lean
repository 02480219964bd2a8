import AccessAudit.Proofs.Number.Integer
import AccessAudit.Proofs.Number.Text

/-!
# What a text keeps of a number

This file proves for which finite numbers the text that a number is coerced to is read as that
number again, and which numbers have the same text.

A text is either that of an integer, which is read as the number nearest to the integer, or a
decimal that was chosen because it reads back. Integers of less than 22 digits take the first way
and are clamped to a 64-bit word before. The ones from the 63rd power of two on are therefore all
written alike, and what they are written as is read as that power. No other number is lost, but
for the sign of zero.
-/

namespace AccessAudit
namespace Number

open Numeral

variable {negative otherNegative : Bool} {rank otherRank : Fin rankBound} {magnitude : Nat}

/-- The number with the sign of a zero taken away. -/
def withoutZeroSign : Number → Number
  | .finite negative rank => .finite (negative && rank.val != 0) rank
  | other => other

/-- The magnitude is a whole one that is written as a 64-bit integer, although it is not below the
63rd power of two. -/
def Saturates (rank : Nat) : Prop :=
  ∃ magnitude, units rank = magnitude * unitsOfOne ∧ 2 ^ 63 ≤ magnitude ∧ magnitude < 10 ^ 21

theorem withoutZeroSign_of_ne_zero (nonzero : rank.val ≠ 0) :
    withoutZeroSign (.finite negative rank) = .finite negative rank := by
  rw [withoutZeroSign, bne_iff_ne.mpr nonzero, Bool.and_true]

theorem natAbs_signed (negative : Bool) (magnitude : Nat) :
    (signed negative magnitude).natAbs = magnitude := by
  cases negative <;> simp [signed]

theorem signed_neg_iff : signed negative magnitude < 0 ↔ negative = true ∧ magnitude ≠ 0 := by
  cases negative
  · simp [signed]
  · simp [signed]
    omega

theorem eq_of_signed_eq (nonzero : magnitude ≠ 0)
    (same : signed negative magnitude = signed otherNegative magnitude) :
    negative = otherNegative := by
  have left : signed negative magnitude < 0 ↔ negative = true := by
    simp [signed_neg_iff, nonzero]
  have right : signed otherNegative magnitude < 0 ↔ otherNegative = true := by
    simp [signed_neg_iff, nonzero]
  rw [Bool.eq_iff_iff, ← left, ← right, same]

/-- The text of an integer is read as the number nearest to it. -/
theorem ofText_toString (value : Int) : ofText (toString value) = ofInt value := by
  rw [(spells_toString value).ofText_eq, rank_integer]
  rfl

theorem ofInt_signed (whole : units rank = magnitude * unitsOfOne) :
    ofInt (signed negative magnitude) = withoutZeroSign (.finite negative rank) := by
  have zero_iff : magnitude = 0 ↔ rank.val = 0 := by
    constructor
    · rintro rfl
      by_contra nonzero
      apply Decimal.units_ne_zero nonzero
      rw [whole, Nat.zero_mul]
    · intro zero
      rw [zero, units_zero] at whole
      exact (Nat.mul_eq_zero.mp whole.symm).resolve_right unitsOfOne_pos.ne'
  have sign : decide (signed negative magnitude < 0) = (negative && rank.val != 0) := by
    rw [Bool.eq_iff_iff]
    simp [signed_neg_iff, zero_iff]
  have sameRank : nearestRank (magnitude * unitsOfOne) 1 = rank := by
    rw [← whole, nearestRank_units_one]
  rw [ofInt, ofRatio, ofUnits, natAbs_signed, sameRank, sign, ofRank, dif_pos rank.isLt]
  rfl

theorem clampWord_of_lt (small : magnitude < 2 ^ 63) :
    clampWord (signed negative magnitude) = signed negative magnitude := by
  have size := natAbs_signed negative magnitude
  unfold clampWord
  omega

/-- The end of the 64-bit words on the side of a sign. -/
def wordEnd (negative : Bool) : Int :=
  if negative then -2 ^ 63 else 2 ^ 63 - 1

theorem clampWord_of_le (large : 2 ^ 63 ≤ magnitude) :
    clampWord (signed negative magnitude) = wordEnd negative := by
  cases negative <;> simp [signed, wordEnd, clampWord] <;> omega

/-- The number nearest to an end of the words is a power of two, on either side. -/
theorem ofInt_wordEnd (negative : Bool) :
    ofInt (wordEnd negative) = ofInt (signed negative (2 ^ 63)) := by
  cases negative <;> decide +kernel

theorem isExactly_ofInt_wordEnd (negative : Bool) :
    IsExactly (ofInt (wordEnd negative)) (signed negative (2 ^ 63)) := by
  refine ⟨⟨0x43e0000000000000, by decide⟩, ?_, ?_⟩
  · cases negative <;> decide +kernel
  · rw [natAbs_signed]
    decide +kernel

theorem ofInt_wordEnd_eq_iff :
    ofInt (wordEnd negative) = withoutZeroSign (.finite otherNegative rank) ↔
      negative = otherNegative ∧ units rank = 2 ^ 63 * unitsOfOne := by
  constructor
  · intro same
    rcases isExactly_ofInt_wordEnd negative with ⟨_, isEnd, whole⟩
    rw [same, withoutZeroSign, finite.injEq] at isEnd
    rcases isEnd with ⟨sign, rfl⟩
    rw [natAbs_signed] at whole
    have nonzero : rank.val ≠ 0 := by
      intro zero
      rw [zero, units_zero] at whole
      exact absurd whole (Nat.mul_pos (by positivity) unitsOfOne_pos).ne
    refine ⟨?_, whole⟩
    rw [bne_iff_ne.mpr nonzero, Bool.and_true] at sign
    rw [sign, Bool.eq_iff_iff]
    simp [signed_neg_iff]
  · rintro ⟨rfl, whole⟩
    rw [ofInt_wordEnd, ofInt_signed whole]

theorem ofText_ofFinite (negative : Bool) (rank : Fin rankBound) :
    ofText (String.ofList (Decimal.ofFinite textLayout negative rank)) =
      .finite negative rank := by
  rcases spells_ofFinite negative rank with ⟨decimal, spells, sameRank⟩
  rw [spells.ofText_eq, sameRank, ofRank, dif_pos rank.isLt]

theorem magnitude_unique {other : Nat} (left : units rank = magnitude * unitsOfOne)
    (right : units rank = other * unitsOfOne) : magnitude = other := by
  apply Nat.eq_of_mul_eq_mul_right unitsOfOne_pos
  rw [← left, right]

theorem text_of_saturates (saturates : Saturates rank) :
    text (.finite negative rank) = toString (wordEnd negative) := by
  rcases saturates with ⟨magnitude, whole, large, small⟩
  rcases text_cases negative rank with ⟨other, otherWhole, _, written⟩ | ⟨huge, _⟩
  · cases magnitude_unique whole otherWhole
    rw [written, clampWord_of_le large]
  · have := huge magnitude whole
    omega

theorem ofText_of_not_saturates (fits : ¬Saturates rank) :
    ofText (text (.finite negative rank)) = withoutZeroSign (.finite negative rank) := by
  rcases text_cases negative rank with ⟨magnitude, whole, small, written⟩ | ⟨huge, written⟩
  · have inWord : magnitude < 2 ^ 63 := by
      by_contra large
      exact fits ⟨magnitude, whole, not_lt.mp large, small⟩
    rw [written, ofText_toString, clampWord_of_lt inWord, ofInt_signed whole]
  · have nonzero : rank.val ≠ 0 := by
      intro zero
      have := huge 0 (by rw [zero, units_zero, Nat.zero_mul])
      omega
    rw [written, ofText_ofFinite, withoutZeroSign_of_ne_zero nonzero]

theorem ofText_of_saturates (saturates : Saturates rank) :
    ofText (text (.finite negative rank)) = ofInt (wordEnd negative) := by
  rw [text_of_saturates saturates, ofText_toString]

theorem saturates_of_text_eq (saturates : Saturates rank)
    (same : text (.finite negative rank) = text (.finite otherNegative otherRank)) :
    Saturates otherRank := by
  by_contra fits
  have read : ofText (text (.finite negative rank)) = ofInt (wordEnd negative) :=
    ofText_of_saturates saturates
  rw [same, ofText_of_not_saturates fits] at read
  rcases ofInt_wordEnd_eq_iff.mp read.symm with ⟨_, whole⟩
  exact fits ⟨2 ^ 63, whole, le_rfl, by decide⟩

theorem text_withoutZeroSign (negative : Bool) (rank : Fin rankBound) :
    text (withoutZeroSign (.finite negative rank)) = text (.finite negative rank) := by
  by_cases zero : rank = ⟨0, by decide⟩
  · subst zero
    cases negative <;> decide +kernel
  · have nonzero : rank.val ≠ 0 := fun value => zero (Fin.ext value)
    rw [withoutZeroSign_of_ne_zero nonzero]

/-- A finite number is read back from its text, zero without its sign, unless it saturates at more
than the 63rd power of two: what saturates is read as that power, of the same sign. Two finite
numbers have the same text if they are the same but for the sign of zero, or if both saturate and
have the same sign, and in no other case. -/
theorem text_reads_back_unless_saturated (negative otherNegative : Bool)
    (rank otherRank : Fin rankBound) :
    (Value.toNumber (.string (Value.text (.number (.finite negative rank)))) =
        withoutZeroSign (.finite negative rank) ↔
      (Saturates rank → units rank = 2 ^ 63 * unitsOfOne)) ∧
    (Saturates rank →
      IsExactly (Value.toNumber (.string (Value.text (.number (.finite negative rank)))))
        (signed negative (2 ^ 63))) ∧
    (Value.text (.number (.finite negative rank)) =
        Value.text (.number (.finite otherNegative otherRank)) ↔
      withoutZeroSign (.finite negative rank) = withoutZeroSign (.finite otherNegative otherRank) ∨
        negative = otherNegative ∧ Saturates rank ∧ Saturates otherRank) := by
  simp only [Value.text, Value.toNumber]
  refine ⟨?_, ?_, ?_⟩
  · by_cases saturates : Saturates rank
    · simp [saturates, ofText_of_saturates, ofInt_wordEnd_eq_iff]
    · simp [saturates, ofText_of_not_saturates]
  · intro saturates
    rw [ofText_of_saturates saturates]
    exact isExactly_ofInt_wordEnd negative
  · constructor
    · intro same
      by_cases saturates : Saturates rank
      · have otherSaturates := saturates_of_text_eq saturates same
        have read := congrArg ofText same
        rw [ofText_of_saturates saturates, ofText_of_saturates otherSaturates] at read
        have isEnd := isExactly_ofInt_wordEnd negative
        rw [read] at isEnd
        have sameEnd := isEnd.unique (isExactly_ofInt_wordEnd otherNegative)
        exact .inr ⟨eq_of_signed_eq (by positivity) sameEnd, saturates, otherSaturates⟩
      · have otherFits : ¬Saturates otherRank := fun otherSaturates =>
          saturates (saturates_of_text_eq otherSaturates same.symm)
        left
        rw [← ofText_of_not_saturates saturates, same, ofText_of_not_saturates otherFits]
    · rintro (same | ⟨rfl, saturates, otherSaturates⟩)
      · rw [← text_withoutZeroSign, same, text_withoutZeroSign]
      · rw [text_of_saturates saturates, text_of_saturates otherSaturates]

/-- The least number there is, below zero. -/
theorem text_reads_back_least :
    Value.toNumber (.string (Value.text (.number (.finite true ⟨1, by decide⟩)))) =
      .finite true ⟨1, by decide⟩ := by
  have readsBack := text_reads_back_unless_saturated true true ⟨1, by decide⟩ ⟨1, by decide⟩
  refine readsBack.1.mpr ?_
  rintro ⟨magnitude, whole, large, _⟩
  change units 1 = magnitude * unitsOfOne at whole
  have tiny : units 1 < unitsOfOne := by
    decide +kernel
  have atLeast : 1 * unitsOfOne ≤ magnitude * unitsOfOne :=
    Nat.mul_le_mul_right _ (by omega)
  omega

/-- The 64th power of two is not read back, and it has the text of the 65th. -/
theorem text_same_for_powers :
    let power : Number := .finite false ⟨0x43f0000000000000, by decide⟩
    let doubled : Number := .finite false ⟨0x4400000000000000, by decide⟩
    Value.toNumber (.string (Value.text (.number power))) ≠ power ∧
      Value.text (.number power) = Value.text (.number doubled) := by
  decide +kernel

end Number
end AccessAudit
