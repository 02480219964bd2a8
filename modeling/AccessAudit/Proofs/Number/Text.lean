import AccessAudit.Proofs.Number.Decimal
import AccessAudit.Proofs.Number.Grammar

/-!
# The texts of numbers

This file proves what the text of a finite number looks like, and which number it is read as.

Such a text is a sign, where there is one, and a mantissa without an exponent (`Spells`). The
mantissa has a point if and only if the number has a fraction. Reading the text of a decimal gives
a decimal of the same value, so the text of a finite number is read as a finite number.
-/

namespace AccessAudit

namespace Numeral

open Number

variable {chars sign mantissa digits : List Char} {negative : Bool} {decimal : Decimal}

theorem decimalValue_eq (digits : List Char) : decimalValue digits = Nat.ofDigitChars 10 digits 0 :=
  rfl

theorem decimalValue_toDigits (value : Nat) : decimalValue (Nat.toDigits 10 value) = value :=
  Nat.ofDigitChars_ten_toDigits

theorem decimalValue_append_zeros (digits : List Char) (count : Nat) :
    decimalValue (digits ++ Decimal.zeros count) = decimalValue digits * 10 ^ count := by
  rw [decimalValue_eq, Nat.ofDigitChars_append, Decimal.zeros, Nat.ofDigitChars_replicate_zero,
    Nat.mul_comm, decimalValue_eq]

theorem decimalValue_zeros_append (digits : List Char) (count : Nat) :
    decimalValue (Decimal.zeros count ++ digits) = decimalValue digits := by
  rw [decimalValue_eq, Nat.ofDigitChars_append, Decimal.zeros, Nat.ofDigitChars_replicate_zero,
    Nat.mul_zero, decimalValue_eq]

theorem isDigits_toDigits (value : Nat) : IsDigits (Nat.toDigits 10 value) :=
  ⟨Nat.toDigits_ne_nil, fun _ => Nat.isDigit_of_mem_toDigits (by decide) (by decide)⟩

theorem isDigit_of_mem_zeros {c : Char} {count : Nat} (member : c ∈ Decimal.zeros count) :
    c.isDigit = true := by
  rw [List.eq_of_mem_replicate member]
  rfl

theorem isBlank_of_isDigit {c : Char} (digit : c.isDigit = true) : Text.isBlank c = false := by
  have code : c.val.toNat = c.toNat := rfl
  apply Text.isBlank_of_visible
  simp [Char.isDigit, UInt32.le_iff_toNat_le] at digit
  omega

theorem isBlank_of_mem_sign (isSign : IsSign negative sign) {c : Char} (member : c ∈ sign) :
    Text.isBlank c = false := by
  cases isSign with
  | none => cases member
  | plus => rw [List.mem_singleton.mp member]; rfl
  | minus => rw [List.mem_singleton.mp member]; rfl

theorem trims_signed (isSign : IsSign negative sign) (isMantissa : IsMantissa mantissa) :
    Text.Trims (sign ++ mantissa) (sign ++ mantissa) := by
  apply Text.trims_of_solid
  intro c member
  rcases List.mem_append.mp member with inSign | inMantissa
  · exact isBlank_of_mem_sign isSign inSign
  · rcases isMantissa.mem_cases inMantissa with rfl | digit
    · rfl
    · exact isBlank_of_isDigit digit

/-- What is left of a text without the blanks around it is a signed mantissa for a decimal. -/
structure Spells (text : String) (negative : Bool) (mantissa : List Char) (decimal : Decimal) :
    Prop where
  isMantissa : IsMantissa mantissa
  written : ∃ sign, IsSign negative sign ∧ Text.Trims text.toList (sign ++ mantissa)
  read : decimal? mantissa = some decimal

theorem decimal?_digits (isDigits : IsDigits digits) :
    decimal? digits = some ⟨decimalValue digits, 0⟩ := by
  simpa [exponent?] using decimal?_whole isDigits .none

/-- The text is read as the number nearest to the decimal. -/
theorem Spells.ofText_eq {text : String} (spells : Spells text negative mantissa decimal) :
    ofText text = ofRank negative decimal.rank := by
  rcases spells with ⟨isMantissa, ⟨sign, isSign, trims⟩, read⟩
  have numeral := read?_decimal isSign isMantissa .none
  rw [List.append_nil, read] at numeral
  rw [ofText, trims.trimmed_eq, numeral]
  exact Decimal.toNumber_eq negative decimal

theorem render_of_whole (whole : 0 ≤ decimal.exponent) :
    Decimal.render textLayout decimal =
      Nat.toDigits 10 decimal.coefficient ++ Decimal.zeros decimal.exponent.toNat := by
  simp [Decimal.render, textLayout, whole]

theorem render_of_fraction (fractional : ¬0 ≤ decimal.exponent) :
    ∃ whole fraction, Decimal.render textLayout decimal = whole ++ '.' :: fraction ∧
      IsDigits whole ∧ (∀ c ∈ fraction, c.isDigit = true) ∧
      decimalValue (whole ++ fraction) = decimal.coefficient ∧
      -(fraction.length : Int) = decimal.exponent := by
  have isDigits := isDigits_toDigits decimal.coefficient
  have value := decimalValue_toDigits decimal.coefficient
  simp only [Decimal.render, textLayout, if_true, fractional, if_false]
  generalize Nat.toDigits 10 decimal.coefficient = digits at isDigits value
  split
  · rename_i inside
    refine ⟨_, _, rfl, ⟨?_, ?_⟩, ?_, ?_, ?_⟩
    · rw [← List.length_pos_iff, List.length_take]
      omega
    · exact fun c member => isDigits.2 c (List.mem_of_mem_take member)
    · exact fun c member => isDigits.2 c (List.mem_of_mem_drop member)
    · rw [List.take_append_drop, value]
    · rw [List.length_drop]
      omega
  · generalize gap_eq : -((digits.length : Int) + decimal.exponent) = gap
    refine ⟨['0'], Decimal.zeros gap.toNat ++ digits, rfl, ⟨by simp, by simp⟩, ?_, ?_, ?_⟩
    · intro c member
      rcases List.mem_append.mp member with inZeros | inDigits
      · exact isDigit_of_mem_zeros inZeros
      · exact isDigits.2 c inDigits
    · rw [← value, ← List.append_assoc]
      exact decimalValue_zeros_append digits (_ + 1)
    · rw [List.length_append, Decimal.zeros, List.length_replicate]
      omega

/-- The text of a decimal is a mantissa that is read as a decimal of the same value. It has a point
if and only if the decimal has a fraction. -/
theorem exists_decimal?_render (decimal : Decimal) :
    IsMantissa (Decimal.render textLayout decimal) ∧
      (∃ read, decimal? (Decimal.render textLayout decimal) = some read ∧
        read.rank = decimal.rank) ∧
      ((∀ c ∈ Decimal.render textLayout decimal, c.isDigit = true) ↔ 0 ≤ decimal.exponent) := by
  by_cases whole : 0 ≤ decimal.exponent
  · have isDigits : IsDigits (Decimal.render textLayout decimal) := by
      rw [render_of_whole whole]
      refine ⟨by simp, ?_⟩
      intro c member
      rcases List.mem_append.mp member with inDigits | inZeros
      · exact (isDigits_toDigits _).2 c inDigits
      · exact isDigit_of_mem_zeros inZeros
    refine ⟨.whole isDigits, ⟨_, decimal?_digits isDigits, ?_⟩, iff_of_true isDigits.2 whole⟩
    have noDivisor : (-decimal.exponent).toNat = 0 := by omega
    rw [render_of_whole whole, decimalValue_append_zeros, decimalValue_toDigits]
    simp [Decimal.rank, noDivisor]
  · rcases render_of_fraction whole with ⟨before, fraction, written, isDigits, fractionDigits,
      value, length⟩
    have read := decimal?_point isDigits.2 fractionDigits (.inl isDigits.1) .none
    rw [written]
    refine ⟨.point isDigits fractionDigits, ⟨decimal, ?_, rfl⟩, iff_of_false ?_ whole⟩
    · simpa [exponent?, value, length] using read
    · intro allDigits
      exact absurd (allDigits '.' (by simp)) (by decide)

end Numeral

namespace Number

open Numeral

variable {negative : Bool}

theorem isSign_minus (negative : Bool) : IsSign negative (if negative then ['-'] else []) := by
  cases negative
  · exact .none
  · exact .minus

theorem toList_toString (value : Int) :
    ∃ sign, IsSign (decide (value < 0)) sign ∧
      (toString value).toList = sign ++ Nat.toDigits 10 value.natAbs := by
  cases value with
  | ofNat value => exact ⟨[], by simpa using .none, Nat.toList_repr⟩
  | negSucc value =>
      refine ⟨['-'], by simpa using .minus, ?_⟩
      rw [Int.toString_eq_repr, Int.repr, String.toList_append, Nat.toList_repr]
      rfl

theorem natAbs_clampWord_lt (value : Int) : (clampWord value).natAbs < overflowBound := by
  have bound : 0x8000000000000000 < overflowBound := by
    decide +kernel
  have clamped : (clampWord value).natAbs ≤ 0x8000000000000000 := by
    unfold clampWord
    omega
  omega

theorem rank_integer (value : Nat) :
    Decimal.rank ⟨value, 0⟩ = nearestRank (value * unitsOfOne) 1 := by
  simp [Decimal.rank]

theorem spells_toString (value : Int) :
    Spells (toString value) (decide (value < 0)) (Nat.toDigits 10 value.natAbs)
      ⟨value.natAbs, 0⟩ := by
  rcases toList_toString value with ⟨sign, isSign, written⟩
  have isDigits := isDigits_toDigits value.natAbs
  have read := decimal?_digits isDigits
  rw [decimalValue_toDigits] at read
  refine ⟨.whole isDigits, ⟨sign, isSign, ?_⟩, read⟩
  rw [written]
  exact trims_signed isSign (.whole isDigits)

theorem spells_ofFinite (negative : Bool) (rank : Nat) :
    ∃ decimal, Spells (String.ofList (Decimal.ofFinite textLayout negative rank)) negative
      (Decimal.render textLayout (Decimal.shortest textLayout.tie rank)) decimal ∧
      decimal.rank = rank := by
  have isSign := isSign_minus negative
  rcases exists_decimal?_render (Decimal.shortest textLayout.tie rank) with
    ⟨isMantissa, ⟨decimal, read, sameRank⟩, _⟩
  refine ⟨decimal, ⟨isMantissa, ⟨_, isSign, ?_⟩, read⟩, ?_⟩
  · rw [String.toList_ofList]
    exact trims_signed isSign isMantissa
  · rw [sameRank, Decimal.rank_shortest]

/-- The integer of a sign and a magnitude. -/
def signed (negative : Bool) (magnitude : Nat) : Int :=
  if negative then -magnitude else magnitude

/-- Whole numbers of a moderate size are written as integers, and all others as decimals. -/
theorem text_cases (negative : Bool) (rank : Fin rankBound) :
    (∃ magnitude, units rank = magnitude * unitsOfOne ∧ magnitude < 10 ^ 21 ∧
      text (.finite negative rank) = toString (clampWord (signed negative magnitude))) ∨
    ((∀ magnitude, units rank = magnitude * unitsOfOne → 10 ^ 21 ≤ magnitude) ∧
      text (.finite negative rank) =
        String.ofList (Decimal.ofFinite textLayout negative rank)) := by
  have bound : integerTextBound = 10 ^ 21 := by decide
  simp only [text]
  split
  · rename_i moderate
    left
    rw [Bool.and_eq_true, isWhole_iff, decide_eq_true_iff] at moderate
    rcases moderate with ⟨⟨magnitude, whole⟩, small⟩
    refine ⟨magnitude, whole, ?_, ?_⟩
    · rw [whole, bound] at small
      exact Nat.lt_of_mul_lt_mul_right small
    · rw [integerPart, whole, Nat.mul_div_cancel _ unitsOfOne_pos]
      rfl
  · rename_i notModerate
    right
    refine ⟨?_, rfl⟩
    intro magnitude whole
    by_contra small
    apply notModerate
    rw [Bool.and_eq_true, isWhole_iff, decide_eq_true_iff, whole, bound]
    exact ⟨⟨magnitude, rfl⟩, (Nat.mul_lt_mul_right unitsOfOne_pos).mpr (not_le.mp small)⟩

/-- The text of a finite number is a signed mantissa that is read as a finite number again, and it
has a point if and only if the number has a fraction. -/
theorem exists_spells_text (negative : Bool) (rank : Fin rankBound) :
    ∃ otherNegative mantissa decimal,
      Spells (Number.finite negative rank).text otherNegative mantissa decimal ∧
      decimal.rank < rankBound ∧
      ((∀ c ∈ mantissa, c.isDigit = true) ↔ isWhole rank = true) := by
  rcases text_cases negative rank with ⟨magnitude, whole, _, written⟩ | ⟨_, written⟩
  · rw [written]
    refine ⟨_, _, _, spells_toString _, ?_,
      iff_of_true (isDigits_toDigits _).2 (isWhole_iff.mpr ⟨magnitude, whole⟩)⟩
    rw [rank_integer, nearestRank_lt_rankBound_iff]
    exact natAbs_clampWord_lt _
  · rcases spells_ofFinite negative rank with ⟨decimal, spells, sameRank⟩
    rw [written]
    refine ⟨negative, _, decimal, spells, sameRank ▸ rank.isLt, ?_⟩
    rw [(exists_decimal?_render _).2.2, Decimal.exponent_shortest_nonneg_iff]

end Number
end AccessAudit
