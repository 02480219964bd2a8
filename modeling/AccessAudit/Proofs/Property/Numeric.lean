import AccessAudit.Proofs.Number.Text
import AccessAudit.Property.Type

/-!
# Integers and numbers as property values

This file proves how the two numeric types of property values are related, and that a number and
its text are accepted alike.

The type of integers looks at the shape of a text, the one of numbers at the number that it is read
as. For a signed mantissa both come down to the mantissa: it has no point, or it is rounded to a
finite number. An integer that is too large for that is of the first type and not of the second one.
-/

namespace AccessAudit

theorem Number.isFinite_ofRank {negative : Bool} {rank : Nat} :
    (Number.ofRank negative rank).isFinite = true ↔ rank < Number.rankBound := by
  unfold Number.ofRank
  split <;> simp_all [Number.isFinite]

namespace PropertyType

open Numeral

variable {text : String} {value : Value} {chars sign mantissa digits : List Char} {negative : Bool}
  {decimal : Decimal} {magnitude : Nat}

theorem isIntegerNumeral_iff : isIntegerNumeral chars = true ↔ IsDigits (splitSign chars).2 := by
  simp [isIntegerNumeral, IsDigits]

theorem accepts_integer_of_spells (spells : Spells text negative mantissa decimal) :
    accepts .integer (.string text) = true ↔ ∀ c ∈ mantissa, c.isDigit = true := by
  rcases spells with ⟨isMantissa, ⟨sign, isSign, trims⟩, _⟩
  have split := splitSign_mantissa isSign isMantissa []
  rw [List.append_nil] at split
  rw [accepts, trims.trimmed_eq, isIntegerNumeral_iff, split]
  exact and_iff_right isMantissa.ne_nil

theorem accepts_number_of_spells (spells : Spells text negative mantissa decimal) :
    accepts .number (.string text) = true ↔ decimal.rank < Number.rankBound := by
  have nonempty : (Text.trimmed text.toList).isEmpty = false := by
    rcases spells with ⟨isMantissa, ⟨sign, _, trims⟩, _⟩
    rw [trims.trimmed_eq, List.isEmpty_eq_false_iff]
    exact List.append_ne_nil_of_right_ne_nil sign isMantissa.ne_nil
  rw [accepts, nonempty, spells.ofText_eq, Bool.not_false, Bool.true_and, Number.isFinite_ofRank]

theorem accepts_integer_finite (negative : Bool) (rank : Fin Number.rankBound) :
    accepts .integer (.number (.finite negative rank)) = Number.isWhole rank := by
  rw [accepts, Number.isInteger]

theorem accepts_number_finite (negative : Bool) (rank : Fin Number.rankBound) :
    accepts .number (.number (.finite negative rank)) = true := by
  rw [accepts, Number.isFinite]

/-- A number is accepted as an integer, and as a number, if and only if its text is. -/
theorem accepts_text_eq (number : Number) :
    accepts .integer (.string (Value.number number).text) = accepts .integer (.number number) ∧
      accepts .number (.string (Value.number number).text) = accepts .number (.number number) := by
  cases number with
  | nan => exact ⟨by decide +kernel, by decide +kernel⟩
  | infinite negative =>
      cases negative
      · exact ⟨by decide +kernel, by decide +kernel⟩
      · exact ⟨by decide +kernel, by decide +kernel⟩
  | finite negative rank =>
      rcases Number.exists_spells_text negative rank with
        ⟨otherNegative, mantissa, decimal, spells, bounded, digitsOnly⟩
      rw [Value.text]
      constructor
      · rw [accepts_integer_finite, Bool.eq_iff_iff, accepts_integer_of_spells spells, digitsOnly]
      · rw [accepts_number_finite, accepts_number_of_spells spells]
        exact bounded

/-- The text is the digits of a natural number behind a sign, where there is one, with blanks
around. -/
def SpellsInteger (text : String) (magnitude : Nat) : Prop :=
  ∃ negative sign digits, IsSign negative sign ∧ IsDigits digits ∧
    Text.Trims text.toList (sign ++ digits) ∧ Nat.ofDigitChars 10 digits 0 = magnitude

theorem SpellsInteger.exists_spells (spelled : SpellsInteger text magnitude) :
    ∃ negative digits, IsDigits digits ∧ Spells text negative digits ⟨magnitude, 0⟩ := by
  rcases spelled with ⟨negative, sign, digits, isSign, isDigits, trims, rfl⟩
  exact ⟨negative, digits, isDigits, .whole isDigits, ⟨sign, isSign, trims⟩,
    decimal?_digits isDigits⟩

theorem SpellsInteger.accepts_integer (spelled : SpellsInteger text magnitude) :
    accepts .integer (.string text) = true := by
  rcases spelled.exists_spells with ⟨_, _, isDigits, spells⟩
  exact (accepts_integer_of_spells spells).mpr isDigits.2

theorem SpellsInteger.accepts_number_iff (spelled : SpellsInteger text magnitude) :
    accepts .number (.string text) = true ↔ magnitude < Number.overflowBound := by
  rcases spelled.exists_spells with ⟨_, _, _, spells⟩
  rw [accepts_number_of_spells spells, Number.rank_integer, Number.nearestRank_lt_rankBound_iff]

theorem exists_spellsInteger (accepted : accepts .integer (.string text) = true) :
    ∃ magnitude, SpellsInteger text magnitude := by
  rw [accepts, isIntegerNumeral_iff] at accepted
  rcases split : splitSign (Text.trimmed text.toList) with ⟨negative, digits⟩
  rcases exists_sign_of_splitSign split with ⟨sign, isSign, whole⟩
  have trims := Text.trims_trimmed text.toList
  rw [whole] at trims
  rw [split] at accepted
  exact ⟨_, negative, sign, digits, isSign, accepted, trims, rfl⟩

theorem accepts_integer_cases (accepted : accepts .integer value = true) :
    (∃ negative rank, value = .number (.finite negative rank)) ∨
      ∃ text magnitude, value = .string text ∧ SpellsInteger text magnitude := by
  cases value with
  | string text =>
      rcases exists_spellsInteger accepted with ⟨magnitude, spelled⟩
      exact .inr ⟨text, magnitude, rfl, spelled⟩
  | number number =>
      cases number with
      | nan => cases accepted
      | infinite _ => cases accepted
      | finite negative rank => exact .inl ⟨negative, rank, rfl⟩
  | boolean _ => cases accepted
  | null => cases accepted
  | undefined => cases accepted

/-- A value that is accepted as an integer is accepted as a number too, unless it is a text that
spells an integer which is too large to be rounded to a finite number. -/
theorem accepts_number_unless_overflow (accepted : accepts .integer value = true) :
    accepts .number value = true ↔
      ∀ text magnitude, value = .string text → SpellsInteger text magnitude →
        magnitude < Number.overflowBound := by
  rcases accepts_integer_cases accepted with ⟨negative, rank, rfl⟩ | ⟨text, magnitude, rfl, spelled⟩
  · refine iff_of_true (accepts_number_finite negative rank) ?_
    rintro _ _ ⟨⟩
  · constructor
    · rintro isNumber _ otherMagnitude ⟨⟩ otherSpelled
      exact otherSpelled.accepts_number_iff.mp isNumber
    · intro bounded
      exact spelled.accepts_number_iff.mpr (bounded text magnitude rfl spelled)

theorem SpellsInteger.unique {other : Nat} (spelled : SpellsInteger text magnitude)
    (otherSpelled : SpellsInteger text other) : magnitude = other := by
  rcases spelled with ⟨_, sign, digits, isSign, isDigits, trims, rfl⟩
  rcases otherSpelled with ⟨_, otherSign, otherDigits, isOtherSign, isOtherDigits, otherTrims, rfl⟩
  have split := splitSign_mantissa isSign (.whole isDigits) []
  have otherSplit := splitSign_mantissa isOtherSign (.whole isOtherDigits) []
  rw [List.append_nil, ← trims.trimmed_eq, otherTrims.trimmed_eq] at split
  rw [List.append_nil, split] at otherSplit
  rw [(Prod.mk.inj otherSplit).2]

theorem spellsInteger_padded : SpellsInteger " -0042 " 42 := by
  refine ⟨true, ['-'], ['0', '0', '4', '2'], .minus, ⟨by simp, by simp⟩, ?_, rfl⟩
  refine ⟨⟨[' '], [' '], by simp, ?_, ?_⟩, ?_, ?_⟩ <;> simp [Text.isBlank]

theorem accepts_number_unless_overflow_padded :
    accepts .integer (.string " -0042 ") = true ∧ accepts .number (.string " -0042 ") = true := by
  have accepted := spellsInteger_padded.accepts_integer
  refine ⟨accepted, (accepts_number_unless_overflow accepted).mpr ?_⟩
  rintro _ magnitude ⟨⟩ spelled
  rw [spelled.unique spellsInteger_padded]
  decide +kernel

/-- A power of ten, written out. -/
def powerOfTen (exponent : Nat) : String :=
  String.ofList ('1' :: Decimal.zeros exponent)

theorem spellsInteger_powerOfTen (exponent : Nat) :
    SpellsInteger (powerOfTen exponent) (10 ^ exponent) := by
  have isDigits : IsDigits ('1' :: Decimal.zeros exponent) := by
    refine ⟨by simp, ?_⟩
    intro c member
    rcases List.mem_cons.mp member with rfl | inZeros
    · rfl
    · exact isDigit_of_mem_zeros inZeros
  refine ⟨false, [], _, .none, isDigits, ?_, ?_⟩
  · rw [powerOfTen, String.toList_ofList]
    exact trims_signed .none (.whole isDigits)
  · rw [Nat.ofDigitChars_cons, Decimal.zeros, Nat.ofDigitChars_replicate_zero]
    exact Nat.mul_one _

/-- The least power of ten that overflows is accepted as an integer and not as a number. -/
theorem accepts_integer_not_number :
    accepts .integer (.string (powerOfTen 309)) = true ∧
      accepts .number (.string (powerOfTen 309)) = false := by
  have spelled := spellsInteger_powerOfTen 309
  refine ⟨spelled.accepts_integer, ?_⟩
  rw [← Bool.not_eq_true, spelled.accepts_number_iff]
  decide +kernel

end PropertyType
end AccessAudit
