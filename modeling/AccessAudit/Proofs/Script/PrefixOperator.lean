import AccessAudit.Proofs.Number.Complement
import AccessAudit.Script.Expression

/-!
# Stacks of prefix operators

Prefix operators are defined on all values, so an expression under a stack of them has a value
exactly if the expression has one, and this value is gathered from the innermost operator outwards
(`Expression.value?_withPrefixes`). The laws of such stacks are therefore laws of the operators on
values.

Whatever it is applied to, a negation gives a boolean and every other operator a number, so from the
second operator on nothing is coerced but these. Two signs then cancel each other, and so do two
negations. Two complements cancel because the 32-bit integers are numbers, and each of them is its
own 32-bit view.
-/

namespace AccessAudit

namespace Number

variable {number : Number} {value : Int}

@[simp]
theorem neg_neg (number : Number) : number.neg.neg = number := by
  cases number <;> simp [neg]

theorem integerPart_of_units {rank : Nat} (whole : units rank = value.natAbs * unitsOfOne) :
    integerPart (decide (value < 0)) rank = value := by
  have magnitude : units rank / unitsOfOne = value.natAbs := by
    rw [whole, Nat.mul_div_cancel _ unitsOfOne_pos]
  unfold integerPart
  rw [magnitude]
  by_cases below : value < 0
  · simp only [below, decide_true, ↓reduceIte]
    exact (Int.eq_neg_natAbs_of_nonpos below.le).symm
  · simp only [below, decide_false, Bool.false_eq_true, ↓reduceIte]
    exact Int.natAbs_of_nonneg (not_lt.mp below)

/-- A 32-bit integer is its own 32-bit view. -/
theorem IsExactly.complement (isExactly : IsExactly number value) (lower : -2 ^ 31 ≤ value)
    (upper : value < 2 ^ 31) : IsExactly number.complement (-value - 1) := by
  rcases isExactly with ⟨rank, rfl, whole⟩
  apply isExactly_complement
  rw [integerPart_of_units whole]
  refine ⟨lower, upper, ?_⟩
  unfold clampWord
  omega

theorem exists_isExactly_complement (number : Number) :
    ∃ value : Int, -2 ^ 31 ≤ value ∧ value < 2 ^ 31 ∧ IsExactly number.complement value := by
  cases number with
  | nan => exact ⟨-1, by decide, by decide, isExactly_ofInt (by decide)⟩
  | infinite negative => exact ⟨-1, by decide, by decide, isExactly_ofInt (by decide)⟩
  | finite negative rank =>
      have isView := isWordView_bmod (clampWord (integerPart negative rank))
      have isComplement := isExactly_complement isView
      rcases isView with ⟨lower, upper, _⟩
      exact ⟨_, by omega, by omega, isComplement⟩

/-- The first complement may drop a fraction or high bits; the ones after it drop nothing. -/
@[simp]
theorem complement_complement_complement (number : Number) :
    number.complement.complement.complement = number.complement := by
  rcases exists_isExactly_complement number with ⟨value, lower, upper, isValue⟩
  have twice : IsExactly number.complement.complement (-value - 1) :=
    isValue.complement lower upper
  have thrice : IsExactly number.complement.complement.complement value := by
    simpa using twice.complement (by omega) (by omega)
  rw [thrice.eq_ofInt, isValue.eq_ofInt]

end Number

@[simp]
theorem Value.toNumber_number (number : Number) : (Value.number number).toNumber = number :=
  rfl

@[simp]
theorem Value.isTruthy_boolean (truth : Bool) : (Value.boolean truth).isTruthy = truth :=
  rfl

/-- A stack of operators on a value, the outermost one first. -/
def PrefixOperator.applyAll (operators : List PrefixOperator) (value : Value) : Value :=
  operators.foldr PrefixOperator.apply value

namespace Expression

open PrefixOperator

/-- The value of a stack of operators, gathered from the innermost one outwards. -/
theorem value?_withPrefixes (operators : List PrefixOperator) (operand : Expression) :
    (operand.withPrefixes operators).value? = operand.value?.map (applyAll operators) := by
  induction operators with
  | nil => exact Option.map_id'.symm
  | cons operator operators ih =>
      have step : (operand.withPrefixes (operator :: operators)).value? =
          (operand.withPrefixes operators).value?.map operator.apply := rfl
      rw [step, ih, Option.map_map]
      rfl

theorem value?_withPrefixes_congr {left right : List PrefixOperator}
    (same : ∀ value, applyAll left value = applyAll right value) (operand : Expression) :
    (operand.withPrefixes left).value? = (operand.withPrefixes right).value? := by
  rw [value?_withPrefixes, value?_withPrefixes, funext same]

/-- An expression under prefix operators has a value exactly if the expression has one. A third
negation or complement undoes the second one, a plus sign before or behind another sign adds
nothing to it, and two minus signs are a plus sign. -/
theorem value?_under_prefixes (operand : Expression) :
    (∀ operators, (operand.withPrefixes operators).value?.isSome = operand.value?.isSome) ∧
    (operand.withPrefixes [.not, .not, .not]).value? = (operand.withPrefixes [.not]).value? ∧
    (operand.withPrefixes [.complement, .complement, .complement]).value? =
      (operand.withPrefixes [.complement]).value? ∧
    (operand.withPrefixes [.plus, .plus]).value? = (operand.withPrefixes [.plus]).value? ∧
    (operand.withPrefixes [.minus, .minus]).value? = (operand.withPrefixes [.plus]).value? ∧
    (operand.withPrefixes [.minus, .plus]).value? = (operand.withPrefixes [.minus]).value? ∧
    (operand.withPrefixes [.plus, .minus]).value? = (operand.withPrefixes [.minus]).value? := by
  refine ⟨?_, ?_, ?_, ?_, ?_, ?_, ?_⟩
  · intro operators
    rw [value?_withPrefixes, Option.isSome_map]
  · apply value?_withPrefixes_congr
    simp [applyAll, apply]
  · apply value?_withPrefixes_congr
    simp [applyAll, apply]
  · apply value?_withPrefixes_congr
    simp [applyAll, apply]
  · apply value?_withPrefixes_congr
    simp [applyAll, apply]
  · apply value?_withPrefixes_congr
    simp [applyAll, apply]
  · apply value?_withPrefixes_congr
    simp [applyAll, apply]

end Expression
end AccessAudit
