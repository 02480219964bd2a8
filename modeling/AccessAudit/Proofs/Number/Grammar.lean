import AccessAudit.Proofs.Text.LetterCase
import AccessAudit.Script.Value
import Mathlib.Data.List.Basic
import Mathlib.Data.List.TakeDrop
import Mathlib.Tactic.Tauto

/-!
# The grammar of numerals

This file gives the grammar of the texts that scripts read as numbers, and proves that these are
the texts `Numeral.read?` takes apart.

The reader cuts a text at the first character that is no digit, then at the point, and so on. The
grammar says instead which parts a numeral is put together from: a sign, a mantissa and an exponent.
For each part there is a lemma on what the reader makes of it in front of any rest that cannot
belong to it.

Decimals are read as floating-point texts of allowed characters. These keep the words of such texts
out, and let every decimal through (`Numeral.signed?_eq`).
-/

namespace AccessAudit
namespace Numeral

variable {chars rest sign body whole fraction mantissa tail : List Char} {negative : Bool}

/-- The sign in front of a numeral, where there may be none, and whether it is negative. -/
inductive IsSign : Bool → List Char → Prop where
  | none : IsSign false []
  | plus : IsSign false ['+']
  | minus : IsSign true ['-']

/-- Nothing but digits, and at least one. -/
def IsDigits (chars : List Char) : Prop :=
  chars ≠ [] ∧ ∀ c ∈ chars, c.isDigit = true

/-- Digits, with a point among or around them or without one. -/
inductive IsMantissa : List Char → Prop where
  | whole {digits : List Char} (isDigits : IsDigits digits) : IsMantissa digits
  | point {digits fraction : List Char} (isDigits : IsDigits digits)
      (fractionDigits : ∀ c ∈ fraction, c.isDigit = true) : IsMantissa (digits ++ '.' :: fraction)
  | fraction {digits : List Char} (isDigits : IsDigits digits) : IsMantissa ('.' :: digits)

/-- The exponent behind a mantissa, where there may be none. -/
inductive IsExponent : List Char → Prop where
  | none : IsExponent []
  | marked {mark : Char} {negative : Bool} {sign digits : List Char}
      (isMark : mark = 'e' ∨ mark = 'E') (isSign : IsSign negative sign)
      (isDigits : IsDigits digits) : IsExponent (mark :: (sign ++ digits))

/-- A base other than ten, with the letters that announce it and its digits. -/
structure Radix where
  letters : List Char
  base : Nat
  digits : List Char

/-- The bases a numeral can be written to. -/
def Radix.all : List Radix :=
  [⟨['x', 'X'], 16, "0123456789abcdefABCDEF".toList⟩,
    ⟨['o', 'O'], 8, "01234567".toList⟩,
    ⟨['b', 'B'], 2, "01".toList⟩]

/-- The grammar of numerals. -/
inductive IsNumeral : List Char → Prop where
  | empty : IsNumeral []
  | radix {radix : Radix} {letter : Char} {digits : List Char} (listed : radix ∈ Radix.all)
      (announced : letter ∈ radix.letters) (nonempty : digits ≠ [])
      (radixDigits : ∀ c ∈ digits, c ∈ radix.digits) : IsNumeral ('0' :: letter :: digits)
  | infinity {negative : Bool} {sign : List Char} (isSign : IsSign negative sign) :
      IsNumeral (sign ++ "Infinity".toList)
  | decimal {negative : Bool} {sign mantissa exponent : List Char}
      (isSign : IsSign negative sign) (isMantissa : IsMantissa mantissa)
      (isExponent : IsExponent exponent) : IsNumeral (sign ++ (mantissa ++ exponent))

theorem splitSign_append (isSign : IsSign negative sign)
    (unsigned : ∀ c ∈ body.head?, c ≠ '+' ∧ c ≠ '-') :
    splitSign (sign ++ body) = (negative, body) := by
  cases isSign with
  | plus => rfl
  | minus => rfl
  | none =>
      cases body with
      | nil => rfl
      | cons c rest =>
          have ⟨notPlus, notMinus⟩ := unsigned c rfl
          simp [splitSign, notPlus, notMinus]

theorem exists_sign_of_splitSign (split : splitSign chars = (negative, body)) :
    ∃ sign, IsSign negative sign ∧ chars = sign ++ body := by
  unfold splitSign at split
  split at split
  · cases split
    exact ⟨['+'], .plus, rfl⟩
  · cases split
    exact ⟨['-'], .minus, rfl⟩
  · cases split
    exact ⟨[], .none, rfl⟩

theorem ne_sign_of_isDigit {c : Char} (digit : c.isDigit = true) : c ≠ '+' ∧ c ≠ '-' := by
  constructor <;> (rintro rfl; cases digit)

theorem span_isDigit_append (digits : ∀ c ∈ chars, c.isDigit = true)
    (ends : ∀ c ∈ rest.head?, c.isDigit = false) :
    (chars ++ rest).span Char.isDigit = (chars, rest) := by
  rw [List.span_eq_takeWhile_dropWhile, List.takeWhile_append_of_pos digits,
    List.dropWhile_append_of_pos digits]
  cases rest with
  | nil => simp
  | cons c others => simp [ends c rfl]

theorem eq_append_of_span_isDigit (split : chars.span Char.isDigit = (whole, rest)) :
    chars = whole ++ rest ∧ ∀ c ∈ whole, c.isDigit = true := by
  rw [List.span_eq_takeWhile_dropWhile] at split
  cases split
  exact ⟨by simp, fun c => List.mem_takeWhile_imp⟩

theorem exponent?_marked_isSome_iff {mark : Char} {digits : List Char}
    (isMark : mark = 'e' ∨ mark = 'E') (split : splitSign rest = (negative, digits)) :
    (exponent? (mark :: rest)).isSome = true ↔ IsDigits digits := by
  have refused : (digits.isEmpty || !digits.all Char.isDigit) = true ↔ ¬IsDigits digits := by
    simp [IsDigits, imp_iff_not_or]
  simp only [exponent?, isMark, Bool.or_eq_true, decide_eq_true_eq, if_true, split] at refused ⊢
  split
  · rename_i empty
    exact iff_of_false (by simp) (refused.mp empty)
  · rename_i isDigits
    refine iff_of_true ?_ (not_not.mp (mt refused.mpr isDigits))
    cases negative <;> rfl

theorem exponent?_isSome_iff : (exponent? chars).isSome = true ↔ IsExponent chars := by
  constructor
  · intro accepted
    cases chars with
    | nil => exact .none
    | cons mark rest =>
        by_cases isMark : mark = 'e' ∨ mark = 'E'
        · rcases split : splitSign rest with ⟨negative, digits⟩
          have isDigits := (exponent?_marked_isSome_iff isMark split).mp accepted
          rcases exists_sign_of_splitSign split with ⟨sign, isSign, rfl⟩
          exact .marked isMark isSign isDigits
        · simp [exponent?, isMark] at accepted
  · intro isExponent
    cases isExponent with
    | none => rfl
    | marked isMark isSign isDigits =>
        refine (exponent?_marked_isSome_iff isMark (splitSign_append isSign ?_)).mpr isDigits
        intro c first
        exact ne_sign_of_isDigit (isDigits.2 c (List.mem_of_mem_head? first))

theorem IsExponent.head_ne (isExponent : IsExponent tail) :
    ∀ c ∈ tail.head?, c.isDigit = false ∧ c ≠ '.' := by
  cases isExponent with
  | none => simp
  | marked isMark _ _ => rcases isMark with rfl | rfl <;> simp

theorem decimal?_whole (isDigits : IsDigits whole) (isExponent : IsExponent tail) :
    decimal? (whole ++ tail) =
      (exponent? tail).map fun exponent => ⟨decimalValue whole, exponent⟩ := by
  have split := span_isDigit_append isDigits.2 fun c first => (isExponent.head_ne c first).1
  have noPoint : splitFraction tail = ([], tail) := by
    cases tail with
    | nil => rfl
    | cons c rest => simp [splitFraction, (isExponent.head_ne c rfl).2]
  simp only [decimal?, split, noPoint]
  simp [isDigits.1]

theorem decimal?_point (wholeDigits : ∀ c ∈ whole, c.isDigit = true)
    (fractionDigits : ∀ c ∈ fraction, c.isDigit = true) (someDigit : whole ≠ [] ∨ fraction ≠ [])
    (isExponent : IsExponent tail) :
    decimal? (whole ++ '.' :: (fraction ++ tail)) =
      (exponent? tail).map fun exponent =>
        ⟨decimalValue (whole ++ fraction), exponent - fraction.length⟩ := by
  have split : (whole ++ '.' :: (fraction ++ tail)).span Char.isDigit =
      (whole, '.' :: (fraction ++ tail)) := span_isDigit_append wholeDigits (by simp)
  have behindPoint : splitFraction ('.' :: (fraction ++ tail)) = (fraction, tail) :=
    span_isDigit_append fractionDigits fun c first => (isExponent.head_ne c first).1
  have notEmpty : ¬(whole = [] ∧ fraction = []) := by tauto
  simp only [decimal?, split, behindPoint]
  simp [notEmpty]

theorem IsMantissa.decimal?_isSome (isMantissa : IsMantissa mantissa)
    (isExponent : IsExponent tail) : (decimal? (mantissa ++ tail)).isSome = true := by
  have accepted := exponent?_isSome_iff.mpr isExponent
  cases isMantissa with
  | whole isDigits => simpa [decimal?_whole isDigits isExponent] using accepted
  | point isDigits fractionDigits =>
      simpa [decimal?_point isDigits.2 fractionDigits (.inl isDigits.1) isExponent] using accepted
  | @fraction digits isDigits =>
      have noWhole : ∀ c ∈ ([] : List Char), c.isDigit = true := by simp
      have read := decimal?_point noWhole isDigits.2 (.inr isDigits.1) isExponent
      rw [List.cons_append, ← List.nil_append ('.' :: (digits ++ tail)), read]
      simpa using accepted

theorem exists_of_decimal? (accepted : (decimal? chars).isSome = true) :
    ∃ mantissa exponent, IsMantissa mantissa ∧ IsExponent exponent ∧
      chars = mantissa ++ exponent := by
  rcases split : chars.span Char.isDigit with ⟨whole, rest⟩
  rcases behind : splitFraction rest with ⟨fraction, tail⟩
  rcases eq_append_of_span_isDigit split with ⟨rfl, wholeDigits⟩
  simp only [decimal?, split, behind] at accepted
  split at accepted
  · cases accepted
  · rename_i someDigit
    have isExponent : IsExponent tail := exponent?_isSome_iff.mp (by simpa using accepted)
    unfold splitFraction at behind
    split at behind
    · rename_i afterPoint
      rcases eq_append_of_span_isDigit behind with ⟨rfl, fractionDigits⟩
      by_cases noWhole : whole = []
      · subst noWhole
        have isDigits : IsDigits fraction := ⟨by simpa using someDigit, fractionDigits⟩
        exact ⟨_, tail, .fraction isDigits, isExponent, by simp⟩
      · exact ⟨_, tail, .point ⟨noWhole, wholeDigits⟩ fractionDigits, isExponent, by simp⟩
    · cases behind
      exact ⟨whole, _, .whole ⟨by simpa using someDigit, wholeDigits⟩, isExponent, rfl⟩

theorem IsMantissa.ne_nil (isMantissa : IsMantissa mantissa) : mantissa ≠ [] := by
  cases isMantissa with
  | whole isDigits => exact isDigits.1
  | point _ _ => simp
  | fraction _ => simp

theorem IsMantissa.mem_cases (isMantissa : IsMantissa mantissa) {c : Char} (member : c ∈ mantissa) :
    c = '.' ∨ c.isDigit = true := by
  cases isMantissa with
  | whole isDigits => exact .inr (isDigits.2 c member)
  | point isDigits fractionDigits =>
      rcases List.mem_append.mp member with inWhole | inRest
      · exact .inr (isDigits.2 c inWhole)
      · exact (List.mem_cons.mp inRest).imp id (fractionDigits c)
  | fraction isDigits => exact (List.mem_cons.mp member).imp id (isDigits.2 c)

theorem IsMantissa.head_cases (isMantissa : IsMantissa mantissa) (rest : List Char) :
    ∀ c ∈ (mantissa ++ rest).head?, c = '.' ∨ c.isDigit = true := by
  intro c first
  rw [List.head?_append_of_ne_nil _ isMantissa.ne_nil] at first
  exact isMantissa.mem_cases (List.mem_of_mem_head? first)

theorem splitSign_mantissa (isSign : IsSign negative sign)
    (isMantissa : IsMantissa mantissa) (tail : List Char) :
    splitSign (sign ++ (mantissa ++ tail)) = (negative, mantissa ++ tail) := by
  apply splitSign_append isSign
  intro c first
  rcases isMantissa.head_cases tail c first with rfl | digit
  · decide
  · exact ne_sign_of_isDigit digit

theorem isDecimalChar_of_isDigit {c : Char} (digit : c.isDigit = true) :
    isDecimalChar c = true := by
  simp [isDecimalChar, digit]

theorem IsSign.isDecimalChar (isSign : IsSign negative sign) :
    ∀ c ∈ sign, Numeral.isDecimalChar c = true := by
  cases isSign <;> simp [Numeral.isDecimalChar]

theorem IsExponent.isDecimalChar (isExponent : IsExponent tail) :
    ∀ c ∈ tail, Numeral.isDecimalChar c = true := by
  cases isExponent with
  | none => simp
  | marked isMark isSign isDigits =>
      rw [List.forall_mem_cons, List.forall_mem_append]
      refine ⟨?_, isSign.isDecimalChar, fun c member => ?_⟩
      · rcases isMark with rfl | rfl <;> decide
      · exact isDecimalChar_of_isDigit (isDigits.2 c member)

/-- Decimals are made of the characters they are allowed. -/
theorem isDecimalChar_of_decimal? (accepted : (decimal? chars).isSome = true) :
    ∀ c ∈ chars, isDecimalChar c = true := by
  rcases exists_of_decimal? accepted with ⟨mantissa, exponent, isMantissa, isExponent, rfl⟩
  rw [List.forall_mem_append]
  refine ⟨fun c member => ?_, isExponent.isDecimalChar⟩
  rcases isMantissa.mem_cases member with rfl | digit
  · decide
  · exact isDecimalChar_of_isDigit digit

theorem toLower_ne_n : ∀ c : Char, isDecimalChar c = true → c.toLower ≠ 'n' := by
  refine Text.forall_char (by decide +kernel) ?_
  rintro c small _ allowed isN
  rw [small] at isN
  subst isN
  cases allowed

/-- The words are not made of these characters, for each has an `n`. -/
theorem word?_eq_none (allowed : ∀ c ∈ chars, isDecimalChar c = true) (negative : Bool) :
    word? negative chars = none := by
  have noN : 'n' ∉ chars.map Char.toLower := by
    intro member
    rcases List.mem_map.mp member with ⟨c, listed, isN⟩
    exact toLower_ne_n c (allowed c listed) isN
  have notWord : ∀ word : List Char, 'n' ∈ word → chars.map Char.toLower ≠ word := by
    rintro word member rfl
    exact noN member
  simp [word?, notWord]

/-- The allowed characters keep the words out and let every decimal through, so that `Infinity` and
decimals are all that is read. -/
theorem signed?_eq (split : splitSign chars = (negative, body)) :
    signed? chars =
      if body = "Infinity".toList then some (.infinity negative)
      else (decimal? body).map (.decimal negative) := by
  rcases exists_sign_of_splitSign split with ⟨sign, isSign, rfl⟩
  simp only [signed?, float?, split]
  split
  · rfl
  · cases read : decimal? body with
    | none =>
        split
        · rfl
        · rename_i allowed
          have areAllowed : body ≠ [] ∧ (∀ c ∈ sign, isDecimalChar c = true) ∧
              ∀ c ∈ body, isDecimalChar c = true := by
            simpa using allowed
          exact word?_eq_none areAllowed.2.2 negative
    | some magnitude =>
        have isDecimal : (decimal? body).isSome = true := by simp [read]
        have allAllowed : (sign ++ body).all isDecimalChar = true :=
          List.all_eq_true.mpr (List.forall_mem_append.mpr
            ⟨isSign.isDecimalChar, isDecimalChar_of_decimal? isDecimal⟩)
        have nonempty : body ≠ [] := by
          rintro rfl
          cases read
        simp [nonempty, allAllowed]

theorem signed?_infinity (isSign : IsSign negative sign) :
    signed? (sign ++ "Infinity".toList) = some (.infinity negative) := by
  have split : splitSign (sign ++ "Infinity".toList) = (negative, "Infinity".toList) :=
    splitSign_append isSign (by simp)
  rw [signed?_eq split, if_pos rfl]

theorem signed?_decimal (isSign : IsSign negative sign)
    (isMantissa : IsMantissa mantissa) (tail : List Char) :
    signed? (sign ++ (mantissa ++ tail)) =
      (decimal? (mantissa ++ tail)).map (.decimal negative) := by
  have split := splitSign_mantissa isSign isMantissa tail
  have notInfinity : mantissa ++ tail ≠ "Infinity".toList := by
    intro isInfinity
    rcases isMantissa.head_cases tail 'I' (by simp [isInfinity]) with isPoint | digit
    · exact absurd isPoint (by decide)
    · exact absurd digit (by decide)
  rw [signed?_eq split, if_neg notInfinity]

theorem isNumeral_of_signed? (accepted : (signed? chars).isSome = true) : IsNumeral chars := by
  rcases split : splitSign chars with ⟨negative, body⟩
  rcases exists_sign_of_splitSign split with ⟨sign, isSign, rfl⟩
  rw [signed?_eq split] at accepted
  split at accepted
  · rename_i isInfinity
    rw [isInfinity]
    exact .infinity isSign
  · rcases exists_of_decimal? (by simpa using accepted) with
      ⟨mantissa, exponent, isMantissa, isExponent, rfl⟩
    exact .decimal isSign isMantissa isExponent

theorem base?_eq_some_iff {letter : Char} {base : Nat} :
    base? letter = some base ↔
      ∃ radix ∈ Radix.all, letter ∈ radix.letters ∧ radix.base = base := by
  unfold base?
  split <;> simp_all [Radix.all]

theorem digitValue?_eq_none {c : Char} (beyond : 128 ≤ c.toNat) : digitValue? c = none := by
  have code : c.toNat = c.val.toNat := rfl
  have notIn : ∀ last : Char, last.toNat < 128 → ¬c ≤ last := by
    intro last small
    have lastCode : last.toNat = last.val.toNat := rfl
    rw [Char.le_def, UInt32.le_iff_toNat_le]
    omega
  simp [digitValue?, notIn]

theorem digit?_isSome_iff {radix : Radix} (listed : radix ∈ Radix.all) (c : Char) :
    (digit? radix.base c).isSome = true ↔ c ∈ radix.digits := by
  by_cases ascii : c.toNat < 128
  · have table : ∀ radix ∈ Radix.all, ∀ code < 128,
        ((digit? radix.base (Char.ofNat code)).isSome = true ↔ Char.ofNat code ∈ radix.digits) := by
      decide +kernel
    simpa using table radix listed c.toNat ascii
  · have refused : digit? radix.base c = none := by
      simp [digit?, digitValue?_eq_none (Nat.le_of_not_lt ascii)]
    have asciiDigits : ∀ radix ∈ Radix.all, ∀ c ∈ radix.digits, c.toNat < 128 := by
      simp [Radix.all]
    exact iff_of_false (by simp [refused]) (mt (asciiDigits radix listed c) ascii)

theorem radixDigits?_isSome_iff {radix : Radix} (listed : radix ∈ Radix.all) :
    (radixDigits? radix.base chars).isSome = true ↔
      chars ≠ [] ∧ ∀ c ∈ chars, c ∈ radix.digits := by
  have each : ∀ chars : List Char, (chars.mapM (digit? radix.base)).isSome = true ↔
      ∀ c ∈ chars, c ∈ radix.digits := by
    intro chars
    induction chars with
    | nil => simp
    | cons c rest ih =>
        rw [List.forall_mem_cons, ← digit?_isSome_iff listed, ← ih]
        cases first : digit? radix.base c <;>
          cases others : rest.mapM (digit? radix.base) <;> simp [first, others]
  cases chars with
  | nil => simp [radixDigits?]
  | cons c rest => simpa [radixDigits?] using each (c :: rest)

theorem signed?_eq_none_of_base? {letter : Char} {base : Nat} (announced : base? letter = some base)
    (rest : List Char) : signed? ('0' :: letter :: rest) = none := by
  have notDigit : letter.isDigit = false ∧ letter ≠ '.' ∧ letter ≠ 'e' ∧ letter ≠ 'E' := by
    unfold base? at announced
    split at announced <;> simp_all
  have split : (['0'] ++ letter :: rest).span Char.isDigit = (['0'], letter :: rest) :=
    span_isDigit_append (by simp) (by simp [notDigit])
  rw [List.singleton_append] at split
  have notInfinity : '0' :: letter :: rest ≠ "Infinity".toList := by simp
  have noPoint : splitFraction (letter :: rest) = ([], letter :: rest) := by
    simp [splitFraction, notDigit]
  have refused : decimal? ('0' :: letter :: rest) = none := by
    simp only [decimal?, split, noPoint]
    simp [exponent?, notDigit]
  have unsigned : splitSign ('0' :: letter :: rest) = (false, '0' :: letter :: rest) := rfl
  rw [signed?_eq unsigned, if_neg notInfinity, refused]
  rfl

theorem read?_of_signed? (accepted : (signed? chars).isSome = true) :
    read? chars = signed? chars := by
  unfold read?
  split
  · cases accepted
  · split
    · rename_i announced
      rw [signed?_eq_none_of_base? announced] at accepted
      cases accepted
    · rfl
  · rfl

theorem read?_decimal (isSign : IsSign negative sign)
    (isMantissa : IsMantissa mantissa) (isExponent : IsExponent tail) :
    read? (sign ++ (mantissa ++ tail)) =
      (decimal? (mantissa ++ tail)).map (.decimal negative) := by
  have signed := signed?_decimal isSign isMantissa tail
  have accepted := isMantissa.decimal?_isSome isExponent
  rw [read?_of_signed? (by simpa [signed] using accepted), signed]

theorem read?_isSome_iff : (read? chars).isSome = true ↔ IsNumeral chars := by
  constructor
  · intro accepted
    unfold read? at accepted
    split at accepted
    · exact .empty
    · split at accepted
      · rename_i announced
        rcases base?_eq_some_iff.mp announced with ⟨radix, listed, isLetter, rfl⟩
        rw [Option.isSome_map, radixDigits?_isSome_iff listed] at accepted
        exact .radix listed isLetter accepted.1 accepted.2
      · exact isNumeral_of_signed? accepted
    · exact isNumeral_of_signed? accepted
  · intro isNumeral
    cases isNumeral with
    | empty => rfl
    | radix listed isLetter nonempty digits =>
        have announced := base?_eq_some_iff.mpr ⟨_, listed, isLetter, rfl⟩
        simp only [read?, announced, Option.isSome_map]
        exact (radixDigits?_isSome_iff listed).mpr ⟨nonempty, digits⟩
    | infinity isSign =>
        have signed := signed?_infinity isSign
        rw [read?_of_signed? (by rw [signed]; rfl), signed]
        rfl
    | decimal isSign isMantissa isExponent =>
        simpa [read?_decimal isSign isMantissa isExponent] using
          isMantissa.decimal?_isSome isExponent

end Numeral

theorem Number.ofRank_ne_nan (negative : Bool) (rank : Nat) : ofRank negative rank ≠ .nan := by
  unfold ofRank
  split <;> simp

theorem Decimal.toNumber_ne_nan (negative : Bool) (decimal : Decimal) :
    decimal.toNumber negative ≠ .nan := by
  simp only [toNumber]
  split
  · exact Number.ofRank_ne_nan _ _
  · split
    · simp
    · split <;> exact Number.ofRank_ne_nan _ _

namespace Numeral

variable {chars : List Char}

theorem appendDigit_ne_nan {base digit : Nat} {number : Number} (known : number ≠ .nan) :
    appendDigit base number digit ≠ .nan := by
  cases number with
  | nan => exact absurd rfl known
  | infinite => simp [appendDigit]
  | finite => exact Number.ofRank_ne_nan _ _

theorem foldl_appendDigit_ne_nan {base : Nat} {number : Number} (known : number ≠ .nan)
    (digits : List Nat) : digits.foldl (appendDigit base) number ≠ .nan := by
  induction digits generalizing number with
  | nil => exact known
  | cons digit digits ih => exact ih (appendDigit_ne_nan known)

theorem ne_nan_of_signed? {numeral : Numeral} (read : signed? chars = some numeral) :
    numeral ≠ .nan := by
  rcases split : splitSign chars with ⟨negative, body⟩
  rw [signed?_eq split] at read
  split at read
  · cases read
    simp
  · rcases Option.map_eq_some_iff.mp read with ⟨magnitude, _, rfl⟩
    simp

theorem ne_nan_of_read? {numeral : Numeral} (read : read? chars = some numeral) :
    numeral ≠ .nan := by
  unfold read? at read
  split at read
  · cases read
    simp
  · split at read
    · rcases Option.map_eq_some_iff.mp read with ⟨digits, _, rfl⟩
      simp
    · exact ne_nan_of_signed? read
  · exact ne_nan_of_signed? read

theorem value_ne_nan {numeral : Numeral} (isNumber : numeral ≠ .nan) : numeral.value ≠ .nan := by
  cases numeral with
  | empty => simp [value, Number.zero]
  | radix base digits => exact foldl_appendDigit_ne_nan (by simp [Number.zero]) digits
  | infinity negative => simp [value]
  | nan => exact absurd rfl isNumber
  | decimal negative magnitude => exact Decimal.toNumber_ne_nan negative magnitude

end Numeral

theorem Number.ofText_ne_nan_iff {text : String} :
    Number.ofText text ≠ .nan ↔ Numeral.IsNumeral (Text.trimmed text.toList) := by
  rw [← Numeral.read?_isSome_iff, Number.ofText]
  split
  · rename_i numeral read
    simp [read, Numeral.value_ne_nan (Numeral.ne_nan_of_read? read)]
  · rename_i refused
    simp [refused]

/-- A string is coerced to a number if and only if what is left of it without the blanks around it
is a numeral. -/
theorem Value.toNumber_string_ne_nan_iff (text : String) :
    (Value.string text).toNumber ≠ .nan ↔
      ∃ inner, Text.Trims text.toList inner ∧ Numeral.IsNumeral inner := by
  rw [Value.toNumber, Number.ofText_ne_nan_iff]
  constructor
  · intro isNumeral
    exact ⟨_, Text.trims_trimmed text.toList, isNumeral⟩
  · rintro ⟨inner, trims, isNumeral⟩
    rwa [trims.trimmed_eq]

end AccessAudit
