import AccessAudit.Proofs.Number.Nearest
import AccessAudit.Proofs.Number.ReadBack
import AccessAudit.Proofs.Text.LetterCase

/-!
# Integers to other bases

This file proves which number an integer is read as that is written out to the base 16, 8 or 2, and
when this is the number nearest to the integer, as which its decimal numeral is read.

The digits are gathered one by one, with rounding each time. Below the 53rd power of two nothing is
lost, and the digit by which it is reached still counts. From there on the numbers are spaced too
widely for one digit more: it is dropped, and going up by the base is exact. So what is read is the
number nearest to the leading digits with zeros behind them (`leadingPart`). The digits that are
dropped are missed only where the leading part is halfway between two numbers and is rounded down,
since they would have decided for the upper one (`LosesTie`).
-/

namespace AccessAudit
namespace Numeral

open Number

variable {base width value digit : Nat} {chars : List Char}

/-- How many digits of an integer stand behind its leading ones, which are as few as it takes to
reach the 53rd power of two. -/
def lateDigits (base value : Nat) : Nat :=
  Nat.log base (value / 2 ^ 53)

/-- The integer with zeros in place of its late digits. -/
def leadingPart (base value : Nat) : Nat :=
  value / base ^ lateDigits base value * base ^ lateDigits base value

theorem leadingPart_le (base value : Nat) : leadingPart base value ≤ value :=
  Nat.div_mul_le_self _ _

theorem lt_leadingPart_add (positive : 0 < base) (value : Nat) :
    value < leadingPart base value + base ^ lateDigits base value :=
  Nat.lt_div_mul_add (Nat.pow_pos positive)

theorem leadingPart_of_lt (small : value < 2 ^ 53 * base) : leadingPart base value = value := by
  have noLate : lateDigits base value = 0 := by
    apply Nat.log_of_lt
    exact Nat.div_lt_of_lt_mul small
  simp [leadingPart, noLate]

theorem le_leadingPart (positive : 0 < base) (large : 2 ^ 53 ≤ value) :
    2 ^ 53 * base ^ lateDigits base value ≤ leadingPart base value := by
  have nonzero : value / 2 ^ 53 ≠ 0 := (Nat.div_pos large (by decide)).ne'
  have power : base ^ lateDigits base value ≤ value / 2 ^ 53 := Nat.pow_log_le_self base nonzero
  have reached : base ^ lateDigits base value * 2 ^ 53 ≤ value :=
    (Nat.le_div_iff_mul_le (by decide)).mp power
  rw [Nat.mul_comm] at reached
  exact Nat.mul_le_mul_right _ ((Nat.le_div_iff_mul_le (Nat.pow_pos positive)).mpr reached)

/-- Behind leading digits that reach the power, one digit more is one late digit more. -/
theorem leadingPart_append (several : 1 < base) (large : 2 ^ 53 ≤ value) (isDigit : digit < base) :
    leadingPart base (value * base + digit) = leadingPart base value * base := by
  have front : (value * base + digit) / base = value := by
    rw [Nat.mul_comm, Nat.mul_add_div (by omega), Nat.div_eq_of_lt isDigit, Nat.add_zero]
  have reached : base ≤ (value * base + digit) / 2 ^ 53 := by
    rw [Nat.le_div_iff_mul_le (by decide), Nat.mul_comm]
    exact (Nat.mul_le_mul_right base large).trans (Nat.le_add_right _ _)
  have oneMore : lateDigits base (value * base + digit) = lateDigits base value + 1 := by
    rw [lateDigits, Nat.log_of_one_lt_of_le several reached, Nat.div_right_comm, front, lateDigits]
  rw [leadingPart, oneMore, Nat.pow_succ', ← Nat.div_div_eq_div_mul, front, leadingPart]
  ring

theorem two_mul_mul_pow_lt {places shift : Nat} (isDigit : digit < 2 ^ width)
    (coarse : places < shift) : 2 * (digit * 2 ^ places) < 2 ^ shift * 2 ^ width := by
  calc 2 * (digit * 2 ^ places)
      = digit * 2 ^ (places + 1) := by ring
    _ < 2 ^ width * 2 ^ (places + 1) := (Nat.mul_lt_mul_right (by positivity)).mpr isDigit
    _ ≤ 2 ^ width * 2 ^ shift :=
      Nat.mul_le_mul_left _ (Nat.pow_le_pow_right (by decide) coarse)
    _ = 2 ^ shift * 2 ^ width := Nat.mul_comm _ _

theorem appendDigit_finite (negative : Bool) (rank : Fin rankBound) :
    appendDigit base (.finite negative rank) digit =
      ofUnits negative (units rank * base + digit * unitsOfOne) 1 := rfl

theorem binadeSize_mul_pow (places : Nat) :
    binadeSize * 2 ^ (places + 1) = 2 ^ 53 * 2 ^ places := by
  rw [binadeSize_eq]
  ring

/-- Behind a number that is not below the 53rd power of two a digit is lost. -/
theorem appendDigit_of_coarse {units : Nat} (coarse : 2 ^ 53 * unitsOfOne ≤ units)
    (isDigit : digit < 2 ^ width) :
    appendDigit (2 ^ width) (ofUnits false units 1) digit =
      ofUnits false (units * 2 ^ width) 1 := by
  rw [unitsOfOne_eq, ← binadeSize_mul_pow] at coarse
  have high := le_nearestRank coarse
  have normal : binadeSize ≤ units := (Nat.le_mul_of_pos_right _ (by positivity)).trans coarse
  have raised := nearestRank_mul_pow normal width
  have little : 2 * (digit * unitsOfOne) < 2 ^ (1074 + 1) * 2 ^ width := by
    rw [unitsOfOne_eq]
    exact two_mul_mul_pow_lt isDigit (Nat.lt_succ_self _)
  rw [ofUnits, ofUnits, raised]
  generalize nearestRank units 1 = rank at high
  unfold ofRank
  split
  · rw [appendDigit_finite, ofUnits, nearestRank_units_mul_add high little, ofRank]
  · rw [dif_neg (by omega)]
    rfl

theorem ofInt_natCast (value : Nat) : ofInt value = ofRatio false value 1 := by
  have sign : decide ((value : Int) < 0) = false := by simp
  rw [ofInt, sign, Int.natAbs_natCast]

theorem exists_finite_of_small (small : value < 2 ^ 53) :
    ∃ rank : Fin rankBound, ofUnits false (value * unitsOfOne) 1 = .finite false rank ∧
      units rank = value * unitsOfOne := by
  have sign : decide ((value : Int) < 0) = false := by simp
  rcases isExactly_ofInt (show (value : Int).natAbs < 2 ^ 53 from small) with
    ⟨rank, isRank, whole⟩
  rw [ofInt_natCast, ofRatio, sign] at isRank
  rw [Int.natAbs_natCast] at whole
  exact ⟨rank, isRank, whole⟩

/-- One digit more: a number that is the nearest to the leading part of an integer stays so. -/
theorem appendDigit_leadingPart (someBits : 0 < width) (isDigit : digit < 2 ^ width)
    (value : Nat) :
    appendDigit (2 ^ width) (ofUnits false (leadingPart (2 ^ width) value * unitsOfOne) 1) digit =
      ofUnits false (leadingPart (2 ^ width) (value * 2 ^ width + digit) * unitsOfOne) 1 := by
  rcases Nat.lt_or_ge value (2 ^ 53) with small | large
  · have alone : value < 2 ^ 53 * 2 ^ width :=
      small.trans_le (Nat.le_mul_of_pos_right _ (by positivity))
    have extended : value * 2 ^ width + digit < 2 ^ 53 * 2 ^ width := by
      calc value * 2 ^ width + digit
          < value * 2 ^ width + 2 ^ width := Nat.add_lt_add_left isDigit _
        _ = (value + 1) * 2 ^ width := (Nat.succ_mul _ _).symm
        _ ≤ 2 ^ 53 * 2 ^ width := Nat.mul_le_mul_right _ small
    rcases exists_finite_of_small small with ⟨rank, isRank, whole⟩
    rw [leadingPart_of_lt alone, leadingPart_of_lt extended, isRank, appendDigit_finite, whole,
      Nat.add_mul, Nat.mul_right_comm]
  · have several : 1 < 2 ^ width := Nat.one_lt_two_pow someBits.ne'
    have reached : 2 ^ 53 ≤ leadingPart (2 ^ width) value :=
      (Nat.le_mul_of_pos_right _ (by positivity)).trans (le_leadingPart (by positivity) large)
    rw [appendDigit_of_coarse (Nat.mul_le_mul_right _ reached) isDigit,
      leadingPart_append several large isDigit, Nat.mul_right_comm]

/-- The integer that digits of a base spell, the most significant one first. -/
def digitsValue (base : Nat) (digits : List Nat) : Nat :=
  digits.foldl (fun value digit => value * base + digit) 0

theorem digitsValue_concat (base : Nat) (digits : List Nat) (digit : Nat) :
    digitsValue base (digits ++ [digit]) = digitsValue base digits * base + digit := by
  rw [digitsValue, List.foldl_append, digitsValue]
  rfl

theorem zero_eq (base : Nat) :
    Number.zero = ofUnits false (leadingPart base 0 * unitsOfOne) 1 := by
  have atZero : nearestRank 0 1 = 0 := nearestRank_units_one 0
  have nothing : leadingPart base 0 = 0 := by simp [leadingPart]
  rw [nothing, Nat.zero_mul, ofUnits, atZero]
  rfl

/-- All digits: gathering them one by one gives the number nearest to the leading part of the
integer that they spell. -/
theorem foldl_appendDigit (someBits : 0 < width) {digits : List Nat}
    (areDigits : ∀ digit ∈ digits, digit < 2 ^ width) :
    digits.foldl (appendDigit (2 ^ width)) Number.zero =
      ofUnits false (leadingPart (2 ^ width) (digitsValue (2 ^ width) digits) * unitsOfOne) 1 := by
  induction digits using List.reverseRecOn with
  | nil =>
      rw [List.foldl_nil]
      exact zero_eq (2 ^ width)
  | append_singleton digits digit ih =>
      have earlier := ih fun other member => areDigits other (by simp [member])
      rw [List.foldl_append, earlier, digitsValue_concat, List.foldl_cons, List.foldl_nil]
      exact appendDigit_leadingPart someBits (areDigits digit (by simp)) _

theorem digitValue?_toLower (c : Char) : digitValue? c.toLower = digitValue? c :=
  Text.forall_char (P := fun c => digitValue? c.toLower = digitValue? c) (by decide +kernel)
    (by simp +contextual) c

theorem digit?_toLower (base : Nat) (c : Char) : digit? base c.toLower = digit? base c := by
  rw [digit?, digitValue?_toLower, digit?]

theorem digit?_digitChar (known : base ≤ 16) (isDigit : digit < base) :
    digit? base (Nat.digitChar digit) = some digit := by
  have table : ∀ digit < 16, digitValue? (Nat.digitChar digit) = some digit := by
    decide
  simp [digit?, table digit (by omega), isDigit]

/-- The characters are read as digits of a base, and the digits as this integer. -/
def ReadsAs (base : Nat) (chars : List Char) (value : Nat) : Prop :=
  ∃ digits, chars.mapM (digit? base) = some digits ∧ (∀ digit ∈ digits, digit < base) ∧
    digitsValue base digits = value

theorem ReadsAs.cons_zero (positive : 0 < base) (readsAs : ReadsAs base chars value) :
    ReadsAs base ('0' :: chars) value := by
  rcases readsAs with ⟨digits, read, areDigits, total⟩
  have zero : digit? base '0' = some 0 := by
    simp [digit?, digitValue?, positive]
  refine ⟨0 :: digits, ?_, by simpa [positive] using areDigits, ?_⟩
  · simp [List.mapM_cons, zero, read]
  · simpa [digitsValue] using total

theorem ReadsAs.zeros_append (positive : 0 < base) (readsAs : ReadsAs base chars value)
    (count : Nat) : ReadsAs base (Decimal.zeros count ++ chars) value := by
  induction count with
  | zero => exact readsAs
  | succ count ih => exact ih.cons_zero positive

theorem readsAs_toDigits (several : 1 < base) (known : base ≤ 16) (value : Nat) :
    ReadsAs base (Nat.toDigits base value) value := by
  induction value using Nat.strongRecOn with
  | ind value ih =>
      rw [Nat.toDigits_eq_if several]
      split
      · rename_i isDigit
        refine ⟨[value], ?_, by simpa using isDigit, by simp [digitsValue]⟩
        simp [digit?_digitChar known isDigit]
      · rename_i large
        have isDigit : value % base < base := Nat.mod_lt _ (by omega)
        have shorter : value / base < value := Nat.div_lt_self (by omega) several
        rcases ih _ shorter with ⟨digits, read, areDigits, total⟩
        refine ⟨digits ++ [value % base], ?_, ?_, ?_⟩
        · simp [List.mapM_append, read, digit?_digitChar known isDigit]
        · simpa [or_imp, forall_and] using ⟨areDigits, isDigit⟩
        · rw [digitsValue_concat, total]
          exact Nat.div_add_mod' value base

theorem ReadsAs.of_map_toLower (readsAs : ReadsAs base (chars.map Char.toLower) value) :
    ReadsAs base chars value := by
  have blind : digit? base ∘ Char.toLower = digit? base := funext (digit?_toLower base)
  rcases readsAs with ⟨digits, read, rest⟩
  rw [List.mapM_map, blind] at read
  exact ⟨digits, read, rest⟩

/-- The text writes an integer out to a base: a zero, a letter that announces the base, any number
of zeros, and the digits of the integer, with letters in either case. -/
def Radix.Writes (radix : Radix) (value : Nat) (text : String) : Prop :=
  ∃ letter ∈ radix.letters, ∃ digits zeros, text.toList = '0' :: letter :: digits ∧
    digits.map Char.toLower = Decimal.zeros zeros ++ Nat.toDigits radix.base value

variable {radix : Radix} {text : String}

theorem Radix.exists_width (listed : radix ∈ Radix.all) :
    radix.base ≤ 16 ∧ ∃ width, 0 < width ∧ radix.base = 2 ^ width := by
  simp only [Radix.all, List.mem_cons, List.not_mem_nil, or_false] at listed
  rcases listed with rfl | rfl | rfl
  · exact ⟨le_rfl, 4, by decide, rfl⟩
  · exact ⟨by decide, 3, by decide, rfl⟩
  · exact ⟨by decide, 1, by decide, rfl⟩

theorem Radix.isBlank_of_mem (listed : radix ∈ Radix.all) {letter : Char}
    (announced : letter ∈ radix.letters) (radixDigits : ∀ c ∈ chars, c ∈ radix.digits) :
    ∀ c ∈ '0' :: letter :: chars, Text.isBlank c = false := by
  have table : ∀ radix ∈ Radix.all,
      ((radix.letters ++ radix.digits).all fun c => !Text.isBlank c) = true := by
    decide
  have solid : ∀ c ∈ radix.letters ++ radix.digits, Text.isBlank c = false := by
    simpa only [List.all_eq_true, Bool.not_eq_true'] using table radix listed
  intro c member
  rcases List.mem_cons.mp member with rfl | behindZero
  · rfl
  · rcases List.mem_cons.mp behindZero with rfl | inChars
    · exact solid c (List.mem_append_left _ announced)
    · exact solid c (List.mem_append_right _ (radixDigits c inChars))

/-- A written out integer is taken apart into digits that give it again. -/
theorem Radix.Writes.exists_read? (listed : radix ∈ Radix.all) (writes : radix.Writes value text) :
    ∃ digits, read? (Text.trimmed text.toList) = some (.radix radix.base digits) ∧
      (∀ digit ∈ digits, digit < radix.base) ∧ digitsValue radix.base digits = value := by
  rcases writes with ⟨letter, isLetter, chars, zeros, written, spelled⟩
  rcases Radix.exists_width listed with ⟨known, width, someBits, isPower⟩
  have several : 1 < radix.base := by
    rw [isPower]
    exact Nat.one_lt_two_pow someBits.ne'
  have readsAs : ReadsAs radix.base chars value := by
    apply ReadsAs.of_map_toLower
    rw [spelled]
    exact (readsAs_toDigits several known value).zeros_append (by omega) zeros
  rcases readsAs with ⟨digits, read, areDigits, total⟩
  have readDigits : radixDigits? radix.base chars = some digits := by
    cases chars with
    | nil => simp at spelled
    | cons c rest => exact read
  have accepted : (radixDigits? radix.base chars).isSome = true := by
    rw [readDigits]
    rfl
  have radixDigits := ((radixDigits?_isSome_iff listed).mp accepted).2
  have solid := Radix.isBlank_of_mem listed isLetter radixDigits
  have announced := base?_eq_some_iff.mpr ⟨radix, listed, isLetter, rfl⟩
  refine ⟨digits, ?_, areDigits, total⟩
  rw [written, (Text.trims_of_solid solid).trimmed_eq]
  simp only [read?, announced, readDigits, Option.map_some]

/-- A written out integer is read as the number nearest to its leading part. -/
theorem Radix.Writes.ofText_eq (listed : radix ∈ Radix.all) (writes : radix.Writes value text) :
    ofText text = ofRatio false (leadingPart radix.base value) 1 := by
  rcases writes.exists_read? listed with ⟨digits, read, areDigits, total⟩
  rcases Radix.exists_width listed with ⟨_, width, someBits, isPower⟩
  rw [isPower] at read areDigits total ⊢
  rw [ofText, read, ofRatio]
  change digits.foldl (appendDigit (2 ^ width)) Number.zero = _
  rw [foldl_appendDigit someBits areDigits, total]

theorem ofText_toString_nat (value : Nat) : ofText (toString value) = ofRatio false value 1 :=
  (ofText_toString value).trans (ofInt_natCast value)

/-- The leading part of an integer is halfway between two numbers, of which the lower one is even,
and the late digits are not all zeros. So the upper number is nearer to the integer, and the lower
one is taken for its leading part. -/
def LosesTie (base value : Nat) : Prop :=
  leadingPart base value < value ∧ ∃ rank < rankBound, rank % 2 = 0 ∧
    twiceMidpoint rank = 2 * (leadingPart base value * unitsOfOne)

theorem ofRank_eq_iff {negative : Bool} {rank other : Nat} :
    ofRank negative rank = ofRank negative other ↔
      rank = other ∨ rankBound ≤ rank ∧ rankBound ≤ other := by
  unfold ofRank
  split_ifs <;> simp <;> omega

theorem ofRatio_ne_of_losesTie (losesTie : LosesTie base value) :
    ofRatio false (leadingPart base value) 1 ≠ ofRatio false value 1 := by
  rcases losesTie with ⟨less, rank, bounded, even, onMidpoint⟩
  have fewer : leadingPart base value * unitsOfOne < value * unitsOfOne :=
    (Nat.mul_lt_mul_right unitsOfOne_pos).mpr less
  have lower : nearestRank (leadingPart base value * unitsOfOne) 1 ≤ rank := by
    rw [← not_lt, lt_nearestRank_iff]
    omega
  have upper : rank < nearestRank (value * unitsOfOne) 1 := by
    rw [lt_nearestRank_iff]
    omega
  rw [ofRatio, ofRatio, ofUnits, ofUnits, ne_eq, ofRank_eq_iff]
  omega

/-- In units, the leading part is a multiple of a power of two that the late digits do not reach and
that is at most half the spacing of the numbers there. -/
theorem exists_grain (width : Nat) (large : 2 ^ 53 ≤ value) :
    ∃ places, binadeSize * 2 ^ (places + 1) ≤ leadingPart (2 ^ width) value * unitsOfOne ∧
      2 ^ places ∣ leadingPart (2 ^ width) value * unitsOfOne ∧
      value * unitsOfOne < leadingPart (2 ^ width) value * unitsOfOne + 2 ^ places := by
  have positive : 0 < 2 ^ width := by positivity
  have grain : 2 ^ (width * lateDigits (2 ^ width) value + 1074) =
      (2 ^ width) ^ lateDigits (2 ^ width) value * unitsOfOne := by
    rw [unitsOfOne_eq, ← Nat.pow_mul, ← Nat.pow_add]
  refine ⟨width * lateDigits (2 ^ width) value + 1074, ?_, ?_, ?_⟩
  · rw [binadeSize_mul_pow, grain, ← Nat.mul_assoc]
    exact Nat.mul_le_mul_right _ (le_leadingPart positive large)
  · rw [grain]
    exact Nat.mul_dvd_mul_right (Nat.dvd_mul_left _ _) _
  · rw [grain, ← Nat.add_mul]
    exact (Nat.mul_lt_mul_right unitsOfOne_pos).mpr (lt_leadingPart_add positive value)

theorem losesTie_of_ofRatio_ne
    (different : ofRatio false (leadingPart (2 ^ width) value) 1 ≠ ofRatio false value 1) :
    LosesTie (2 ^ width) value := by
  have large : 2 ^ 53 ≤ value := by
    by_contra small
    apply different
    rw [leadingPart_of_lt ((not_le.mp small).trans_le (Nat.le_mul_of_pos_right _ (by positivity)))]
  rcases exists_grain width large with ⟨places, coarse, multiple, little⟩
  have atMost := Nat.mul_le_mul_right unitsOfOne (leadingPart_le (2 ^ width) value)
  have mono := nearestRank_le_nearestRank atMost
  rw [ofRatio, ofRatio, ofUnits, ofUnits, ne_eq, ofRank_eq_iff] at different
  rcases midpoint_of_nearestRank_ne coarse multiple atMost little (by omega) with
    ⟨onMidpoint, even, less⟩
  exact ⟨Nat.lt_of_mul_lt_mul_right less, _, by omega, even, onMidpoint⟩

theorem ofRatio_leadingPart_eq_iff (listed : radix ∈ Radix.all) (value : Nat) :
    ofRatio false (leadingPart radix.base value) 1 = ofRatio false value 1 ↔
      ¬LosesTie radix.base value := by
  rcases Radix.exists_width listed with ⟨_, width, _, isPower⟩
  rw [isPower]
  constructor
  · intro same losesTie
    exact ofRatio_ne_of_losesTie losesTie same
  · intro keeps
    by_contra different
    exact keeps (losesTie_of_ofRatio_ne different)

/-- The decimal numeral of an integer is read as the number nearest to it. An integer that is
written out to another base is read as the number nearest to its leading part. This is the same
number, and the one nearest to the integer itself, unless a tie is lost. -/
theorem radix_nearest_unless_tie_lost (listed : radix ∈ Radix.all)
    (writes : radix.Writes value text) :
    IsNearest (Value.toNumber (.string (toString value))) value ∧
      IsNearest (Value.toNumber (.string text)) (leadingPart radix.base value) ∧
      (Value.toNumber (.string text) = Value.toNumber (.string (toString value)) ↔
        ¬LosesTie radix.base value) ∧
      (IsNearest (Value.toNumber (.string text)) value ↔ ¬LosesTie radix.base value) := by
  have same_iff := ofRatio_leadingPart_eq_iff listed value
  simp only [Value.toNumber]
  rw [ofText_toString_nat, writes.ofText_eq listed]
  refine ⟨isNearest_ofRatio _, isNearest_ofRatio _, same_iff, ?_⟩
  rw [← same_iff]
  constructor
  · intro isNearest
    exact isNearest.unique (isNearest_ofRatio value)
  · intro same
    rw [same]
    exact isNearest_ofRatio value

theorem exists_hexadecimal :
    ∃ radix ∈ Radix.all, radix.base = 16 ∧ 'x' ∈ radix.letters ∧ 'X' ∈ radix.letters := by
  simp [Radix.all]

/-- An integer of 57 bits in letters of either case, behind two zeros. It has no late digit. -/
theorem radix_nearest_unless_tie_lost_rounded :
    ∃ radix ∈ Radix.all, radix.Writes (2 ^ 57 - 1) "0X001fFfFfFfFfFfFfF" ∧
      Value.toNumber (.string "0X001fFfFfFfFfFfFfF") =
        Value.toNumber (.string (toString (2 ^ 57 - 1))) := by
  rcases exists_hexadecimal with ⟨radix, listed, isSixteen, _, capital⟩
  have writes : radix.Writes (2 ^ 57 - 1) "0X001fFfFfFfFfFfFfF" := by
    refine ⟨'X', capital, "001fFfFfFfFfFfFfF".toList, 2, by decide, ?_⟩
    rw [isSixteen]
    decide
  refine ⟨radix, listed, writes, (radix_nearest_unless_tie_lost listed writes).2.2.1.mpr ?_⟩
  rintro ⟨less, _⟩
  rw [isSixteen, leadingPart_of_lt (by decide)] at less
  exact lt_irrefl _ less

/-- The last digit is a late one, and without it the integer is halfway between two numbers. -/
theorem radix_not_nearest_where_tie_lost :
    ∃ radix ∈ Radix.all, radix.Writes (2 ^ 57 + 17) "0x200000000000011" ∧
      Value.toNumber (.string "0x200000000000011") ≠
        Value.toNumber (.string (toString (2 ^ 57 + 17))) := by
  rcases exists_hexadecimal with ⟨radix, listed, isSixteen, small, _⟩
  refine ⟨radix, listed, ?_, by decide +kernel⟩
  refine ⟨'x', small, "200000000000011".toList, 0, by decide, ?_⟩
  rw [isSixteen]
  decide

end Numeral
end AccessAudit
