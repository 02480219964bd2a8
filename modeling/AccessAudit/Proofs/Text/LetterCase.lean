import AccessAudit.Proofs.Text.Words
import AccessAudit.Text.Ascii

/-!
# Comparing texts ignoring case

Texts that agree ignoring case are those with the same small letters, or, just as well, with the
same capitals. Roles are kept under their capitals, and this is why they are found ignoring case.

No letter is a blank, so texts that agree ignoring case also have the same words ignoring case.
-/

namespace AccessAudit
namespace Text

theorem toLower_of_le {c : Char} (beyond : 128 ≤ c.toNat) : c.toLower = c := by
  apply dif_neg
  have code : c.val.toNat = c.toNat := rfl
  simp only [ge_iff_le, UInt32.le_iff_toNat_le, Char.reduceVal, UInt32.reduceToNat]
  omega

theorem toUpper_of_le {c : Char} (beyond : 128 ≤ c.toNat) : c.toUpper = c := by
  apply dif_neg
  have code : c.val.toNat = c.toNat := rfl
  simp only [UInt32.le_iff_toNat_le, Char.reduceVal, UInt32.reduceToNat]
  omega

/-- What holds of the ASCII characters and of those without case holds of every character. -/
theorem forall_char {P : Char → Prop} (ascii : ∀ code < 128, P (Char.ofNat code))
    (caseless : ∀ c : Char, c.toLower = c → c.toUpper = c → P c) (c : Char) : P c := by
  by_cases isAscii : c.toNat < 128
  · simpa using ascii c.toNat isAscii
  · have beyond := Nat.le_of_not_lt isAscii
    exact caseless c (toLower_of_le beyond) (toUpper_of_le beyond)

@[simp]
theorem upper_upper (text : String) : upper (upper text) = upper text := by
  have law : ∀ c : Char, c.toUpper.toUpper = c.toUpper :=
    forall_char (by decide +kernel) (by simp +contextual)
  simp [upper, Function.comp_def, law]

@[simp]
theorem upper_lower (text : String) : upper (lower text) = upper text := by
  have law : ∀ c : Char, c.toLower.toUpper = c.toUpper :=
    forall_char (by decide +kernel) (by simp +contextual)
  simp [upper, lower, Function.comp_def, law]

@[simp]
theorem lower_upper (text : String) : lower (upper text) = lower text := by
  have law : ∀ c : Char, c.toUpper.toLower = c.toLower :=
    forall_char (by decide +kernel) (by simp +contextual)
  simp [upper, lower, Function.comp_def, law]

@[simp]
theorem lower_lower (text : String) : lower (lower text) = lower text := by
  have law : ∀ c : Char, c.toLower.toLower = c.toLower :=
    forall_char (by decide +kernel) (by simp +contextual)
  simp [lower, Function.comp_def, law]

@[simp]
theorem lower_append (left right : String) : lower (left ++ right) = lower left ++ lower right := by
  simp [lower]

theorem eqIgnoringCase_iff_upper {left right : String} :
    eqIgnoringCase left right = true ↔ upper left = upper right := by
  rw [eqIgnoringCase_iff]
  constructor
  · intro sameSmall
    rw [← upper_lower left, ← upper_lower right, sameSmall]
  · intro sameCapitals
    rw [← lower_upper left, ← lower_upper right, sameCapitals]

theorem lower_cases {left right : Option String} (agree : left.map lower = right.map lower) :
    (left = none ∧ right = none) ∨
      ∃ leftText rightText, left = some leftText ∧ right = some rightText ∧
        lower leftText = lower rightText := by
  cases left <;> cases right <;> simp_all

theorem isBlank_toLower (c : Char) : isBlank c.toLower = isBlank c :=
  forall_char (P := fun c => isBlank c.toLower = isBlank c) (by decide +kernel)
    (by simp +contextual) c

theorem wordChars_map_toLower (chars : List Char) :
    wordChars (chars.map Char.toLower) = (wordChars chars).map (List.map Char.toLower) := by
  induction chars with
  | nil => rfl
  | cons c rest ih =>
      by_cases blank : isBlank c = true
      · rw [List.map_cons, wordChars_of_blank _ (by rwa [isBlank_toLower]), ih,
          wordChars_of_blank _ blank]
      · have solid : ¬isBlank c.toLower = true := by rwa [isBlank_toLower]
        cases rest with
        | nil =>
            rw [List.map_singleton, wordChars_singleton solid, wordChars_singleton blank]
            rfl
        | cons next rest =>
            simp only [List.map_cons] at ih ⊢
            by_cases ends : isBlank next = true
            · rw [wordChars_of_ends _ solid (by rwa [isBlank_toLower]), ih,
                wordChars_of_ends _ blank ends]
              rfl
            · rcases exists_wordChars_eq_cons rest ends with ⟨word, others, later⟩
              rw [later, List.map_cons] at ih
              rw [wordChars_of_goesOn solid (by rwa [isBlank_toLower]) ih,
                wordChars_of_goesOn blank ends later]
              rfl

theorem words_lower (text : String) : words (lower text) = (words text).map lower := by
  simp [words, lower, wordChars_map_toLower, Function.comp_def]

/-- What is blind to the case of words is blind to the case of the text they stand in. -/
theorem words_congr {α : Type} (seen : List String → α)
    (blind : ∀ names, seen (names.map lower) = seen names) {left right : String}
    (agree : lower left = lower right) : seen (words left) = seen (words right) := by
  rw [← blind, ← words_lower, agree, words_lower, blind]

theorem isWord_lower {text : String} : IsWord (lower text) ↔ IsWord text := by
  have sameLength : lower text = "" ↔ text = "" := by
    rw [← String.toList_eq_nil_iff, ← String.toList_eq_nil_iff, toList_lower, List.map_eq_nil_iff]
  simp [IsWord, sameLength, isBlank_toLower]

theorem IsWord.of_eqIgnoringCase {left right : String} (isWord : IsWord left)
    (agree : eqIgnoringCase left right = true) : IsWord right := by
  rw [eqIgnoringCase_iff] at agree
  rwa [← isWord_lower, ← agree, isWord_lower]

end Text
end AccessAudit
