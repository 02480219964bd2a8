import AccessAudit.Proofs.Text.LetterCase
import AccessAudit.Property.Type

/-!
# Tokens and lists of tokens as property values

This file proves how the two types of tokens are related, and what counts in a list of tokens.

A list is accepted if it has a token and each of its tokens is accepted by itself. Which tokens a
text has does not depend on the blanks around and between them, and whether all of them are accepted
depends neither on their order nor on how often they stand there. An allowed text that is one word
is also the list of this one token.
-/

namespace AccessAudit
namespace PropertyType

open Text

variable {texts names others : List String} {text left right : String}

theorem accepts_token_iff :
    accepts (.token texts) (.string text) = true ↔
      ∃ allowed ∈ texts, lower allowed = lower text := by
  simp [accepts, isAllowed, eqIgnoringCase_iff]

theorem accepts_token_lower (texts : List String) (text : String) :
    accepts (.token texts) (.string (lower text)) = accepts (.token texts) (.string text) := by
  rw [Bool.eq_iff_iff, accepts_token_iff, accepts_token_iff, lower_lower]

theorem exists_string_of_accepts_token {value : Value}
    (accepted : accepts (.token texts) value = true) : ∃ text, value = .string text := by
  cases value with
  | string text => exact ⟨text, rfl⟩
  | number _ => cases accepted
  | boolean _ => cases accepted
  | null => cases accepted
  | undefined => cases accepted

/-- What is accepted in place of a word is a word. -/
theorem isWord_of_accepts_token (areWords : ∀ allowed ∈ texts, IsWord allowed)
    (accepted : accepts (.token texts) (.string text) = true) : IsWord text := by
  rcases accepts_token_iff.mp accepted with ⟨allowed, member, agree⟩
  exact (areWords allowed member).of_eqIgnoringCase (eqIgnoringCase_iff.mpr agree)

/-- A list is accepted if it is not empty and each of its tokens is accepted by itself. -/
theorem accepts_tokenList_iff (texts : List String) (madeOf : MadeOf text names) :
    accepts (.tokenList texts) (.string text) = true ↔
      names ≠ [] ∧ ∀ name ∈ names, accepts (.token texts) (.string name) = true := by
  simp [accepts, madeOf.words_eq]

/-- A value that is accepted as a token is the list of this one token. -/
theorem accepts_tokenList_of_token {value : Value} (areWords : ∀ allowed ∈ texts, IsWord allowed)
    (accepted : accepts (.token texts) value = true) : accepts (.tokenList texts) value = true := by
  rcases exists_string_of_accepts_token accepted with ⟨text, rfl⟩
  have madeOf : MadeOf text [text] := .word (isWord_of_accepts_token areWords accepted)
  rw [accepts_tokenList_iff texts madeOf]
  simpa using accepted

theorem accepts_tokenList_append_gap {gap : String} (isGap : IsGap gap)
    (leftVisible : ∃ c ∈ left.toList, isBlank c = false)
    (rightVisible : ∃ c ∈ right.toList, isBlank c = false) :
    accepts (.tokenList texts) (.string (left ++ gap ++ right)) = true ↔
      accepts (.tokenList texts) (.string left) = true ∧
        accepts (.tokenList texts) (.string right) = true := by
  have leftWords : MadeOf left (words left) := madeOf_iff.mpr rfl
  have rightWords : MadeOf right (words right) := madeOf_iff.mpr rfl
  have allWords := madeOf_iff.mpr (words_append_gap isGap left right)
  rw [accepts_tokenList_iff texts allWords, accepts_tokenList_iff texts leftWords,
    accepts_tokenList_iff texts rightWords, List.forall_mem_append]
  simp [words_ne_nil leftVisible, words_ne_nil rightVisible]

/-- Neither the order of the tokens nor their number counts, nor do the blanks between them. -/
theorem accepts_tokenList_congr (isLeft : MadeOf left names) (isRight : MadeOf right others)
    (same : ∀ name, name ∈ names ↔ name ∈ others) :
    accepts (.tokenList texts) (.string left) = accepts (.tokenList texts) (.string right) := by
  have sameEmpty : names = [] ↔ others = [] := by
    simp only [List.eq_nil_iff_forall_not_mem, same]
  rw [Bool.eq_iff_iff, accepts_tokenList_iff texts isLeft, accepts_tokenList_iff texts isRight]
  simp only [ne_eq, sameEmpty, same]

theorem accepts_tokenList_lower (texts : List String) (text : String) :
    accepts (.tokenList texts) (.string (lower text)) =
      accepts (.tokenList texts) (.string text) := by
  have ownWords : MadeOf text (words text) := madeOf_iff.mpr rfl
  have smallWords := madeOf_iff.mpr (words_lower text)
  rw [Bool.eq_iff_iff, accepts_tokenList_iff texts smallWords, accepts_tokenList_iff texts ownWords]
  simp [accepts_token_lower]

/-- Where the allowed texts are words, each value that is accepted as a token is accepted as a list
of tokens; and two texts with blanks between them are accepted if and only if each of them is. It
makes no difference in what order, how often and in which case the tokens of a text stand there, nor
what blanks there are around and between them: it is accepted if and only if it has a token and each
of its tokens is accepted by itself. -/
theorem tokenList_accepts_token_by_token (areWords : ∀ allowed ∈ texts, IsWord allowed) :
    (∀ value, accepts (.token texts) value = true → accepts (.tokenList texts) value = true) ∧
    (∀ left gap right, (∃ c ∈ left.toList, isBlank c = false) → IsGap gap →
      (∃ c ∈ right.toList, isBlank c = false) →
      (accepts (.tokenList texts) (.string (left ++ gap ++ right)) = true ↔
        accepts (.tokenList texts) (.string left) = true ∧
          accepts (.tokenList texts) (.string right) = true)) ∧
    (∀ left right names others, MadeOf left names → MadeOf right others →
      (∀ name, name ∈ names ↔ name ∈ others) →
      accepts (.tokenList texts) (.string left) = accepts (.tokenList texts) (.string right)) ∧
    (∀ left right, eqIgnoringCase left right = true →
      accepts (.tokenList texts) (.string left) = accepts (.tokenList texts) (.string right)) ∧
    ∀ text names, MadeOf text names →
      (accepts (.tokenList texts) (.string text) = true ↔
        names ≠ [] ∧ ∀ name ∈ names, accepts (.token texts) (.string name) = true) := by
  refine ⟨?_, ?_, ?_, ?_, ?_⟩
  · intro value accepted
    exact accepts_tokenList_of_token areWords accepted
  · intro left gap right leftVisible isGap rightVisible
    exact accepts_tokenList_append_gap isGap leftVisible rightVisible
  · intro left right names others isLeft isRight same
    exact accepts_tokenList_congr isLeft isRight same
  · intro left right agree
    rw [← accepts_tokenList_lower, eqIgnoringCase_iff.mp agree, accepts_tokenList_lower]
  · intro text names madeOf
    exact accepts_tokenList_iff texts madeOf

/-- Two tokens of which one is in capitals, and the same two in the other order, one of them twice
and with a line break in front. -/
theorem tokenList_accepts_token_by_token_relevant :
    let texts := ["additions", "all", "removals", "text"]
    let one := "TEXT" ++ "\u2003 " ++ "additions"
    let other := "\n" ++ ("additions" ++ " " ++ ("additions" ++ " " ++ "TEXT"))
    (∀ allowed ∈ texts, IsWord allowed) ∧ accepts (.tokenList texts) (.string one) = true ∧
      accepts (.tokenList texts) (.string other) = true := by
  intro texts one other
  have areWords : ∀ allowed ∈ texts, IsWord allowed := by decide
  rcases tokenList_accepts_token_by_token areWords with ⟨single, parted, rearranged, _, _⟩
  have capitals : IsWord "TEXT" := by decide
  have small : IsWord "additions" := by decide
  have wideGap : IsGap "\u2003 " := ⟨by simp, by simp [isBlank]⟩
  have lineBreak : IsGap "\n" := ⟨by simp, by simp [isBlank]⟩
  have accepted : accepts (.tokenList texts) (.string one) = true := by
    apply (parted _ _ _ ⟨'T', by simp, rfl⟩ wideGap ⟨'a', by simp, rfl⟩).mpr
    exact ⟨single _ (by decide), single _ (by decide)⟩
  have isOne : MadeOf one ["TEXT", "additions"] := .next capitals wideGap (.word small)
  have isOther : MadeOf other ["additions", "additions", "TEXT"] :=
    .blanks lineBreak (.next small isGap_space (.next small isGap_space (.word capitals)))
  refine ⟨areWords, accepted, ?_⟩
  rw [← rearranged one other _ _ isOne isOther (by simp [or_comm]), accepted]

end PropertyType
end AccessAudit
