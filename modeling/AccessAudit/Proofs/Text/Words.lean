import AccessAudit.Text.Blank
import Mathlib.Data.List.TakeWhile

/-!
# Words and the blanks between them

The words of a text are the runs of characters between blanks. How many blanks there are between
two parts of a text, and which, makes no difference to its words. A text put together from words
with a space between them has these words again, and `MadeOf` says how any text is put together from
its words and from blanks.

Trimming a text leaves the part of it from its first character that is not blank to its last one.
-/

namespace AccessAudit
namespace Text

variable {c next : Char} {rest word : List Char} {others : List (List Char)}

theorem wordChars_of_blank (rest : List Char) (blank : isBlank c = true) :
    wordChars (c :: rest) = wordChars rest := by
  rw [wordChars.eq_def]
  exact if_pos blank

theorem wordChars_singleton (solid : ¬isBlank c = true) : wordChars [c] = [[c]] := by
  rw [wordChars.eq_def]
  exact if_neg solid

theorem wordChars_of_ends (rest : List Char) (solid : ¬isBlank c = true)
    (ends : isBlank next = true) :
    wordChars (c :: next :: rest) = [c] :: wordChars (next :: rest) := by
  rw [wordChars.eq_def]
  exact (if_neg solid).trans (if_pos ends)

theorem wordChars_of_goesOn (solid : ¬isBlank c = true) (goesOn : ¬isBlank next = true)
    (later : wordChars (next :: rest) = word :: others) :
    wordChars (c :: next :: rest) = (c :: word) :: others := by
  rw [wordChars.eq_def]
  refine (if_neg solid).trans ((if_neg goesOn).trans ?_)
  rw [later]

theorem exists_wordChars_eq_cons (rest : List Char) (solid : ¬isBlank c = true) :
    ∃ word others, wordChars (c :: rest) = word :: others := by
  induction rest generalizing c with
  | nil => exact ⟨[c], [], wordChars_singleton solid⟩
  | cons next rest ih =>
      by_cases ends : isBlank next = true
      · exact ⟨[c], _, wordChars_of_ends rest solid ends⟩
      · rcases ih ends with ⟨word, others, later⟩
        exact ⟨c :: word, others, wordChars_of_goesOn solid ends later⟩

/-- A stretch of blanks that keeps words apart. -/
structure IsGap (gap : String) : Prop where
  nonempty : gap.toList ≠ []
  blank : ∀ c ∈ gap.toList, isBlank c = true

theorem wordChars_append_cons (left right : List Char) (blank : isBlank c = true) :
    wordChars (left ++ c :: right) = wordChars left ++ wordChars right := by
  induction left with
  | nil => exact wordChars_of_blank right blank
  | cons first rest ih =>
      by_cases firstBlank : isBlank first = true
      · rw [List.cons_append, wordChars_of_blank _ firstBlank, ih, wordChars_of_blank _ firstBlank]
      · cases rest with
        | nil =>
            rw [List.singleton_append, wordChars_of_ends _ firstBlank blank,
              wordChars_of_blank _ blank, wordChars_singleton firstBlank, List.singleton_append]
        | cons next rest =>
            simp only [List.cons_append] at ih ⊢
            by_cases ends : isBlank next = true
            · rw [wordChars_of_ends _ firstBlank ends, ih, wordChars_of_ends _ firstBlank ends,
                List.cons_append]
            · rcases exists_wordChars_eq_cons rest ends with ⟨word, others, later⟩
              rw [later, List.cons_append] at ih
              rw [wordChars_of_goesOn firstBlank ends ih, wordChars_of_goesOn firstBlank ends later,
                List.cons_append]

theorem wordChars_append_of_blank {gap : List Char} (blank : ∀ c ∈ gap, isBlank c = true)
    (rest : List Char) : wordChars (gap ++ rest) = wordChars rest := by
  induction gap with
  | nil => rfl
  | cons c gap ih =>
      rw [List.cons_append, wordChars_of_blank _ (blank c (by simp))]
      exact ih fun other member => blank other (by simp [member])

theorem words_append_gap {gap : String} (isGap : IsGap gap) (before after : String) :
    words (before ++ gap ++ after) = words before ++ words after := by
  rcases isGap with ⟨nonempty, blank⟩
  simp only [words, String.toList_append, List.append_assoc]
  cases chars : gap.toList with
  | nil => exact absurd chars nonempty
  | cons c rest =>
      rw [chars] at blank
      rw [List.cons_append, wordChars_append_cons _ _ (blank c (by simp)),
        wordChars_append_of_blank (fun other member => blank other (by simp [member])),
        List.map_append]

/-- A text that is one word and nothing else. -/
def IsWord (word : String) : Prop :=
  word ≠ "" ∧ ∀ c ∈ word.toList, isBlank c = false

instance (word : String) : Decidable (IsWord word) :=
  decidable_of_iff (word ≠ "" ∧ word.toList.all (fun c => !isBlank c) = true) (by simp [IsWord])

theorem wordChars_of_solid {chars : List Char} (nonempty : chars ≠ [])
    (solid : ∀ c ∈ chars, isBlank c = false) : wordChars chars = [chars] := by
  induction chars with
  | nil => exact absurd rfl nonempty
  | cons c rest ih =>
      have firstSolid : ¬isBlank c = true := by simp [solid c]
      cases rest with
      | nil => exact wordChars_singleton firstSolid
      | cons next rest =>
          have nextSolid : ¬isBlank next = true := by simp [solid next]
          apply wordChars_of_goesOn firstSolid nextSolid
          apply ih (by simp)
          intro other member
          exact solid other (by simp [member])

theorem IsWord.words_eq {word : String} (isWord : IsWord word) : words word = [word] := by
  rcases isWord with ⟨nonempty, solid⟩
  have someChars : word.toList ≠ [] := by simpa using nonempty
  simp [words, wordChars_of_solid someChars solid]

theorem isGap_space : IsGap " " :=
  ⟨by simp, by simp [isBlank]⟩

theorem words_intercalate_space {names : List String} (areWords : ∀ name ∈ names, IsWord name) :
    words (" ".intercalate names) = names := by
  induction names with
  | nil => rfl
  | cons name others ih =>
      have nameIsWord : IsWord name := areWords name (by simp)
      cases others with
      | nil => simpa using nameIsWord.words_eq
      | cons next others =>
          rw [String.intercalate_cons_cons, words_append_gap isGap_space, nameIsWord.words_eq]
          rw [ih fun other member => areWords other (by simp [member])]
          rfl

/-- The text is made of these words: they stand in it one after another, with blanks between any two
of them and with any number of blanks in front and behind. -/
inductive MadeOf : String → List String → Prop where
  | nothing : MadeOf "" []
  | word {word : String} (isWord : IsWord word) : MadeOf word [word]
  | blanks {gap text : String} {names : List String} (isGap : IsGap gap)
      (madeOf : MadeOf text names) : MadeOf (gap ++ text) names
  | next {word gap text : String} {names : List String} (isWord : IsWord word)
      (isGap : IsGap gap) (madeOf : MadeOf text names) :
      MadeOf (word ++ gap ++ text) (word :: names)

theorem MadeOf.words_eq {text : String} {names : List String} (madeOf : MadeOf text names) :
    words text = names := by
  induction madeOf with
  | nothing => rfl
  | word isWord => exact isWord.words_eq
  | @blanks gap text names isGap _ ih =>
      have noWord : words ("" ++ gap ++ text) = words "" ++ words text :=
        words_append_gap isGap "" text
      rw [String.empty_append] at noWord
      rw [noWord, ih]
      rfl
  | next isWord isGap _ ih =>
      rw [words_append_gap isGap, isWord.words_eq, ih]
      rfl

theorem isWord_singleton (solid : isBlank c = false) : IsWord (String.singleton c) :=
  ⟨by simp, by simpa using solid⟩

theorem IsWord.append {left right : String} (isLeft : IsWord left) (isRight : IsWord right) :
    IsWord (left ++ right) := by
  refine ⟨by simp [isLeft.1], ?_⟩
  intro c member
  rw [String.toList_append, List.mem_append] at member
  exact member.elim (isLeft.2 c) (isRight.2 c)

/-- A character that is not blank makes the word behind it longer, or is a word of its own. -/
theorem MadeOf.exists_solid_append {text : String} {names : List String}
    (madeOf : MadeOf text names) (solid : isBlank c = false) :
    ∃ longer, MadeOf (String.singleton c ++ text) longer := by
  have isWord := isWord_singleton solid
  cases madeOf with
  | nothing => exact ⟨_, by simpa using .word isWord⟩
  | word rest => exact ⟨_, .word (isWord.append rest)⟩
  | blanks isGap madeOf =>
      rw [← String.append_assoc]
      exact ⟨_, .next isWord isGap madeOf⟩
  | next rest isGap madeOf =>
      rw [← String.append_assoc, ← String.append_assoc]
      exact ⟨_, .next (isWord.append rest) isGap madeOf⟩

theorem exists_madeOf (chars : List Char) : ∃ names, MadeOf (String.ofList chars) names := by
  induction chars with
  | nil => exact ⟨[], .nothing⟩
  | cons c rest ih =>
      rcases ih with ⟨names, madeOf⟩
      have parts : String.ofList (c :: rest) = String.singleton c ++ String.ofList rest := by
        rw [← String.ofList_toList (s := String.singleton c ++ String.ofList rest)]
        simp
      rw [parts]
      by_cases blank : isBlank c = true
      · exact ⟨names, .blanks ⟨by simp, by simpa using blank⟩ madeOf⟩
      · exact madeOf.exists_solid_append (by simpa using blank)

/-- A text is made of its words and of no others. -/
theorem madeOf_iff {text : String} {names : List String} :
    MadeOf text names ↔ words text = names := by
  constructor
  · exact MadeOf.words_eq
  · rintro rfl
    rcases exists_madeOf text.toList with ⟨names, madeOf⟩
    rw [String.ofList_toList] at madeOf
    rwa [madeOf.words_eq]

theorem MadeOf.isBlank_of_nil {text : String} {names : List String} (madeOf : MadeOf text names)
    (none : names = []) : ∀ c ∈ text.toList, isBlank c = true := by
  induction madeOf with
  | nothing => simp
  | word _ => cases none
  | blanks isGap _ ih =>
      intro c member
      rw [String.toList_append, List.mem_append] at member
      exact member.elim (isGap.blank c) (ih none c)
  | next _ _ _ _ => cases none

theorem words_ne_nil {text : String} (visible : ∃ c ∈ text.toList, isBlank c = false) :
    words text ≠ [] := by
  rcases visible with ⟨c, member, solid⟩
  intro none
  have blank := (madeOf_iff.mpr rfl).isBlank_of_nil none c member
  rw [solid] at blank
  cases blank

theorem isBlank_of_visible {c : Char} (visible : 33 ≤ c.toNat ∧ c.toNat ≤ 126) :
    isBlank c = false := by
  simp only [isBlank, Bool.or_eq_false_iff, Bool.and_eq_false_iff, decide_eq_false_iff_not,
    beq_eq_false_iff_ne]
  omega

/-- What is left of a text without the blanks around it. -/
structure Trims (chars inner : List Char) : Prop where
  around : ∃ before after, chars = before ++ inner ++ after ∧
    (∀ c ∈ before, isBlank c = true) ∧ ∀ c ∈ after, isBlank c = true
  first : ∀ c ∈ inner.head?, isBlank c = false
  last : ∀ c ∈ inner.getLast?, isBlank c = false

theorem dropWhile_isBlank_of_head {chars : List Char}
    (first : ∀ c ∈ chars.head?, isBlank c = false) : chars.dropWhile isBlank = chars := by
  cases chars with
  | nil => rfl
  | cons c rest => simp [first c rfl]

theorem head_dropWhile_isBlank (chars : List Char) :
    ∀ c ∈ (chars.dropWhile isBlank).head?, isBlank c = false := by
  intro c first
  have spec := List.head?_dropWhile_not isBlank chars
  rw [Option.mem_def.mp first] at spec
  exact spec

theorem Trims.trimmed_eq {chars inner : List Char} (trims : Trims chars inner) :
    trimmed chars = inner := by
  rcases trims with ⟨⟨before, after, rfl, blankBefore, blankAfter⟩, first, last⟩
  have lastFirst : ∀ c ∈ inner.reverse.head?, isBlank c = false := by simpa using last
  rw [trimmed, List.append_assoc, List.dropWhile_append_of_pos blankBefore]
  cases inner with
  | nil =>
      have nothing : after.dropWhile isBlank = [] := List.dropWhile_eq_nil_iff.mpr blankAfter
      simp [nothing]
  | cons c rest =>
      have kept : (c :: rest ++ after).dropWhile isBlank = c :: rest ++ after :=
        dropWhile_isBlank_of_head first
      rw [kept, List.reverse_append, List.dropWhile_append_of_pos (by simpa using blankAfter),
        dropWhile_isBlank_of_head lastFirst, List.reverse_reverse]

theorem trims_trimmed (chars : List Char) : Trims chars (trimmed chars) := by
  have parts : chars.takeWhile isBlank ++ chars.dropWhile isBlank = chars :=
    List.takeWhile_append_dropWhile
  generalize rest_eq : chars.dropWhile isBlank = rest at parts
  generalize before_eq : chars.takeWhile isBlank = before at parts
  have trimmed_eq : trimmed chars = (rest.reverse.dropWhile isBlank).reverse := by
    rw [trimmed, rest_eq]
  have restParts : trimmed chars ++ (rest.reverse.takeWhile isBlank).reverse = rest := by
    rw [trimmed_eq, ← List.reverse_append, List.takeWhile_append_dropWhile, List.reverse_reverse]
  refine ⟨⟨before, (rest.reverse.takeWhile isBlank).reverse, ?_, ?_, ?_⟩, ?_, ?_⟩
  · rw [List.append_assoc, restParts, parts]
  · intro c member
    exact List.mem_takeWhile_imp (before_eq ▸ member)
  · intro c member
    exact List.mem_takeWhile_imp (List.mem_reverse.mp member)
  · intro c first
    apply head_dropWhile_isBlank chars c
    rw [rest_eq, ← restParts]
    simp [Option.mem_def.mp first]
  · intro c last
    apply head_dropWhile_isBlank rest.reverse c
    rw [trimmed_eq] at last
    simpa using last

theorem trims_of_solid {chars : List Char} (solid : ∀ c ∈ chars, isBlank c = false) :
    Trims chars chars := by
  refine ⟨⟨[], [], by simp, by simp, by simp⟩, ?_, ?_⟩
  · intro c first
    exact solid c (List.mem_of_mem_head? first)
  · intro c last
    exact solid c (List.mem_of_mem_getLast? last)

end Text
end AccessAudit
