import AccessAudit.Lint.Rule
import AccessAudit.Proofs.Interaction.RoleSet

/-!
# Those who read the role attribute agree

The role attribute is read in four places: by the judgement on interactivity, by the test for
presentational roles, and by the rules on role names and on required properties. Each one splits the
text into words and looks them up by itself, and they treat unknown words, abstract roles and an
empty text differently. This file says of each one which words make it answer as it does, and proves
that the answers fit together.
-/

namespace AccessAudit

variable {ontology : Ontology} {element : Element} {attr : Attribute} {attributes : List Attribute}
  {value : Value}

theorem Attribute.readingOf_of_find? {name : String}
    (first : Attribute.find? attributes name = some attr) :
    Attribute.readingOf attributes name = attr.reading := by
  simp [readingOf, first]

theorem Attribute.isNamed_of_find? {name : String}
    (first : Attribute.find? attributes name = some attr) : attr.isNamed name = true :=
  List.find?_some (p := fun attr : Attribute => attr.isNamed name) first

namespace RoleName

theorem check_of_known (isRole : attr.isNamed "role" = true) (read : attr.reading = .known value)
    (bound : value.isNullish = false) :
    check ontology attr =
      if isValid ontology (Text.words value.text) then none else some .invalidRole := by
  cases valid : isValid ontology (Text.words value.text) <;>
    simp [check, isRole, read, Reading.text?, bound, valid]

/-- A valid role names a concrete one. -/
theorem exists_concrete_of_isValid {words : List String} (valid : isValid ontology words = true) :
    ∃ word ∈ words, (ontology.concrete? word).isSome = true := by
  rw [isValid, Bool.and_eq_true, List.all_eq_true] at valid
  cases words with
  | nil => simp at valid
  | cons word words => exact ⟨word, by simp, valid.2 word (by simp)⟩

end RoleName

namespace RequiredProperty

/-- Where no concrete role is named, nothing is required. -/
theorem check_eq_none_of_no_concrete (read : attr.reading = .known value)
    (noneConcrete : ∀ word ∈ Text.words value.text, ontology.concrete? word = none) :
    check ontology element attr = none := by
  have nothingUnmet : (Text.words value.text).findSome? (unmet? ontology element) = none := by
    rw [List.findSome?_eq_none_iff]
    intro word listed
    simp [unmet?, noneConcrete word listed]
  cases nullish : value.isNullish <;> simp [check, read, Reading.text?, nullish, nothingUnmet]

end RequiredProperty

namespace Interactivity

theorem exists_presentational_of_isPresentation
    (read : Attribute.readingOf attributes "role" = .known value)
    (presentational : isPresentation attributes = true) :
    ∃ word ∈ Text.words value.text, isPresentational word = true := by
  cases nullish : value.isNullish <;>
    simp_all [isPresentation, Attribute.roleText?, Reading.text?]

/-- Presentational names differ from the two that are spelled out in case at most. -/
theorem concrete_of_isPresentational
    (presentation : (ontology.concrete? "presentation").isSome = true)
    (absence : (ontology.concrete? "none").isSome = true) {word : String}
    (presentational : isPresentational word = true) :
    (ontology.concrete? word).isSome = true := by
  rw [← ontology.concrete?_upper] at presentation absence ⊢
  rcases isPresentational_iff.mp presentational with named | named
  · rw [named]
    exact presentation
  · rw [named]
    exact absence

end Interactivity

open Interactivity

/-- Where `presentation` and `none` are concrete roles, an element that is presentational is not
interactive, one whose role is valid is judged either way, and where nothing can be said of an
element with a role, the role is reported as invalid and no property is asked for. -/
theorem role_readers_agree (presentation : (ontology.concrete? "presentation").isSome = true)
    (absence : (ontology.concrete? "none").isSome = true)
    (first : Attribute.find? element.attributes "role" = some attr)
    (read : attr.reading = .known value) (bound : value.isNullish = false) :
    (isPresentation element.attributes = true →
      classify ontology element.tag element.attributes = .nonInteractive) ∧
    (Rule.roleName.checkAttribute ontology element attr = none →
      classify ontology element.tag element.attributes ≠ .indeterminate) ∧
    (classify ontology element.tag element.attributes = .indeterminate →
      Rule.roleName.checkAttribute ontology element attr = some .invalidRole ∧
        Rule.requiredProperty.checkAttribute ontology element attr = none) := by
  have readFirst : Attribute.readingOf element.attributes "role" = .known value := by
    rw [Attribute.readingOf_of_find? first, read]
  have judged := classify_of_known readFirst bound ontology element.tag
  have validity : Rule.roleName.checkAttribute ontology element attr =
      if RoleName.isValid ontology (Text.words value.text) then none else some .invalidRole :=
    RoleName.check_of_known (Attribute.isNamed_of_find? first) read bound
  have notValid : classify ontology element.tag element.attributes = .indeterminate →
      ¬RoleName.isValid ontology (Text.words value.text) = true := by
    intro indeterminate valid
    rw [judged, ofRoles_eq_indeterminate_iff] at indeterminate
    rcases RoleName.exists_concrete_of_isValid valid with ⟨word, listed, concrete⟩
    rw [indeterminate word listed] at concrete
    cases concrete
  refine ⟨?_, ?_, ?_⟩
  · intro presentational
    rcases exists_presentational_of_isPresentation readFirst presentational with
      ⟨word, listed, isPresentational⟩
    rw [judged]
    exact ofRoles_eq_nonInteractive_of_presentational listed
      (concrete_of_isPresentational presentation absence isPresentational) isPresentational
  · intro silent indeterminate
    rw [validity, if_neg (notValid indeterminate)] at silent
    cases silent
  · intro indeterminate
    refine ⟨?_, ?_⟩
    · rw [validity, if_neg (notValid indeterminate)]
    · rw [judged, ofRoles_eq_indeterminate_iff] at indeterminate
      exact RequiredProperty.check_eq_none_of_no_concrete read indeterminate

theorem role_readers_agree_widget :
    let attr : Attribute := ⟨"role", some (.literal (.string "Widget fakerole"))⟩
    let element : Element := ⟨"button", [attr]⟩
    classify .standard element.tag element.attributes = .indeterminate ∧
      Rule.roleName.checkAttribute .standard element attr = some .invalidRole ∧
      Rule.requiredProperty.checkAttribute .standard element attr = none := by
  intro attr element
  have concrete := Ontology.concrete?_isSome_iff Ontology.ofTables_standard
  have presentation : (Ontology.standard.concrete? "presentation").isSome = true :=
    (concrete _).mpr ⟨.concrete "presentation" ["structure"], by decide +kernel, rfl⟩
  have absence : (Ontology.standard.concrete? "none").isSome = true :=
    (concrete _).mpr ⟨.concrete "none" ["structure"], by decide +kernel, rfl⟩
  have ignored : ∀ word ∈ Text.words "Widget fakerole",
      ∀ decl ∈ Taxonomy.lastNamed? Taxonomy.standard (Text.upper word), decl.isAbstract = true := by
    decide +kernel
  have first : Attribute.find? element.attributes "role" = some attr := by
    simp [Attribute.find?, Attribute.isNamed, element, attr]
  have read : attr.reading = .known (.string "Widget fakerole") := rfl
  have indeterminate : classify .standard element.tag element.attributes = .indeterminate := by
    rw [classify_of_known ((Attribute.readingOf_of_find? first).trans read) rfl,
      ofRoles_eq_indeterminate_iff]
    intro word listed
    rw [← Option.not_isSome_iff_eq_none, concrete]
    rintro ⟨decl, last, notAbstract⟩
    rw [ignored word listed decl last] at notAbstract
    cases notAbstract
  exact ⟨indeterminate, (role_readers_agree presentation absence first read rfl).2.2 indeterminate⟩

end AccessAudit
