import AccessAudit.Interaction.Interactivity
import AccessAudit.Proofs.Role.Standard
import Mathlib.Data.Finset.Basic
import Mathlib.Tactic.Push

/-!
# Explicit roles count as a set

This file proves that the interactivity an explicit role gives hangs on nothing but the set of
concrete roles that its words name.

A role is named by its capitals (`Ontology.namedRoles`), so the set does not see the order of the
words, how often one is there, how they are spelled and what is between them, nor words that name
no concrete role. The judgement is then a function of the set (`Interactivity.ofRoleSet`).

The words themselves are gone through in their order, with two flags and an early end. By induction
on the words this comes to questions about all of them (`Interactivity.scanRoles_eq`).
-/

namespace AccessAudit

namespace Ontology

variable {ontology : Ontology} {name word : String} {words left right : List String}

@[simp]
theorem concrete?_upper (ontology : Ontology) (word : String) :
    ontology.concrete? (Text.upper word) = ontology.concrete? word := by
  simp [concrete?, role?]

@[simp]
theorem isInteractive_upper (ontology : Ontology) (word : String) :
    ontology.isInteractive (Text.upper word) = ontology.isInteractive word := by
  simp [isInteractive]

theorem concrete_of_isInteractive (interactive : ontology.isInteractive word = true) :
    (ontology.concrete? word).isSome = true := by
  cases concrete : ontology.concrete? word <;> simp_all [isInteractive]

theorem concrete?_eq_none_of_ignored
    (ignored : ontology.role? word = none ∨ ontology.isAbstract word = true) :
    ontology.concrete? word = none := by
  rcases ignored with unknown | abstract
  · simp [concrete?, unknown]
  · cases found : ontology.role? word <;> simp_all [concrete?, isAbstract]

/-- The concrete roles that words name, each by its name in capitals. -/
def namedRoles (ontology : Ontology) (words : List String) : Finset String :=
  ((words.map Text.upper).filter fun name => (ontology.concrete? name).isSome).toFinset

theorem mem_namedRoles :
    name ∈ ontology.namedRoles words ↔
      ∃ word ∈ words, (ontology.concrete? word).isSome = true ∧ Text.upper word = name := by
  simp only [namedRoles, List.mem_toFinset, List.mem_filter, List.mem_map]
  constructor
  · rintro ⟨⟨word, listed, rfl⟩, concrete⟩
    exact ⟨word, listed, by simpa using concrete, rfl⟩
  · rintro ⟨word, listed, concrete, rfl⟩
    exact ⟨⟨word, listed, rfl⟩, by simpa using concrete⟩

theorem namedRoles_nonempty :
    (ontology.namedRoles words).Nonempty ↔
      ∃ word ∈ words, (ontology.concrete? word).isSome = true := by
  constructor
  · rintro ⟨name, named⟩
    rcases mem_namedRoles.mp named with ⟨word, listed, concrete, _⟩
    exact ⟨word, listed, concrete⟩
  · rintro ⟨word, listed, concrete⟩
    exact ⟨Text.upper word, mem_namedRoles.mpr ⟨word, listed, concrete, rfl⟩⟩

theorem exists_interactive_iff :
    (∃ name ∈ ontology.namedRoles words, ontology.isInteractive name = true) ↔
      ∃ word ∈ words, ontology.isInteractive word = true := by
  constructor
  · rintro ⟨name, named, interactive⟩
    rcases mem_namedRoles.mp named with ⟨word, listed, _, rfl⟩
    exact ⟨word, listed, by simpa using interactive⟩
  · rintro ⟨word, listed, interactive⟩
    have concrete := concrete_of_isInteractive interactive
    exact ⟨Text.upper word, mem_namedRoles.mpr ⟨word, listed, concrete, rfl⟩, by simpa⟩

theorem namedRoles_perm (same : left.Perm right) :
    ontology.namedRoles left = ontology.namedRoles right := by
  ext name
  simp only [mem_namedRoles, same.mem_iff]

theorem namedRoles_cons_of_mem (listed : word ∈ words) :
    ontology.namedRoles (word :: words) = ontology.namedRoles words := by
  have same : ∀ other, other ∈ word :: words ↔ other ∈ words := by
    simp [listed]
  ext name
  simp only [mem_namedRoles, same]

theorem namedRoles_cons_of_ignored
    (ignored : ontology.role? word = none ∨ ontology.isAbstract word = true) :
    ontology.namedRoles (word :: words) = ontology.namedRoles words := by
  ext name
  simp [mem_namedRoles, concrete?_eq_none_of_ignored ignored]

theorem namedRoles_map_lower (ontology : Ontology) (words : List String) :
    ontology.namedRoles (words.map Text.lower) = ontology.namedRoles words := by
  simp [namedRoles, Function.comp_def]

/-- Changes of a role text that make no difference to the concrete roles it names. -/
inductive Rewords (ontology : Ontology) : String → String → Prop where
  | permute {left right : String} (same : (Text.words left).Perm (Text.words right)) :
      Rewords ontology left right
  | repeatWord {left right word : String} (listed : word ∈ Text.words left)
      (added : (Text.words right).Perm (word :: Text.words left)) : Rewords ontology left right
  | respace {gap otherGap : String} (before after : String) (isGap : Text.IsGap gap)
      (isOtherGap : Text.IsGap otherGap) :
      Rewords ontology (before ++ gap ++ after) (before ++ otherGap ++ after)
  | recase {left right : String} (same : Text.lower left = Text.lower right) :
      Rewords ontology left right
  | insert {left right word : String}
      (ignored : ontology.role? word = none ∨ ontology.isAbstract word = true)
      (added : (Text.words right).Perm (word :: Text.words left)) : Rewords ontology left right

theorem Rewords.namedRoles_eq {left right : String} (rewords : ontology.Rewords left right) :
    ontology.namedRoles (Text.words left) = ontology.namedRoles (Text.words right) := by
  cases rewords with
  | permute same => exact namedRoles_perm same
  | repeatWord listed added => rw [namedRoles_perm added, namedRoles_cons_of_mem listed]
  | respace before after isGap isOtherGap =>
      rw [Text.words_append_gap isGap, Text.words_append_gap isOtherGap]
  | recase same => exact Text.words_congr ontology.namedRoles (namedRoles_map_lower ontology) same
  | insert ignored added => rw [namedRoles_perm added, namedRoles_cons_of_ignored ignored]

theorem namedRoles_eq_of_eqvGen {left right : String}
    (rewords : Relation.EqvGen ontology.Rewords left right) :
    ontology.namedRoles (Text.words left) = ontology.namedRoles (Text.words right) := by
  induction rewords with
  | rel _ _ step => exact step.namedRoles_eq
  | refl _ => rfl
  | symm _ _ _ ih => exact ih.symm
  | trans _ _ _ _ _ first second => exact first.trans second

end Ontology

namespace Interactivity

variable {ontology : Ontology} {attributes : List Attribute} {value : Value} {words : List String}

/-- The interactivity that a set of concrete roles gives. -/
def ofRoleSet (ontology : Ontology) (roles : Finset String) : Interactivity :=
  if "PRESENTATION" ∈ roles ∨ "NONE" ∈ roles then .nonInteractive
  else if ∃ name ∈ roles, ontology.isInteractive name = true then .interactive
  else if roles.Nonempty then .nonInteractive
  else .indeterminate

theorem isPresentational_iff {word : String} :
    isPresentational word = true ↔ Text.upper word = "PRESENTATION" ∨ Text.upper word = "NONE" := by
  have presentation : Text.upper "presentation" = "PRESENTATION" := rfl
  have none : Text.upper "none" = "NONE" := rfl
  rw [isPresentational, Bool.or_eq_true, Text.eqIgnoringCase_iff_upper,
    Text.eqIgnoringCase_iff_upper, presentation, none]

theorem presentational_mem_iff :
    ("PRESENTATION" ∈ ontology.namedRoles words ∨ "NONE" ∈ ontology.namedRoles words) ↔
      ∃ word ∈ words, (ontology.concrete? word).isSome = true ∧ isPresentational word = true := by
  simp only [isPresentational_iff, Ontology.mem_namedRoles, and_or_left, exists_or]

/-- A step of the scan sees nothing of a word but the concrete role it names. -/
theorem scanRoles_cons (ontology : Ontology) (resolved interactive : Bool) (word : String)
    (words : List String) :
    scanRoles ontology resolved interactive (word :: words) =
      match ontology.concrete? word with
      | none => scanRoles ontology resolved interactive words
      | some role =>
        if isPresentational word then .nonInteractive
        else scanRoles ontology true (interactive || role.interactive) words := by
  cases known : ontology.role? word with
  | none => simp [scanRoles, Ontology.concrete?, known]
  | some role =>
      cases abstract : role.isAbstract with
      | true =>
          have ignored : ontology.concrete? word = none := by
            simp [Ontology.concrete?, known, abstract]
          simp [scanRoles, known, abstract, ignored]
      | false =>
          have found : ontology.concrete? word = some role := by
            simp [Ontology.concrete?, known, abstract]
          simp [scanRoles, known, abstract, found]

/-- The scan comes to what the whole list says: a concrete presentational role first, then an
interactive role, then any concrete one, where the last two may have been met before. -/
theorem scanRoles_eq (ontology : Ontology) (resolved interactive : Bool) (words : List String) :
    scanRoles ontology resolved interactive words =
      if ∃ word ∈ words, (ontology.concrete? word).isSome = true ∧ isPresentational word = true then
        .nonInteractive
      else if interactive = true ∨ ∃ word ∈ words, ontology.isInteractive word = true then
        .interactive
      else if resolved = true ∨ ∃ word ∈ words, (ontology.concrete? word).isSome = true then
        .nonInteractive
      else .indeterminate := by
  induction words generalizing resolved interactive with
  | nil => cases resolved <;> cases interactive <;> rfl
  | cons word words ih =>
      rw [scanRoles_cons]
      cases found : ontology.concrete? word with
      | none =>
          have inert : ontology.isInteractive word = false := by
            simp [Ontology.isInteractive, found]
          simp [ih, found, inert]
      | some role =>
          have judged : ontology.isInteractive word = role.interactive := by
            simp [Ontology.isInteractive, found]
          by_cases presentational : isPresentational word = true
          · simp [found, presentational]
          · simp [ih, found, judged, presentational, or_assoc]

theorem ofRoles_eq_ofRoleSet (ontology : Ontology) (words : List String) :
    ofRoles ontology words = ofRoleSet ontology (ontology.namedRoles words) := by
  simp only [ofRoles, scanRoles_eq, ofRoleSet, presentational_mem_iff,
    Ontology.exists_interactive_iff, Ontology.namedRoles_nonempty, Bool.false_eq_true, false_or]

theorem ofRoles_eq_indeterminate_iff :
    ofRoles ontology words = .indeterminate ↔ ∀ word ∈ words, ontology.concrete? word = none := by
  have nonempty : (ontology.namedRoles words).Nonempty ↔
      ¬∀ word ∈ words, ontology.concrete? word = none := by
    rw [Ontology.namedRoles_nonempty]
    push Not
    simp only [Option.isSome_iff_ne_none]
  rw [ofRoles_eq_ofRoleSet, ofRoleSet]
  split
  · rename_i presentational
    rcases presentational_mem_iff.mp presentational with ⟨word, listed, concrete, _⟩
    refine iff_of_false (by simp) (nonempty.mp ?_)
    exact Ontology.namedRoles_nonempty.mpr ⟨word, listed, concrete⟩
  · split
    · rename_i interactive
      rcases interactive with ⟨name, named, _⟩
      exact iff_of_false (by simp) (nonempty.mp ⟨name, named⟩)
    · split
      · rename_i some
        exact iff_of_false (by simp) (nonempty.mp some)
      · rename_i none
        exact iff_of_true rfl (not_not.mp (mt nonempty.mpr none))

theorem ofRoles_eq_nonInteractive_of_presentational {word : String} (listed : word ∈ words)
    (concrete : (ontology.concrete? word).isSome = true)
    (presentational : isPresentational word = true) :
    ofRoles ontology words = .nonInteractive := by
  rw [ofRoles_eq_ofRoleSet, ofRoleSet,
    if_pos (presentational_mem_iff.mpr ⟨word, listed, concrete, presentational⟩)]

theorem classify_of_roleText? {tag role : String}
    (explicit : Attribute.roleText? attributes = some role) :
    classify ontology tag attributes = ofRoles ontology (Text.words role) := by
  simp [classify, explicit]

theorem classify_of_known (read : Attribute.readingOf attributes "role" = .known value)
    (bound : value.isNullish = false) (ontology : Ontology) (tag : String) :
    classify ontology tag attributes = ofRoles ontology (Text.words value.text) := by
  apply classify_of_roleText?
  simp [Attribute.roleText?, read, Reading.text?, bound]

/-- An explicit role that can be read decides by the set of concrete roles it names, and by nothing
else. However it is reworded without naming other ones, and whatever the tag and the other
attributes are, the judgement stays the same. -/
theorem classify_by_namedRoles (ontology : Ontology) (tag : String)
    (read : Attribute.readingOf attributes "role" = .known value)
    (bound : value.isNullish = false) :
    classify ontology tag attributes =
      ofRoleSet ontology (ontology.namedRoles (Text.words value.text)) ∧
    ∀ otherTag otherAttributes otherValue,
      Attribute.readingOf otherAttributes "role" = .known otherValue →
      otherValue.isNullish = false →
      Relation.EqvGen ontology.Rewords value.text otherValue.text →
      classify ontology otherTag otherAttributes = classify ontology tag attributes := by
  have judged := classify_of_known read bound ontology tag
  rw [ofRoles_eq_ofRoleSet] at judged
  refine ⟨judged, ?_⟩
  intro otherTag otherAttributes otherValue otherRead otherBound rewords
  rw [classify_of_known otherRead otherBound, ofRoles_eq_ofRoleSet, judged,
    Ontology.namedRoles_eq_of_eqvGen rewords]

theorem classify_by_namedRoles_presentation :
    let attributes := [⟨"role", some (.literal (.string "button  Presentation"))⟩]
    let otherAttributes := [⟨"Role", some (.literal (.string "presentation fakerole BUTTON"))⟩]
    classify .standard "div" attributes = .nonInteractive ∧
      classify .standard "nav" otherAttributes = classify .standard "div" attributes := by
  intro attributes otherAttributes
  have read : Attribute.readingOf attributes "role" = .known (.string "button  Presentation") := rfl
  have ⟨judged, reworded⟩ := classify_by_namedRoles .standard "div" read rfl
  have concrete : (Ontology.standard.concrete? "Presentation").isSome = true :=
    (Ontology.concrete?_isSome_iff Ontology.ofTables_standard "Presentation").mpr
      ⟨.concrete "presentation" ["structure"], by decide +kernel, rfl⟩
  have unknown : Ontology.standard.role? "fakerole" = none := by
    rw [← Option.not_isSome_iff_eq_none, Ontology.role?_standard_isSome]
    decide +kernel
  have named : "PRESENTATION" ∈
      Ontology.standard.namedRoles (Text.words "button  Presentation") :=
    Ontology.mem_namedRoles.mpr ⟨"Presentation", by decide +kernel, concrete, rfl⟩
  constructor
  · rw [judged, ofRoleSet]
    exact if_pos (.inl named)
  · apply reworded "nav" otherAttributes (.string "presentation fakerole BUTTON") rfl rfl
    have inserted : Ontology.standard.Rewords "button  Presentation"
        "Presentation fakerole button" :=
      .insert (.inl unknown) (by decide +kernel)
    have recased : Ontology.standard.Rewords "Presentation fakerole button"
        "presentation fakerole BUTTON" :=
      .recase (by decide +kernel)
    exact .trans _ _ _ (.rel _ _ inserted) (.rel _ _ recased)

end Interactivity
end AccessAudit
