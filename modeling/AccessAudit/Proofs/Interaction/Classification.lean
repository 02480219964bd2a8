import AccessAudit.Proofs.Interaction.RoleSet
import AccessAudit.Proofs.Role.Implicit

/-!
# When an element is not interactive

This file proves when explicit roles make an element one that is not interactive, and when its tag
does.

Without an explicit role the policies of tags may look at attributes. With the standard tables this
makes no difference to elements that are perceived: of the tags whose policy looks at attributes,
one gives `nonInteractive` to hidden elements only, one looks at the role that is missing, and the
others never give it; and the tags that are judged by their implicit roles have these whatever
their attributes are.
-/

namespace AccessAudit

theorem TagPolicy.byAttribute_cases {tag : String} {choice : AttributeChoice}
    (listed : (tag, .byAttribute choice) ∈ TagPolicy.standard) :
    (choice.passed ≠ .nonInteractive ∧ choice.failed ≠ .nonInteractive) ∨
      (tag = "input" ∧ choice = ⟨["type"], .equals "hidden", .nonInteractive, .interactive⟩) ∨
      choice = ⟨["role"], .equals "gridcell", .interactive, .nonInteractive⟩ := by
  simp only [standard, linkLike, List.mem_append, List.mem_cons, List.mem_map, Prod.mk.injEq,
    byAttribute.injEq, reduceCtorEq, and_false, exists_false, or_false, List.not_mem_nil] at listed
  rcases listed with ⟨_, rfl⟩ | ⟨_, rfl⟩ | input | ⟨_, cell⟩
  · exact .inl ⟨by decide, by decide⟩
  · exact .inl ⟨by decide, by decide⟩
  · exact .inr (.inl input)
  · exact .inr (.inr cell)

theorem TagPolicy.byImplicitRole_not_mem (tag : String) :
    (tag, .byImplicitRole) ∉ TagPolicy.standard := by
  simp [standard, linkLike]

/-- A tag that has no policy of its own has the same implicit roles whatever its attributes are. -/
theorem ImplicitRole.asked_eq_nil_of_no_policy : ∀ entry ∈ ImplicitRole.standard,
    TagPolicy.standard.lookup entry.tag = none → entry.asked = [] := by
  decide +kernel

namespace Interactivity

variable {ontology : Ontology} {tag : String} {attributes left right : List Attribute}

theorem ofRoles_eq_nonInteractive_iff {names : List String}
    (semantic : ∀ name ∈ names, isPresentational name = false) :
    ofRoles ontology names = .nonInteractive ↔
      (∃ name ∈ names, (ontology.concrete? name).isSome = true) ∧
      ∀ name ∈ names, ontology.isInteractive name = false := by
  have notPresentational : ¬("PRESENTATION" ∈ ontology.namedRoles names ∨
      "NONE" ∈ ontology.namedRoles names) := by
    rw [presentational_mem_iff]
    rintro ⟨name, member, _, presentational⟩
    rw [semantic name member] at presentational
    cases presentational
  rw [ofRoles_eq_ofRoleSet, ofRoleSet, if_neg notPresentational]
  split
  · rename_i someInteractive
    rcases Ontology.exists_interactive_iff.mp someInteractive with ⟨name, member, interactive⟩
    refine iff_of_false (by simp) ?_
    rintro ⟨_, none⟩
    rw [none name member] at interactive
    cases interactive
  · rename_i noneInteractive
    rw [Ontology.exists_interactive_iff] at noneInteractive
    split
    · rename_i someConcrete
      rw [Ontology.namedRoles_nonempty] at someConcrete
      exact iff_of_true rfl ⟨someConcrete, by simpa using noneInteractive⟩
    · rename_i noneConcrete
      rw [Ontology.namedRoles_nonempty] at noneConcrete
      exact iff_of_false (by simp) (fun both => noneConcrete both.1)

theorem implicitRoles?_of_no_policy
    (noPolicy : TagPolicy.standard.lookup (Text.lower tag) = none) :
    Ontology.standard.implicitRoles? tag left = Ontology.standard.implicitRoles? tag right := by
  apply Ontology.implicitRoles?_congr
  rw [Ontology.implicit_standard]
  intro entry inTable isTag
  apply ImplicitRole.matchesAttributes_congr
  have asked := ImplicitRole.asked_eq_nil_of_no_policy entry inTable (by rw [isTag, noPolicy])
  simp [asked]

theorem decide_of_no_role {choice : AttributeChoice}
    (listed : (Text.lower tag, .byAttribute choice) ∈ TagPolicy.standard)
    (noRole : Attribute.roleText? right = none) (perceived : isHidden tag left = false)
    (classified : choice.decide left = .nonInteractive) : choice.decide right = .nonInteractive := by
  rcases TagPolicy.byAttribute_cases listed with ⟨passed, failed⟩ | ⟨isInput, rfl⟩ | rfl
  · unfold AttributeChoice.decide at classified
    split at classified
    · exact absurd classified passed
    · exact absurd classified failed
  · have isTag : Text.eqIgnoringCase tag "input" = true := Text.eqIgnoringCase_iff.mpr isInput
    simp only [isHidden, isTag, Bool.true_and, Bool.or_eq_false_iff] at perceived
    simp [AttributeChoice.decide, AttributeTest.passes, perceived.1] at classified
  · have notCell : (Attribute.readingOf right "role").equals "gridcell" = false := by
      rw [Attribute.roleText?] at noRole
      simp [Reading.equals, noRole]
    simp [AttributeChoice.decide, AttributeTest.passes, notCell]

/-- Where there is no explicit role, a tag that makes one perceived element not interactive makes
every other element so. -/
theorem classify_of_no_role (noRole : Attribute.roleText? left = none)
    (noOtherRole : Attribute.roleText? right = none) (perceived : isHidden tag left = false)
    (classified : classify .standard tag left = .nonInteractive) :
    classify .standard tag right = .nonInteractive := by
  simp only [classify, noRole, noOtherRole, TagPolicy.of?_eq] at classified ⊢
  cases found : TagPolicy.standard.lookup (Text.lower tag) with
  | none =>
      have sameRoles : Ontology.standard.implicitRoles? tag right =
          Ontology.standard.implicitRoles? tag left := implicitRoles?_of_no_policy found
      by_cases mapped : Text.lower tag ∈ Ontology.standard.mappedTags
      · simpa [found, mapped, sameRoles] using classified
      · simp [found, mapped] at classified
  | some policy =>
      simp only [found, Option.some_or] at classified ⊢
      have listed := mem_of_lookup found
      cases policy with
      | alwaysInteractive => cases classified
      | neverInteractive => rfl
      | byAttribute choice => exact decide_of_no_role listed noOtherRole perceived classified
      | byImplicitRole => exact absurd listed (TagPolicy.byImplicitRole_not_mem _)
      | neutral => cases classified

end Interactivity
end AccessAudit
