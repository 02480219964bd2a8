import AccessAudit.Proofs.Interaction.Classification

/-!
# Implicit roles count as stated ones

An element without a role of its own may be judged by the implicit roles of its tag. This file
proves that it is then judged like any element on which the same roles are written out.

The implicit roles are a list of names in a table, the stated ones a text that is split into
words. Every name in the table is declared, ignoring case, so where the declared names are words
the text has exactly the names of the list as its words.
-/

namespace AccessAudit

theorem TagPolicy.of?_eq_byImplicitRole_iff {ontology : Ontology} {tag : String} :
    TagPolicy.of? ontology tag = some .byImplicitRole ↔
      TagPolicy.standard.lookup (Text.lower tag) = none ∧
      ∃ entry ∈ ontology.implicit, entry.tag = Text.lower tag := by
  rw [TagPolicy.of?_eq]
  cases found : TagPolicy.standard.lookup (Text.lower tag) with
  | none => simp [Ontology.mem_mappedTags]
  | some policy =>
      have notDelegated : policy ≠ .byImplicitRole := by
        rintro rfl
        exact byImplicitRole_not_mem (Text.lower tag) (mem_of_lookup found)
      simp [notDelegated]

theorem Ontology.isWord_of_implicitRoles? {taxonomy : List RoleDecl} {table : List ImplicitRole}
    {ontology : Ontology} (accepted : ofTables taxonomy table = .ok ontology)
    (areWords : ∀ decl ∈ taxonomy, Text.IsWord decl.name) {tag : String}
    {attributes : List Attribute} {roles : List String}
    (implicit : ontology.implicitRoles? tag attributes = some roles) :
    ∀ role ∈ roles, Text.IsWord role := by
  intro role listed
  rw [implicitRoles?, Option.map_eq_some_iff] at implicit
  rcases implicit with ⟨entry, chosen, rfl⟩
  have inTable : entry ∈ table := by
    rw [← implicit_of_ofTables accepted]
    exact (implicitEntry?_eq_some_iff.mp chosen).mem
  have outcome := ofTables_outcome taxonomy table
  rw [accepted] at outcome
  rcases outcome.2.2 entry inTable role listed with ⟨decl, declared, agree⟩
  exact (areWords decl declared).of_eqIgnoringCase agree

namespace Interactivity

variable {taxonomy : List RoleDecl} {table : List ImplicitRole} {ontology : Ontology}
  {attributes : List Attribute}

/-- The attributes of an element on which nothing but these roles is written. -/
def stating (roles : List String) : List Attribute :=
  [⟨"role", some (.literal (.string (" ".intercalate roles)))⟩]

theorem classify_stating {roles : List String} (areWords : ∀ role ∈ roles, Text.IsWord role)
    (ontology : Ontology) (tag : String) :
    classify ontology tag (stating roles) = ofRoles ontology roles := by
  have explicit : Attribute.roleText? (stating roles) = some (" ".intercalate roles) := by
    simp [stating, Attribute.roleText?, Attribute.readingOf, Attribute.find?, Attribute.isNamed,
      Attribute.reading, Expression.value?, Reading.text?, Value.isNullish, Value.text]
  rw [classify_of_roleText? explicit, Text.words_intercalate_space areWords]

theorem roleText?_eq_none_of_unbound
    (unbound : ∀ value, Attribute.readingOf attributes "role" = .known value →
      value.isNullish = true) : Attribute.roleText? attributes = none := by
  rw [Attribute.roleText?]
  cases reading : Attribute.readingOf attributes "role" with
  | known value => simp [Reading.text?, unbound value reading]
  | unknown => rfl
  | absent => rfl

/-- An element that is judged by its implicit roles is judged as any element is that states them,
and nothing is said about it where no entry fits it. -/
theorem classify_by_implicitRoles (accepted : Ontology.ofTables taxonomy table = .ok ontology)
    (areWords : ∀ decl ∈ taxonomy, Text.IsWord decl.name) (tag : String)
    (delegated : TagPolicy.of? ontology tag = some .byImplicitRole)
    (unbound : ∀ value, Attribute.readingOf attributes "role" = .known value →
      value.isNullish = true) :
    (∀ roles, ontology.implicitRoles? tag attributes = some roles → ∀ otherTag,
      classify ontology tag attributes = classify ontology otherTag (stating roles)) ∧
    (ontology.implicitRoles? tag attributes = none →
      classify ontology tag attributes = .indeterminate) := by
  have noRole := roleText?_eq_none_of_unbound unbound
  constructor
  · intro roles implicit otherTag
    rw [classify_stating (Ontology.isWord_of_implicitRoles? accepted areWords implicit)]
    simp [classify, noRole, delegated, implicit]
  · intro noneFits
    simp [classify, noRole, delegated, noneFits]

/-- Entries for a tag without a policy of its own, which need not fit an element of that tag. -/
def outputs : List ImplicitRole :=
  [.when "output" [.present "for"] ["status"],
    .when "output" [.equals "type" "choice"] ["Combobox", "listbox"]]

theorem classify_by_implicitRoles_output :
    let attributes := [⟨"type", some (.literal (.string "Choice"))⟩,
      ⟨"role", some (.literal .null)⟩]
    ∃ ontology, Ontology.ofTables Taxonomy.standard outputs = .ok ontology ∧
      ontology.implicitRoles? "OUTPUT" attributes = some ["Combobox", "listbox"] ∧
      classify ontology "OUTPUT" attributes =
        classify ontology "p" (stating ["Combobox", "listbox"]) ∧
      classify ontology "OUTPUT" [] = .indeterminate := by
  intro attributes
  have mapped : ∀ entry ∈ outputs, ∀ role ∈ entry.roles,
      ∃ decl ∈ Taxonomy.standard, Text.eqIgnoringCase decl.name role = true := by
    decide +kernel
  have consistent := Ontology.consistent_of_accepted Ontology.accepted_standard mapped
  rcases Ontology.exists_ofTables_eq_ok consistent with ⟨ontology, accepted⟩
  have areWords : ∀ decl ∈ Taxonomy.standard, Text.IsWord decl.name := by
    decide +kernel
  have isTable := Ontology.implicit_of_ofTables accepted
  have delegated : TagPolicy.of? ontology "OUTPUT" = some .byImplicitRole := by
    rw [TagPolicy.of?_eq_byImplicitRole_iff, isTable]
    decide +kernel
  have implicit : ontology.implicitRoles? "OUTPUT" attributes = some ["Combobox", "listbox"] := by
    rw [Ontology.implicitRoles?, Ontology.implicitEntry?_eq, isTable]
    rfl
  have noneFits : ontology.implicitRoles? "OUTPUT" [] = none := by
    rw [Ontology.implicitRoles?, Ontology.implicitEntry?_eq, isTable]
    rfl
  have unbound : ∀ value, Attribute.readingOf attributes "role" = .known value →
      value.isNullish = true := by
    rintro value ⟨⟩
    rfl
  have absent : ∀ value, Attribute.readingOf [] "role" = .known value → value.isNullish = true := by
    rintro value ⟨⟩
  have judged := classify_by_implicitRoles accepted areWords "OUTPUT" delegated unbound
  have unjudged := classify_by_implicitRoles accepted areWords "OUTPUT" delegated absent
  exact ⟨ontology, accepted, implicit, judged.1 _ implicit "p", unjudged.2 noneFits⟩

end Interactivity
end AccessAudit
