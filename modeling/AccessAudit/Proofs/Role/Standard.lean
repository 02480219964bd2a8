import AccessAudit.Proofs.Role.Ontology

/-!
# The standard tables have no defect

`Ontology.standard` stands for the ontology of the two standard tables, provided that they make
one. This file proves that they do, so that what holds of every ontology made from tables holds of
this one.

The search for ancestors is not evaluated for this. A table of roles is in order if from each role
every way up ends within a number of steps, which a plain recursion on that number decides.
-/

namespace AccessAudit

namespace Taxonomy

variable {taxonomy : List RoleDecl}

/-- Every way up from the name is declared throughout and ends within this number of steps. -/
def isGroundedWithin (taxonomy : List RoleDecl) : Nat → String → Bool
  | 0, _ => false
  | steps + 1, name =>
    match decl? taxonomy name with
    | none => false
    | some decl => decl.superclasses.all (isGroundedWithin taxonomy steps)

theorem grounded_of_isGroundedWithin {steps : Nat} {name : String}
    (grounded : isGroundedWithin taxonomy steps name = true) : Grounded taxonomy name := by
  induction steps generalizing name with
  | zero => cases grounded
  | succ steps ih =>
      rw [isGroundedWithin] at grounded
      split at grounded
      · cases grounded
      · rename_i decl declared
        apply Grounded.intro declared
        intro superclass listed
        exact ih (List.all_eq_true.mp grounded superclass listed)

end Taxonomy

namespace Ontology

theorem accepted_standard :
    ∀ decl ∈ Taxonomy.standard, Accepted Taxonomy.standard decl := by
  have grounded : ∀ decl ∈ Taxonomy.standard,
      Taxonomy.isGroundedWithin Taxonomy.standard 8 decl.name = true := by
    decide +kernel
  have known : ∀ decl ∈ Taxonomy.standard, ∀ property ∈ decl.required,
      Property.isKnown property = true := by
    decide +kernel
  intro decl member
  exact ⟨Taxonomy.grounded_of_isGroundedWithin (grounded decl member), known decl member⟩

theorem mapped_standard : ∀ entry ∈ ImplicitRole.standard, ∀ role ∈ entry.roles,
    ∃ decl ∈ Taxonomy.standard, Text.eqIgnoringCase decl.name role = true := by
  have declared : ∀ entry ∈ ImplicitRole.standard, ∀ role ∈ entry.roles,
      Taxonomy.declares Taxonomy.standard role = true := by
    decide +kernel
  intro entry member role mapped
  rcases Taxonomy.declares_iff.mp (declared entry member role mapped) with ⟨decl, listed, rfl⟩
  exact ⟨decl, listed, Text.eqIgnoringCase_refl decl.name⟩

theorem ofTables_standard :
    ofTables Taxonomy.standard ImplicitRole.standard = .ok standard := by
  have consistent := consistent_of_accepted accepted_standard mapped_standard
  rcases exists_ofTables_eq_ok consistent with ⟨ontology, accepted⟩
  have isStandard : standard = ontology := by
    rw [standard, accepted]
  rw [accepted, isStandard]

/-- The implicit roles are those of the table. -/
theorem implicit_of_ofTables {taxonomy : List RoleDecl} {implicit : List ImplicitRole}
    {ontology : Ontology} (accepted : ofTables taxonomy implicit = .ok ontology) :
    ontology.implicit = implicit := by
  cases resolved : resolve taxonomy with
  | error cause =>
      rw [ofTables_of_resolve_eq_error resolved] at accepted
      cases accepted
  | ok roles =>
      rw [ofTables_of_resolve_eq_ok resolved] at accepted
      cases checked : implicit.forM (checkImplicit roles) with
      | error cause =>
          rw [checked] at accepted
          cases accepted
      | ok _ =>
          rw [checked] at accepted
          cases accepted
          rfl

theorem implicit_standard : standard.implicit = ImplicitRole.standard :=
  implicit_of_ofTables ofTables_standard

/-- The roles that are known are those that the taxonomy declares. -/
theorem role?_standard_isSome (name : String) :
    (standard.role? name).isSome = true ↔
      ∃ decl ∈ Taxonomy.standard, Text.eqIgnoringCase decl.name name = true := by
  have outcome := ofTables_outcome Taxonomy.standard ImplicitRole.standard
  rw [ofTables_standard] at outcome
  exact outcome.2.1.contains_iff name

end Ontology
end AccessAudit
