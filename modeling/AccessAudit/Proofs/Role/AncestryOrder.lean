import AccessAudit.Proofs.Role.Standard

/-!
# Ancestors as an order

One would expect of an ontology that being an ancestor is a strict partial order on its roles. Where
no two declared names differ in case only, it is. Otherwise it need not be: superclasses and cycles
are looked for by exact names, but roles are registered and looked up ignoring case. So a role can
have another spelling of its own name above it, and then it is its own ancestor; and the ancestors
of a role may include a name that stands for one declaration in the superclasses and for another
one in the ontology, whose own ancestors are then missing.

This file proves that these are the only ways in which the order fails, and that both occur.
-/

namespace AccessAudit

namespace Taxonomy

variable {taxonomy : List RoleDecl}

/-- The name, given in capitals, is declared in two spellings. -/
def Respelled (taxonomy : List RoleDecl) (capitals : String) : Prop :=
  ∃ left ∈ taxonomy, ∃ right ∈ taxonomy, left.name ≠ right.name ∧
    Text.upper left.name = capitals ∧ Text.upper right.name = capitals

theorem mem_of_lastNamed? {capitals : String} {decl : RoleDecl}
    (last : lastNamed? taxonomy capitals = some decl) : decl ∈ taxonomy :=
  List.mem_reverse.mp (List.mem_of_find?_eq_some last)

theorem Grounded.of_transGen {role above : String} (grounded : Grounded taxonomy role)
    (reached : Relation.TransGen (IsSuperclass taxonomy) role above) : Grounded taxonomy above := by
  induction reached with
  | single step => exact grounded.above step
  | tail _ step ih => exact ih.above step

end Taxonomy

namespace Ontology

open Taxonomy

variable {taxonomy : List RoleDecl} {implicit : List ImplicitRole} {ontology : Ontology}

theorem accepted_of_ofTables (accepted : ofTables taxonomy implicit = .ok ontology) :
    (∀ decl ∈ taxonomy, Accepted taxonomy decl) ∧
      Registers taxonomy taxonomy Dictionary.empty ontology.roles := by
  have outcome := ofTables_outcome taxonomy implicit
  rw [accepted] at outcome
  exact ⟨outcome.1, outcome.2.1⟩

/-- A registered role is that of the last declaration of its name, with all that is above it. -/
theorem decl_of_role? (accepted : ofTables taxonomy implicit = .ok ontology) {name : String}
    {role : Role} (registered : ontology.role? name = some role) :
    ∃ decl, role.name = Text.upper name ∧ lastNamed? taxonomy role.name = some decl ∧
      Grounded taxonomy decl.name ∧ IsAncestorSet taxonomy decl.name role.ancestors := by
  rcases accepted_of_ofTables accepted with ⟨declsAccepted, registers⟩
  rcases registers (Text.upper name) with ⟨decl, ancestors, last, complete, found⟩ | ⟨_, nothing⟩
  · rw [role?, found] at registered
    cases registered
    have named : (Role.ofDecl decl ancestors).name = Text.upper name := upper_of_lastNamed? last
    rw [named]
    exact ⟨decl, rfl, last, (declsAccepted decl (mem_of_lastNamed? last)).grounded, complete⟩
  · rw [role?, nothing] at registered
    cases registered

/-- A declared role and its ancestors, where the last declaration of its name is known. -/
theorem exists_role?_of_lastNamed? (accepted : ofTables taxonomy implicit = .ok ontology)
    {name : String} {decl : RoleDecl} (last : lastNamed? taxonomy (Text.upper name) = some decl) :
    ∃ role, ontology.role? name = some role ∧ role.name = Text.upper name ∧
      IsAncestorSet taxonomy decl.name role.ancestors := by
  rcases (accepted_of_ofTables accepted).2 (Text.upper name) with
    ⟨other, ancestors, otherLast, complete, found⟩ | ⟨nothing, _⟩
  · rw [last] at otherLast
    cases otherLast
    exact ⟨_, found, upper_of_lastNamed? last, complete⟩
  · rw [last] at nothing
    cases nothing

/-- Being an ancestor is a strict partial order on the registered roles. -/
structure AncestorsOrdered (ontology : Ontology) : Prop where
  registered : ∀ name role ancestor, ontology.role? name = some role →
    role.ancestors.contains ancestor = true → ∃ above, ontology.role? ancestor = some above
  irreflexive : ∀ name role, ontology.role? name = some role →
    role.ancestors.contains role.name = false
  transitive : ∀ name role ancestor above farther, ontology.role? name = some role →
    role.ancestors.contains ancestor = true → ontology.role? ancestor = some above →
    above.ancestors.contains farther = true → role.ancestors.contains farther = true

/-- The role has another spelling of its own name above it. -/
def AboveItself (taxonomy : List RoleDecl) (role : Role) : Prop :=
  ∃ decl spelling, lastNamed? taxonomy role.name = some decl ∧ spelling ≠ decl.name ∧
    Text.upper spelling = role.name ∧
    Relation.TransGen (IsSuperclass taxonomy) decl.name spelling

/-- The role has the other one above it in another spelling than the registered one, and not in
the registered one. -/
def PassesBy (taxonomy : List RoleDecl) (role above : Role) : Prop :=
  ∃ decl aboveDecl spelling, lastNamed? taxonomy role.name = some decl ∧
    lastNamed? taxonomy above.name = some aboveDecl ∧ spelling ≠ aboveDecl.name ∧
    Text.upper spelling = above.name ∧
    Relation.TransGen (IsSuperclass taxonomy) decl.name spelling ∧
    ¬Relation.TransGen (IsSuperclass taxonomy) decl.name aboveDecl.name

/-- No role is above itself, and none that passes an ancestor by misses the ancestors of it. -/
structure SpelledHarmlessly (taxonomy : List RoleDecl) (ontology : Ontology) : Prop where
  notAboveItself : ∀ name role, ontology.role? name = some role → ¬AboveItself taxonomy role
  nothingMissing : ∀ name role ancestor above farther, ontology.role? name = some role →
    ontology.role? ancestor = some above → PassesBy taxonomy role above →
    above.ancestors.contains farther = true → role.ancestors.contains farther = true

theorem respelled_of_ne {capitals spelling : String} {decl : RoleDecl}
    (last : lastNamed? taxonomy capitals = some decl) (grounded : Grounded taxonomy spelling)
    (same : Text.upper spelling = capitals) (different : spelling ≠ decl.name) :
    Respelled taxonomy capitals := by
  rcases declares_iff.mp grounded.declares with ⟨other, member, rfl⟩
  exact ⟨other, member, decl, mem_of_lastNamed? last, different, same, upper_of_lastNamed? last⟩

section Accepted

variable (accepted : ofTables taxonomy implicit = .ok ontology) {name ancestor farther : String}
  {role above : Role}

include accepted

theorem role?_ancestor (registered : ontology.role? name = some role)
    (isAncestor : role.ancestors.contains ancestor = true) :
    ∃ above, ontology.role? ancestor = some above ∧ above.name = ancestor := by
  rcases decl_of_role? accepted registered with ⟨decl, _, _, grounded, complete⟩
  rcases (complete ancestor).mp isAncestor with ⟨spelling, reached, rfl⟩
  rcases declares_iff.mp (grounded.of_transGen reached).declares with ⟨aboveDecl, member, rfl⟩
  have declared := lastNamed?_isSome.mpr ⟨aboveDecl, member, (Text.upper_upper _).symm⟩
  rcases Option.isSome_iff_exists.mp declared with ⟨last, isLast⟩
  rcases exists_role?_of_lastNamed? accepted isLast with ⟨above, found, named, _⟩
  exact ⟨above, found, by rw [named, Text.upper_upper]⟩

/-- A role is its own ancestor exactly if another spelling of its name is above it. -/
theorem contains_own_name_iff (registered : ontology.role? name = some role) :
    role.ancestors.contains role.name = true ↔ AboveItself taxonomy role := by
  rcases decl_of_role? accepted registered with ⟨decl, _, last, grounded, complete⟩
  rw [complete]
  constructor
  · rintro ⟨spelling, reached, same⟩
    refine ⟨decl, spelling, last, ?_, same, reached⟩
    rintro rfl
    exact grounded.acyclic reached
  · rintro ⟨other, spelling, otherLast, _, same, reached⟩
    rw [last] at otherLast
    cases otherLast
    exact ⟨spelling, reached, same⟩

/-- The ancestors of an ancestor are missing only where it has been passed by. -/
theorem contains_farther (registered : ontology.role? name = some role)
    (isAncestor : role.ancestors.contains ancestor = true)
    (aboveRegistered : ontology.role? ancestor = some above)
    (isFarther : above.ancestors.contains farther = true) :
    role.ancestors.contains farther = true ∨ PassesBy taxonomy role above := by
  rcases decl_of_role? accepted registered with ⟨decl, _, last, _, complete⟩
  rcases decl_of_role? accepted aboveRegistered with ⟨aboveDecl, named, aboveLast, _, aboveComplete⟩
  rcases (complete ancestor).mp isAncestor with ⟨spelling, reached, rfl⟩
  by_cases straight : Relation.TransGen (IsSuperclass taxonomy) decl.name aboveDecl.name
  · left
    rcases (aboveComplete farther).mp isFarther with ⟨top, reachedTop, isTop⟩
    exact (complete farther).mpr ⟨top, straight.trans reachedTop, isTop⟩
  · right
    refine ⟨decl, aboveDecl, spelling, last, aboveLast, ?_, by simp [named], reached, straight⟩
    rintro rfl
    exact straight reached

theorem respelled_of_aboveItself (registered : ontology.role? name = some role)
    (itself : AboveItself taxonomy role) : Respelled taxonomy role.name := by
  rcases decl_of_role? accepted registered with ⟨decl, _, last, grounded, _⟩
  rcases itself with ⟨other, spelling, otherLast, different, same, reached⟩
  rw [last] at otherLast
  cases otherLast
  exact respelled_of_ne last (grounded.of_transGen reached) same different

theorem respelled_of_passesBy (registered : ontology.role? name = some role)
    (passes : PassesBy taxonomy role above) : Respelled taxonomy above.name := by
  rcases decl_of_role? accepted registered with ⟨decl, _, last, grounded, _⟩
  rcases passes with ⟨other, aboveDecl, spelling, otherLast, aboveLast, different, same, reached, _⟩
  rw [last] at otherLast
  cases otherLast
  exact respelled_of_ne aboveLast (grounded.of_transGen reached) same different

theorem ancestorsOrdered_iff :
    ontology.AncestorsOrdered ↔ SpelledHarmlessly taxonomy ontology := by
  constructor
  · intro ordered
    refine ⟨?_, ?_⟩
    · intro name role registered itself
      have own := (contains_own_name_iff accepted registered).mpr itself
      rw [ordered.irreflexive name role registered] at own
      cases own
    · rintro name role ancestor above farther registered aboveRegistered passes isFarther
      have isAncestor : role.ancestors.contains above.name = true := by
        rcases decl_of_role? accepted registered with ⟨decl, _, last, _, complete⟩
        rcases passes with ⟨other, _, spelling, otherLast, _, _, same, reached, _⟩
        rw [last] at otherLast
        cases otherLast
        exact (complete above.name).mpr ⟨spelling, reached, same⟩
      rcases decl_of_role? accepted aboveRegistered with ⟨_, named, _⟩
      have sameRole : ontology.role? above.name = some above := by
        simpa [named, role?] using aboveRegistered
      exact ordered.transitive name role above.name above farther registered isAncestor sameRole
        isFarther
  · rintro ⟨notAboveItself, nothingMissing⟩
    refine ⟨?_, ?_, ?_⟩
    · intro name role ancestor registered isAncestor
      rcases role?_ancestor accepted registered isAncestor with ⟨above, found, _⟩
      exact ⟨above, found⟩
    · intro name role registered
      rw [← Bool.not_eq_true, contains_own_name_iff accepted registered]
      exact notAboveItself name role registered
    · intro name role ancestor above farther registered isAncestor aboveRegistered isFarther
      rcases contains_farther accepted registered isAncestor aboveRegistered isFarther with
        found | passes
      · exact found
      · exact nothingMissing name role ancestor above farther registered aboveRegistered passes
          isFarther

theorem spelledHarmlessly_of_not_respelled (uniform : ∀ capitals, ¬Respelled taxonomy capitals) :
    SpelledHarmlessly taxonomy ontology := by
  refine ⟨?_, ?_⟩
  · intro name role registered itself
    exact uniform _ (respelled_of_aboveItself accepted registered itself)
  · intro name role ancestor above farther registered _ passes _
    exact absurd (respelled_of_passesBy accepted registered passes) (uniform _)

end Accepted

/-- Ancestors are registered. They are ordered strictly exactly if spellings do no harm, and they do
none where no name is declared in two of them. -/
theorem ancestorsOrdered_unless_respelled (accepted : ofTables taxonomy implicit = .ok ontology) :
    (∀ name role ancestor, ontology.role? name = some role →
      role.ancestors.contains ancestor = true →
      ∃ above, ontology.role? ancestor = some above ∧ above.name = ancestor) ∧
    (ontology.AncestorsOrdered ↔ SpelledHarmlessly taxonomy ontology) ∧
    ((∀ capitals, ¬Respelled taxonomy capitals) → ontology.AncestorsOrdered) := by
  refine ⟨?_, ancestorsOrdered_iff accepted, ?_⟩
  · intro name role ancestor registered isAncestor
    exact role?_ancestor accepted registered isAncestor
  · intro uniform
    exact (ancestorsOrdered_iff accepted).mpr (spelledHarmlessly_of_not_respelled accepted uniform)

theorem ancestorsOrdered_standard :
    ofTables Taxonomy.standard ImplicitRole.standard = .ok standard ∧
      standard.AncestorsOrdered := by
  have lowerCase : ∀ decl ∈ Taxonomy.standard, Text.lower decl.name = decl.name := by
    decide +kernel
  refine ⟨ofTables_standard, (ancestorsOrdered_unless_respelled ofTables_standard).2.2 ?_⟩
  rintro _ ⟨left, leftMember, right, rightMember, different, rfl, sameName⟩
  apply different
  calc left.name
    _ = Text.lower (Text.upper left.name) := by rw [Text.lower_upper, lowerCase left leftMember]
    _ = Text.lower (Text.upper right.name) := by rw [sameName]
    _ = right.name := by rw [Text.lower_upper, lowerCase right rightMember]

theorem exists_ofTables_of_isGroundedWithin (taxonomy : List RoleDecl) (steps : Nat)
    (grounded : ∀ decl ∈ taxonomy, isGroundedWithin taxonomy steps decl.name = true)
    (noneRequired : ∀ decl ∈ taxonomy, decl.required = []) :
    ∃ ontology, ofTables taxonomy [] = .ok ontology := by
  apply exists_ofTables_eq_ok
  refine consistent_of_accepted ?_ (by simp)
  intro decl member
  refine ⟨grounded_of_isGroundedWithin (grounded decl member), ?_⟩
  simp [noneRequired decl member]

/-- A role below another spelling of its own name. -/
def ownSpelling : List RoleDecl := [.concrete "a" [], .concrete "A" ["a"]]

/-- A role below one spelling of a name, of which another one is registered. -/
def middleSpelling : List RoleDecl :=
  [.concrete "top" [], .concrete "Middle" [], .concrete "leaf" ["Middle"],
    .concrete "middle" ["top"]]

theorem above_leaf {above : String}
    (reached : Relation.TransGen (IsSuperclass middleSpelling) "leaf" above) :
    above = "Middle" := by
  induction reached with
  | single step => simpa [RoleDecl.concrete] using step.mem rfl
  | tail _ step ih =>
      subst ih
      simpa [RoleDecl.concrete] using step.mem rfl

/-- Both failures occur: a role that is its own ancestor, and one that does not have the ancestors
of its ancestor. -/
theorem ancestors_not_ordered_where_respelled :
    (∃ ontology role, ofTables ownSpelling [] = .ok ontology ∧ ontology.role? "a" = some role ∧
      role.ancestors.contains role.name = true) ∧
    ∃ ontology leaf middle, ofTables middleSpelling [] = .ok ontology ∧
      ontology.role? "leaf" = some leaf ∧ ontology.role? "middle" = some middle ∧
      leaf.ancestors.contains middle.name = true ∧ middle.ancestors.contains "TOP" = true ∧
      leaf.ancestors.contains "TOP" = false := by
  constructor
  · rcases exists_ofTables_of_isGroundedWithin ownSpelling 2 (by decide) (by decide) with
      ⟨ontology, accepted⟩
    have last : lastNamed? ownSpelling (Text.upper "a") = some (.concrete "A" ["a"]) := rfl
    rcases exists_role?_of_lastNamed? accepted last with ⟨role, registered, named, complete⟩
    refine ⟨ontology, role, accepted, registered, ?_⟩
    rw [named]
    exact (complete _).mpr ⟨"a", .single ⟨_, rfl, by simp [RoleDecl.concrete]⟩, rfl⟩
  · rcases exists_ofTables_of_isGroundedWithin middleSpelling 2 (by decide) (by decide) with
      ⟨ontology, accepted⟩
    have leafLast : lastNamed? middleSpelling (Text.upper "leaf") =
        some (.concrete "leaf" ["Middle"]) := rfl
    have middleLast : lastNamed? middleSpelling (Text.upper "middle") =
        some (.concrete "middle" ["top"]) := rfl
    rcases exists_role?_of_lastNamed? accepted leafLast with
      ⟨leaf, leafRegistered, _, leafComplete⟩
    rcases exists_role?_of_lastNamed? accepted middleLast with
      ⟨middle, middleRegistered, middleNamed, middleComplete⟩
    refine ⟨ontology, leaf, middle, accepted, leafRegistered, middleRegistered, ?_, ?_, ?_⟩
    · rw [middleNamed]
      exact (leafComplete _).mpr ⟨"Middle", .single ⟨_, rfl, by simp [RoleDecl.concrete]⟩, rfl⟩
    · exact (middleComplete _).mpr ⟨"top", .single ⟨_, rfl, by simp [RoleDecl.concrete]⟩, rfl⟩
    · rw [← Bool.not_eq_true, leafComplete]
      rintro ⟨above, reached, isTop⟩
      rw [above_leaf reached] at isTop
      exact absurd isTop (by decide)

end Ontology
end AccessAudit
