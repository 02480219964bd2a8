import AccessAudit.Proofs.Role.Ancestry
import AccessAudit.Proofs.Text.LetterCase
import AccessAudit.Role.Ontology

/-!
# Which tables make an ontology, and which one

This file proves which roles `Ontology.ofTables` registers, for which tables it succeeds, and that
its errors tell of defects the tables have.

Declarations are resolved one after the other, each with what the earlier ones have left: the roles
registered and the ancestors found. One step is right (`Ontology.resolveNext_outcome`), a step and
the stretch after it are right together (`Ontology.ResolveOutcome.cons`), and so is the whole run.
-/

namespace AccessAudit
namespace Taxonomy

/-- The last declaration of a name, given in capitals, ignoring case. -/
def lastNamed? (taxonomy : List RoleDecl) (capitals : String) : Option RoleDecl :=
  taxonomy.reverse.find? fun decl => Text.upper decl.name == capitals

theorem lastNamed?_cons (decl : RoleDecl) (taxonomy : List RoleDecl) (capitals : String) :
    lastNamed? (decl :: taxonomy) capitals =
      (lastNamed? taxonomy capitals).or
        (if Text.upper decl.name = capitals then some decl else none) := by
  simp only [lastNamed?, List.reverse_cons, List.find?_append, List.find?_singleton, beq_iff_eq]

theorem lastNamed?_isSome {taxonomy : List RoleDecl} {capitals : String} :
    (lastNamed? taxonomy capitals).isSome = true ↔
      ∃ decl ∈ taxonomy, Text.upper decl.name = capitals := by
  simp [lastNamed?, List.find?_isSome]

theorem upper_of_lastNamed? {taxonomy : List RoleDecl} {capitals : String} {decl : RoleDecl}
    (last : lastNamed? taxonomy capitals = some decl) : Text.upper decl.name = capitals := by
  simpa using List.find?_some last

end Taxonomy

namespace Role

theorem interactive_ofDecl {decl : RoleDecl} {ancestors : NameSet} :
    (ofDecl decl ancestors).interactive = true ↔
      Text.upper decl.name = "WIDGET" ∨ Text.upper decl.name = "TOOLBAR" ∨
        ancestors.contains "WIDGET" = true := by
  have widget : Text.upper "widget" = "WIDGET" := rfl
  simp only [ofDecl, descendsFrom, Bool.or_eq_true, Text.eqIgnoringCase_iff_upper,
    Text.upper_upper, widget, beq_iff_eq]
  rw [or_assoc, or_comm (a := ancestors.contains "WIDGET" = true)]

theorem contains_required_ofDecl {decl : RoleDecl} {ancestors : NameSet} {capitals : String} :
    (ofDecl decl ancestors).required.contains capitals = true ↔
      ∃ property ∈ decl.required, Text.upper property = capitals := by
  simp only [ofDecl, NameSet.contains_ofList, List.mem_map]

end Role

namespace Ontology

open Taxonomy

variable {taxonomy decls : List RoleDecl} {implicit : List ImplicitRole}

/-- What a declaration must be like to be resolved. -/
structure Accepted (taxonomy : List RoleDecl) (decl : RoleDecl) : Prop where
  grounded : Grounded taxonomy decl.name
  known : ∀ property ∈ decl.required, Property.isKnown property = true

/-- The roles after a stretch of declarations: under every name the last one of that name, with
its ancestors, and what was there before where there is none. -/
def Registers (taxonomy decls : List RoleDecl) (before after : Dictionary Role) : Prop :=
  ∀ capitals,
    (∃ decl ancestors, lastNamed? decls capitals = some decl ∧
      IsAncestorSet taxonomy decl.name ancestors ∧
      after.get? capitals = some (Role.ofDecl decl ancestors)) ∨
    (lastNamed? decls capitals = none ∧ after.get? capitals = before.get? capitals)

/-- The outcomes that are right where a stretch of declarations is resolved. -/
def ResolveOutcome (taxonomy decls : List RoleDecl) (before : Dictionary Role) :
    Except OntologyError (Dictionary Role × Ancestry) → Prop
  | .ok (roles, found) =>
      (∀ decl ∈ decls, Accepted taxonomy decl) ∧ Registers taxonomy decls before roles ∧
        Sound taxonomy found
  | .error cause =>
      Defect taxonomy cause ∨ ∃ decl ∈ decls, ∃ property ∈ decl.required,
        Property.isKnown property = false ∧ cause = .unknownProperty decl.name property

theorem registers_insert {decl : RoleDecl} {ancestors : NameSet} (before : Dictionary Role)
    (complete : IsAncestorSet taxonomy decl.name ancestors) :
    Registers taxonomy [decl] before
      (before.insert (Text.upper decl.name) (Role.ofDecl decl ancestors)) := by
  intro capitals
  rw [lastNamed?_cons, Dictionary.get?_insert]
  by_cases same : Text.upper decl.name = capitals
  · left
    refine ⟨decl, ancestors, ?_, complete, ?_⟩
    · rw [if_pos same]
      rfl
    · rw [if_pos same.symm]
  · right
    rw [if_neg same, if_neg (Ne.symm same)]
    exact ⟨rfl, rfl⟩

theorem resolveNext_outcome {state : Dictionary Role × Ancestry} {decl : RoleDecl}
    (member : decl ∈ taxonomy) (sound : Sound taxonomy state.2) :
    ResolveOutcome taxonomy [decl] state.1 (resolveNext taxonomy state decl) := by
  have isDeclared : declares taxonomy decl.name = true := declares_iff.mpr ⟨decl, member, rfl⟩
  have outcome := ancestors_outcome [] sound isDeclared (by simp)
  rw [resolveNext]
  cases result : ancestors taxonomy [] decl.name state.2 with
  | error cause =>
      rw [result] at outcome
      exact Or.inl outcome
  | ok value =>
      rw [result] at outcome
      rcases outcome with ⟨resolved, soundAfter⟩
      rcases value with ⟨ancestors, found⟩
      cases search : decl.required.find? fun property => !Property.isKnown property with
      | some property =>
          have unknown : Property.isKnown property = false := by
            simpa using List.find?_some search
          simp only [bind, Except.bind]
          exact Or.inr ⟨decl, by simp, property, List.mem_of_find?_eq_some search, unknown, rfl⟩
      | none =>
          have known : ∀ property ∈ decl.required, Property.isKnown property = true := by
            simpa using search
          simp only [bind, Except.bind]
          refine ⟨?_, registers_insert state.1 resolved.complete, soundAfter⟩
          intro other isDecl
          rw [List.mem_singleton.mp isDecl]
          exact ⟨resolved.grounded, known⟩

theorem Registers.cons {decl : RoleDecl} {before middle after : Dictionary Role}
    (first : Registers taxonomy [decl] before middle)
    (later : Registers taxonomy decls middle after) :
    Registers taxonomy (decl :: decls) before after := by
  intro capitals
  rw [lastNamed?_cons]
  rcases later capitals with ⟨last, ancestors, isLast, complete, registered⟩ | ⟨none, unchanged⟩
  · left
    rw [isLast]
    exact ⟨last, ancestors, rfl, complete, registered⟩
  · have single := first capitals
    rw [lastNamed?_cons] at single
    rw [none, unchanged]
    exact single

theorem ResolveOutcome.cons {decl : RoleDecl} {before middle : Dictionary Role} {found : Ancestry}
    {result : Except OntologyError (Dictionary Role × Ancestry)}
    (first : ResolveOutcome taxonomy [decl] before (.ok (middle, found)))
    (later : ResolveOutcome taxonomy decls middle result) :
    ResolveOutcome taxonomy (decl :: decls) before result := by
  cases result with
  | error cause =>
      rcases later with defect | ⟨other, member, unknown⟩
      · exact Or.inl defect
      · exact Or.inr ⟨other, List.mem_cons_of_mem _ member, unknown⟩
  | ok value =>
      rcases first with ⟨firstAccepted, firstRegisters, _⟩
      rcases later with ⟨laterAccepted, laterRegisters, sound⟩
      refine ⟨?_, firstRegisters.cons laterRegisters, sound⟩
      intro other member
      rcases List.mem_cons.mp member with same | inDecls
      · exact firstAccepted other (by simp [same])
      · exact laterAccepted other inDecls

theorem foldlM_resolveNext_outcome (state : Dictionary Role × Ancestry)
    (members : ∀ decl ∈ decls, decl ∈ taxonomy) (sound : Sound taxonomy state.2) :
    ResolveOutcome taxonomy decls state.1 (decls.foldlM (resolveNext taxonomy) state) := by
  induction decls generalizing state with
  | nil => exact ⟨by simp, fun capitals => Or.inr ⟨rfl, rfl⟩, sound⟩
  | cons decl decls ih =>
      have first := resolveNext_outcome (members decl (by simp)) sound
      rw [List.foldlM_cons]
      cases result : resolveNext taxonomy state decl with
      | error cause =>
          rw [result] at first
          rcases first with defect | ⟨other, member, unknown⟩
          · exact Or.inl defect
          · exact Or.inr ⟨other, by simp_all, unknown⟩
      | ok next =>
          rw [result] at first
          have later := ih next (fun other member => members other (by simp [member])) first.2.2
          exact first.cons later

/-- The outcome of the whole run, from nothing registered and nothing found. -/
theorem resolve_outcome (taxonomy : List RoleDecl) :
    match resolve taxonomy with
    | .ok roles =>
        (∀ decl ∈ taxonomy, Accepted taxonomy decl) ∧
          Registers taxonomy taxonomy Dictionary.empty roles
    | .error cause =>
        Defect taxonomy cause ∨ ∃ decl ∈ taxonomy, ∃ property ∈ decl.required,
          Property.isKnown property = false ∧ cause = .unknownProperty decl.name property := by
  have nothingKept : Sound taxonomy Dictionary.empty := by
    intro name ancestors isKept
    cases isKept
  have outcome := foldlM_resolveNext_outcome (Dictionary.empty, Dictionary.empty)
    (fun decl member => member) nothingKept
  rw [resolve]
  cases result : taxonomy.foldlM (resolveNext taxonomy) (Dictionary.empty, Dictionary.empty) with
  | error cause =>
      rw [result] at outcome
      exact outcome
  | ok value =>
      rw [result] at outcome
      exact ⟨outcome.1, outcome.2.1⟩

theorem checkImplicit_outcome (roles : Dictionary Role) (entry : ImplicitRole) :
    match checkImplicit roles entry with
    | .ok _ => ∀ role ∈ entry.roles, roles.contains (Text.upper role) = true
    | .error cause =>
        ∃ role ∈ entry.roles, roles.contains (Text.upper role) = false ∧
          cause = .unknownMappedRole entry.tag role := by
  rw [checkImplicit]
  cases search : entry.roles.find? fun role => !roles.contains (Text.upper role) with
  | some role =>
      have unknown : roles.contains (Text.upper role) = false := by
        simpa using List.find?_some search
      exact ⟨role, List.mem_of_find?_eq_some search, unknown, rfl⟩
  | none => simpa using search

theorem forM_checkImplicit_outcome (roles : Dictionary Role) (implicit : List ImplicitRole) :
    match implicit.forM (checkImplicit roles) with
    | .ok _ => ∀ entry ∈ implicit, ∀ role ∈ entry.roles, roles.contains (Text.upper role) = true
    | .error cause =>
        ∃ entry ∈ implicit, ∃ role ∈ entry.roles, roles.contains (Text.upper role) = false ∧
          cause = .unknownMappedRole entry.tag role := by
  induction implicit with
  | nil => simp [pure, Except.pure]
  | cons entry implicit ih =>
      have first := checkImplicit_outcome roles entry
      simp only [List.forM, bind, Except.bind]
      cases firstResult : checkImplicit roles entry with
      | error cause =>
          rw [firstResult] at first
          exact ⟨entry, by simp, first⟩
      | ok _ =>
          rw [firstResult] at first
          cases laterResult : implicit.forM (checkImplicit roles) with
          | error cause =>
              rw [laterResult] at ih
              rcases ih with ⟨other, member, unknown⟩
              exact ⟨other, List.mem_cons_of_mem _ member, unknown⟩
          | ok _ =>
              rw [laterResult] at ih
              intro other member
              rcases List.mem_cons.mp member with same | inRest
              · rw [same]
                exact first
              · exact ih other inRest

theorem Registers.contains_iff {roles : Dictionary Role}
    (registers : Registers taxonomy taxonomy Dictionary.empty roles) (role : String) :
    roles.contains (Text.upper role) = true ↔
      ∃ decl ∈ taxonomy, Text.eqIgnoringCase decl.name role = true := by
  simp only [Text.eqIgnoringCase_iff_upper, ← lastNamed?_isSome, Dictionary.contains]
  rcases registers (Text.upper role) with ⟨decl, ancestors, last, _, found⟩ | ⟨none, same⟩
  · simp [last, found]
  · simp [none, same]

/-- The tables have no defect. -/
structure Consistent (taxonomy : List RoleDecl) (implicit : List ImplicitRole) : Prop where
  superclassesDeclared : ∀ role superclass, IsSuperclass taxonomy role superclass →
    ∃ decl ∈ taxonomy, decl.name = superclass
  acyclic : ∀ role, ¬Relation.TransGen (IsSuperclass taxonomy) role role
  /-- Declarations that do not count for their names have to pass here as well. -/
  propertiesKnown : ∀ decl ∈ taxonomy, ∀ property ∈ decl.required,
    Property.isKnown property = true
  mappedRolesDeclared : ∀ entry ∈ implicit, ∀ role ∈ entry.roles,
    ∃ decl ∈ taxonomy, Text.eqIgnoringCase decl.name role = true

/-- The tables have the defect that an error tells of. -/
def Genuine (taxonomy : List RoleDecl) (implicit : List ImplicitRole) : OntologyError → Prop
  | .cycle role => Relation.TransGen (IsSuperclass taxonomy) role role
  | .unknownSuperclass role superclass =>
      IsSuperclass taxonomy role superclass ∧ ∀ decl ∈ taxonomy, decl.name ≠ superclass
  | .unknownRole _ => False
  | .unknownProperty role property =>
      (∃ decl ∈ taxonomy, decl.name = role ∧ property ∈ decl.required) ∧
        Property.isKnown property = false
  | .unknownMappedRole tag role =>
      (∃ entry ∈ implicit, entry.tag = tag ∧ role ∈ entry.roles) ∧
        (∀ decl ∈ taxonomy, Text.eqIgnoringCase decl.name role = false) ∧
        ∃ ontology, ofTables taxonomy [] = .ok ontology

theorem genuine_of_defect {cause : OntologyError} (defect : Defect taxonomy cause) :
    Genuine taxonomy implicit cause := by
  cases defect with
  | cycle cycle => exact cycle
  | unknownSuperclass listed undeclared =>
      refine ⟨listed, ?_⟩
      intro decl member same
      rw [declares_iff.mpr ⟨decl, member, same⟩] at undeclared
      cases undeclared

theorem ofTables_of_resolve_eq_ok {roles : Dictionary Role}
    (resolved : resolve taxonomy = .ok roles) (implicit : List ImplicitRole) :
    ofTables taxonomy implicit =
      (implicit.forM (checkImplicit roles)).map fun _ => { roles, implicit } := by
  simp only [ofTables, resolved, bind, Except.bind]
  cases implicit.forM (checkImplicit roles) <;> rfl

theorem ofTables_of_resolve_eq_error {cause : OntologyError}
    (fails : resolve taxonomy = .error cause) (implicit : List ImplicitRole) :
    ofTables taxonomy implicit = .error cause := by
  rw [ofTables, fails]
  rfl

theorem ofTables_outcome (taxonomy : List RoleDecl) (implicit : List ImplicitRole) :
    match ofTables taxonomy implicit with
    | .ok ontology =>
        (∀ decl ∈ taxonomy, Accepted taxonomy decl) ∧
          Registers taxonomy taxonomy Dictionary.empty ontology.roles ∧
          ∀ entry ∈ implicit, ∀ role ∈ entry.roles,
            ∃ decl ∈ taxonomy, Text.eqIgnoringCase decl.name role = true
    | .error cause => Genuine taxonomy implicit cause := by
  have resolution := resolve_outcome taxonomy
  cases resolved : resolve taxonomy with
  | error cause =>
      rw [ofTables_of_resolve_eq_error resolved]
      rw [resolved] at resolution
      rcases resolution with defect | ⟨decl, member, property, required, unknown, rfl⟩
      · exact genuine_of_defect defect
      · exact ⟨⟨decl, member, rfl, required⟩, unknown⟩
  | ok roles =>
      have taxonomyAlone : ∃ ontology, ofTables taxonomy [] = .ok ontology :=
        ⟨_, ofTables_of_resolve_eq_ok resolved []⟩
      have mapping := forM_checkImplicit_outcome roles implicit
      rw [ofTables_of_resolve_eq_ok resolved]
      rw [resolved] at resolution
      rcases resolution with ⟨accepted, registers⟩
      cases checked : implicit.forM (checkImplicit roles) with
      | error cause =>
          rw [checked] at mapping
          rcases mapping with ⟨entry, member, role, mapped, unknown, rfl⟩
          refine ⟨⟨entry, member, rfl, mapped⟩, ?_, taxonomyAlone⟩
          intro decl declared
          rw [← Bool.not_eq_true]
          intro same
          rw [(registers.contains_iff role).mpr ⟨decl, declared, same⟩] at unknown
          cases unknown
      | ok _ =>
          rw [checked] at mapping
          refine ⟨accepted, registers, ?_⟩
          intro entry member role mapped
          exact (registers.contains_iff role).mp (mapping entry member role mapped)

/-- The concrete roles are those whose last declaration, ignoring case, is not abstract. -/
theorem concrete?_isSome_iff {ontology : Ontology}
    (accepted : ofTables taxonomy implicit = .ok ontology) (name : String) :
    (ontology.concrete? name).isSome = true ↔
      ∃ decl, lastNamed? taxonomy (Text.upper name) = some decl ∧ decl.isAbstract = false := by
  have outcome := ofTables_outcome taxonomy implicit
  rw [accepted] at outcome
  rcases outcome with ⟨_, registers, _⟩
  rcases registers (Text.upper name) with ⟨decl, ancestors, last, _, found⟩ | ⟨none, same⟩
  · have sameKind : (Role.ofDecl decl ancestors).isAbstract = decl.isAbstract := rfl
    simp [concrete?, role?, found, last, sameKind]
  · simp [concrete?, role?, same, none]

theorem consistent_of_accepted (accepted : ∀ decl ∈ taxonomy, Accepted taxonomy decl)
    (mapped : ∀ entry ∈ implicit, ∀ role ∈ entry.roles,
      ∃ decl ∈ taxonomy, Text.eqIgnoringCase decl.name role = true) :
    Consistent taxonomy implicit := by
  have grounded : ∀ {role superclass : String}, IsSuperclass taxonomy role superclass →
      Grounded taxonomy role := by
    rintro role superclass ⟨decl, declared, _⟩
    rw [← name_of_decl?_eq_some declared]
    exact (accepted decl (mem_of_decl?_eq_some declared)).grounded
  refine ⟨?_, ?_, fun decl member => (accepted decl member).known, mapped⟩
  · intro role superclass step
    exact declares_iff.mp ((grounded step).above step).declares
  · intro role cycle
    rcases Relation.TransGen.head'_iff.mp cycle with ⟨superclass, step, _⟩
    exact (grounded step).acyclic cycle

theorem Consistent.not_genuine (consistent : Consistent taxonomy implicit) (cause : OntologyError) :
    ¬Genuine taxonomy implicit cause := by
  intro genuine
  cases cause with
  | cycle role => exact consistent.acyclic role genuine
  | unknownSuperclass role superclass =>
      rcases genuine with ⟨listed, undeclared⟩
      rcases consistent.superclassesDeclared role superclass listed with ⟨decl, member, named⟩
      exact undeclared decl member named
  | unknownRole role => exact genuine
  | unknownProperty role property =>
      rcases genuine with ⟨⟨decl, member, _, required⟩, unknown⟩
      rw [consistent.propertiesKnown decl member property required] at unknown
      cases unknown
  | unknownMappedRole tag role =>
      rcases genuine with ⟨⟨entry, member, _, mapped⟩, undeclared, _⟩
      rcases consistent.mappedRolesDeclared entry member role mapped with ⟨decl, declared, same⟩
      rw [undeclared decl declared] at same
      cases same

theorem exists_ofTables_eq_ok (consistent : Consistent taxonomy implicit) :
    ∃ ontology, ofTables taxonomy implicit = .ok ontology := by
  have outcome := ofTables_outcome taxonomy implicit
  cases result : ofTables taxonomy implicit with
  | error cause =>
      rw [result] at outcome
      exact absurd outcome (consistent.not_genuine cause)
  | ok ontology => exact ⟨ontology, rfl⟩

/-- Every ontology that tables make has, under each name in capitals, the last declaration of that
name ignoring case, with all that is above it along the declarations that count. -/
theorem roles_of_ofTables {ontology : Ontology}
    (accepted : ofTables taxonomy implicit = .ok ontology) (capitals : String) :
    match lastNamed? taxonomy capitals with
    | none => ontology.roles.get? capitals = none
    | some decl =>
        ∃ role, ontology.roles.get? capitals = some role ∧
          role.name = capitals ∧
          role.isAbstract = decl.isAbstract ∧
          (∀ name, role.ancestors.contains name = true ↔
            ∃ above, Relation.TransGen (IsSuperclass taxonomy) decl.name above ∧
              Text.upper above = name) ∧
          (role.interactive = true ↔ capitals = "WIDGET" ∨ capitals = "TOOLBAR" ∨
            role.ancestors.contains "WIDGET" = true) ∧
          ∀ name, role.required.contains name = true ↔
            ∃ property ∈ decl.required, Text.upper property = name := by
  have outcome := ofTables_outcome taxonomy implicit
  rw [accepted] at outcome
  rcases outcome with ⟨_, registers, _⟩
  rcases registers capitals with ⟨decl, ancestors, last, complete, found⟩ | ⟨none, same⟩
  · rw [last]
    have named := upper_of_lastNamed? last
    refine ⟨Role.ofDecl decl ancestors, found, named, rfl, complete, ?_, ?_⟩
    · rw [Role.interactive_ofDecl, named]
      rfl
    · intro name
      exact Role.contains_required_ofDecl
  · rw [none]
    exact same

/-- A taxonomy with a name in two spellings and two ways up from it. -/
def diamond : List RoleDecl :=
  [.abstract "widget" [], .concrete "left" ["widget"], .concrete "right" ["widget"],
    .concrete "Leaf" [], .requiring "leaf" ["left", "right"] ["aria-checked"]]

theorem diamond_accepted : ∀ decl ∈ diamond, Accepted diamond decl := by
  have widget : Grounded diamond "widget" := .intro rfl (by simp [RoleDecl.abstract])
  have left : Grounded diamond "left" := .intro rfl (by simpa [RoleDecl.concrete] using widget)
  have right : Grounded diamond "right" := .intro rfl (by simpa [RoleDecl.concrete] using widget)
  have capital : Grounded diamond "Leaf" := .intro rfl (by simp [RoleDecl.concrete])
  have leaf : Grounded diamond "leaf" :=
    .intro rfl (by simpa [RoleDecl.requiring] using ⟨left, right⟩)
  have checkedKnown : Property.isKnown "aria-checked" = true := by decide
  intro decl member
  simp only [diamond, List.mem_cons, List.not_mem_nil, or_false] at member
  rcases member with rfl | rfl | rfl | rfl | rfl
  · exact ⟨widget, by simp [RoleDecl.abstract]⟩
  · exact ⟨left, by simp [RoleDecl.concrete]⟩
  · exact ⟨right, by simp [RoleDecl.concrete]⟩
  · exact ⟨capital, by simp [RoleDecl.concrete]⟩
  · exact ⟨leaf, by simpa [RoleDecl.requiring] using checkedKnown⟩

theorem roles_of_diamond :
    ∃ ontology role, ofTables diamond [] = .ok ontology ∧
      ontology.roles.get? "LEAF" = some role ∧ role.interactive = true ∧
      role.required.contains "ARIA-CHECKED" = true := by
  have consistent : Consistent diamond [] := consistent_of_accepted diamond_accepted (by simp)
  rcases exists_ofTables_eq_ok consistent with ⟨ontology, accepted⟩
  have atLeaf := roles_of_ofTables accepted "LEAF"
  have last : lastNamed? diamond "LEAF" =
      some (.requiring "leaf" ["left", "right"] ["aria-checked"]) := rfl
  rw [last] at atLeaf
  rcases atLeaf with ⟨role, found, _, _, ancestors, interactive, required⟩
  have toLeft : IsSuperclass diamond "leaf" "left" := ⟨_, rfl, by simp [RoleDecl.requiring]⟩
  have toWidget : IsSuperclass diamond "left" "widget" := ⟨_, rfl, by simp [RoleDecl.concrete]⟩
  have widgetAbove := (ancestors "WIDGET").mpr ⟨"widget", .tail (.single toLeft) toWidget, rfl⟩
  refine ⟨ontology, role, accepted, found, interactive.mpr (Or.inr (Or.inr widgetAbove)), ?_⟩
  exact (required "ARIA-CHECKED").mpr ⟨"aria-checked", by simp [RoleDecl.requiring], rfl⟩

/-- Tables make an ontology exactly if they have no defect, and an error tells of one they have. -/
theorem ofTables_succeeds_iff_consistent (taxonomy : List RoleDecl)
    (implicit : List ImplicitRole) :
    ((∃ ontology, ofTables taxonomy implicit = .ok ontology) ↔ Consistent taxonomy implicit) ∧
      ∀ cause, ofTables taxonomy implicit = .error cause → Genuine taxonomy implicit cause := by
  have outcome := ofTables_outcome taxonomy implicit
  refine ⟨⟨?_, exists_ofTables_eq_ok⟩, ?_⟩
  · rintro ⟨ontology, accepts⟩
    rw [accepts] at outcome
    rcases outcome with ⟨accepted, _, mapped⟩
    exact consistent_of_accepted accepted mapped
  · intro cause fails
    rw [fails] at outcome
    exact outcome

end Ontology
end AccessAudit
