import AccessAudit.Proofs.Role.Specificity

/-!
# How implicit roles hang on attributes

This file proves what changes of the attributes leave implicit roles as they are, in any ontology
and with the standard table.

In the standard table most tags leave little to decide: their entries ask for no attribute, or all
of them for the same one, so that an element without it has no implicit role at all. The other tags
have a usual role, and one attribute which with certain values gives another one. These are listed
as `RoleSwitch.standard`; that there are no others is checked against the table.
-/

namespace AccessAudit

namespace Constraint

theorem holds_congr {constraint : Constraint} {left right : List Attribute}
    (same : Attribute.readingOf left constraint.asked =
      Attribute.readingOf right constraint.asked) :
    constraint.holds left = constraint.holds right := by
  cases constraint with
  | present name => simp_all [holds, asked]
  | equals name expected => simp_all [holds, asked]

end Constraint

namespace ImplicitRole

variable {entry : ImplicitRole} {left right : List Attribute}

def asked (entry : ImplicitRole) : List String := entry.constraints.map Constraint.asked

theorem matchesAttributes_congr
    (same : ∀ name ∈ entry.asked,
      Attribute.readingOf left name = Attribute.readingOf right name) :
    entry.matchesAttributes left = entry.matchesAttributes right := by
  have holds : ∀ constraint ∈ entry.constraints,
      constraint.holds left = constraint.holds right := by
    intro constraint member
    exact Constraint.holds_congr (same _ (List.mem_map_of_mem member))
  rw [matchesAttributes, matchesAttributes, Bool.eq_iff_iff, List.all_eq_true, List.all_eq_true]
  apply forall₂_congr
  intro constraint member
  rw [holds constraint member]

theorem known_of_matchesAttributes (satisfied : entry.matchesAttributes left = true)
    {name : String} (isAsked : name ∈ entry.asked) :
    ∃ value, Attribute.readingOf left name = .known value := by
  rcases List.mem_map.mp isAsked with ⟨constraint, member, rfl⟩
  exact Constraint.known_of_holds (List.all_eq_true.mp satisfied constraint member)

end ImplicitRole

namespace Ontology

variable {ontology : Ontology} {tag : String} {attributes left right : List Attribute}

/-- The entry is about the tag, and the attributes satisfy it. -/
def Applies (ontology : Ontology) (tag : String) (attributes : List Attribute)
    (entry : ImplicitRole) : Prop :=
  entry ∈ ontology.implicit ∧ entry.tag = Text.lower tag ∧
    entry.matchesAttributes attributes = true

theorem applies_iff_fits {entry : ImplicitRole} :
    ontology.Applies tag attributes entry ↔
      entry ∈ ontology.implicit ∧ entry.Fits tag attributes := by
  simp [Applies, ImplicitRole.Fits, ImplicitRole.matchesAttributes]

theorem applies_of_isChoice {entry : ImplicitRole}
    (choice : ImplicitRole.IsChoice ontology.implicit tag attributes entry) :
    ontology.Applies tag attributes entry :=
  applies_iff_fits.mpr ⟨choice.mem, choice.fits⟩

/-- Where an entry applies, one with the most constraints is chosen. -/
theorem exists_implicitEntry? {entry : ImplicitRole}
    (applies : ontology.Applies tag attributes entry) :
    ∃ best, ontology.implicitEntry? tag attributes = some best ∧
      ontology.Applies tag attributes best ∧
      ∀ other, ontology.Applies tag attributes other →
        other.constraints.length ≤ best.constraints.length := by
  cases found : ontology.implicitEntry? tag attributes with
  | none =>
      rcases applies_iff_fits.mp applies with ⟨listed, fits⟩
      exact absurd fits (implicitEntry?_eq_none_iff.mp found entry listed)
  | some best =>
      have choice := implicitEntry?_eq_some_iff.mp found
      refine ⟨best, rfl, applies_of_isChoice choice, ?_⟩
      intro other otherApplies
      rcases applies_iff_fits.mp otherApplies with ⟨listed, fits⟩
      exact choice.most listed fits

theorem exists_applies_of_implicitRole? {role : String}
    (implicit : ontology.implicitRole? tag attributes = some role) :
    ∃ entry, ontology.Applies tag attributes entry := by
  rcases Option.bind_eq_some_iff.mp implicit with ⟨roles, given, _⟩
  rcases Option.map_eq_some_iff.mp given with ⟨entry, found, _⟩
  exact ⟨entry, applies_of_isChoice (implicitEntry?_eq_some_iff.mp found)⟩

theorem implicitRoles?_congr
    (same : ∀ entry ∈ ontology.implicit, entry.tag = Text.lower tag →
      entry.matchesAttributes left = entry.matchesAttributes right) :
    ontology.implicitRoles? tag left = ontology.implicitRoles? tag right := by
  have applicable : ImplicitRole.fitting ontology.implicit tag left =
      ImplicitRole.fitting ontology.implicit tag right := by
    apply List.filter_congr
    intro entry member
    cases isTag : entry.tag == Text.lower tag with
    | true => simp [same entry member (beq_iff_eq.mp isTag)]
    | false => simp
  rw [implicitRoles?, implicitRoles?, implicitEntry?_eq, implicitEntry?_eq, applicable]

end Ontology

/-- An attribute that decides between the usual role of a tag and others. -/
structure RoleSwitch where
  tag : String
  attributeName : String
  usual : String
  /-- The values that give another role than the usual one. -/
  values : List String

namespace RoleSwitch

def standard : List RoleSwitch :=
  [⟨"img", "alt", "img", [""]⟩,
    ⟨"input", "type", "textbox",
      ["button", "image", "reset", "submit", "checkbox", "radio", "range", "number", "search"]⟩]

/-- The value of the attribute gives another role. -/
def isThrown (switch : RoleSwitch) (reading : Reading) : Bool :=
  switch.values.any reading.equals

theorem isThrown_unknown (switch : RoleSwitch) : switch.isThrown .unknown = false := by
  simp [isThrown, Reading.equals, Reading.text?]

theorem isThrown_string {switch : RoleSwitch} {text : String} :
    switch.isThrown (.known (.string text)) = true ↔
      ∃ value ∈ switch.values, Text.eqIgnoringCase text value = true := by
  simp [isThrown, Reading.equals, Reading.text?, Value.isNullish, Value.text]

/-- The entry gives the usual role, or else asks for one of the values that give another. -/
def governs (switch : RoleSwitch) (entry : ImplicitRole) : Bool :=
  match entry.constraints, entry.roles with
  | [], [role] => role == switch.usual
  | [.equals name value], [role] =>
    name == switch.attributeName &&
      if value ∈ switch.values then !Text.eqIgnoringCase role switch.usual
      else role == switch.usual &&
        switch.values.all fun other => !Text.eqIgnoringCase value other
  | _, _ => false

theorem governs_cases {switch : RoleSwitch} {entry : ImplicitRole}
    (governs : switch.governs entry = true) :
    (entry.constraints = [] ∧ entry.roles = [switch.usual]) ∨
      ∃ value role, entry.constraints = [.equals switch.attributeName value] ∧
        entry.roles = [role] ∧
        (value ∈ switch.values → Text.eqIgnoringCase role switch.usual = false) ∧
        (value ∉ switch.values → role = switch.usual ∧
          ∀ other ∈ switch.values, Text.eqIgnoringCase value other = false) := by
  unfold RoleSwitch.governs at governs
  split at governs
  · rename_i role constraints roles
    left
    rw [beq_iff_eq] at governs
    exact ⟨constraints, by rw [roles, governs]⟩
  · rename_i name value role constraints roles
    right
    rw [Bool.and_eq_true, beq_iff_eq] at governs
    rcases governs with ⟨rfl, distinguishes⟩
    refine ⟨value, role, constraints, roles, ?_, ?_⟩
    · intro member
      simpa [member] using distinguishes
    · intro notMember
      simpa [notMember] using distinguishes
  · cases governs

/-- The table has a usual entry for the tag of every switch and an entry for each of its values,
and all its entries for the tag are governed by the switch. -/
theorem standard_governs : ∀ switch ∈ standard,
    .plain switch.tag [switch.usual] ∈ ImplicitRole.standard ∧
    (∀ value ∈ switch.values, ∃ entry ∈ ImplicitRole.standard, entry.tag = switch.tag ∧
      entry.constraints = [.equals switch.attributeName value]) ∧
    ∀ entry ∈ ImplicitRole.standard, entry.tag = switch.tag → switch.governs entry = true := by
  decide +kernel

/-- Where there is no switch, the entries for a tag ask for the same attributes. -/
theorem asked_eq_of_no_switch : ∀ left ∈ ImplicitRole.standard, ∀ right ∈ ImplicitRole.standard,
    left.tag = right.tag → (∀ switch ∈ standard, switch.tag ≠ left.tag) →
      left.asked = right.asked := by
  decide +kernel

theorem applies_iff {tag : String} {attributes : List Attribute} {entry : ImplicitRole} :
    Ontology.standard.Applies tag attributes entry ↔
      entry ∈ ImplicitRole.standard ∧ entry.tag = Text.lower tag ∧
        entry.matchesAttributes attributes = true := by
  rw [Ontology.Applies, Ontology.implicit_standard]

/-- An element of a tag without a switch has its implicit role from attributes that are known, and
keeps it as long as these stay as they are. -/
theorem implicitRole?_of_no_switch {tag role : String} {left right : List Attribute}
    (noSwitch : ∀ switch ∈ standard, switch.tag ≠ Text.lower tag)
    (kept : ∀ name value, Attribute.readingOf left name = .known value →
      Attribute.readingOf right name = .known value)
    (implicit : Ontology.standard.implicitRole? tag left = some role) :
    Ontology.standard.implicitRole? tag right = some role := by
  rcases Ontology.exists_applies_of_implicitRole? implicit with ⟨entry, applies⟩
  rcases applies_iff.mp applies with ⟨inTable, entryTag, satisfied⟩
  rw [← implicit, Ontology.implicitRole?, Ontology.implicitRole?]
  congr 1
  apply Ontology.implicitRoles?_congr
  rw [Ontology.implicit_standard]
  intro other otherInTable otherTag
  apply ImplicitRole.matchesAttributes_congr
  intro name isAsked
  have sameAsked := asked_eq_of_no_switch entry inTable other otherInTable
    (entryTag.trans otherTag.symm) (by rw [entryTag]; exact noSwitch)
  rw [← sameAsked] at isAsked
  rcases ImplicitRole.known_of_matchesAttributes satisfied isAsked with ⟨value, isKnown⟩
  rw [isKnown, kept name value isKnown]

theorem implicitRole?_congr {switch : RoleSwitch} (listed : switch ∈ standard) {tag : String}
    (isTag : Text.lower tag = switch.tag) {left right : List Attribute}
    (same : Attribute.readingOf left switch.attributeName =
      Attribute.readingOf right switch.attributeName) :
    Ontology.standard.implicitRole? tag left = Ontology.standard.implicitRole? tag right := by
  rw [Ontology.implicitRole?, Ontology.implicitRole?]
  congr 1
  apply Ontology.implicitRoles?_congr
  rw [Ontology.implicit_standard]
  intro entry inTable entryTag
  apply ImplicitRole.matchesAttributes_congr
  intro name isAsked
  have governs := (standard_governs switch listed).2.2 entry inTable (entryTag.trans isTag)
  rcases governs_cases governs with ⟨constraints, _⟩ | ⟨value, role, constraints, _⟩
  · simp [ImplicitRole.asked, constraints] at isAsked
  · simp only [ImplicitRole.asked, constraints, List.map_cons, List.map_nil, Constraint.asked,
      List.mem_singleton] at isAsked
    rw [isAsked, same]

theorem equals_of_equals {reading : Reading} {value other : String}
    (isValue : reading.equals value = true) (isOther : reading.equals other = true) :
    Text.eqIgnoringCase value other = true := by
  cases text : reading.text? with
  | none => simp [Reading.equals, text] at isValue
  | some text => simp_all [Reading.equals, Text.eqIgnoringCase_iff]

/-- A switch gives the usual role of the tag, unless the attribute has one of its values; the role
is then another one. -/
theorem implicitRole?_eq {switch : RoleSwitch} (listed : switch ∈ standard) {tag : String}
    (isTag : Text.lower tag = switch.tag) (attributes : List Attribute) :
    ∃ role, Ontology.standard.implicitRole? tag attributes = some role ∧
      if switch.isThrown (Attribute.readingOf attributes switch.attributeName) then
        Text.eqIgnoringCase role switch.usual = false
      else role = switch.usual := by
  rcases standard_governs switch listed with ⟨usual, others, governs⟩
  have usualApplies : Ontology.standard.Applies tag attributes
      (.plain switch.tag [switch.usual]) :=
    applies_iff.mpr ⟨usual, isTag.symm, rfl⟩
  rcases Ontology.exists_implicitEntry? usualApplies with ⟨best, found, bestApplies, most⟩
  rcases applies_iff.mp bestApplies with ⟨inTable, bestTag, satisfied⟩
  have implicit : Ontology.standard.implicitRole? tag attributes = best.roles.head? := by
    simp [Ontology.implicitRole?, Ontology.implicitRoles?, found]
  rcases governs_cases (governs best inTable (bestTag.trans isTag)) with
    ⟨constraints, roles⟩ | ⟨value, role, constraints, roles, another, isUsual⟩
  · refine ⟨switch.usual, by simp [implicit, roles], ?_⟩
    have notThrown : ¬switch.isThrown
        (Attribute.readingOf attributes switch.attributeName) = true := by
      intro thrown
      rcases List.any_eq_true.mp thrown with ⟨value, member, isValue⟩
      rcases others value member with ⟨entry, entryInTable, entryTag, entryConstraints⟩
      have more := most entry (applies_iff.mpr ⟨entryInTable, entryTag.trans isTag.symm, by
        simpa [ImplicitRole.matchesAttributes, entryConstraints, Constraint.holds] using isValue⟩)
      simp [constraints, entryConstraints] at more
    rw [if_neg notThrown]
  · refine ⟨role, by simp [implicit, roles], ?_⟩
    have isValue : (Attribute.readingOf attributes switch.attributeName).equals value = true := by
      simpa [ImplicitRole.matchesAttributes, constraints, Constraint.holds] using satisfied
    split
    · rename_i thrown
      rcases List.any_eq_true.mp thrown with ⟨other, member, isOther⟩
      apply another
      by_contra notMember
      have different := (isUsual notMember).2 other member
      rw [equals_of_equals isValue isOther] at different
      cases different
    · rename_i notThrown
      refine (isUsual ?_).1
      intro member
      exact notThrown (List.any_eq_true.mpr ⟨value, member, isValue⟩)

theorem implicitRole?_of_not_isThrown {switch : RoleSwitch} (listed : switch ∈ standard)
    {tag : String} (isTag : Text.lower tag = switch.tag) {attributes : List Attribute}
    (notThrown : switch.isThrown (Attribute.readingOf attributes switch.attributeName) = false) :
    Ontology.standard.implicitRole? tag attributes = some switch.usual := by
  rcases implicitRole?_eq listed isTag attributes with ⟨role, implicit, isUsual⟩
  rw [notThrown, if_neg Bool.false_ne_true] at isUsual
  rw [implicit, isUsual]

end RoleSwitch
end AccessAudit
