import AccessAudit.Proofs.Role.Standard
import Mathlib.Data.List.Induction
import Mathlib.Data.Option.Basic

/-!
# Which entry gives an element its implicit roles

This file proves that the entry that `ImplicitRole.mostSpecific?` keeps is the first one, in the
order of the table, of those that fit an element and have the most constraints.

The entries are scanned once, and the one that is kept gives way only to one with more constraints.
After each entry the one that is kept is the right choice from the table up to there
(`ImplicitRole.IsChoice.concat` and `ImplicitRole.IsChoice.replace`), so it is at the end. Only
the entries of the tag are scanned, which makes no difference (`Ontology.implicitEntry?_eq`).
-/

namespace AccessAudit

namespace Constraint

def asked : Constraint → String
  | .present name => name
  | .equals name _ => name

theorem known_of_holds {constraint : Constraint} {attributes : List Attribute}
    (holds : constraint.holds attributes = true) :
    ∃ value, Attribute.readingOf attributes constraint.asked = .known value := by
  cases constraint with
  | present name =>
      rw [Constraint.holds] at holds
      cases reading : Attribute.readingOf attributes name <;>
        simp_all [asked, Reading.value?]
  | equals name expected =>
      rw [Constraint.holds] at holds
      cases reading : Attribute.readingOf attributes name <;>
        simp_all [asked, Reading.equals, Reading.text?]

end Constraint

namespace ImplicitRole

variable {table : List ImplicitRole} {entry other kept : ImplicitRole} {tag : String}
  {attributes : List Attribute}

/-- The entry is about the tag, and the attributes satisfy all its constraints. -/
def Fits (entry : ImplicitRole) (tag : String) (attributes : List Attribute) : Prop :=
  entry.tag = Text.lower tag ∧ ∀ constraint ∈ entry.constraints, constraint.holds attributes = true

instance : Decidable (entry.Fits tag attributes) :=
  inferInstanceAs (Decidable (_ ∧ _))

/-- Of the entries of a table that fit, the first one of those with the most constraints. -/
structure IsChoice (table : List ImplicitRole) (tag : String) (attributes : List Attribute)
    (entry : ImplicitRole) : Prop where
  fits : entry.Fits tag attributes
  first : ∃ earlier later, table = earlier ++ entry :: later ∧
    (∀ other ∈ earlier, other.Fits tag attributes →
      other.constraints.length < entry.constraints.length) ∧
    ∀ other ∈ later, other.Fits tag attributes →
      other.constraints.length ≤ entry.constraints.length

/-- The entries that fit, in the order of the table. -/
def fitting (table : List ImplicitRole) (tag : String) (attributes : List Attribute) :
    List ImplicitRole :=
  table.filter fun entry => entry.tag == Text.lower tag && entry.matchesAttributes attributes

theorem fits_iff :
    (entry.tag == Text.lower tag && entry.matchesAttributes attributes) = true ↔
      entry.Fits tag attributes := by
  simp [Fits, matchesAttributes]

namespace IsChoice

theorem mem (choice : IsChoice table tag attributes entry) : entry ∈ table := by
  rcases choice.first with ⟨earlier, later, rfl, _⟩
  simp

theorem most (choice : IsChoice table tag attributes entry) (listed : other ∈ table)
    (otherFits : other.Fits tag attributes) :
    other.constraints.length ≤ entry.constraints.length := by
  rcases choice.first with ⟨earlier, later, rfl, before, after⟩
  rcases List.mem_append.mp listed with inEarlier | inRest
  · exact (before other inEarlier otherFits).le
  · rcases List.mem_cons.mp inRest with rfl | inLater
    · exact le_rfl
    · exact after other inLater otherFits

theorem concat (choice : IsChoice table tag attributes kept)
    (notMore : entry.Fits tag attributes →
      entry.constraints.length ≤ kept.constraints.length) :
    IsChoice (table ++ [entry]) tag attributes kept := by
  rcases choice with ⟨keptFits, earlier, later, rfl, before, after⟩
  refine ⟨keptFits, earlier, later ++ [entry], by simp, before, ?_⟩
  intro other listed otherFits
  rcases List.mem_append.mp listed with inLater | isLast
  · exact after other inLater otherFits
  · rw [List.mem_singleton.mp isLast] at otherFits ⊢
    exact notMore otherFits

theorem replace (entryFits : entry.Fits tag attributes)
    (more : ∀ other ∈ table, other.Fits tag attributes →
      other.constraints.length < entry.constraints.length) :
    IsChoice (table ++ [entry]) tag attributes entry :=
  ⟨entryFits, table, [], rfl, more, by simp⟩

/-- The later one of two choices would have to have more constraints, and at most as many. -/
theorem unique (choice : IsChoice table tag attributes entry)
    (otherChoice : IsChoice table tag attributes other) : entry = other := by
  have asMany : entry.constraints.length = other.constraints.length := by
    apply le_antisymm
    · exact otherChoice.most choice.mem choice.fits
    · exact choice.most otherChoice.mem otherChoice.fits
  rcases choice with ⟨entryFits, earlier, later, rfl, before, _⟩
  rcases otherChoice with ⟨otherFits, otherEarlier, otherLater, same, otherBefore, _⟩
  rcases List.append_eq_append_iff.mp same with ⟨between, split, rest⟩ | ⟨between, split, rest⟩
  · cases between with
    | nil => exact (List.cons.inj rest).1
    | cons first between =>
        have isFirst := (List.cons.inj rest).1
        subst isFirst
        have fewer := otherBefore entry (by simp [split]) entryFits
        omega
  · cases between with
    | nil => exact (List.cons.inj rest).1.symm
    | cons first between =>
        have isFirst := (List.cons.inj rest).1
        subst isFirst
        have fewer := before other (by simp [split]) otherFits
        omega

end IsChoice

theorem mostSpecific?_concat (entries : List ImplicitRole) (entry : ImplicitRole) :
    mostSpecific? (entries ++ [entry]) =
      match mostSpecific? entries with
      | none => some entry
      | some kept =>
        if kept.constraints.length < entry.constraints.length then some entry else some kept := by
  simp only [mostSpecific?, List.foldl_append, List.foldl_cons, List.foldl_nil]
  split <;> simp_all

/-- What may be kept after a table has been scanned. -/
def Scanned (table : List ImplicitRole) (tag : String) (attributes : List Attribute) :
    Option ImplicitRole → Prop
  | none => ∀ entry ∈ table, ¬entry.Fits tag attributes
  | some kept => IsChoice table tag attributes kept

theorem scanned_concat (entry : ImplicitRole)
    (scanned : Scanned table tag attributes (mostSpecific? (fitting table tag attributes))) :
    Scanned (table ++ [entry]) tag attributes
      (mostSpecific? (fitting (table ++ [entry]) tag attributes)) := by
  by_cases fits : entry.Fits tag attributes
  · have extended : fitting (table ++ [entry]) tag attributes =
        fitting table tag attributes ++ [entry] := by
      simp [fitting, List.filter_append, fits_iff.mpr fits]
    rw [extended, mostSpecific?_concat]
    cases result : mostSpecific? (fitting table tag attributes) with
    | none =>
        rw [result] at scanned
        exact .replace fits fun other listed otherFits => absurd otherFits (scanned other listed)
    | some kept =>
        rw [result] at scanned
        dsimp only
        split
        · rename_i more
          exact .replace fits fun other listed otherFits =>
            (scanned.most listed otherFits).trans_lt more
        · rename_i notMore
          exact scanned.concat fun _ => not_lt.mp notMore
  · have unchanged : fitting (table ++ [entry]) tag attributes = fitting table tag attributes := by
      simp [fitting, List.filter_append, mt fits_iff.mp fits]
    rw [unchanged]
    cases result : mostSpecific? (fitting table tag attributes) with
    | none =>
        rw [result] at scanned
        intro other listed
        rcases List.mem_append.mp listed with inTable | isLast
        · exact scanned other inTable
        · rw [List.mem_singleton.mp isLast]
          exact fits
    | some kept =>
        rw [result] at scanned
        exact scanned.concat fun entryFits => absurd entryFits fits

theorem scanned_mostSpecific? (table : List ImplicitRole) (tag : String)
    (attributes : List Attribute) :
    Scanned table tag attributes (mostSpecific? (fitting table tag attributes)) := by
  induction table using List.reverseRecOn with
  | nil => exact fun _ listed => absurd listed List.not_mem_nil
  | append_singleton table entry ih => exact scanned_concat entry ih

end ImplicitRole

namespace Ontology

open ImplicitRole

variable {taxonomy : List RoleDecl} {table : List ImplicitRole} {ontology : Ontology} {tag : String}
  {attributes : List Attribute} {entry : ImplicitRole}

/-- To look through the entries of a tag is to look through the whole table. -/
theorem implicitEntry?_eq (ontology : Ontology) (tag : String) (attributes : List Attribute) :
    ontology.implicitEntry? tag attributes =
      mostSpecific? (fitting ontology.implicit tag attributes) := by
  unfold implicitEntry?
  rw [ontology.grouped, Dictionary.get?_groupBy]
  split
  · simp [fitting, List.filter_filter, Bool.and_comm]
  · rename_i unmapped
    have nothingFits : fitting ontology.implicit tag attributes = [] := by
      rw [fitting, List.filter_eq_nil_iff]
      intro entry listed fits
      rw [Bool.and_eq_true, beq_iff_eq] at fits
      exact unmapped (List.mem_map.mpr ⟨entry, listed, fits.1⟩)
    rw [nothingFits]
    rfl

theorem scanned_implicitEntry? (ontology : Ontology) (tag : String)
    (attributes : List Attribute) :
    Scanned ontology.implicit tag attributes (ontology.implicitEntry? tag attributes) := by
  rw [implicitEntry?_eq]
  exact scanned_mostSpecific? ontology.implicit tag attributes

theorem implicitEntry?_eq_some_iff :
    ontology.implicitEntry? tag attributes = some entry ↔
      IsChoice ontology.implicit tag attributes entry := by
  have scanned := scanned_implicitEntry? ontology tag attributes
  cases result : ontology.implicitEntry? tag attributes with
  | none =>
      rw [result] at scanned
      refine iff_of_false (by simp) ?_
      intro choice
      exact scanned entry choice.mem choice.fits
  | some kept =>
      rw [result] at scanned
      constructor
      · rintro ⟨⟩
        exact scanned
      · intro choice
        rw [IsChoice.unique scanned choice]

theorem implicitEntry?_eq_none_iff :
    ontology.implicitEntry? tag attributes = none ↔
      ∀ entry ∈ ontology.implicit, ¬entry.Fits tag attributes := by
  have scanned := scanned_implicitEntry? ontology tag attributes
  cases result : ontology.implicitEntry? tag attributes with
  | none =>
      rw [result] at scanned
      exact iff_of_true rfl scanned
  | some kept =>
      rw [result] at scanned
      refine iff_of_false (by simp) ?_
      intro nothingFits
      exact nothingFits kept (IsChoice.mem scanned) (IsChoice.fits scanned)

theorem role?_isSome_of_mapped (accepted : ofTables taxonomy table = .ok ontology)
    (listed : entry ∈ table) {role : String} (mapped : role ∈ entry.roles) :
    (ontology.role? role).isSome = true := by
  have outcome := ofTables_outcome taxonomy table
  rw [accepted] at outcome
  rcases outcome with ⟨_, registers, declared⟩
  exact (registers.contains_iff role).mpr (declared entry listed role mapped)

/-- An element has the roles of the first entry of those with the most constraints among all that
fit it, and none where no entry fits. All of these roles are known. What is not known of an
attribute, or not there, satisfies no constraint. -/
theorem implicitRoles?_of_ofTables (accepted : ofTables taxonomy table = .ok ontology)
    (tag : String) (attributes : List Attribute) :
    (∀ roles, ontology.implicitRoles? tag attributes = some roles ↔
      ∃ entry, IsChoice table tag attributes entry ∧ entry.roles = roles) ∧
    (ontology.implicitRoles? tag attributes = none ↔
      ∀ entry ∈ table, ¬entry.Fits tag attributes) ∧
    (∀ roles, ontology.implicitRoles? tag attributes = some roles →
      ∀ role ∈ roles, (ontology.role? role).isSome = true) ∧
    (∀ constraint : Constraint,
      (∀ attr, Attribute.find? attributes constraint.asked = some attr → attr.reading = .unknown) →
        constraint.holds attributes = false) := by
  have isTable := implicit_of_ofTables accepted
  have chosen : ∀ roles, ontology.implicitRoles? tag attributes = some roles ↔
      ∃ entry, IsChoice table tag attributes entry ∧ entry.roles = roles := by
    intro roles
    rw [← isTable, implicitRoles?, Option.map_eq_some_iff]
    simp only [implicitEntry?_eq_some_iff]
  refine ⟨chosen, ?_, ?_, ?_⟩
  · rw [← isTable, implicitRoles?, Option.map_eq_none_iff, implicitEntry?_eq_none_iff]
  · intro roles implicit role mapped
    rcases (chosen roles).mp implicit with ⟨entry, choice, rfl⟩
    exact role?_isSome_of_mapped accepted choice.mem mapped
  · intro constraint notRead
    rw [← Bool.not_eq_true]
    intro holds
    rcases constraint.known_of_holds holds with ⟨value, known⟩
    rw [Attribute.readingOf] at known
    split at known
    · rename_i attr found
      rw [notRead attr found] at known
      cases known
    · cases known

/-- Entries of two tags in turn, of which two with as many constraints may fit one element. -/
def interleaved : List ImplicitRole :=
  [.plain "menu" ["list"], .plain "nav" ["navigation"],
    .when "menu" [.equals "type" "toolbar"] ["toolbar"], .plain "nav" ["list"],
    .when "menu" [.present "label"] ["list", "toolbar"]]

theorem implicitRoles?_of_interleaved :
    ∃ ontology, ofTables Taxonomy.standard interleaved = .ok ontology ∧
      ontology.implicitRoles? "MENU"
        [⟨"type", some (.literal (.string "Toolbar"))⟩, ⟨"label", none⟩] = some ["toolbar"] := by
  have mapped : ∀ entry ∈ interleaved, ∀ role ∈ entry.roles,
      ∃ decl ∈ Taxonomy.standard, Text.eqIgnoringCase decl.name role = true := by
    decide +kernel
  have consistent := consistent_of_accepted accepted_standard mapped
  rcases exists_ofTables_eq_ok consistent with ⟨ontology, accepted⟩
  have choices := implicitRoles?_of_ofTables accepted "MENU"
    [⟨"type", some (.literal (.string "Toolbar"))⟩, ⟨"label", none⟩]
  refine ⟨ontology, accepted, (choices.1 _).mpr ?_⟩
  refine ⟨.when "menu" [.equals "type" "toolbar"] ["toolbar"], ⟨by decide, ?_⟩, rfl⟩
  exact ⟨[_, _], [_, _], rfl, by decide, by decide⟩

end Ontology
end AccessAudit
