import AccessAudit.Role.Ancestry
import Mathlib.Logic.Relation

/-!
# What the search for ancestors finds

This file proves that the depth-first search of `Taxonomy.ancestors` either finds the transitive
closure of the superclass relation, or fails with an error that tells of a defect.

Two invariants carry the proof. Every set that is kept is already the whole closure of its name,
whichever search has found it (`Taxonomy.Sound`); so what is kept may be used on any path. And from
every name on the path the search has come down to the current one along superclasses; so a name
that is met again closes a cycle, and a name that is merely met twice, over different
superclasses, has been kept by then and does not.
-/

namespace AccessAudit
namespace Taxonomy

variable {taxonomy : List RoleDecl} {path parents : List String} {name role superclass : String}

/-- The declaration of the role that counts lists the superclass. -/
def IsSuperclass (taxonomy : List RoleDecl) (role superclass : String) : Prop :=
  ∃ decl, decl? taxonomy role = some decl ∧ superclass ∈ decl.superclasses

/-- The set holds the capitals of all that is above a name, and nothing else. -/
def IsAncestorSet (taxonomy : List RoleDecl) (name : String) (ancestors : NameSet) : Prop :=
  ∀ capitals, ancestors.contains capitals = true ↔
    ∃ above, Relation.TransGen (IsSuperclass taxonomy) name above ∧ Text.upper above = capitals

/-- The name and all that is above it are declared, and every way up ends. -/
inductive Grounded (taxonomy : List RoleDecl) : String → Prop where
  | intro {name : String} {decl : RoleDecl} (declared : decl? taxonomy name = some decl)
      (above : ∀ superclass ∈ decl.superclasses, Grounded taxonomy superclass) :
      Grounded taxonomy name

/-- What has been found for a name is right. -/
structure Resolved (taxonomy : List RoleDecl) (name : String) (ancestors : NameSet) : Prop where
  grounded : Grounded taxonomy name
  complete : IsAncestorSet taxonomy name ancestors

/-- All that is kept is right. -/
def Sound (taxonomy : List RoleDecl) (found : Ancestry) : Prop :=
  ∀ name ancestors, found.get? name = some ancestors → Resolved taxonomy name ancestors

/-- The defects the search can tell of. -/
inductive Defect (taxonomy : List RoleDecl) : OntologyError → Prop where
  | cycle {role : String} (cycle : Relation.TransGen (IsSuperclass taxonomy) role role) :
      Defect taxonomy (.cycle role)
  | unknownSuperclass {role superclass : String} (listed : IsSuperclass taxonomy role superclass)
      (undeclared : declares taxonomy superclass = false) :
      Defect taxonomy (.unknownSuperclass role superclass)

theorem declares_iff : declares taxonomy name = true ↔ ∃ decl ∈ taxonomy, decl.name = name := by
  simp [declares]

theorem decl?_isSome : (decl? taxonomy name).isSome = declares taxonomy name := by
  rw [Bool.eq_iff_iff, declares_iff]
  simp [decl?, List.find?_isSome]

theorem declares_of_decl? {decl : RoleDecl} (declared : decl? taxonomy name = some decl) :
    declares taxonomy name = true := by
  rw [← decl?_isSome, declared]
  rfl

theorem IsSuperclass.mem {decl : RoleDecl} (step : IsSuperclass taxonomy name superclass)
    (declared : decl? taxonomy name = some decl) : superclass ∈ decl.superclasses := by
  rcases step with ⟨same, sameDeclared, member⟩
  rw [declared] at sameDeclared
  cases sameDeclared
  exact member

namespace Grounded

theorem declares (grounded : Grounded taxonomy name) : declares taxonomy name = true := by
  cases grounded with
  | intro declared _ => exact declares_of_decl? declared

theorem above (grounded : Grounded taxonomy role)
    (step : IsSuperclass taxonomy role superclass) : Grounded taxonomy superclass := by
  cases grounded with
  | intro declared above => exact above superclass (step.mem declared)

theorem acyclic (grounded : Grounded taxonomy name) :
    ¬Relation.TransGen (IsSuperclass taxonomy) name name := by
  induction grounded with
  | intro declared _ ih =>
      intro cycle
      rcases Relation.TransGen.head'_iff.mp cycle with ⟨superclass, step, back⟩
      exact ih superclass (step.mem declared) (Relation.TransGen.tail' back step)

end Grounded

theorem Sound.insert {found : Ancestry} {ancestors : NameSet} (sound : Sound taxonomy found)
    (resolved : Resolved taxonomy name ancestors) :
    Sound taxonomy (Dictionary.insert found name ancestors) := by
  intro wanted kept isKept
  rw [Dictionary.get?_insert] at isKept
  split at isKept
  · rename_i same
    cases isKept
    rw [same]
    exact resolved
  · exact sound wanted kept isKept

/-- The capitals of these names or of what is above them. -/
def AtOrAbove (taxonomy : List RoleDecl) (names : List String) (capitals : String) : Prop :=
  ∃ name ∈ names, ∃ above,
    Relation.ReflTransGen (IsSuperclass taxonomy) name above ∧ Text.upper above = capitals

theorem atOrAbove_cons {capitals : String} :
    AtOrAbove taxonomy (name :: parents) capitals ↔
      (Text.upper name = capitals ∨
        ∃ above, Relation.TransGen (IsSuperclass taxonomy) name above ∧
          Text.upper above = capitals) ∨
        AtOrAbove taxonomy parents capitals := by
  simp only [AtOrAbove, List.mem_cons, Relation.reflTransGen_iff_eq_or_transGen, or_and_right,
    exists_or, exists_eq_left]

/-- What is above a declared name is at or above its superclasses. -/
theorem atOrAbove_superclasses {decl : RoleDecl} {capitals : String}
    (declared : decl? taxonomy name = some decl) :
    AtOrAbove taxonomy decl.superclasses capitals ↔
      ∃ above, Relation.TransGen (IsSuperclass taxonomy) name above ∧
        Text.upper above = capitals := by
  constructor
  · rintro ⟨superclass, member, above, reached, same⟩
    exact ⟨above, Relation.TransGen.head' ⟨decl, declared, member⟩ reached, same⟩
  · rintro ⟨above, reached, same⟩
    rcases Relation.TransGen.head'_iff.mp reached with ⟨superclass, step, rest⟩
    exact ⟨superclass, step.mem declared, above, rest, same⟩

theorem contains_gathered {gathered above : NameSet} {capitals : String}
    (complete : IsAncestorSet taxonomy name above) :
    (gathered.insertAll (Text.upper name :: above.keys)).contains capitals = true ∨
        AtOrAbove taxonomy parents capitals ↔
      gathered.contains capitals = true ∨ AtOrAbove taxonomy (name :: parents) capitals := by
  rw [NameSet.contains_insertAll, List.mem_cons, Dictionary.mem_keys, complete, atOrAbove_cons,
    eq_comm (a := capitals), or_assoc, or_left_comm]

/-- The outcomes that are right for the ancestors of a name. -/
def AncestorsOutcome (taxonomy : List RoleDecl) (name : String) :
    Except OntologyError (NameSet × Ancestry) → Prop
  | .ok (ancestors, found) => Resolved taxonomy name ancestors ∧ Sound taxonomy found
  | .error cause => Defect taxonomy cause

/-- The outcomes that are right where superclasses and their ancestors are gathered. -/
def GatherOutcome (taxonomy : List RoleDecl) (parents : List String) (gathered : NameSet) :
    Except OntologyError (NameSet × Ancestry) → Prop
  | .ok (total, found) =>
      (∀ parent ∈ parents, Grounded taxonomy parent) ∧
        (∀ capitals, total.contains capitals = true ↔
          gathered.contains capitals = true ∨ AtOrAbove taxonomy parents capitals) ∧
        Sound taxonomy found
  | .error cause => Defect taxonomy cause

theorem GatherOutcome.cons {gathered above : NameSet} {parent : String}
    {result : Except OntologyError (NameSet × Ancestry)} (resolved : Resolved taxonomy parent above)
    (later : GatherOutcome taxonomy parents
      (gathered.insertAll (Text.upper parent :: above.keys)) result) :
    GatherOutcome taxonomy (parent :: parents) gathered result := by
  cases result with
  | error cause => exact later
  | ok value =>
      rcases later with ⟨grounded, total, sound⟩
      refine ⟨?_, ?_, sound⟩
      · intro other member
        rcases List.mem_cons.mp member with same | inParents
        · rw [same]
          exact resolved.grounded
        · exact grounded other inParents
      · intro capitals
        rw [total, contains_gathered resolved.complete]

theorem GatherOutcome.resolved {decl : RoleDecl} {ancestors : NameSet} {found : Ancestry}
    (outcome : GatherOutcome taxonomy decl.superclasses Dictionary.empty (.ok (ancestors, found)))
    (declared : decl? taxonomy name = some decl) : Resolved taxonomy name ancestors := by
  rcases outcome with ⟨grounded, total, _⟩
  refine ⟨.intro declared grounded, ?_⟩
  intro capitals
  rw [total, atOrAbove_superclasses declared]
  simp [Dictionary.contains]

/-- Every search on a path, for a declared name to which the path leads, has a right outcome. -/
def RightOn (taxonomy : List RoleDecl) (path : List String) : Prop :=
  ∀ {name : String} {found : Ancestry}, Sound taxonomy found → declares taxonomy name = true →
    (∀ earlier ∈ path, Relation.TransGen (IsSuperclass taxonomy) earlier name) →
    AncestorsOutcome taxonomy name (ancestors taxonomy path name found)

/-- Superclasses are gathered rightly on a path on which their ancestors are searched rightly. -/
theorem gatherAncestors_outcome (right : RightOn taxonomy path) (gathered : NameSet)
    {found : Ancestry} (sound : Sound taxonomy found)
    (listed : ∀ parent ∈ parents, IsSuperclass taxonomy role parent)
    (leads : ∀ earlier ∈ path, Relation.ReflTransGen (IsSuperclass taxonomy) earlier role) :
    GatherOutcome taxonomy parents gathered
      (gatherAncestors taxonomy path role parents gathered found) := by
  induction parents generalizing gathered found with
  | nil =>
      rw [gatherAncestors]
      refine ⟨by simp, ?_, sound⟩
      intro capitals
      simp [AtOrAbove]
  | cons parent rest ih =>
      have step := listed parent (by simp)
      rw [gatherAncestors]
      split
      · rename_i isDeclared
        have outcome := right sound isDeclared
          fun earlier onPath => Relation.TransGen.tail' (leads earlier onPath) step
        cases result : ancestors taxonomy path parent found with
        | error cause =>
            rw [result] at outcome
            exact outcome
        | ok value =>
            rcases value with ⟨above, foundAbove⟩
            rw [result] at outcome
            rcases outcome with ⟨resolved, soundAbove⟩
            exact .cons resolved
              (ih _ soundAbove fun other member => listed other (List.mem_cons_of_mem _ member))
      · rename_i undeclared
        exact .unknownSuperclass step (by simpa using undeclared)

/-- A name that is met for the first time is put on the path while its superclasses are gathered,
and what has been gathered is kept. -/
theorem expand_outcome (right : RightOn taxonomy (name :: path)) {decl : RoleDecl}
    (declared : decl? taxonomy name = some decl) {found : Ancestry} (sound : Sound taxonomy found)
    (leads : ∀ earlier ∈ path, Relation.TransGen (IsSuperclass taxonomy) earlier name) :
    AncestorsOutcome taxonomy name (do
      let (gathered, found) ← gatherAncestors taxonomy (name :: path) name decl.superclasses
        Dictionary.empty found
      return (gathered, found.insert name gathered)) := by
  have leadsToName : ∀ earlier ∈ name :: path,
      Relation.ReflTransGen (IsSuperclass taxonomy) earlier name := by
    intro earlier member
    rcases List.mem_cons.mp member with same | onPath
    · rw [same]
    · exact (leads earlier onPath).to_reflTransGen
  have outcome := gatherAncestors_outcome right Dictionary.empty sound
    (fun parent member => ⟨decl, declared, member⟩) leadsToName
  cases result : gatherAncestors taxonomy (name :: path) name decl.superclasses
      Dictionary.empty found with
  | error cause =>
      rw [result] at outcome
      exact outcome
  | ok value =>
      rw [result] at outcome
      have resolved := outcome.resolved declared
      exact ⟨resolved, outcome.2.2.insert resolved⟩

theorem ancestors_outcome (path : List String) : RightOn taxonomy path := by
  induction size : (offPath taxonomy path).length using Nat.strongRecOn generalizing path with
  | ind _ ih =>
      intro name found sound isDeclared leads
      rw [ancestors]
      split
      · rename_i known isKept
        exact ⟨sound name known isKept, sound⟩
      · split
        · rename_i onPath
          exact .cycle (leads name onPath)
        · split
          · rename_i fresh undeclared
            rw [← decl?_isSome, undeclared] at isDeclared
            cases isDeclared
          · rename_i fresh decl declared
            have shorter := length_offPath_cons_lt declared fresh
            rw [size] at shorter
            exact expand_outcome (ih _ shorter _ rfl) declared sound leads

end Taxonomy
end AccessAudit
