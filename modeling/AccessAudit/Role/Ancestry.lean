import AccessAudit.Role.Declaration

/-!
# Ancestors in a taxonomy

The ancestors of a role are found by a depth-first search along the superclasses. The search
carries the path of names on which it has come: a name that is on it already closes a cycle, and as
the declared names off the path get fewer with each step the search ends. Ancestors once found are
kept.

Names of declarations are compared exactly, and of several declarations of one name the last one
counts. The ancestors themselves are given in capitals.
-/

namespace AccessAudit

/-- Why tables of roles and elements cannot be resolved. -/
inductive OntologyError where
  | unknownSuperclass (role superclass : String)
  | cycle (role : String)
  | unknownRole (role : String)
  | unknownProperty (role property : String)
  | unknownMappedRole (tag role : String)
deriving DecidableEq, Repr

namespace OntologyError

/-- The error as it is shown. -/
def message : OntologyError → String
  | .unknownSuperclass role superclass =>
    "Role " ++ role ++ " names unknown superclass " ++ superclass
  | .cycle role => "Role " ++ role ++ " is its own ancestor"
  | .unknownRole role => "Unknown role: " ++ role
  | .unknownProperty role property => "Role " ++ role ++ " requires unknown property " ++ property
  | .unknownMappedRole tag role => "Element " ++ tag ++ " maps to unknown role " ++ role

end OntologyError

namespace Taxonomy

/-- The declaration of a name that counts. -/
def decl? (taxonomy : List RoleDecl) (name : String) : Option RoleDecl :=
  taxonomy.reverse.find? fun decl => decl.name == name

/-- The name has a declaration. -/
def declares (taxonomy : List RoleDecl) (name : String) : Bool :=
  taxonomy.any fun decl => decl.name == name

/-- The ancestors found so far, by name. -/
abbrev Ancestry := Dictionary NameSet

/-- The declared names that are not on a path. -/
def offPath (taxonomy : List RoleDecl) (path : List String) : List String :=
  (taxonomy.map RoleDecl.name).filter fun name => decide (name ∉ path)

theorem mem_of_decl?_eq_some {taxonomy : List RoleDecl} {name : String} {decl : RoleDecl}
    (declared : decl? taxonomy name = some decl) : decl ∈ taxonomy :=
  List.mem_reverse.mp (List.mem_of_find?_eq_some declared)

theorem name_of_decl?_eq_some {taxonomy : List RoleDecl} {name : String} {decl : RoleDecl}
    (declared : decl? taxonomy name = some decl) : decl.name = name := by
  simpa using List.find?_some declared

/-- A path that is extended by a declared name has fewer names off it. -/
theorem length_offPath_cons_lt {taxonomy : List RoleDecl} {path : List String} {name : String}
    {decl : RoleDecl} (declared : decl? taxonomy name = some decl) (fresh : name ∉ path) :
    (offPath taxonomy (name :: path)).length < (offPath taxonomy path).length := by
  have shrinks : offPath taxonomy (name :: path) =
      (offPath taxonomy path).filter fun other => decide (other ≠ name) := by
    simp [offPath, List.filter_filter]
  have member : name ∈ offPath taxonomy path := by
    rw [offPath, List.mem_filter, List.mem_map]
    exact ⟨⟨decl, mem_of_decl?_eq_some declared, name_of_decl?_eq_some declared⟩,
      decide_eq_true fresh⟩
  rw [shrinks]
  exact List.length_filter_lt_length_iff_exists.mpr ⟨name, member, by simp⟩

mutual

/-- The ancestors of a name, given the path on which the search has come to it. -/
def ancestors (taxonomy : List RoleDecl) (path : List String) (name : String)
    (found : Ancestry) : Except OntologyError (NameSet × Ancestry) :=
  match found.get? name with
  | some known => .ok (known, found)
  | none =>
    if _onPath : name ∈ path then .error (.cycle name)
    else
      match _declared : decl? taxonomy name with
      | none => .error (.unknownRole name)
      | some decl => do
        let (gathered, found) ← gatherAncestors taxonomy (name :: path) name decl.superclasses
          Dictionary.empty found
        return (gathered, found.insert name gathered)
termination_by ((offPath taxonomy path).length, 0)
decreasing_by exact Prod.Lex.left _ _ (length_offPath_cons_lt _declared _onPath)

/-- Add superclasses of a role and all their ancestors to those gathered. -/
def gatherAncestors (taxonomy : List RoleDecl) (path : List String) (role : String)
    (parents : List String) (gathered : NameSet) (found : Ancestry) :
    Except OntologyError (NameSet × Ancestry) :=
  match parents with
  | [] => .ok (gathered, found)
  | parent :: rest =>
    if declares taxonomy parent then do
      let (above, found) ← ancestors taxonomy path parent found
      gatherAncestors taxonomy path role rest
        (NameSet.insertAll gathered (Text.upper parent :: above.keys)) found
    else .error (.unknownSuperclass role parent)
termination_by ((offPath taxonomy path).length, parents.length + 1)

end

end Taxonomy
end AccessAudit
