import AccessAudit.Log
import AccessAudit.Property.Catalogue
import AccessAudit.Role.Ancestry
import AccessAudit.Role.Implicit
import AccessAudit.Role.Standard

/-!
# Ontologies

An ontology is a taxonomy with its roles resolved, together with the implicit roles of elements.
It is built from tables whose references among each other are checked. Roles are looked up ignoring
case; of several declarations that differ at most in case the last one counts. Implicit roles are
looked up among those of the tag.
-/

namespace AccessAudit

/-- Resolved roles and implicit roles. -/
structure Ontology where
  /-- The roles by their names in capitals. -/
  roles : Dictionary Role
  /-- The implicit roles, in the order of their table. -/
  implicit : List ImplicitRole
  /-- The implicit roles by their tags. -/
  byTag : Dictionary (List ImplicitRole) := Dictionary.groupBy ImplicitRole.tag implicit
  grouped : byTag = Dictionary.groupBy ImplicitRole.tag implicit := by rfl

namespace Ontology

/-- Resolve one more declaration: its ancestors first, then its required properties. -/
def resolveNext (taxonomy : List RoleDecl) (state : Dictionary Role × Taxonomy.Ancestry)
    (decl : RoleDecl) : Except OntologyError (Dictionary Role × Taxonomy.Ancestry) := do
  let (ancestors, found) ← Taxonomy.ancestors taxonomy [] decl.name state.2
  match decl.required.find? fun property => !Property.isKnown property with
  | some property => throw (.unknownProperty decl.name property)
  | none =>
    let role := Role.ofDecl decl ancestors
    return (state.1.insert role.name role, found)

/-- Resolve the declarations of a taxonomy one by one. -/
def resolve (taxonomy : List RoleDecl) : Except OntologyError (Dictionary Role) := do
  let (roles, _) ← taxonomy.foldlM (resolveNext taxonomy) (Dictionary.empty, Dictionary.empty)
  return roles

/-- Every role of an entry is known. -/
def checkImplicit (roles : Dictionary Role) (entry : ImplicitRole) : Except OntologyError Unit :=
  match entry.roles.find? fun role => !roles.contains (Text.upper role) with
  | some role => .error (.unknownMappedRole entry.tag role)
  | none => .ok ()

/-- The ontology of two tables. -/
def ofTables (taxonomy : List RoleDecl) (implicit : List ImplicitRole) :
    Except OntologyError Ontology := do
  let roles ← resolve taxonomy
  implicit.forM (checkImplicit roles)
  return { roles, implicit }

/-- The ontology without any role. -/
def empty : Ontology where
  roles := Dictionary.empty
  implicit := []

/-- The ontology of WAI-ARIA and HTML. -/
def standard : Ontology :=
  match ofTables Taxonomy.standard ImplicitRole.standard with
  | .ok ontology => ontology
  | .error _ => empty

/-- The role of a name, ignoring case. -/
def role? (ontology : Ontology) (name : String) : Option Role :=
  ontology.roles.get? (Text.upper name)

/-- The role of a name, if it is concrete. -/
def concrete? (ontology : Ontology) (name : String) : Option Role :=
  (ontology.role? name).filter fun role => !role.isAbstract

/-- The name of a concrete interactive role. -/
def isInteractive (ontology : Ontology) (name : String) : Bool :=
  (ontology.concrete? name).any fun role => role.interactive

/-- The name of a concrete role that is not interactive. -/
def isNonInteractive (ontology : Ontology) (name : String) : Bool :=
  (ontology.concrete? name).any fun role => !role.interactive

/-- The name of an abstract role. -/
def isAbstract (ontology : Ontology) (name : String) : Bool :=
  (ontology.role? name).any fun role => role.isAbstract

/-- The tags that have implicit roles, in ascending order. -/
def mappedTags (ontology : Ontology) : List String :=
  ontology.byTag.keys

theorem mem_mappedTags {ontology : Ontology} {tag : String} :
    tag ∈ ontology.mappedTags ↔ ∃ entry ∈ ontology.implicit, entry.tag = tag := by
  rw [mappedTags, ontology.grouped, Dictionary.mem_keys_groupBy, List.mem_map]

/-- The entry that gives an element its implicit roles. -/
def implicitEntry? (ontology : Ontology) (tag : String) (attributes : List Attribute) :
    Option ImplicitRole :=
  (ontology.byTag.get? (Text.lower tag)).bind fun entries =>
    ImplicitRole.mostSpecific? (entries.filter fun entry => entry.matchesAttributes attributes)

/-- The implicit roles of an element. -/
def implicitRoles? (ontology : Ontology) (tag : String) (attributes : List Attribute) :
    Option (List String) :=
  (ontology.implicitEntry? tag attributes).map ImplicitRole.roles

/-- The first implicit role of an element. -/
def implicitRole? (ontology : Ontology) (tag : String) (attributes : List Attribute) :
    Option String :=
  (ontology.implicitRoles? tag attributes).bind List.head?

/-- The line that tells of a new ontology. -/
def log (ontology : Ontology) : LogLine where
  level := .debug
  message := "Built role registry: " ++ toString ontology.roles.size ++ " roles, " ++
    toString ontology.mappedTags.length ++ " tags with implicit roles"

end Ontology
end AccessAudit
