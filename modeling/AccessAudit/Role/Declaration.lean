import AccessAudit.Dictionary
import AccessAudit.Text.Ascii

/-!
# Roles

A role is declared with its direct superclasses and the properties it requires; a resolved role
knows all its ancestors. Declarations name roles and properties as they are written in tables,
resolved roles have them in capitals, the form in which roles are looked up ignoring case.
-/

namespace AccessAudit

/-- The declaration of a role. -/
structure RoleDecl where
  name : String
  /-- Abstract roles only structure the taxonomy; no element may have one. -/
  isAbstract : Bool
  superclasses : List String
  required : List String
deriving DecidableEq, Repr

namespace RoleDecl

/-- An abstract role. -/
def abstract (name : String) (superclasses : List String) : RoleDecl :=
  ⟨name, true, superclasses, []⟩

/-- A concrete role without required properties. -/
def concrete (name : String) (superclasses : List String) : RoleDecl :=
  ⟨name, false, superclasses, []⟩

/-- A concrete role with required properties. -/
def requiring (name : String) (superclasses required : List String) : RoleDecl :=
  ⟨name, false, superclasses, required⟩

end RoleDecl

/-- A resolved role, its names in capitals. -/
structure Role where
  name : String
  isAbstract : Bool
  /-- The direct and indirect superclasses. -/
  ancestors : NameSet
  required : NameSet
  /-- Whether elements of this role are there to be interacted with. -/
  interactive : Bool

namespace Role

/-- The role is the named one or has it among its ancestors. -/
def descendsFrom (role : Role) (name : String) : Bool :=
  Text.eqIgnoringCase role.name name || role.ancestors.contains (Text.upper name)

/-- The required properties as markup spells them, with a blank between any two. -/
def requiredText (role : Role) : String :=
  " ".intercalate (role.required.keys.map Text.lower)

/-- A declaration resolved with its ancestors. Widgets and what descends from them are
interactive, and so are toolbars. -/
def ofDecl (decl : RoleDecl) (ancestors : NameSet) : Role :=
  let role : Role :=
    { name := Text.upper decl.name
      isAbstract := decl.isAbstract
      ancestors := ancestors
      required := NameSet.ofList (decl.required.map Text.upper)
      interactive := false }
  { role with interactive := role.descendsFrom "widget" || role.name == "TOOLBAR" }

end Role
end AccessAudit
