import AccessAudit.Lint.ConfigText
import AccessAudit.Lint.Rule.HandlerPlacement
import AccessAudit.Lint.Rule.ImageText
import AccessAudit.Lint.Rule.PropertyName
import AccessAudit.Lint.Rule.PropertyValue
import AccessAudit.Lint.Rule.RequiredProperty
import AccessAudit.Lint.Rule.RoleName
import AccessAudit.Lint.Rule.RoleRedundancy
import AccessAudit.Lint.Rule.TabOrder

/-!
# Rules

The rules by their names. A rule is made from its name and its options, which are checked against
the shape the rule has for them; it then checks elements and attributes one at a time.
-/

namespace AccessAudit

/-- The name of a rule. -/
inductive RuleId where
  | imageText
  | propertyName
  | handlerPlacement
  | roleRedundancy
  | requiredProperty
  | tabOrder
  | propertyValue
  | roleName
deriving DecidableEq, Repr

namespace RuleId

/-- All rules, in the order of their names as they are written. -/
def all : List RuleId :=
  [.imageText, .propertyName, .handlerPlacement, .roleRedundancy, .requiredProperty, .tabOrder,
    .propertyValue, .roleName]

/-- The name as it is written. -/
def text : RuleId → String
  | .imageText => "img-uses-alt"
  | .propertyName => "no-invalid-aria"
  | .handlerPlacement => "no-noninteractive-element-interactions"
  | .roleRedundancy => "no-redundant-roles"
  | .requiredProperty => "role-has-required-aria-props"
  | .tabOrder => "tabindex-no-positive"
  | .propertyValue => "valid-aria-proptypes"
  | .roleName => "valid-aria-role"

/-- The rule that has this name. -/
def ofText? (name : String) : Option RuleId :=
  all.find? fun id => id.text == name

/-- The shape of the options of a rule. -/
def shape : RuleId → OptionShape
  | .imageText => .names
  | .handlerPlacement => .table [HandlerPlacement.handlersKey] true
  | .roleRedundancy => .table [] true
  | _ => .nothing

end RuleId

/-- A rule with its options. -/
inductive Rule where
  | imageText (rule : ImageText)
  | propertyName
  | handlerPlacement (rule : HandlerPlacement)
  | roleRedundancy (rule : RoleRedundancy)
  | requiredProperty
  | tabOrder
  | propertyValue
  | roleName

/-- Why a configuration is refused. -/
inductive ConfigError where
  | unknownRule (name : String)
  | invalidOptions (rule : String) (fault : OptionFault)
  /-- The text of the configuration is faulty. -/
  | unreadable (fault : Json.Fault ConfigFault)

namespace ConfigError

/-- The error as it is shown. -/
def message : ConfigError → String
  | .unknownRule name => "Unknown rule: " ++ name
  | .invalidOptions rule fault => "Invalid options for " ++ rule ++ ": " ++ fault.message
  | .unreadable .malformed => "Malformed configuration: not a JSON text"
  | .unreadable (.rejected fault) => "Malformed configuration: " ++ fault.message

end ConfigError

namespace Rule

/-- The name of a rule. -/
def id : Rule → RuleId
  | .imageText _ => .imageText
  | .propertyName => .propertyName
  | .handlerPlacement _ => .handlerPlacement
  | .roleRedundancy _ => .roleRedundancy
  | .requiredProperty => .requiredProperty
  | .tabOrder => .tabOrder
  | .propertyValue => .propertyValue
  | .roleName => .roleName

/-- The rule of a name with options that fit its shape. -/
def ofOptions (id : RuleId) (options : Option Json) : Rule :=
  match id with
  | .imageText => .imageText (.ofOptions options)
  | .propertyName => .propertyName
  | .handlerPlacement => .handlerPlacement (.ofOptions options)
  | .roleRedundancy => .roleRedundancy (.ofOptions options)
  | .requiredProperty => .requiredProperty
  | .tabOrder => .tabOrder
  | .propertyValue => .propertyValue
  | .roleName => .roleName

/-- Check the options of a rule and make it. -/
def create (name : String) (options : Option Json) : Except ConfigError Rule :=
  match RuleId.ofText? name with
  | none => .error (.unknownRule name)
  | some id =>
    match id.shape.check options with
    | .error fault => .error (.invalidOptions name fault)
    | .ok _ => .ok (ofOptions id options)

/-- Check an element as a whole. -/
def checkElement (rule : Rule) (ontology : Ontology) (element : Element) : Option Finding :=
  match rule with
  | .imageText rule => rule.check element
  | .handlerPlacement rule => rule.check ontology element
  | .roleRedundancy rule => rule.check ontology element
  | _ => none

/-- Check one attribute of an element. -/
def checkAttribute (rule : Rule) (ontology : Ontology) (element : Element) (attr : Attribute) :
    Option Finding :=
  match rule with
  | .propertyName => PropertyName.check attr
  | .requiredProperty => RequiredProperty.check ontology element attr
  | .tabOrder => TabOrder.check attr
  | .propertyValue => PropertyValue.check attr
  | .roleName => RoleName.check ontology attr
  | _ => none

/-- The lines logged while an element is checked as a whole. -/
def elementLog (rule : Rule) (ontology : Ontology) (element : Element) : List LogLine :=
  match rule with
  | .handlerPlacement rule => rule.log ontology element
  | _ => []

end Rule
end AccessAudit
