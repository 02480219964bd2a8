import AccessAudit.Lint.Rule

/-!
# Linting

A linter runs the rules a configuration enables over elements. On each element every rule first
looks at the element as a whole, and then at its attributes one after the other. Rules run in the
ascending order of their names, and the elements of a document in document order.
-/

namespace AccessAudit

/-- A report of a finding. -/
structure Diagnostic where
  rule : RuleId
  finding : Finding
  severity : Severity
  node : NodeId
  target : Target
deriving DecidableEq, Repr

namespace Diagnostic

/-- The message of a diagnostic. -/
def message (diagnostic : Diagnostic) : String := diagnostic.finding.message

/-- The diagnostic as it is shown. -/
def text (diagnostic : Diagnostic) : String :=
  diagnostic.node.text ++ ": " ++ diagnostic.severity.text ++ " " ++ diagnostic.message ++
    " [" ++ diagnostic.rule.text ++ "]"

/-- The line that tells of a diagnostic. -/
def log (diagnostic : Diagnostic) : LogLine where
  level := .trace
  message := diagnostic.text

end Diagnostic

/-- A rule that is not off. -/
structure ActiveRule where
  rule : Rule
  severity : Severity

namespace ActiveRule

/-- The diagnostic of a finding. -/
def report (active : ActiveRule) (node : NodeId) (target : Target) (finding : Finding) :
    Diagnostic :=
  ⟨active.rule.id, finding, active.severity, node, target⟩

/-- The diagnostic of a rule on an element as a whole. -/
def onElement? (active : ActiveRule) (ontology : Ontology) (node : NodeId) (element : Element) :
    Option Diagnostic :=
  (active.rule.checkElement ontology element).map (active.report node .element)

/-- The diagnostic of a rule on the attribute at a position. -/
def onAttribute? (active : ActiveRule) (ontology : Ontology) (node : NodeId) (element : Element)
    (attr : Attribute) (index : Nat) : Option Diagnostic :=
  (active.rule.checkAttribute ontology element attr).map (active.report node (.attribute index))

end ActiveRule

/-- The rules in force, and the ontology they consult. -/
structure Linter where
  ontology : Ontology
  rules : List ActiveRule

namespace Linter

/-- Make the rules that are set one by one; the ones that are off are made too, and dropped. -/
def activate : List (String × Setting) → Except ConfigError (List ActiveRule)
  | [] => .ok []
  | (name, setting) :: rest => do
    let rule ← Rule.create name setting.options
    let others ← activate rest
    match setting.level.severity? with
    | some severity => return ⟨rule, severity⟩ :: others
    | none => return others

/-- The linter of a configuration. Every rule that is set has to be known and its options have to
fit, also where it is off. -/
def ofConfig (config : Config) : Except ConfigError Linter :=
  (activate config.rules.entries).map fun rules => ⟨Ontology.standard, rules⟩

/-- The names and severities of the rules in force. -/
def enabled (linter : Linter) : List (RuleId × Severity) :=
  linter.rules.map fun active => (active.rule.id, active.severity)

/-- Lint a single element. -/
def lintElement (linter : Linter) (node : NodeId) (element : Element) : List Diagnostic :=
  linter.rules.filterMap (·.onElement? linter.ontology node element) ++
    element.attributes.zipIdx.flatMap fun (attr, index) =>
      linter.rules.filterMap (·.onAttribute? linter.ontology node element attr index)

/-- Lint all elements of a document. -/
def lint (linter : Linter) (document : Document) : List Diagnostic :=
  document.elements.flatMap fun (node, element) => linter.lintElement node element

/-- The line that tells of a new linter. -/
def log (linter : Linter) (config : Config) : LogLine where
  level := .debug
  message := "Linter enabled " ++ toString linter.rules.length ++ " of " ++
    toString config.rules.size ++ " configured rules: [" ++
    ", ".intercalate (linter.rules.map fun active => Text.quoted active.rule.id.text) ++ "]"

/-- The lines logged while an element is linted: each rule's own lines, and each diagnostic as it
is reported. -/
def elementLog (linter : Linter) (node : NodeId) (element : Element) : List LogLine :=
  (linter.rules.flatMap fun active =>
    active.rule.elementLog linter.ontology element ++
      (active.onElement? linter.ontology node element).toList.map Diagnostic.log) ++
  element.attributes.zipIdx.flatMap fun (attr, index) =>
    (linter.rules.filterMap
      (·.onAttribute? linter.ontology node element attr index)).map Diagnostic.log

/-- The lines logged while a document is linted. -/
def documentLog (linter : Linter) (document : Document) : List LogLine :=
  (document.elements.flatMap fun (node, element) => linter.elementLog node element) ++
    [{ level := .debug
       message := "Linted " ++ toString document.elements.length ++ " elements, " ++
        toString (linter.lint document).length ++ " diagnostics" }]

end Linter
end AccessAudit
