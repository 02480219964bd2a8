import AccessAudit.Interaction.Event
import AccessAudit.Interaction.Interactivity
import AccessAudit.Lint.Exemption
import AccessAudit.Lint.Finding

/-!
# Handlers belong to interactive elements

An element that is not interactive, yet perceived as something, has no handlers for interaction.
-/

namespace AccessAudit

/-- The rule on handlers. -/
structure HandlerPlacement where
  /-- The handlers the rule is about. -/
  handlers : List String
  /-- The handlers that are let pass. -/
  exemptions : Exemptions

namespace HandlerPlacement

/-- The key under which options list the handlers; all other keys are tags. -/
def handlersKey : String := "handlers"

/-- The rule that options describe; without handlers in them it is about the usual ones. -/
def ofOptions (options : Option Json) : HandlerPlacement :=
  let members := OptionShape.membersOf options
  { handlers :=
      match members.lookup handlersKey with
      | some names => OptionShape.namesOf names
      | none => EventCategory.interactionHandlers
    exemptions := Exemptions.ofMembers (members.filter fun entry => entry.1 != handlersKey) }

/-- The first handler of the rule that is bound on an element and not exempt. -/
def boundHandler? (rule : HandlerPlacement) (element : Element) : Option String :=
  rule.handlers.find? fun handler =>
    !rule.exemptions.covers element.tag handler && (element.reading handler).isBound

/-- The handler for which the rule objects to an element. -/
def misplaced? (rule : HandlerPlacement) (ontology : Ontology) (element : Element) :
    Option String := do
  guard (Vocabulary.isKnown element.tag)
  let handler ← rule.boundHandler? element
  guard (!Interactivity.isHidden element.tag element.attributes)
  guard (!Interactivity.isPresentation element.attributes)
  guard (Interactivity.classify ontology element.tag element.attributes == .nonInteractive)
  return handler

/-- Check an element. -/
def check (rule : HandlerPlacement) (ontology : Ontology) (element : Element) : Option Finding :=
  (rule.misplaced? ontology element).map fun _ => .misplacedHandler

/-- The line that tells of a misplaced handler. -/
def logLine (handler tag : String) : LogLine where
  level := .trace
  message := handler ++ " on non-interactive <" ++ tag ++ ">"
  fields :=
    [("category",
      match EventCategory.ofHandler? handler with
      | some category => "Some(" ++ category.name ++ ")"
      | none => "None")]

/-- The lines logged while an element is checked. -/
def log (rule : HandlerPlacement) (ontology : Ontology) (element : Element) : List LogLine :=
  (rule.misplaced? ontology element).toList.map fun handler => logLine handler element.tag

end HandlerPlacement
end AccessAudit
