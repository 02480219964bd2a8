import AccessAudit.Role.Ontology

/-!
# Interactivity

Whether an element is there to be interacted with. An explicit role that can be read decides; an
element without one is judged by the policy of its tag, which may look at attributes or at the
implicit roles of the element.
-/

namespace AccessAudit

/-- The interactivity of an element. -/
inductive Interactivity where
  | interactive
  | nonInteractive
  /-- Nothing can be said: generic containers, components, roles that are not known. -/
  | indeterminate
deriving DecidableEq, Repr

/-- How a policy looks at an attribute. -/
inductive AttributeTest where
  /-- It is there, and not known to be `undefined`. -/
  | defined
  /-- It has this text, ignoring case. -/
  | equals (expected : String)
deriving DecidableEq, Repr

namespace AttributeTest

/-- The reading passes the test. -/
def passes : AttributeTest → Reading → Bool
  | .defined, reading => reading.isDefined
  | .equals expected, reading => reading.equals expected

end AttributeTest

/-- A choice made by attributes: one of them passes the test, or none does. -/
structure AttributeChoice where
  names : List String
  test : AttributeTest
  passed : Interactivity
  failed : Interactivity
deriving DecidableEq, Repr

namespace AttributeChoice

/-- The choice for given attributes. -/
def decide (choice : AttributeChoice) (attributes : List Attribute) : Interactivity :=
  if choice.names.any fun name => choice.test.passes (Attribute.readingOf attributes name) then
    choice.passed
  else
    choice.failed

end AttributeChoice

/-- How elements of a tag are judged. -/
inductive TagPolicy where
  | alwaysInteractive
  | neverInteractive
  | byAttribute (choice : AttributeChoice)
  /-- By the implicit roles. -/
  | byImplicitRole
  /-- The tag speaks neither for nor against interaction. -/
  | neutral
deriving DecidableEq, Repr

namespace TagPolicy

/-- Links are interactive once they lead somewhere or can be focused. -/
def linkLike : TagPolicy :=
  .byAttribute ⟨["href", "tabIndex"], .defined, .interactive, .indeterminate⟩

/-- The tags of controls and embedded players. -/
def interactiveTags : List String :=
  ["audio", "button", "canvas", "embed", "menuitem", "option", "select", "textarea", "th", "tr",
    "video"]

/-- The tags of content. -/
def contentTags : List String :=
  ["abbr", "article", "blockquote", "br", "caption", "dd", "details", "dfn", "dialog", "dir",
    "dl", "dt", "fieldset", "figcaption", "figure", "footer", "form", "frame", "h1", "h2", "h3",
    "h4", "h5", "h6", "hr", "iframe", "img", "legend", "li", "main", "mark", "marquee", "menu",
    "meter", "nav", "ol", "p", "pre", "progress", "ruby", "section", "table", "tbody", "tfoot",
    "thead", "time", "ul"]

/-- The policies that do not follow from implicit roles alone. -/
def standard : List (String × TagPolicy) :=
  [("a", linkLike),
    ("area", linkLike),
    ("input", .byAttribute ⟨["type"], .equals "hidden", .nonInteractive, .interactive⟩),
    ("td", .byAttribute ⟨["role"], .equals "gridcell", .interactive, .nonInteractive⟩),
    ("link", .neverInteractive),
    ("body", .neutral)] ++
  interactiveTags.map (·, .alwaysInteractive) ++ contentTags.map (·, .neverInteractive)

/-- The policies of all tags that have one: a tag without one of its own is judged by its implicit
roles, if it has any. -/
def table (ontology : Ontology) : Dictionary TagPolicy :=
  ontology.mappedTags.foldl (fun policies tag => policies.insertIfNew tag .byImplicitRole)
    (Dictionary.ofEntries standard)

/-- The policy of a tag, ignoring case. -/
def of? (ontology : Ontology) (tag : String) : Option TagPolicy :=
  (table ontology).get? (Text.lower tag)

/-- A policy of its own comes first, then the implicit roles of the tag. -/
theorem of?_eq (ontology : Ontology) (tag : String) :
    of? ontology tag =
      (standard.lookup (Text.lower tag)).or
        (if Text.lower tag ∈ ontology.mappedTags then some .byImplicitRole else none) := by
  have distinct : (standard.map Prod.fst).Nodup := by decide +kernel
  rw [of?, table, Dictionary.get?_foldl_insertIfNew, Dictionary.get?_ofEntries_of_nodup distinct]

end TagPolicy

namespace Interactivity

/-- The role takes the semantics of an element away. -/
def isPresentational (name : String) : Bool :=
  Text.eqIgnoringCase name "presentation" || Text.eqIgnoringCase name "none"

/-- Go through role names, given whether a concrete role has been met and whether an interactive
one has. Names of unknown and abstract roles are passed over, a presentational role ends it. -/
def scanRoles (ontology : Ontology) (resolved interactive : Bool) : List String → Interactivity
  | [] =>
    match resolved, interactive with
    | _, true => .interactive
    | true, false => .nonInteractive
    | false, false => .indeterminate
  | name :: rest =>
    match ontology.role? name with
    | none => scanRoles ontology resolved interactive rest
    | some role =>
      if role.isAbstract then scanRoles ontology resolved interactive rest
      else if isPresentational name then .nonInteractive
      else scanRoles ontology true (interactive || role.interactive) rest

/-- The interactivity that role names give. -/
def ofRoles (ontology : Ontology) (names : List String) : Interactivity :=
  scanRoles ontology false false names

/-- The interactivity of an element. -/
def classify (ontology : Ontology) (tag : String) (attributes : List Attribute) : Interactivity :=
  match Attribute.roleText? attributes with
  | some role => ofRoles ontology (Text.words role)
  | none =>
    match TagPolicy.of? ontology tag with
    | some .alwaysInteractive => .interactive
    | some .neverInteractive => .nonInteractive
    | some (.byAttribute choice) => choice.decide attributes
    | some .byImplicitRole =>
      match ontology.implicitRoles? tag attributes with
      | some roles => ofRoles ontology roles
      | none => .indeterminate
    | some .neutral | none => .indeterminate

theorem classify_of_neverInteractive {tag : String} {attributes : List Attribute}
    (noRole : Attribute.roleText? attributes = none)
    (own : TagPolicy.standard.lookup (Text.lower tag) = some .neverInteractive)
    (ontology : Ontology) : classify ontology tag attributes = .nonInteractive := by
  simp [classify, noRole, TagPolicy.of?_eq, own]

/-- Hidden inputs and elements with a true `aria-hidden` are hidden from assistive technology. -/
def isHidden (tag : String) (attributes : List Attribute) : Bool :=
  (Text.eqIgnoringCase tag "input" && (Attribute.readingOf attributes "type").equals "hidden") ||
    (Attribute.readingOf attributes "aria-hidden").isTrue

/-- The explicit role names a presentational role. -/
def isPresentation (attributes : List Attribute) : Bool :=
  (Attribute.roleText? attributes).any fun role => (Text.words role).any isPresentational

end Interactivity
end AccessAudit
