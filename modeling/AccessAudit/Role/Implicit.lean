import AccessAudit.Markup.Attribute

/-!
# Implicit roles

Elements have roles without saying so. Each entry gives the roles of a tag under constraints on
the attributes; of the entries that match, the one with the most constraints applies, the
first one of those where several have as many.
-/

namespace AccessAudit

/-- A constraint on an attribute. What is not known satisfies none. -/
inductive Constraint where
  /-- The attribute has a known value other than `undefined`. -/
  | present (name : String)
  /-- The attribute has this text, ignoring case. -/
  | equals (name expected : String)
deriving DecidableEq, Repr

namespace Constraint

/-- The attributes satisfy the constraint. -/
def holds (constraint : Constraint) (attributes : List Attribute) : Bool :=
  match constraint with
  | .present name => (Attribute.readingOf attributes name).value?.any (· != .undefined)
  | .equals name expected => (Attribute.readingOf attributes name).equals expected

end Constraint

/-- The roles of a tag under constraints. -/
structure ImplicitRole where
  /-- The tag in small letters. -/
  tag : String
  constraints : List Constraint
  roles : List String
deriving DecidableEq, Repr

namespace ImplicitRole

/-- The roles of a tag whatever its attributes. -/
def plain (tag : String) (roles : List String) : ImplicitRole := ⟨tag, [], roles⟩

/-- The roles of a tag under constraints. -/
def when (tag : String) (constraints : List Constraint) (roles : List String) : ImplicitRole :=
  ⟨tag, constraints, roles⟩

/-- The attributes satisfy all constraints of the entry. -/
def matchesAttributes (entry : ImplicitRole) (attributes : List Attribute) : Bool :=
  entry.constraints.all fun constraint => constraint.holds attributes

/-- The first entry of those with the most constraints. -/
def mostSpecific? (entries : List ImplicitRole) : Option ImplicitRole :=
  entries.foldl (fun best entry =>
    match best with
    | none => some entry
    | some kept =>
      if kept.constraints.length < entry.constraints.length then some entry else best) none

/-- The entries for the elements of HTML. -/
def standard : List ImplicitRole :=
  [.when "a" [.present "href"] ["link"],
    .when "area" [.present "href"] ["link"],
    .when "link" [.present "href"] ["link"],
    .plain "article" ["article"],
    .plain "body" ["document"],
    .plain "button" ["button"],
    .plain "datalist" ["listbox"],
    .plain "dd" ["definition"],
    .plain "details" ["group"],
    .plain "dialog" ["dialog"],
    .plain "dt" ["term"],
    .plain "fieldset" ["group"],
    .plain "figure" ["figure"],
    .plain "form" ["form"],
    .plain "h1" ["heading"],
    .plain "h2" ["heading"],
    .plain "h3" ["heading"],
    .plain "h4" ["heading"],
    .plain "h5" ["heading"],
    .plain "h6" ["heading"],
    .plain "hr" ["separator"],
    .when "img" [.equals "alt" ""] ["presentation"],
    .plain "img" ["img"],
    .when "input" [.equals "type" "button"] ["button"],
    .when "input" [.equals "type" "image"] ["button"],
    .when "input" [.equals "type" "reset"] ["button"],
    .when "input" [.equals "type" "submit"] ["button"],
    .when "input" [.equals "type" "checkbox"] ["checkbox"],
    .when "input" [.equals "type" "radio"] ["radio"],
    .when "input" [.equals "type" "range"] ["slider"],
    .when "input" [.equals "type" "number"] ["spinbutton"],
    .when "input" [.equals "type" "search"] ["searchbox"],
    .when "input" [.equals "type" "email"] ["textbox"],
    .when "input" [.equals "type" "tel"] ["textbox"],
    .when "input" [.equals "type" "text"] ["textbox"],
    .when "input" [.equals "type" "url"] ["textbox"],
    .plain "input" ["textbox"],
    .plain "li" ["listitem"],
    .plain "main" ["main"],
    .plain "math" ["math"],
    .when "menu" [.equals "type" "toolbar"] ["toolbar"],
    .when "menuitem" [.equals "type" "command"] ["menuitem"],
    .when "menuitem" [.equals "type" "checkbox"] ["menuitemcheckbox"],
    .when "menuitem" [.equals "type" "radio"] ["menuitemradio"],
    .plain "nav" ["navigation"],
    .plain "ol" ["list"],
    .plain "option" ["option"],
    .plain "progress" ["progressbar"],
    .plain "section" ["region"],
    .plain "select" ["combobox", "listbox"],
    .plain "table" ["table"],
    .plain "tbody" ["rowgroup"],
    .plain "td" ["cell"],
    .plain "textarea" ["textbox"],
    .plain "tfoot" ["rowgroup"],
    .plain "th" ["columnheader"],
    .plain "thead" ["rowgroup"],
    .plain "tr" ["row"],
    .plain "ul" ["list"]]

end ImplicitRole
end AccessAudit
