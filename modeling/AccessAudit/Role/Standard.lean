import AccessAudit.Role.Declaration

/-!
# The role taxonomy

The roles of WAI-ARIA 1.1 with their direct superclasses and required properties.
-/

namespace AccessAudit
namespace Taxonomy

/-- What every role with a checked state requires. -/
def checked : List String := ["aria-checked"]

/-- What every role with a value in a range requires. -/
def rangeValues : List String := ["aria-valuemax", "aria-valuemin", "aria-valuenow"]

/-- The roles that only structure the taxonomy. -/
def abstractRoles : List RoleDecl :=
  [.abstract "roletype" [],
    .abstract "structure" ["roletype"],
    .abstract "widget" ["roletype"],
    .abstract "window" ["roletype"],
    .abstract "command" ["widget"],
    .abstract "composite" ["widget"],
    .abstract "input" ["widget"],
    .abstract "section" ["structure"],
    .abstract "sectionhead" ["structure"],
    .abstract "range" ["structure"],
    .abstract "landmark" ["section"],
    .abstract "select" ["composite", "group"]]

/-- The roles of controls. -/
def widgetRoles : List RoleDecl :=
  [.concrete "button" ["command"],
    .requiring "checkbox" ["input"] checked,
    .requiring "combobox" ["select"] ["aria-expanded"],
    .concrete "grid" ["composite", "table"],
    .concrete "gridcell" ["cell", "widget"],
    .concrete "link" ["command"],
    .concrete "listbox" ["select"],
    .concrete "menu" ["select"],
    .concrete "menubar" ["menu"],
    .concrete "menuitem" ["command"],
    .requiring "menuitemcheckbox" ["menuitem"] checked,
    .requiring "menuitemradio" ["menuitemcheckbox", "radio"] checked,
    .requiring "option" ["input"] ["aria-selected"],
    .concrete "progressbar" ["range", "widget"],
    .requiring "radio" ["input"] checked,
    .concrete "radiogroup" ["select"],
    .concrete "row" ["group", "widget"],
    .requiring "scrollbar" ["range"] ["aria-controls", "aria-orientation", "aria-valuemax",
      "aria-valuemin", "aria-valuenow"],
    .concrete "searchbox" ["textbox"],
    .requiring "slider" ["input", "range"] rangeValues,
    .requiring "spinbutton" ["composite", "input", "range"] rangeValues,
    .requiring "switch" ["checkbox"] checked,
    .concrete "tab" ["sectionhead", "widget"],
    .concrete "tablist" ["composite"],
    .concrete "textbox" ["input"],
    .concrete "tree" ["select"],
    .concrete "treegrid" ["grid", "tree"],
    .concrete "treeitem" ["listitem", "option"]]

/-- The roles of table cells and headers. -/
def cellRoles : List RoleDecl :=
  [.concrete "cell" ["section"],
    .concrete "columnheader" ["cell", "gridcell", "sectionhead"],
    .concrete "rowheader" ["cell", "gridcell", "sectionhead"]]

/-- The roles of document structure. -/
def structureRoles : List RoleDecl :=
  [.concrete "application" ["structure"],
    .concrete "article" ["document"],
    .concrete "definition" ["section"],
    .concrete "directory" ["list"],
    .concrete "document" ["structure"],
    .concrete "feed" ["list"],
    .concrete "figure" ["section"],
    .concrete "group" ["section"],
    .concrete "heading" ["sectionhead"],
    .concrete "img" ["section"],
    .concrete "list" ["section"],
    .concrete "listitem" ["section"],
    .concrete "math" ["section"],
    .concrete "none" ["structure"],
    .concrete "note" ["section"],
    .concrete "presentation" ["structure"],
    .concrete "rowgroup" ["structure"],
    .concrete "separator" ["structure"],
    .concrete "table" ["section"],
    .concrete "term" ["section"],
    .concrete "toolbar" ["group"],
    .concrete "tooltip" ["section"]]

/-- The roles of landmarks. -/
def landmarkRoles : List RoleDecl :=
  [.concrete "banner" ["landmark"],
    .concrete "complementary" ["landmark"],
    .concrete "contentinfo" ["landmark"],
    .concrete "form" ["landmark"],
    .concrete "main" ["landmark"],
    .concrete "navigation" ["landmark"],
    .concrete "region" ["landmark"],
    .concrete "search" ["landmark"]]

/-- The roles of live regions. -/
def liveRegionRoles : List RoleDecl :=
  [.concrete "alert" ["section"],
    .concrete "log" ["section"],
    .concrete "marquee" ["section"],
    .concrete "status" ["section"],
    .concrete "timer" ["status"]]

/-- The roles of windows and panels. -/
def windowRoles : List RoleDecl :=
  [.concrete "alertdialog" ["alert", "dialog"],
    .concrete "dialog" ["window"],
    .concrete "tabpanel" ["section"]]

/-- The taxonomy, group by group. -/
def standard : List RoleDecl :=
  abstractRoles ++ widgetRoles ++ cellRoles ++ structureRoles ++ landmarkRoles ++
    liveRegionRoles ++ windowRoles

end Taxonomy
end AccessAudit
