import AccessAudit.Json.Writer
import AccessAudit.Markup.Vocabulary

/-!
# Options

Each rule has a shape for its options, against which they are checked before the rule is made:
none, one or more names, or a table of names by key. Missing options fit every shape.
-/

namespace AccessAudit

/-- Why a value is no list of distinct names. -/
inductive ListFault where
  | notAList
  | emptyText
  | repeated (name : String)
  | notAText (found : Json)

namespace ListFault

/-- The fault as it is shown. -/
def message : ListFault → String
  | .notAList => "expected an array of strings"
  | .emptyText => "empty string"
  | .repeated name => "duplicate \"" ++ name ++ "\""
  | .notAText found => "expected a string, found " ++ found.text

end ListFault

/-- Why options do not fit a shape. -/
inductive OptionFault where
  | noneTaken
  | notNames
  | notATable
  | unknownKey (key : String)
  | list (fault : ListFault)
  | member (key : String) (fault : ListFault)

namespace OptionFault

/-- The fault as it is shown. -/
def message : OptionFault → String
  | .noneTaken => "rule takes no options"
  | .notNames => "expected a non-empty string or a non-empty array of strings"
  | .notATable => "expected an object"
  | .unknownKey key => "unknown key \"" ++ key ++ "\""
  | .list fault => fault.message
  | .member key fault => "\"" ++ key ++ "\": " ++ fault.message

end OptionFault

/-- The shape of the options of a rule. -/
inductive OptionShape where
  /-- No options; an empty object is tolerated. -/
  | nothing
  /-- A name, or a list of one or more distinct names. -/
  | names
  /-- Lists of distinct names under the given keys, and, if so set, under known tags. -/
  | table (keys : List String) (tags : Bool)
deriving DecidableEq, Repr

namespace OptionShape

/-- The names of a list from some item on, none of which may be empty or have been seen. -/
def namesFrom (seen : List String) : List Json → Except ListFault (List String)
  | [] => .ok []
  | .string name :: rest =>
    if name = "" then .error .emptyText
    else if seen.contains name then .error (.repeated name)
    else (namesFrom (name :: seen) rest).map (name :: ·)
  | other :: _ => .error (.notAText other)

/-- The distinct names a value lists. -/
def nameList : Json → Except ListFault (List String)
  | .array items => namesFrom [] items
  | _ => .error .notAList

/-- The key is one of a table. -/
def isKey (keys : List String) (tags : Bool) (key : String) : Bool :=
  keys.contains key || (tags && Vocabulary.isKnown key)

/-- A member of a table has a proper key and lists distinct names. -/
def checkMember (keys : List String) (tags : Bool) (member : String × Json) :
    Except OptionFault Unit :=
  if isKey keys tags member.1 then
    match nameList member.2 with
    | .ok _ => .ok ()
    | .error fault => .error (.member member.1 fault)
  else .error (.unknownKey member.1)

/-- Check a value against a shape; the first fault counts. -/
def checkValue : OptionShape → Json → Except OptionFault Unit
  | .nothing, .object [] => .ok ()
  | .nothing, _ => .error .noneTaken
  | .names, .string name => if name = "" then .error .notNames else .ok ()
  | .names, .array [] => .error .notNames
  | .names, .array items =>
    match nameList (.array items) with
    | .ok _ => .ok ()
    | .error fault => .error (.list fault)
  | .names, _ => .error .notNames
  | .table keys tags, .object members => members.forM (checkMember keys tags)
  | .table _ _, _ => .error .notATable

/-- Check options against a shape. -/
def check (shape : OptionShape) : Option Json → Except OptionFault Unit
  | none => .ok ()
  | some options => shape.checkValue options

/-- The names that options give, once they have been checked. -/
def namesOf : Json → List String
  | .string name => [name]
  | .array items => items.filterMap Json.string?
  | _ => []

/-- The members of options that are a table. -/
def membersOf : Option Json → List (String × Json)
  | some (.object members) => members
  | _ => []

end OptionShape
end AccessAudit
