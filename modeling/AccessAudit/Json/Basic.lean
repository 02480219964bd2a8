import AccessAudit.Number.Decimal

/-!
# JSON values

Numbers are kept in two kinds: the integers that fit a 64-bit word, and all others as script
numbers. Objects list their members; the reader keeps them in ascending order of their keys.
-/

namespace AccessAudit

/-- A JSON value. -/
inductive Json where
  | null
  | boolean (truth : Bool)
  /-- An integer that fits an unsigned or a signed 64-bit word. -/
  | integer (value : Int)
  /-- Any other number. -/
  | real (value : Number)
  | string (text : String)
  | array (items : List Json)
  | object (members : List (String × Json))

namespace Json

/-- The value of a member of an object. -/
def member? (json : Json) (key : String) : Option Json :=
  match json with
  | .object members => members.lookup key
  | _ => none

/-- The contents of a string. -/
def string? : Json → Option String
  | .string text => some text
  | _ => none

end Json
end AccessAudit
