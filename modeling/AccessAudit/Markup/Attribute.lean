import AccessAudit.Script.Expression

/-!
# Attributes

An attribute has a name and possibly a value. Reading it gives its statically known value, or
tells that it is there with a value nobody knows, or that it is missing. Names are compared
ignoring case, and of several attributes of one name the first one counts.
-/

namespace AccessAudit

/-- An attribute of an element. -/
structure Attribute where
  name : String
  /-- The value; an attribute that is only mentioned has none. -/
  value : Option Expression

/-- What is known of an attribute. -/
inductive Reading where
  /-- It has this value. -/
  | known (value : Value)
  /-- It is there, but its value is not static. -/
  | unknown
  /-- It is missing. -/
  | absent
deriving DecidableEq, Repr

namespace Reading

/-- The value, if it is known. -/
def value? : Reading → Option Value
  | .known value => some value
  | _ => none

/-- The attribute is missing. -/
def isAbsent : Reading → Bool
  | .absent => true
  | _ => false

/-- The attribute has a value that is not static. -/
def isUnknown : Reading → Bool
  | .unknown => true
  | _ => false

/-- The contents of a known string. -/
def string? (reading : Reading) : Option String :=
  reading.value?.bind Value.string?

/-- The attribute is there, and not known to be `undefined`. -/
def isDefined : Reading → Bool
  | .known value => value != .undefined
  | .unknown => true
  | .absent => false

/-- The attribute is there, and not known to be `null` or `undefined`. -/
def isBound : Reading → Bool
  | .known value => !value.isNullish
  | .unknown => true
  | .absent => false

/-- The boolean true, or the string `true` in any case. -/
def isTrue : Reading → Bool
  | .known (.boolean truth) => truth
  | .known (.string text) => Text.eqIgnoringCase text "true"
  | _ => false

/-- The text of a known value other than `null` and `undefined`. -/
def text? : Reading → Option String
  | .known value => if value.isNullish then none else some value.text
  | _ => none

/-- The attribute is known to have a text equal to the expected one, ignoring case. -/
def equals (reading : Reading) (expected : String) : Bool :=
  reading.text?.any fun text => Text.eqIgnoringCase text expected

end Reading

namespace Attribute

/-- The attribute has this name, ignoring case. -/
def isNamed (attr : Attribute) (name : String) : Bool :=
  Text.eqIgnoringCase attr.name name

/-- Read an attribute: one that is only mentioned reads as true. -/
def reading (attr : Attribute) : Reading :=
  match attr.value with
  | none => .known (.boolean true)
  | some expression =>
    match expression.value? with
    | some value => .known value
    | none => .unknown

/-- The first attribute of a name. -/
def find? (attributes : List Attribute) (name : String) : Option Attribute :=
  attributes.find? fun attr => attr.isNamed name

/-- Read the first attribute of a name. -/
def readingOf (attributes : List Attribute) (name : String) : Reading :=
  match find? attributes name with
  | some attr => attr.reading
  | none => .absent

/-- The position of the first attribute of a name. -/
def index? (attributes : List Attribute) (name : String) : Option Nat :=
  attributes.findIdx? fun attr => attr.isNamed name

/-- The text of the `role` attribute, where it is known and neither `null` nor `undefined`. -/
def roleText? (attributes : List Attribute) : Option String :=
  (readingOf attributes "role").text?

end Attribute
end AccessAudit
