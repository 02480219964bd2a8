import AccessAudit.Script.Value

/-!
# Attribute expressions

An attribute's value is written as an expression. `Expression.value?` evaluates the ones that
are static at a glance: literals, templates without substitutions, the identifier `undefined`,
and prefix operators over these. Every other expression has no known value.
-/

namespace AccessAudit

/-- A prefix operator. -/
inductive PrefixOperator where
  /-- Logical negation. -/
  | not
  /-- Arithmetic negation. -/
  | minus
  /-- Coercion to a number. -/
  | plus
  /-- Bitwise complement. -/
  | complement
deriving DecidableEq, Repr

/-- A piece of a template: text as written, or an expression to be substituted. -/
inductive TemplatePart (Substituted : Type) where
  | text (content : String)
  | substitution (expression : Substituted)

/-- An expression as the host's markup holds it. -/
inductive Expression where
  | literal (value : Value)
  | template (parts : List (TemplatePart Expression))
  | unary (operator : PrefixOperator) (operand : Expression)
  | identifier (name : String)
  /-- Calls, member accesses, functions and all else that is never evaluated. -/
  | dynamic

namespace PrefixOperator

/-- The operator on values. -/
def apply : PrefixOperator → Value → Value
  | .not, value => .boolean (!value.isTruthy)
  | .minus, value => .number value.toNumber.neg
  | .plus, value => .number value.toNumber
  | .complement, value => .number value.toNumber.complement

end PrefixOperator

namespace TemplatePart

/-- The text of a piece, if nothing is substituted in it. -/
def text? {Substituted : Type} : TemplatePart Substituted → Option String
  | .text content => some content
  | .substitution _ => none

end TemplatePart

namespace Expression

/-- The value of an expression, if it is statically known. -/
def value? : Expression → Option Value
  | .literal value => some value
  | .template parts => (parts.mapM TemplatePart.text?).map fun texts => .string (String.join texts)
  | .unary operator operand => operand.value?.map operator.apply
  | .identifier name => if name = "undefined" then some .undefined else none
  | .dynamic => none

/-- An expression under a stack of prefix operators, the outermost one first. -/
def withPrefixes (operators : List PrefixOperator) (operand : Expression) : Expression :=
  operators.foldr .unary operand

end Expression
end AccessAudit
