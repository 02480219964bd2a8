/-!
# Letter case

Tags, attribute names, role names and property names are compared ignoring the case of
ASCII letters only; every other character, accented letters included, is compared as it is.
This file gives the two foldings and the comparison built on them.
-/

namespace AccessAudit
namespace Text

/-- The text with its ASCII capitals made small. -/
def lower (text : String) : String :=
  String.ofList (text.toList.map Char.toLower)

/-- The text with its small ASCII letters made capital. -/
def upper (text : String) : String :=
  String.ofList (text.toList.map Char.toUpper)

/-- Two texts agree when they differ at most in the case of ASCII letters. -/
def eqIgnoringCase (left right : String) : Bool :=
  lower left == lower right

@[simp]
theorem toList_lower (text : String) : (lower text).toList = text.toList.map Char.toLower := by
  simp [lower]

@[simp]
theorem toList_upper (text : String) : (upper text).toList = text.toList.map Char.toUpper := by
  simp [upper]

theorem eqIgnoringCase_iff {left right : String} :
    eqIgnoringCase left right = true ↔ lower left = lower right := by
  simp [eqIgnoringCase]

@[simp]
theorem eqIgnoringCase_refl (text : String) : eqIgnoringCase text text = true := by
  simp [eqIgnoringCase]

theorem eqIgnoringCase_comm (left right : String) :
    eqIgnoringCase left right = eqIgnoringCase right left := by
  simp [eqIgnoringCase, Bool.beq_comm]

end Text
end AccessAudit
