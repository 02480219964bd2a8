import AccessAudit.Lint.Finding

/-!
# The tab order is left alone

No element is given a positive position in the tab order.
-/

namespace AccessAudit
namespace TabOrder

/-- Check an attribute. -/
def check (attr : Attribute) : Option Finding := do
  guard (attr.isNamed "tabIndex")
  let value ← attr.reading.value?
  guard value.toNumber.isPositive
  return .positiveTabIndex

end TabOrder
end AccessAudit
