import GridQuery.Request.Code

/-!
# Comparisons

The six comparisons of ordered values, which numeric and date filters and query conditions share.
-/

namespace GridQuery

/-- A comparison of two ordered values. -/
inductive Comparison where
  | equal
  | notEqual
  | greater
  | greaterOrEqual
  | less
  | lessOrEqual
deriving DecidableEq

namespace Comparison

/-- The comparison of a filter operator, unless the operator looks inside a text or is a range. -/
def ofOperator? : FilterOperator → Option Comparison
  | .equals => some equal
  | .notEqual => some notEqual
  | .greaterThan => some greater
  | .greaterThanOrEqual => some greaterOrEqual
  | .lessThan => some less
  | .lessThanOrEqual => some lessOrEqual
  | _ => none

/-- Whether a comparison holds of two values that are ordered so. -/
def accepts : Comparison → Ordering → Bool
  | equal, ordering => ordering == .eq
  | notEqual, ordering => ordering != .eq
  | greater, ordering => ordering == .gt
  | greaterOrEqual, ordering => ordering != .lt
  | less, ordering => ordering == .lt
  | lessOrEqual, ordering => ordering != .gt

/-- Whether a filter with a comparison accepts null. Null differs from every value and is not ordered
with any. -/
def acceptsNull : Comparison → Bool
  | notEqual => true
  | _ => false

end Comparison

end GridQuery
