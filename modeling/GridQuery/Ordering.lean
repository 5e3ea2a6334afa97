import GridQuery.Field.Record
import GridQuery.Request.Code

/-!
# Orderings of records

Orderings by one or more fields. A later field breaks the ties of the earlier ones.
-/

namespace GridQuery

/-- A field to order by. -/
structure SortKey where
  field : FieldDescriptor
  direction : SortDirection
deriving DecidableEq

/-- An ordering in a direction. -/
def SortDirection.apply : SortDirection → Ordering → Ordering
  | ascending, ordering => ordering
  | descending, ordering => ordering.swap

/-- An ordering of records by keys. -/
structure RecordOrder where
  keys : List SortKey
deriving DecidableEq

namespace RecordOrder

variable {ρ : Type} [Record ρ]

/-- The order of two records by one key. -/
def compareBy (key : SortKey) (left right : ρ) : Ordering :=
  key.direction.apply ((key.field.read left).order (key.field.read right))

def compareByKeys : List SortKey → ρ → ρ → Ordering
  | [], _, _ => .eq
  | key :: keys, left, right => (compareBy key left right).then (compareByKeys keys left right)

def compare (order : RecordOrder) (left right : ρ) : Ordering :=
  compareByKeys order.keys left right

/-- Whether the ordering orders nothing. -/
def isEmpty (order : RecordOrder) : Bool :=
  order.keys.isEmpty

/-- The records in order. Records that tie keep their places. -/
def sort (order : RecordOrder) (records : List ρ) : List ρ :=
  records.mergeSort fun left right => (order.compare left right).isLE

end RecordOrder

end GridQuery
