import GridQuery.Field.Table
import GridQuery.Ordering
import GridQuery.Request.Spec
import GridQuery.Sql.Select

/-!
# Sorting

The ordering of records that sort keys ask for, and its form in a query, which puts nulls where the
ordering of records puts them.
-/

namespace GridQuery.Sort

/-- The keys of a request, each on the field that it names. -/
def compileKeys (table : FieldTable) : List SortSpec → Except GridError (List SortKey)
  | [] => .ok []
  | spec :: specs =>
      (table.resolve spec.field).bind fun field =>
        (compileKeys table specs).map (⟨field, spec.direction⟩ :: ·)

/-- The ordering of records that sort keys ask for. -/
def compile (ρ : Type) [Record ρ] (specs : List SortSpec) : Except GridError RecordOrder :=
  (compileKeys (FieldTable.of ρ) specs).map RecordOrder.mk

/-- Where nulls stand in a query: before all values when ascending. -/
def nullPlace : SortDirection → Sql.NullPlace
  | .ascending => .first
  | .descending => .last

/-- A key in a query. -/
def queryTerm (key : SortKey) : Sql.OrderTerm :=
  .column key.field.column key.direction (nullPlace key.direction)

end GridQuery.Sort
