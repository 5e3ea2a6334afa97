import GridQuery.Field.Table
import GridQuery.Filter.Day
import GridQuery.Filter.Select
import GridQuery.Filter.Text

/-!
# Column filters

The predicate of a column filter, on a given field or on the field that it names.
-/

namespace GridQuery.Filter

variable {ρ : Type} [Record ρ]

/-- The predicate of a filter on a field. The name in the filter does not matter. -/
def compileOn (field : FieldDescriptor) (filter : FilterSpec) (options : ParsingOptions) :
    Except GridError (Predicate ρ) :=
  match filter with
  | .text filter => compileText field filter
  | .numeric filter => compileNumeric field filter
  | .date filter => compileDate field filter
  | .singleSelect filter => .ok (compileSingleSelect field filter options)
  | .multiSelect filter => .ok (compileMultiSelect field filter options)

/-- The predicate of a filter on the field that it names. -/
def compile (filter : FilterSpec) (options : ParsingOptions) : Except GridError (Predicate ρ) :=
  ((FieldTable.of ρ).resolve filter.field).bind fun field => compileOn field filter options

/-- The predicates of filters. The first filter that cannot be used is reported. -/
def compileAll (options : ParsingOptions) : List FilterSpec → Except GridError (List (Predicate ρ))
  | [] => .ok []
  | filter :: filters =>
      (compile filter options).bind fun predicate =>
        (compileAll options filters).map (predicate :: ·)

end GridQuery.Filter
