import GridQuery.Comparison
import GridQuery.Field.Record
import GridQuery.Filter.Refusal
import GridQuery.Predicate
import GridQuery.Request.Spec

/-!
# Numeric filters

Filters that compare a numeric field with a number. Integers and decimals are compared exactly, floats
as floats. Null satisfies only the filter for values that differ.
-/

namespace GridQuery.Filter

open Number

/-- The condition that a column compares so with a value. Where null is possible it counts as
different. -/
def compareColumn (field : FieldDescriptor) (comparison : Comparison) (value : Sql.Value) :
    Sql.Condition :=
  let test := Sql.Condition.test (.compare (.column field.column) comparison (.value value))
  if comparison.acceptsNull then
    .any (test :: if field.isOptional then [.test (.isNull (.column field.column))] else [])
  else
    .all [test]

/-- The order of a value of a field and the number of a filter, if they are comparable. -/
def numericOrder? (value : FieldValue) (target : NumericValue) : Option Ordering :=
  match value with
  | .float value => value.partialOrder? target.toDecimal.toBinary64
  | value => value.toDecimal?.map fun decimal => decimal.order target.toDecimal

/-- The number of a filter as the query value for a column of a kind: a decimal for decimals, an integer
for integers if it is one, and else a float. -/
def numericParameter (kind : FieldKind) (target : NumericValue) : Sql.Value :=
  let decimal := target.toDecimal
  match kind with
  | .decimal => .decimal decimal
  | .integer =>
      if decimal.isWhole then
        match decimal.toInt64? with
        | some integer => .integer integer
        | none => .float decimal.toBinary64
      else
        .float decimal.toBinary64
  | _ => .float decimal.toBinary64

/-- Whether a value of a field satisfies a numeric filter. -/
def acceptsNumber (comparison : Comparison) (target : NumericValue) (value : FieldValue) : Bool :=
  if value.isNull then
    comparison.acceptsNull
  else
    (numericOrder? value target).any comparison.accepts

def compileNumeric {ρ : Type} [Record ρ] (field : FieldDescriptor) (filter : NumericFilter) :
    Except GridError (Predicate ρ) :=
  if field.kind.isNumeric then
    match Comparison.ofOperator? filter.operator with
    | some comparison =>
        .ok (.new (fun record => acceptsNumber comparison filter.value (field.read record))
          (compareColumn field comparison (numericParameter field.kind filter.value)))
    | none => .error (unsupported field .numeric filter.operator)
  else
    .error (mismatch field .numeric)

end GridQuery.Filter
