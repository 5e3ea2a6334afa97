import GridQuery.Field.Record
import GridQuery.Predicate
import GridQuery.Proofs.Sql.Truth
import GridQuery.Request.Spec

/-!
# Agreement of tests and conditions

A predicate on a field is used in two ways: its test on the records themselves,
its condition on the rows that they are kept in.  The two agree when they
select the same records.  Records are any that have a value of the declared
kind, and rows are any that have this value in the column of the field.
-/

namespace GridQuery

variable {ρ : Type}

/-- The values that a field can hold: those of its kind, and null if the field
is optional. -/
def FieldDescriptor.Admits (field : FieldDescriptor) (value : FieldValue) :
    Prop :=
  value.hasKind field.kind = true ∨ value = .null ∧ field.isOptional = true

/-- The test of a predicate accepts a record exactly if its condition is true
on every row that keeps the record. -/
def Predicate.AgreesOn [Record ρ] (predicate : Predicate ρ)
    (field : FieldDescriptor) (admitted : FieldValue → Prop) : Prop :=
  ∃ condition, predicate.condition = some condition ∧
    ∀ (record : ρ) (row : Sql.Row),
      row field.column = field.read record →
      admitted (field.read record) →
      (predicate.test record = true ↔ condition.truth row = some true)

/-- A record with one field. -/
structure Cell where
  value : FieldValue
deriving DecidableEq

/-- The field of a record that has no other. -/
def Cell.field (kind : FieldKind) (isOptional : Bool) : FieldDescriptor :=
  ⟨0, "Cell", "cell", kind, isOptional⟩

instance : Record Cell :=
  ⟨"cell", [Cell.field .integer true], fun cell _ => cell.value⟩

/-- The operators that compare the order of values. -/
def comparisonOperators : List FilterOperator :=
  [.equals, .notEqual, .greaterThan, .greaterThanOrEqual, .lessThan,
    .lessThanOrEqual]

/-- The operators that look at text. -/
def textOperators : List FilterOperator :=
  [.equals, .notEqual, .contains, .doesNotContain, .startsWith, .endsWith]

/-- The operator of a filter, unless it is one for given values. -/
def FilterSpec.operator? : FilterSpec → Option FilterOperator
  | text filter => some filter.operator
  | numeric filter => some filter.operator
  | date filter => some filter.operator
  | singleSelect _ | multiSelect _ => none

theorem Comparison.ofOperator?_isSome_iff {operator : FilterOperator} :
    (Comparison.ofOperator? operator).isSome = true ↔
      operator ∈ comparisonOperators := by
  cases operator <;> decide

theorem Predicate.agreesOn_new [Record ρ] {field : FieldDescriptor}
    {admitted : FieldValue → Prop} {accepts : FieldValue → Bool}
    {condition : Sql.Condition}
    (agree : ∀ (value : FieldValue) (row : Sql.Row),
      row field.column = value → admitted value →
      (accepts value = true ↔ condition.truth row = some true)) :
    (Predicate.new (fun record : ρ => accepts (field.read record))
      condition).AgreesOn field admitted := by
  refine ⟨condition, rfl, ?_⟩
  intro record row kept possible
  exact agree (field.read record) row kept possible

end GridQuery
