import GridQuery.Filter.Numeric

/-!
# Date filters

Filters that compare the calendar day of a field with a day. In a query the day of a moment is the
interval from its midnight up to the next one, which the last day of the calendar lacks.
-/

namespace GridQuery.Filter

/-- A moment as the query value for a column of a kind. -/
def momentParameter (kind : FieldKind) (moment : DateTime) : Sql.Value :=
  match kind with
  | .dateTimeUtc => .dateTimeUtc moment
  | _ => .dateTime moment

/-- The condition that the day of a column of moments compares so with a day. -/
def dayCondition (field : FieldDescriptor) (comparison : Comparison) (day : Date) :
    Sql.Condition :=
  let column := Sql.Term.column field.column
  let bound (moment : DateTime) := Sql.Term.value (momentParameter field.kind moment)
  let start := bound (.midnight day)
  let next := day.next?.map fun day => bound (.midnight day)
  let beforeNext := Sql.Condition.test (match next with
    | some next => .compare column .less next
    | none => .isNotNull column)
  let fromNext : List Sql.Condition := match next with
    | some next => [.test (.compare column .greaterOrEqual next)]
    | none => []
  let fromStart := Sql.Condition.test (.compare column .greaterOrEqual start)
  let beforeStart := Sql.Condition.test (.compare column .less start)
  match comparison with
  | .equal => .all [fromStart, beforeNext]
  | .notEqual =>
      .any (beforeStart :: fromNext ++ if field.isOptional then [.test (.isNull column)] else [])
  | .greater => if fromNext.isEmpty then .never else .all fromNext
  | .greaterOrEqual => .all [fromStart]
  | .less => .all [beforeStart]
  | .lessOrEqual => .all [beforeNext]

/-- Whether a value of a field satisfies a date filter. A value without a day counts as null. -/
def acceptsDay (comparison : Comparison) (day : Date) (value : FieldValue) : Bool :=
  match value.day? with
  | some found => comparison.accepts (found.order day)
  | none => comparison.acceptsNull

def compileDate {ρ : Type} [Record ρ] (field : FieldDescriptor) (filter : DateFilter) :
    Except GridError (Predicate ρ) :=
  if field.kind.isTemporal then
    match Comparison.ofOperator? filter.operator with
    | some comparison =>
        .ok (.new (fun record => acceptsDay comparison filter.value (field.read record))
          (if field.kind = .date then
            compareColumn field comparison (.date filter.value)
          else
            dayCondition field comparison filter.value))
    | none => .error (unsupported field .date filter.operator)
  else
    .error (mismatch field .date)

end GridQuery.Filter
