import GridQuery.Filter.Day
import GridQuery.Proofs.Calendar.DateTime
import GridQuery.Proofs.Filter.Column

/-!
# Date filters in queries

The condition of a date filter is true on exactly the values that its test
accepts.  On a column of moments the test compares days while the condition
compares moments with the midnights around the day.  The last day of the
calendar has only the first of the two, and no moment comes after it.
-/

namespace GridQuery.Filter

variable {ρ : Type} [Record ρ] {field : FieldDescriptor} {row : Sql.Row}

theorem accepts_dateOrder_iff (comparison : Comparison) (left right : Date) :
    comparison.accepts (left.order right) = true ↔
      comparison.Relates left.place right.place := by
  rw [Date.order_eq_compare, Comparison.accepts_compare_iff]

theorem truth_compare_moment {t : DateTime}
    (kept : Sql.ofField? (row field.column) =
      some (momentParameter field.kind t))
    (comparison : Comparison) (bound : DateTime) :
    (Sql.Test.compare (.column field.column) comparison
        (.value (momentParameter field.kind bound))).truth row = some true ↔
      comparison.Relates t.place bound.place := by
  have known : (Sql.Term.column field.column).value? row =
      some (momentParameter field.kind t) := by
    simpa using kept
  have comparable :
      (momentParameter field.kind t).order?
        (momentParameter field.kind bound) = some (t.order bound) := by
    unfold momentParameter
    split <;> rfl
  rw [Sql.Test.truth_compare known rfl,
    Sql.Value.satisfies_of_order?_eq_some comparable,
    DateTime.order_eq_compare, Option.some.injEq,
    Comparison.accepts_compare_iff]

theorem truth_dayCondition_iff_of_moment {t : DateTime}
    (kept : Sql.ofField? (row field.column) =
      some (momentParameter field.kind t))
    (comparison : Comparison) (day : Date) :
    (dayCondition field comparison day).truth row = some true ↔
      comparison.Relates t.date.place day.place := by
  have notNull : (Sql.Test.isNotNull (.column field.column)).truth row =
      some true := by
    simp [Sql.Test.truth, kept]
  have isNull : (Sql.Test.isNull (.column field.column)).truth row =
      some false := by
    simp [Sql.Test.truth, kept]
  have start := DateTime.place_midnight_le_iff day t
  cases next : day.next? with
  | some following =>
      have finish := DateTime.place_lt_midnight_next_iff next t
      cases comparison
      case notEqual =>
        by_cases optional : field.isOptional = true
        · simp [dayCondition, next, truth_compare_moment kept,
            Comparison.Relates, optional, isNull]
          omega
        · simp [dayCondition, next, truth_compare_moment kept,
            Comparison.Relates, optional]
          omega
      all_goals
        simp [dayCondition, next, truth_compare_moment kept,
          Comparison.Relates]
        omega
  | none =>
      have last := Date.place_le_of_next?_eq_none next t.date
      cases comparison
      case notEqual =>
        by_cases optional : field.isOptional = true
        · simp [dayCondition, next, truth_compare_moment kept,
            Comparison.Relates, optional, isNull]
          omega
        · simp [dayCondition, next, truth_compare_moment kept,
            Comparison.Relates, optional]
          omega
      all_goals
        simp [dayCondition, next, truth_compare_moment kept,
          Comparison.Relates, notNull]
        omega

/-- On null the condition asks for nothing but null itself. -/
theorem truth_dayCondition_iff_of_null
    (kept : row field.column = .null) (optional : field.isOptional = true)
    (comparison : Comparison) (day : Date) :
    (dayCondition field comparison day).truth row = some true ↔
      comparison.acceptsNull = true := by
  have missing : (Sql.Term.column field.column).value? row = none := by
    simp [kept, Sql.ofField?]
  have compared (comparison : Comparison) (bound : Sql.Term) :
      (Sql.Test.compare (.column field.column) comparison bound).truth row =
        none :=
    Sql.Test.truth_compare_of_null missing comparison bound
  have notNull : (Sql.Test.isNotNull (.column field.column)).truth row =
      some false := by
    simp [Sql.Test.truth, missing]
  have isNull : (Sql.Test.isNull (.column field.column)).truth row =
      some true := by
    simp [Sql.Test.truth, missing]
  cases next : day.next? <;> cases comparison <;>
    simp [dayCondition, next, compared, notNull, isNull, optional,
      Comparison.acceptsNull]

theorem exists_moment_of_hasKind {value : FieldValue}
    (temporal : field.kind = .dateTime ∨ field.kind = .dateTimeUtc)
    (admitted : value.hasKind field.kind = true) :
    ∃ t : DateTime, value.day? = some t.date ∧
      Sql.ofField? value = some (momentParameter field.kind t) := by
  rcases temporal with kind | kind
  · rw [kind] at admitted ⊢
    cases value with
    | dateTime t => exact ⟨t, rfl, rfl⟩
    | _ => simp [FieldValue.hasKind] at admitted
  · rw [kind] at admitted ⊢
    cases value with
    | dateTimeUtc t => exact ⟨t, rfl, rfl⟩
    | _ => simp [FieldValue.hasKind] at admitted

/-- The condition of a date filter, on whatever the field can hold. -/
theorem acceptsDay_iff_truth {value : FieldValue}
    (temporal : field.kind = .date ∨ field.kind = .dateTime ∨
      field.kind = .dateTimeUtc)
    (kept : row field.column = value) (admitted : field.Admits value)
    (comparison : Comparison) (day : Date) :
    acceptsDay comparison day value = true ↔
      (if field.kind = .date then compareColumn field comparison (.date day)
        else dayCondition field comparison day).truth row = some true := by
  rcases admitted with ofKind | ⟨rfl, optional⟩
  · rcases temporal with kind | moments
    · rw [kind] at ofKind
      cases value with
      | date found =>
          have content : Sql.ofField? (row field.column) =
              some (.date found) := by
            rw [kept]
            rfl
          have satisfies :
              (Sql.Value.date found).satisfies comparison (.date day) =
                comparison.accepts (found.order day) :=
            Sql.Value.satisfies_of_order?_eq_some rfl comparison
          rw [if_pos kind, truth_compareColumn_iff_of_value content,
            satisfies]
          rfl
      | _ => simp [FieldValue.hasKind] at ofKind
    · obtain ⟨t, day?, content⟩ := exists_moment_of_hasKind moments ofKind
      have notDate : field.kind ≠ .date := by
        rcases moments with kind | kind <;> simp [kind]
      rw [if_neg notDate,
        truth_dayCondition_iff_of_moment (by rw [kept, content]),
        ← accepts_dateOrder_iff]
      simp [acceptsDay, day?]
  · by_cases kind : field.kind = .date
    · rw [if_pos kind, truth_compareColumn_iff_of_null kept optional]
      rfl
    · rw [if_neg kind, truth_dayCondition_iff_of_null kept optional]
      rfl

/-- A date filter on a temporal field is compiled for each of the six
comparisons, its test compares the day of the field with that of the filter,
and its condition is true on exactly the accepted records. -/
theorem compileDate_agrees
    (field : FieldDescriptor) (filter : DateFilter)
    (temporal : field.kind = .date ∨ field.kind = .dateTime ∨
      field.kind = .dateTimeUtc)
    (supported : filter.operator ∈ comparisonOperators) :
    ∃ (comparison : Comparison) (predicate : Predicate ρ),
      Comparison.ofOperator? filter.operator = some comparison ∧
      compileDate field filter = .ok predicate ∧
      (∀ record, predicate.test record =
        acceptsDay comparison filter.value (field.read record)) ∧
      predicate.AgreesOn field field.Admits := by
  obtain ⟨comparison, known⟩ := Option.isSome_iff_exists.mp
    (Comparison.ofOperator?_isSome_iff.mpr supported)
  have isTemporal : field.kind.isTemporal = true := by
    rcases temporal with kind | kind | kind <;> rw [kind] <;> rfl
  let condition : Sql.Condition :=
    if field.kind = .date then
      compareColumn field comparison (.date filter.value)
    else
      dayCondition field comparison filter.value
  have compiled : (compileDate field filter : Except GridError (Predicate ρ)) =
      .ok (.new (fun record =>
        acceptsDay comparison filter.value (field.read record))
        condition) := by
    simp only [compileDate, isTemporal, known]
    rfl
  refine ⟨comparison, _, known, compiled, fun _ => rfl, ?_⟩
  apply Predicate.agreesOn_new
  intro value row kept admitted
  exact acceptsDay_iff_truth temporal kept admitted comparison filter.value

/-- The last day of the calendar, which no midnight ends. -/
theorem compileDate_agrees_lastDay :
    ∃ (day : Date) (predicate : Predicate Cell),
      Date.ofYmd? 262142 12 31 = some day ∧ day.next? = none ∧
      compileDate (Cell.field .dateTimeUtc true)
        ⟨"Cell", .lessThanOrEqual, day⟩ = .ok predicate ∧
      predicate.test ⟨.dateTimeUtc (.midnight day)⟩ = true ∧
      predicate.test ⟨.null⟩ = false ∧
      predicate.AgreesOn (Cell.field .dateTimeUtc true)
        (Cell.field .dateTimeUtc true).Admits := by
  let day : Date :=
    ⟨262142, 12, 31, by decide, by decide, by decide, by decide, by decide,
      by decide⟩
  obtain ⟨comparison, predicate, known, compiled, test, agrees⟩ :=
    @compileDate_agrees Cell _ (Cell.field .dateTimeUtc true)
      ⟨"Cell", .lessThanOrEqual, day⟩ (by decide) (by decide)
  cases known
  refine ⟨day, predicate, by decide, by decide, compiled, ?_, ?_, agrees⟩
  · rw [test]
    decide
  · rw [test]
    decide

end GridQuery.Filter
