import GridQuery.Filter.Compile
import GridQuery.Proofs.Field.Table
import GridQuery.Proofs.Filter.Text
import GridQuery.Proofs.FirstFailure

/-!
# Why filters are refused

A filter is refused if no field has its name, or else if its category does not
suit the kind of the field, or else if its operator is not one of the category.
Of several filters the first one that is refused is reported.
-/

namespace GridQuery

/-- Whether filters of a category can be applied to fields of a kind. -/
def FilterCategory.suits : FilterCategory → FieldKind → Bool
  | text, kind => kind = .text
  | numeric, kind => kind.isNumeric
  | date, kind => kind.isTemporal
  | singleSelect, _ | multiSelect, _ => true

/-- The operators that filters of a category can have. -/
def FilterCategory.operators : FilterCategory → List FilterOperator
  | text => textOperators
  | numeric | date => comparisonOperators
  | singleSelect | multiSelect => []

namespace Filter

variable {ρ : Type} [Record ρ] {options : ParsingOptions} {error : GridError}

/-- A filter of records is refused with an error. -/
inductive Refused (ρ : Type) [Record ρ] (filter : FilterSpec) :
    GridError → Prop where
  | unknown :
      (∀ field ∈ Record.descriptors ρ, field.isNamed filter.field = false) →
      Refused ρ filter (.fieldNotFound (Record.typeName ρ) filter.field)
  | mismatched {field : FieldDescriptor} :
      (Record.descriptors ρ).find? (·.isNamed filter.field) = some field →
      filter.category.suits field.kind = false →
      Refused ρ filter (mismatch field filter.category)
  | unsupported {field : FieldDescriptor} {operator : FilterOperator} :
      (Record.descriptors ρ).find? (·.isNamed filter.field) = some field →
      filter.category.suits field.kind = true →
      filter.operator? = some operator →
      operator ∉ filter.category.operators →
      Refused ρ filter (unsupported field filter.category operator)

section OnField

variable {field : FieldDescriptor}

theorem textTest?_eq_none_iff (column : String) {operator : FilterOperator}
    (value : List Char) :
    textTest? column operator value = none ↔ operator ∉ textOperators := by
  rw [← Option.not_isSome_iff_eq_none, textTest?_isSome_iff]

theorem ofOperator?_eq_none_iff {operator : FilterOperator} :
    Comparison.ofOperator? operator = none ↔
      operator ∉ comparisonOperators := by
  rw [← Option.not_isSome_iff_eq_none, Comparison.ofOperator?_isSome_iff]

theorem compileText_eq_error_iff {filter : TextFilter} :
    (compileText field filter : Except GridError (Predicate ρ)) =
        .error error ↔
      (field.kind ≠ .text ∧ error = mismatch field .text) ∨
      (field.kind = .text ∧ filter.operator ∉ textOperators ∧
        error = unsupported field .text filter.operator) := by
  rw [← textTest?_eq_none_iff field.column (Text.upper filter.value.toList)]
  simp only [compileText]
  by_cases suited : field.kind = .text
  · cases textTest? field.column filter.operator
        (Text.upper filter.value.toList) <;>
      simp [suited, eq_comm]
  · simp [suited, eq_comm]

theorem compileNumeric_eq_error_iff {filter : NumericFilter} :
    (compileNumeric field filter : Except GridError (Predicate ρ)) =
        .error error ↔
      (field.kind.isNumeric = false ∧ error = mismatch field .numeric) ∨
      (field.kind.isNumeric = true ∧ filter.operator ∉ comparisonOperators ∧
        error = unsupported field .numeric filter.operator) := by
  rw [← ofOperator?_eq_none_iff]
  unfold compileNumeric
  cases field.kind.isNumeric with
  | false => simp [eq_comm]
  | true => cases Comparison.ofOperator? filter.operator <;> simp [eq_comm]

theorem compileDate_eq_error_iff {filter : DateFilter} :
    (compileDate field filter : Except GridError (Predicate ρ)) =
        .error error ↔
      (field.kind.isTemporal = false ∧ error = mismatch field .date) ∨
      (field.kind.isTemporal = true ∧ filter.operator ∉ comparisonOperators ∧
        error = unsupported field .date filter.operator) := by
  rw [← ofOperator?_eq_none_iff]
  unfold compileDate
  cases field.kind.isTemporal with
  | false => simp [eq_comm]
  | true => cases Comparison.ofOperator? filter.operator <;> simp [eq_comm]

/-- On a field the category is looked at before the operator. -/
theorem compileOn_eq_error_iff {filter : FilterSpec} :
    (compileOn field filter options : Except GridError (Predicate ρ)) =
        .error error ↔
      (filter.category.suits field.kind = false ∧
        error = mismatch field filter.category) ∨
      (filter.category.suits field.kind = true ∧
        ∃ operator, filter.operator? = some operator ∧
          operator ∉ filter.category.operators ∧
          error = unsupported field filter.category operator) := by
  cases filter with
  | text filter =>
      simp [compileOn, compileText_eq_error_iff, FilterSpec.category,
        FilterSpec.operator?, FilterCategory.suits, FilterCategory.operators]
  | numeric filter =>
      simp [compileOn, compileNumeric_eq_error_iff, FilterSpec.category,
        FilterSpec.operator?, FilterCategory.suits, FilterCategory.operators]
  | date filter =>
      simp [compileOn, compileDate_eq_error_iff, FilterSpec.category,
        FilterSpec.operator?, FilterCategory.suits, FilterCategory.operators]
  | singleSelect filter | multiSelect filter =>
      simp [compileOn, FilterSpec.category, FilterSpec.operator?,
        FilterCategory.suits]

end OnField

theorem compile_eq_error_iff {filter : FilterSpec} :
    (compile filter options : Except GridError (Predicate ρ)) =
        .error error ↔
      Refused ρ filter error := by
  unfold compile
  cases resolved : (FieldTable.of ρ).resolve filter.field with
  | error reason =>
      obtain ⟨unnamed, rfl⟩ := FieldTable.resolve_eq_error_iff.mp resolved
      have nowhere : (Record.descriptors ρ).find? (·.isNamed filter.field) =
          none := by
        simpa [List.find?_eq_none] using unnamed
      constructor
      · intro failed
        cases failed
        exact .unknown unnamed
      · intro refused
        cases refused with
        | unknown => rfl
        | mismatched found => cases nowhere.symm.trans found
        | unsupported found => cases nowhere.symm.trans found
  | ok field =>
      have found := FieldTable.resolve_eq_ok_iff.mp resolved
      rw [Except.bind, compileOn_eq_error_iff]
      constructor
      · rintro (⟨unsuited, rfl⟩ | ⟨suited, operator, given, foreign, rfl⟩)
        · exact .mismatched found unsuited
        · exact .unsupported found suited given foreign
      · intro refused
        cases refused with
        | unknown unnamed =>
            have named := List.find?_some found
            rw [unnamed field (List.mem_of_find?_eq_some found)] at named
            cases named
        | mismatched found' unsuited =>
            obtain rfl := Option.some.inj (found.symm.trans found')
            exact .inl ⟨unsuited, rfl⟩
        | unsupported found' suited given foreign =>
            obtain rfl := Option.some.inj (found.symm.trans found')
            exact .inr ⟨suited, _, given, foreign, rfl⟩

theorem exists_compile_eq_ok_iff {filter : FilterSpec} :
    (∃ predicate : Predicate ρ, compile filter options = .ok predicate) ↔
      ∀ error, ¬ Refused ρ filter error := by
  simp only [exists_eq_ok_iff, ne_eq, compile_eq_error_iff]

theorem compileAll_eq_mapM (filters : List FilterSpec) :
    (compileAll options filters : Except GridError (List (Predicate ρ))) =
      filters.mapM (compile · options) := by
  induction filters with
  | nil => rfl
  | cons filter filters induction =>
      rw [compileAll, List.mapM_cons, induction]
      rfl

theorem compileAll_eq_error_iff {filters : List FilterSpec} :
    (compileAll options filters : Except GridError (List (Predicate ρ))) =
        .error error ↔
      FailsFirst (Refused ρ) filters error := by
  rw [compileAll_eq_mapM, mapM_eq_error_iff]
  simp only [compile_eq_error_iff]

theorem exists_compileAll_eq_ok_iff {filters : List FilterSpec} :
    (∃ predicates : List (Predicate ρ),
      compileAll options filters = .ok predicates) ↔
      ∀ filter ∈ filters, ∀ error, ¬ Refused ρ filter error := by
  simp only [exists_eq_ok_iff, ne_eq, compileAll_eq_error_iff,
    forall_not_failsFirst_iff]

end Filter

end GridQuery
