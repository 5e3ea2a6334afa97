import GridQuery.Proofs.FirstFailure
import GridQuery.Proofs.Request.Fields
import GridQuery.Proofs.Text.Utf8

/-!
# Parameters that are no request

A range that is written, but not in two parts, is all that makes parameters
unreadable.  Of several such ranges the one of the least field, byte by byte, is
reported.  Whatever else cannot be read is passed over.
-/

namespace GridQuery.RequestParser

variable {options : ParsingOptions} {params : Params} {field raw : String}
  {error : GridError}

/-- The range of a field is written, but the separator does not cut it into two
parts. -/
structure MalformedRange (options : ParsingOptions) (params : Params)
    (field : String) : Prop where
  named : isFieldName field = true
  category_eq : category? options params field = some .numeric ∨
    category? options params field = some .date
  operator_eq : operator? options params field = some .between
  written : rawValue options params field ≠ ""
  parts : (Text.splitOn options.betweenSeparator.toList
    (rawValue options params field).toList).length ≠ 2

section OneField

theorem comparisonSpecs_eq_error_iff {α : Type} {operator : FilterOperator}
    {read : String → Option α} {make : FilterOperator → α → FilterSpec} :
    comparisonSpecs options field raw operator read make = .error error ↔
      operator = .between ∧
        (Text.splitOn options.betweenSeparator.toList raw.toList).length ≠ 2 ∧
        error = .malformedRange field raw := by
  unfold comparisonSpecs
  by_cases range : operator = .between
  · rw [if_pos range]
    split
    · rename_i low high parts
      simp [parts]
    · rename_i others
      have parts : (Text.splitOn options.betweenSeparator.toList
          raw.toList).length ≠ 2 := by
        intro two
        obtain ⟨low, high, pieces⟩ := List.length_eq_two.mp two
        exact others low high pieces
      simp [range, parts, eq_comm]
  · simp [range]

theorem specsOf_eq_error_iff {category : FilterCategory} :
    specsOf options params field raw category = .error error ↔
      (category = .numeric ∨ category = .date) ∧
        operator? options params field = some .between ∧
        (Text.splitOn options.betweenSeparator.toList raw.toList).length ≠ 2 ∧
        error = .malformedRange field raw := by
  cases category with
  | text | numeric | date =>
      simp only [specsOf]
      cases operator? options params field <;>
        simp [comparisonSpecs_eq_error_iff]
  | singleSelect | multiSelect => simp [specsOf]

theorem fieldSpecs_eq_error_iff (named : isFieldName field = true) :
    fieldSpecs options params field = .error error ↔
      MalformedRange options params field ∧
        error = .malformedRange field (rawValue options params field) := by
  have shape : MalformedRange options params field ↔
      (category? options params field = some .numeric ∨
        category? options params field = some .date) ∧
      operator? options params field = some .between ∧
      rawValue options params field ≠ "" ∧
      (Text.splitOn options.betweenSeparator.toList
        (rawValue options params field).toList).length ≠ 2 :=
    ⟨fun range => ⟨range.category_eq, range.operator_eq, range.written,
        range.parts⟩,
      fun ⟨category, operator, written, parts⟩ =>
        ⟨named, category, operator, written, parts⟩⟩
  rw [shape, fieldSpecs]
  cases category? options params field with
  | none => simp
  | some category =>
      by_cases blank : rawValue options params field = ""
      · simp [blank]
      · simp [blank, specsOf_eq_error_iff, and_assoc]

theorem MalformedRange.mem_filterFields
    (range : MalformedRange options params field) :
    field ∈ filterFields options params := by
  rcases range.category_eq with given | given
  · exact mem_filterFields_of_category? range.named given
  · exact mem_filterFields_of_category? range.named given

end OneField

section AllFields

theorem specsOfFields_eq_mapM (fields : List String) :
    specsOfFields options params fields =
      (fields.mapM (fieldSpecs options params)).map List.flatten := by
  induction fields with
  | nil => rfl
  | cons field fields induction =>
      rw [specsOfFields, List.mapM_cons, induction]
      cases fieldSpecs options params field with
      | error error => rfl
      | ok specs =>
          cases fields.mapM (fieldSpecs options params) <;> rfl

theorem specsOfFields_eq_error_iff {fields : List String} :
    specsOfFields options params fields = .error error ↔
      FailsFirst
        (fun field error => fieldSpecs options params field = .error error)
        fields error := by
  rw [specsOfFields_eq_mapM, map_eq_error_iff, mapM_eq_error_iff]

theorem filterSpecs_eq_error_iff :
    filterSpecs options params = .error error ↔
      ∃ field, MalformedRange options params field ∧
        (∀ other, MalformedRange options params other →
          (Text.byteOrder field other).isLE = true) ∧
        error = .malformedRange field (rawValue options params field) := by
  have asymm : ∀ left right, Text.stringOrder left right = .lt →
      ¬ Text.stringOrder right left = .lt :=
    fun _ _ => Std.OrientedCmp.not_lt_of_lt
  rw [filterSpecs, specsOfFields_eq_error_iff,
    failsFirst_iff_least (ascending_filterFields options params) asymm]
  simp only [Text.byteOrder_eq_stringOrder]
  constructor
  · rintro ⟨field, member, failed, least⟩
    have named := (mem_filterFields_iff.mp member).1
    obtain ⟨range, rfl⟩ := (fieldSpecs_eq_error_iff named).mp failed
    refine ⟨field, range, ?_, rfl⟩
    intro other otherRange
    have fails := (fieldSpecs_eq_error_iff otherRange.named).mpr
      ⟨otherRange, rfl⟩
    rcases least other otherRange.mem_filterFields ⟨_, fails⟩ with
      rfl | before
    · exact Std.ReflCmp.isLE_rfl
    · rw [before]
      rfl
  · rintro ⟨field, range, least, rfl⟩
    refine ⟨field, range.mem_filterFields,
      (fieldSpecs_eq_error_iff range.named).mpr ⟨range, rfl⟩, ?_⟩
    rintro other member ⟨reason, fails⟩
    have named := (mem_filterFields_iff.mp member).1
    have otherRange := ((fieldSpecs_eq_error_iff named).mp fails).1
    by_cases same : other = field
    · exact .inl same
    · exact .inr (lt_of_isLE_of_ne (least other otherRange) (Ne.symm same))

theorem exists_filterSpecs_eq_error_iff :
    (∃ error, filterSpecs options params = .error error) ↔
      ∃ field, MalformedRange options params field := by
  constructor
  · rintro ⟨error, failed⟩
    obtain ⟨field, range, -⟩ := filterSpecs_eq_error_iff.mp failed
    exact ⟨field, range⟩
  · rintro ⟨field, range⟩
    simp only [filterSpecs, specsOfFields_eq_error_iff, exists_failsFirst_iff]
    exact ⟨field, range.mem_filterFields, _,
      (fieldSpecs_eq_error_iff range.named).mpr ⟨range, rfl⟩⟩

end AllFields

section Request

variable {sections : Sections}

theorem parse_eq_error_iff :
    parse options sections params = .error error ↔
      sections.filters = true ∧ filterSpecs options params = .error error := by
  rw [parse_eq_map, map_eq_error_iff]
  by_cases filtersRead : sections.filters = true
  · simp [filtersRead]
  · simp [filtersRead]

theorem exists_parse_eq_ok_iff :
    (∃ request, parse options sections params = .ok request) ↔
      (sections.filters = true →
        ∀ field, ¬ MalformedRange options params field) := by
  rw [← not_exists, ← exists_filterSpecs_eq_error_iff, ← not_and,
    ← exists_and_left]
  simp only [← parse_eq_error_iff]
  cases parse options sections params <;> simp

end Request

/-- Parameters are read, unless filters are to be read and the range of a field
is malformed.  The error then names the least field, byte by byte, that has such
a range, and its value without the blanks at the ends. -/
theorem parse_eq_error_iff_malformedRange (options : ParsingOptions)
    (sections : Sections) (params : Params) :
    (∀ error, parse options sections params = .error error ↔
      sections.filters = true ∧
        ∃ field, MalformedRange options params field ∧
          (∀ other, MalformedRange options params other →
            (Text.byteOrder field other).isLE = true) ∧
          error = .malformedRange field (rawValue options params field)) ∧
    ((∃ request, parse options sections params = .ok request) ↔
      (sections.filters = true →
        ∀ field, ¬ MalformedRange options params field)) := by
  refine ⟨fun error => ?_, exists_parse_eq_ok_iff⟩
  rw [parse_eq_error_iff, filterSpecs_eq_error_iff]

end GridQuery.RequestParser
