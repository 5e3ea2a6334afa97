import GridQuery.Proofs.Filter.Range
import GridQuery.Proofs.Pipeline.Memory

/-!
# Ranges from their parameters to the records

Parameters that ask for a range of a field are read, compiled and run on records
in memory.  The records that are kept are those whose field lies between the
two bounds that the texts of the parameter stand for.  A text that stands for no
bound leaves all records.
-/

namespace GridQuery

open RequestParser

/-- The parameters ask for a range of a field, between bounds that both are
written, and for nothing else that leaves records out. -/
structure AsksForRange (options : ParsingOptions) (params : Params)
    (field : String) (category : FilterCategory) (lowText highText : String) :
    Prop where
  named : isFieldName field = true
  category_eq : category? options params field = some category
  operator_code : code? options params field options.filterTypeKey = some 10
  value_eq : params.get? (options.valueKey field) =
    some (lowText ++ options.betweenSeparator ++ highText)
  low_written : Text.trim lowText.toList ≠ []
  high_written : Text.trim highText.toList ≠ []
  low_avoids : Text.Avoids options.betweenSeparator.toList lowText.toList
  high_avoids : Text.Avoids options.betweenSeparator.toList highText.toList
  /-- No other field has a filter category. -/
  only : ∀ other, isFieldName other = true → other ≠ field →
    params.get? (options.fieldKey other options.filterCategoryKey) = none
  no_search : searchTerm? params = none
  no_page : take? params = none

namespace AsksForRange

variable {options : ParsingOptions} {params : Params} {field : String}
  {category : FilterCategory} {lowText highText : String}
  (asks : AsksForRange options params field category lowText highText)

include asks

theorem filterFields_eq : filterFields options params = [field] := by
  apply Ascending.eq_of_mem_iff (ascending_filterFields options params)
    (List.pairwise_singleton _ field)
  intro other
  rw [mem_filterFields_iff, Params.exists_mem_iff_lookup_isSome,
    List.mem_singleton]
  constructor
  · rintro ⟨named, listed⟩
    apply Classical.byContradiction
    intro different
    have absent := asks.only other named different
    rw [Params.get?] at absent
    rw [ParsingOptions.parameterName, absent] at listed
    cases listed
  · rintro rfl
    refine ⟨asks.named, ?_⟩
    have given := asks.category_eq
    rw [category?, code?, Params.get?] at given
    rw [ParsingOptions.parameterName, Option.isSome_iff_ne_none]
    intro absent
    rw [absent] at given
    cases given

theorem fieldSpecs_eq {kind : FieldKind}
    (separated : options.betweenSeparator ≠ "")
    (ranges : category.rangesOver kind = true) :
    fieldSpecs options params field =
      .ok (WrittenComparison.boundSpecs
        (fun operator bound =>
          bound.filter field (valueCategory options params field) operator)
        (Bound.read? options category (valueCategory options params field)
          lowText)
        (Bound.read? options category (valueCategory options params field)
          highText)) := by
  have raw : rawValue options params field = Text.trimmed
      (lowText ++ options.betweenSeparator ++ highText) := by
    rw [rawValue, asks.value_eq, Option.getD_some]
  have nonempty : Text.trimmed
      (lowText ++ options.betweenSeparator ++ highText) ≠ "" := by
    apply mt Text.trimmed_eq_empty_iff.mp
    rw [String.toList_append, String.toList_append]
    exact Text.trim_joined_ne_nil asks.low_written asks.high_written _
  have operator : operator? options params field = some .between := by
    rw [operator?, asks.operator_code]
    rfl
  rw [WrittenFilter.fieldSpecs_eq_specsOf asks.category_eq raw nonempty]
  cases category with
  | numeric =>
      simp only [specsOf, operator, Bound.read?,
        WrittenComparison.boundSpecs_map]
      exact WrittenComparison.comparisonSpecs_between
        (WrittenFilter.ignoresBlanks_numericValue? options _)
        asks.low_written asks.high_written separated asks.low_avoids
        asks.high_avoids
  | date =>
      simp only [specsOf, operator, Bound.read?,
        WrittenComparison.boundSpecs_map]
      exact WrittenComparison.comparisonSpecs_between
        options.ignoresBlanks_parseDate asks.low_written asks.high_written
        separated asks.low_avoids asks.high_avoids
  | text | singleSelect | multiSelect => cases ranges

theorem parse_eq {kind : FieldKind} (valid : options.validate = .ok ())
    (ranges : category.rangesOver kind = true) {sections : Sections}
    (filtersRead : sections.filters = true) :
    parse options sections params =
      .ok (requestWith sections params (WrittenComparison.boundSpecs
        (fun operator bound =>
          bound.filter field (valueCategory options params field) operator)
        (Bound.read? options category (valueCategory options params field)
          lowText)
        (Bound.read? options category (valueCategory options params field)
          highText))) := by
  have separated := (options.separators_ne_empty valid).1
  rw [parse_eq_map, if_pos filtersRead, filterSpecs, asks.filterFields_eq,
    specsOfFields, asks.fieldSpecs_eq separated ranges]
  simp only [specsOfFields, Except.map, List.append_nil]

theorem searchTerm_requestWith (sections : Sections)
    (filters : List FilterSpec) :
    (requestWith sections params filters).searchTerm = none := by
  rw [requestWith, asks.no_search, ite_self]

theorem take_requestWith (sections : Sections) (filters : List FilterSpec) :
    (requestWith sections params filters).take = none := by
  rw [requestWith, asks.no_page, ite_self]

end AsksForRange

namespace GridPipeline

variable {ρ : Type} [Record ρ]

/-- Records that are asked for by a range of a field.  Those are kept whose
field is not null and lies between the bounds, if both texts stand for one, and
all of them otherwise. -/
theorem runBlocking_between {options : ParsingOptions} {params : Params}
    {field lowText highText : String} {category : FilterCategory}
    {descriptor : FieldDescriptor}
    (valid : options.validate = .ok ())
    (resolved : (FieldTable.of ρ).resolve field = .ok descriptor)
    (ranges : category.rangesOver descriptor.kind = true)
    (asks : AsksForRange options params field category lowText highText)
    {records : List ρ}
    (wellKinded : ∀ record ∈ records,
      (descriptor.read record).IsOfKind descriptor.kind)
    {sections : Sections} (filtersRead : sections.filters = true) :
    ∃ request, parse options sections params = .ok request ∧
      ∀ (searchFields : List String) (selectOptions : ParsingOptions)
        (order : RecordOrder), Sort.compile ρ request.sortSpecs = .ok order →
        let run : Except GridError (GridResponse ρ Unit) :=
          (GridPipeline.mk request searchFields selectOptions).runBlocking
            (fun source : MemorySource ρ => pure source) ⟨records⟩
        let read? := Bound.read? options category
          (valueCategory options params field)
        let answer (kept : List ρ) : GridResponse ρ Unit :=
          ⟨order.sort kept, request.draw, records.length, kept.length, none⟩
        (∀ low high, read? lowText = some low → read? highText = some high →
          run = .ok (answer (records.filter fun record =>
            Bound.liesBetween low high (descriptor.read record)))) ∧
        (read? lowText = none ∨ read? highText = none →
          run = .ok (answer records)) := by
  refine ⟨_, asks.parse_eq valid ranges filtersRead, ?_⟩
  intro searchFields selectOptions order orderCompiled run read? answer
  obtain ⟨filters, filtersCompiled, accepts⟩ :=
    @Bound.compileAll_boundSpecs ρ _ descriptor field (read? lowText)
      (read? highText) category selectOptions
      (valueCategory options params field) resolved ranges
      (fun _ => Bound.category_eq_of_read?)
      (fun _ => Bound.category_eq_of_read?)
  have ran : run = .ok (answer (records.filter fun record =>
      filters.all fun filter => filter.test record)) :=
    runBlocking_memory_filtered filtersCompiled orderCompiled
      (asks.searchTerm_requestWith sections _)
      (asks.take_requestWith sections _) records
  constructor
  · intro low high lowRead highRead
    rw [lowRead, highRead] at accepts
    have kept : (records.filter fun record =>
          filters.all fun filter => filter.test record) =
        records.filter fun record =>
          Bound.liesBetween low high (descriptor.read record) := by
      apply List.filter_congr
      intro record member
      rw [Bool.eq_iff_iff, accepts record (wellKinded record member)]
      simp
    rw [ran, kept]
  · intro unread
    have kept : (records.filter fun record =>
        filters.all fun filter => filter.test record) = records := by
      rw [List.filter_eq_self]
      intro record member
      rw [accepts record (wellKinded record member)]
      rcases unread with unread | unread
      · simp [unread]
      · simp [unread]
    rw [ran, kept]

/-- A request for the cells from two to eleven, the lowest of them first. -/
def cellRange : Params :=
  ⟨[("filter[CELL][filterCategory]", "1"), ("filter[CELL][filterType]", "10"),
      ("filter[CELL]", " 2;1,1 "), ("columns[0][data]", "cell"),
      ("order[0][column]", "0")]⟩

theorem asksForRange_cellRange :
    AsksForRange .default cellRange "CELL" .numeric " 2" "1,1 " where
  named := by decide
  category_eq := by decide +kernel
  operator_code := by decide +kernel
  value_eq := by decide +kernel
  low_written := by decide +kernel
  high_written := by decide +kernel
  low_avoids := by decide +kernel
  high_avoids := by decide +kernel
  only := by
    intro other named different
    apply Classical.byContradiction
    intro given
    obtain ⟨value, listed⟩ := Params.exists_mem_iff_lookup_isSome.mpr
      (Option.isSome_iff_ne_none.mpr given)
    have found : filterField? .default (ParsingOptions.default.fieldKey other
        ParsingOptions.default.filterCategoryKey) = some other :=
      filterField?_eq_some_iff.mpr ⟨named, rfl⟩
    have categories : ∀ entry ∈ cellRange.entries,
        filterField? .default entry.1 = none ∨
          filterField? .default entry.1 = some "CELL" := by decide +kernel
    rcases categories _ listed with absent | cell
    · rw [absent] at found
      cases found
    · rw [cell] at found
      exact different (Option.some.inj found).symm
  no_search := by decide +kernel
  no_page := by decide +kernel

def heldCells : List Cell :=
  [⟨.integer 12⟩, ⟨.null⟩, ⟨.integer 11⟩, ⟨.integer 2⟩, ⟨.integer 1⟩]

/-- The cells of the range, without those that are out of it and null. -/
theorem runBlocking_between_cells :
    ∃ request, parse .default .all cellRange = .ok request ∧
      (GridPipeline.mk request [] .default).runBlocking
          (fun source : MemorySource Cell => pure source) ⟨heldCells⟩ =
        (.ok ⟨[⟨.integer 2⟩, ⟨.integer 11⟩], none, 5, 2, none⟩ :
          Except GridError (GridResponse Cell Unit)) := by
  obtain ⟨request, parsed, answered⟩ :=
    @runBlocking_between Cell _ .default cellRange "CELL" " 2" "1,1 " .numeric
      (Cell.field .integer true) rfl (by cbv) rfl asksForRange_cellRange
      heldCells (by decide +kernel) .all rfl
  have ranges : FilterCategory.numeric.rangesOver .integer = true := rfl
  have known := Except.ok.inj (parsed.symm.trans
    (asksForRange_cellRange.parse_eq rfl ranges rfl))
  have draw : request.draw = none := by
    rw [known]
    rfl
  have sortKeys : request.sortSpecs = [⟨"cell", .ascending⟩] := by
    rw [known]
    change sortSpecs cellRange = _
    cbv
  obtain ⟨order, orderCompiled, sorted⟩ : ∃ order,
      Sort.compile Cell request.sortSpecs = .ok order ∧
      order.sort [(⟨.integer 11⟩ : Cell), ⟨.integer 2⟩] =
        [⟨.integer 2⟩, ⟨.integer 11⟩] := by
    rw [sortKeys]
    exact ⟨_, rfl, by cbv⟩
  let two : Bound := .number (.decimal (Number.Decimal.ofInt64 2))
  let eleven : Bound := .number (.decimal (Number.Decimal.ofInt64 11))
  have kept : heldCells.filter (fun cell =>
        Bound.liesBetween two eleven ((Cell.field .integer true).read cell)) =
      [⟨.integer 11⟩, ⟨.integer 2⟩] := by
    decide +kernel
  have ran := (answered [] .default order orderCompiled).1 two eleven
    (by decide +kernel) (by decide +kernel)
  simp only [kept, sorted, draw] at ran
  exact ⟨request, parsed, ran⟩

end GridPipeline

end GridQuery
