import GridQuery.Proofs.Request.Codes
import GridQuery.Proofs.Request.Comparison
import GridQuery.Proofs.Request.Fields
import GridQuery.Proofs.Request.Params

/-!
# Filters that are written and read

Filters on several fields are written as parameters, each field's filter under
its own names.  Reading takes exactly these fields from the parameters, finds
each parameter of theirs as it was written, and returns the filters in the order
of the fields, whatever other parameters stand in between.
-/

namespace GridQuery

open RequestParser

/-- A text stands for a number of the kind that the value category asks
for. -/
def NumericValue.DenotedBy (options : ParsingOptions) (category : ValueCategory)
    (text : String) : NumericValue → Prop
  | integer value =>
      category = .integer ∧ options.parseInteger text = some value
  | decimal value =>
      category ≠ .integer ∧ options.parseDecimal text = some value

instance (options : ParsingOptions) (category : ValueCategory)
    (text : String) :
    (value : NumericValue) → Decidable (value.DenotedBy options category text)
  | .integer _ | .decimal _ => inferInstanceAs (Decidable (_ ∧ _))

/-- A text is not blank and has no blanks at its ends. -/
def IsTrimmed (text : String) : Prop :=
  text ≠ "" ∧ Text.trimmed text = text

instance (text : String) : Decidable (IsTrimmed text) :=
  inferInstanceAs (Decidable (_ ∧ _))

theorem IsTrimmed.solid {text : String} (trimmed : IsTrimmed text) :
    Text.Solid text.toList := by
  obtain ⟨nonempty, same⟩ := trimmed
  refine Text.solid_iff.mpr ⟨by simpa using nonempty, ?_⟩
  rw [← Text.toList_trimmed, same]

/-- A filter of a field before it is written. -/
inductive WrittenFilter where
  | text (operator : FilterOperator) (valueCategory : ValueCategory)
      (value : String)
  | numeric (valueCategory : ValueCategory)
      (comparison : WrittenComparison NumericValue)
  | date (comparison : WrittenComparison Date)
  | singleSelect (value : String)
  | multiSelect (values : List String)

namespace WrittenFilter

def category : WrittenFilter → FilterCategory
  | text .. => .text
  | numeric .. => .numeric
  | date _ => .date
  | singleSelect _ => .singleSelect
  | multiSelect _ => .multiSelect

def operator? : WrittenFilter → Option FilterOperator
  | text operator .. => some operator
  | numeric _ comparison => some comparison.operator
  | date comparison => some comparison.operator
  | singleSelect _ | multiSelect _ => none

def valueCategory? : WrittenFilter → Option ValueCategory
  | text _ valueCategory _ | numeric valueCategory _ => some valueCategory
  | date _ | singleSelect _ | multiSelect _ => none

def value (options : ParsingOptions) : WrittenFilter → String
  | text _ _ value => value
  | numeric _ comparison => comparison.text options.betweenSeparator
  | date comparison => comparison.text options.betweenSeparator
  | singleSelect value => value
  | multiSelect values => options.multiSelectSeparator.intercalate values

/-- The text of a parameter, if the filter has it. -/
def parameter? (options : ParsingOptions) (filter : WrittenFilter) :
    FilterParameter → Option String
  | .value => some (filter.value options)
  | .operator => filter.operator?.map fun operator => codeText operator.code
  | .category => some (codeText filter.category.code)
  | .valueCategory =>
      filter.valueCategory?.map fun category => codeText category.code

def parameters (options : ParsingOptions) (field : String)
    (filter : WrittenFilter) : List (String × String) :=
  [.value, .operator, .category, .valueCategory].filterMap fun parameter =>
    (filter.parameter? options parameter).map fun text =>
      (options.parameterName field parameter, text)

theorem mem_parameters_iff {options : ParsingOptions} {field name text : String}
    {filter : WrittenFilter} :
    (name, text) ∈ filter.parameters options field ↔
      ∃ parameter, filter.parameter? options parameter = some text ∧
        name = options.parameterName field parameter := by
  simp only [parameters, List.mem_filterMap, Option.map_eq_some_iff,
    Prod.mk.injEq]
  constructor
  · rintro ⟨parameter, -, _, given, rfl, rfl⟩
    exact ⟨parameter, given, rfl⟩
  · rintro ⟨parameter, given, rfl⟩
    exact ⟨parameter, by cases parameter <;> decide, text, given, rfl, rfl⟩

/-- The filters that reading is to give. -/
def specs (field : String) : WrittenFilter → List FilterSpec
  | text operator valueCategory value =>
      [.text ⟨field, operator, value, valueCategory⟩]
  | numeric valueCategory comparison =>
      comparison.specs fun operator value =>
        .numeric ⟨field, operator, value, valueCategory⟩
  | date comparison =>
      comparison.specs fun operator value => .date ⟨field, operator, value⟩
  | singleSelect value => [.singleSelect ⟨field, value⟩]
  | multiSelect values => [.multiSelect ⟨field, values⟩]

/-- The values of a filter can be told from the text that is written for
them. -/
def IsWritten (options : ParsingOptions) : WrittenFilter → Prop
  | text _ valueCategory value =>
      IsTrimmed value ∧
        (valueCategory = .accountNumber → '-' ∉ value.toList)
  | numeric valueCategory comparison =>
      comparison.IsWritten options.betweenSeparator fun text value =>
        value.DenotedBy options valueCategory text
  | date comparison =>
      comparison.IsWritten options.betweenSeparator fun text value =>
        options.parseDate text = some value
  | singleSelect value => IsTrimmed value
  | multiSelect values =>
      values ≠ [] ∧ ∀ value ∈ values, IsTrimmed value ∧
        Text.Avoids options.multiSelectSeparator.toList value.toList

instance (options : ParsingOptions) :
    (filter : WrittenFilter) → Decidable (filter.IsWritten options)
  | text .. | multiSelect _ => inferInstanceAs (Decidable (_ ∧ _))
  | numeric .. | date _ =>
      inferInstanceAs (Decidable (WrittenComparison.IsWritten _ _ _))
  | singleSelect _ => inferInstanceAs (Decidable (IsTrimmed _))

/-- A field's filter has its parameters as they are written. -/
def CarriedBy (options : ParsingOptions) (params : Params) (field : String)
    (filter : WrittenFilter) : Prop :=
  ∀ parameter text, filter.parameter? options parameter = some text →
    params.get? (options.parameterName field parameter) = some text

section Reading

variable {options : ParsingOptions} {params : Params} {field : String}

theorem denotedBy_iff {category : ValueCategory} {text : String}
    {value : NumericValue} :
    value.DenotedBy options category text ↔
      numericValue? options category text = some value := by
  unfold numericValue?
  by_cases integral : category = .integer
  · cases value <;> simp [NumericValue.DenotedBy, integral]
  · cases value <;> simp [NumericValue.DenotedBy, integral]

theorem ignoresBlanks_numericValue? (options : ParsingOptions)
    (category : ValueCategory) :
    ParsingOptions.IgnoresBlanks (numericValue? options category) where
  trimmed raw := by
    rw [numericValue?, numericValue?,
      options.ignoresBlanks_parseInteger.trimmed,
      options.ignoresBlanks_parseDecimal.trimmed]
  empty := by
    rw [numericValue?, options.ignoresBlanks_parseInteger.empty,
      options.ignoresBlanks_parseDecimal.empty]
    simp

theorem textValue_eq {category : ValueCategory} {value : String}
    (plain : category = .accountNumber → '-' ∉ value.toList) :
    textValue category value = value := by
  unfold textValue
  split
  · rename_i account
    have kept : value.toList.filter (· != '-') = value.toList := by
      rw [List.filter_eq_self]
      intro c member
      exact bne_iff_ne.mpr fun hyphen => plain account (hyphen ▸ member)
    rw [kept, String.ofList_toList]
  · rfl

theorem solid_intercalate {separator : List Char} {pieces : List (List Char)}
    (nonempty : pieces ≠ []) (solid : ∀ piece ∈ pieces, Text.Solid piece) :
    Text.Solid (separator.intercalate pieces) := by
  induction pieces with
  | nil => exact absurd rfl nonempty
  | cons first others induction =>
      obtain ⟨firstSolid, othersSolid⟩ := List.forall_mem_cons.mp solid
      cases others with
      | nil => simpa [List.intercalate] using firstSolid
      | cons second others =>
          rw [List.intercalate_cons_cons]
          exact firstSolid.append
            (induction (List.cons_ne_nil _ _) othersSolid) separator

section MultiSelect

variable {values : List String} (nonempty : values ≠ [])
  (trimmed : ∀ value ∈ values, IsTrimmed value)

include nonempty trimmed

theorem isTrimmed_intercalate (separator : String) :
    IsTrimmed (separator.intercalate values) := by
  have solid : Text.Solid (separator.intercalate values).toList := by
    rw [String.toList_intercalate]
    apply solid_intercalate (by simpa using nonempty)
    intro piece member
    obtain ⟨value, listed, rfl⟩ := List.mem_map.mp member
    exact (trimmed value listed).solid
  constructor
  · intro empty
    exact solid.ne_nil (by rw [empty]; rfl)
  · rw [Text.trimmed, solid.trim_eq, String.ofList_toList]

theorem selectValues_intercalate
    (separated : options.multiSelectSeparator ≠ "")
    (avoid : ∀ value ∈ values,
      Text.Avoids options.multiSelectSeparator.toList value.toList) :
    selectValues options (options.multiSelectSeparator.intercalate values) =
      values := by
  have avoidLists : ∀ piece ∈ values.map String.toList,
      Text.Avoids options.multiSelectSeparator.toList piece := by
    simpa using avoid
  have pieces := Text.splitOn_intercalate (by simpa using separated)
    (by simpa using nonempty) avoidLists
  have same : (values.map String.toList).map
      (fun piece => String.ofList (Text.trim piece)) = values := by
    rw [List.map_map]
    calc
      _ = values.map id := by
        apply List.map_congr_left
        intro value member
        exact (trimmed value member).2
      _ = values := List.map_id values
  rw [selectValues, String.toList_intercalate, pieces, same,
    List.filter_eq_self]
  intro value member
  simpa using (trimmed value member).1

end MultiSelect

theorem fieldSpecs_eq_specsOf {category : FilterCategory} {raw : String}
    (given : category? options params field = some category)
    (value : rawValue options params field = raw) (nonempty : raw ≠ "") :
    fieldSpecs options params field =
      specsOf options params field raw category := by
  rw [fieldSpecs, given, value]
  exact if_neg nonempty

/-- A filter that is carried by the parameters is read as it was meant. -/
theorem fieldSpecs_eq {filter : WrittenFilter}
    (separated : options.betweenSeparator ≠ "" ∧
      options.multiSelectSeparator ≠ "")
    (written : filter.IsWritten options)
    (carried : filter.CarriedBy options params field) :
    fieldSpecs options params field = .ok (filter.specs field) := by
  have category : category? options params field = some filter.category :=
    category?_eq_some (carried .category _ rfl)
  have given : params.get? (options.valueKey field) =
      some (filter.value options) := carried .value _ rfl
  have raw : rawValue options params field =
      Text.trimmed (filter.value options) := by
    rw [rawValue, given, Option.getD_some]
  cases filter with
  | text operator valueCategory value =>
      obtain ⟨trimmed, plain⟩ := written
      have readOperator := operator?_eq_some (carried .operator _ rfl)
      have readCategory := valueCategory_eq (carried .valueCategory _ rfl)
      rw [fieldSpecs_eq_specsOf category (raw.trans trimmed.2) trimmed.1]
      simp [specsOf, WrittenFilter.category, readOperator, readCategory,
        textValue_eq plain, trimmed.1, specs]
  | numeric valueCategory comparison =>
      simp only [IsWritten, denotedBy_iff] at written
      have readOperator := operator?_eq_some (carried .operator _ rfl)
      have readCategory := valueCategory_eq (carried .valueCategory _ rfl)
      have ignores := ignoresBlanks_numericValue? options valueCategory
      have nonempty := comparison.trim_text_ne_nil ignores written
      rw [fieldSpecs_eq_specsOf category raw
        (mt Text.trimmed_eq_empty_iff.mp nonempty)]
      simp only [specsOf, WrittenFilter.category, readOperator, readCategory]
      exact comparison.comparisonSpecs_text ignores written separated.1
  | date comparison =>
      have readOperator := operator?_eq_some (carried .operator _ rfl)
      have ignores := options.ignoresBlanks_parseDate
      have nonempty := comparison.trim_text_ne_nil ignores written
      rw [fieldSpecs_eq_specsOf category raw
        (mt Text.trimmed_eq_empty_iff.mp nonempty)]
      simp only [specsOf, WrittenFilter.category, readOperator]
      exact comparison.comparisonSpecs_text ignores written separated.1
  | singleSelect value =>
      rw [fieldSpecs_eq_specsOf category (raw.trans written.2) written.1]
      rfl
  | multiSelect values =>
      obtain ⟨nonempty, separable⟩ := written
      have trimmed : ∀ value ∈ values, IsTrimmed value :=
        fun value member => (separable value member).1
      have joined := isTrimmed_intercalate nonempty trimmed
        options.multiSelectSeparator
      have readValues := selectValues_intercalate nonempty trimmed separated.2
        fun value member => (separable value member).2
      rw [fieldSpecs_eq_specsOf category (raw.trans joined.2) joined.1]
      simp [specsOf, WrittenFilter.category, readValues, nonempty, specs]

end Reading

end WrittenFilter

end GridQuery
