import Mathlib
import GridQuery.Proofs.Filter.Agreement
import GridQuery.Proofs.Request.Failure
import GridQuery.Proofs.Text.Blank

/-!
# The filters that parameters give

A field has at most one filter, or it has the two bounds of a range.  The
filters of a request are those of its fields, one field after the other in the
order of the names, and those of a field are read from its own parameters.
-/

namespace GridQuery

def NumericValue.isInteger : NumericValue → Bool
  | integer _ => true
  | decimal _ => false

/-- A filter of numbers or days compares with one value, and a number is an
integer if the value category asks for integers. -/
def FilterSpec.IsPlain : FilterSpec → Prop
  | numeric filter => filter.operator ≠ .between ∧
      (filter.value.isInteger = true ↔ filter.valueCategory = .integer)
  | date filter => filter.operator ≠ .between
  | text _ | singleSelect _ | multiSelect _ => True

/-- Two filters are the bounds of a range, the lower one first. -/
structure FilterSpec.Bounds (low high : FilterSpec) : Prop where
  ranges : low.category = .numeric ∨ low.category = .date
  category_eq : high.category = low.category
  low_operator : low.operator? = some .greaterThanOrEqual
  high_operator : high.operator? = some .lessThanOrEqual

/-- The filters that a field can have. -/
inductive FieldFilters : List FilterSpec → Prop where
  | none : FieldFilters []
  | one (filter : FilterSpec) : FieldFilters [filter]
  | range {low high : FilterSpec} :
      FilterSpec.Bounds low high → FieldFilters [low, high]

namespace RequestParser

variable {options : ParsingOptions} {params : Params} {field raw : String}
  {specs : List FilterSpec}

section Comparison

/-- Filters of a field that compare with values that have been read. -/
structure MakesComparisons {α : Type} (field : String)
    (category : FilterCategory) (read : String → Option α)
    (make : FilterOperator → α → FilterSpec) : Prop where
  field_eq : ∀ operator value, (make operator value).field = field
  category_eq : ∀ operator value, (make operator value).category = category
  operator_eq : ∀ operator value,
    (make operator value).operator? = some operator
  plain : ∀ {operator value text}, operator ≠ .between →
    read text = some value → (make operator value).IsPlain

variable {α : Type} {category : FilterCategory} {read : String → Option α}
  {make : FilterOperator → α → FilterSpec} {operator : FilterOperator}

theorem bound?_eq_some {text : List Char}
    (found : bound? read make operator text = some specs) :
    specs = [] ∨
      ∃ value raw, read raw = some value ∧ specs = [make operator value] := by
  simp only [bound?] at found
  split at found
  · cases found
    exact .inl rfl
  · obtain ⟨value, readValue, rfl⟩ := Option.map_eq_some_iff.mp found
    exact .inr ⟨value, _, readValue, rfl⟩

/-- What a comparison comes to: nothing, one filter or the two bounds of a
range. -/
theorem comparisonSpecs_cases
    (read_eq : comparisonSpecs options field raw operator read make =
      .ok specs) :
    specs = [] ∨
    (∃ operator value text, operator ≠ .between ∧ read text = some value ∧
      specs = [make operator value]) ∨
    ∃ low high lowText highText, read lowText = some low ∧
      read highText = some high ∧
      specs = [make .greaterThanOrEqual low, make .lessThanOrEqual high] := by
  unfold comparisonSpecs at read_eq
  split at read_eq
  · split at read_eq
    · cases read_eq
      unfold rangeSpecs
      split
      · rename_i lower upper lowFound highFound
        rcases bound?_eq_some lowFound with
          rfl | ⟨low, lowText, lowRead, rfl⟩
        · rcases bound?_eq_some highFound with
            rfl | ⟨high, highText, highRead, rfl⟩
          · exact .inl rfl
          · exact .inr (.inl ⟨_, high, highText, by decide, highRead, rfl⟩)
        · rcases bound?_eq_some highFound with
            rfl | ⟨high, highText, highRead, rfl⟩
          · exact .inr (.inl ⟨_, low, lowText, by decide, lowRead, rfl⟩)
          · exact .inr (.inr ⟨low, high, lowText, highText, lowRead,
              highRead, rfl⟩)
      · exact .inl rfl
    · cases read_eq
  · rename_i notRange
    cases read_eq
    cases found : read raw with
    | none => exact .inl rfl
    | some value =>
        exact .inr (.inl ⟨operator, value, raw, notRange, found, rfl⟩)

/-- The filters that are read for a field are of this field, plain, and not
more than a field can have. -/
structure Belong (field : String) (specs : List FilterSpec) : Prop where
  field_eq : ∀ spec ∈ specs, spec.field = field
  plain : ∀ spec ∈ specs, spec.IsPlain
  few : FieldFilters specs

theorem Belong.nil (field : String) : Belong field [] :=
  ⟨by simp, by simp, .none⟩

theorem Belong.singleton {spec : FilterSpec} (own : spec.field = field)
    (plain : spec.IsPlain) : Belong field [spec] :=
  ⟨by simpa using own, by simpa using plain, .one spec⟩

theorem MakesComparisons.belong
    (makes : MakesComparisons field category read make)
    (ranges : category = .numeric ∨ category = .date)
    (read_eq : comparisonSpecs options field raw operator read make =
      .ok specs) :
    Belong field specs := by
  rcases comparisonSpecs_cases read_eq with
    rfl | ⟨operator, value, text, notRange, found, rfl⟩ |
      ⟨low, high, lowText, highText, lowRead, highRead, rfl⟩
  · exact .nil field
  · exact .singleton (makes.field_eq _ _) (makes.plain notRange found)
  · have lowPlain : (make .greaterThanOrEqual low).IsPlain :=
      makes.plain (by decide) lowRead
    have highPlain : (make .lessThanOrEqual high).IsPlain :=
      makes.plain (by decide) highRead
    refine ⟨by simp [makes.field_eq], by simp [lowPlain, highPlain],
      .range ⟨?_, ?_, makes.operator_eq _ _, makes.operator_eq _ _⟩⟩
    · rw [makes.category_eq]
      exact ranges
    · rw [makes.category_eq, makes.category_eq]

theorem isInteger_of_numericValue? {valueCategory : ValueCategory}
    {value : NumericValue}
    (found : numericValue? options valueCategory raw = some value) :
    value.isInteger = true ↔ valueCategory = .integer := by
  unfold numericValue? at found
  split at found
  · rename_i integral
    obtain ⟨number, -, rfl⟩ := Option.map_eq_some_iff.mp found
    simp [integral, NumericValue.isInteger]
  · rename_i fractional
    obtain ⟨number, -, rfl⟩ := Option.map_eq_some_iff.mp found
    simp [fractional, NumericValue.isInteger]

end Comparison

theorem makesComparisons_numeric (options : ParsingOptions)
    (valueCategory : ValueCategory) (field : String) :
    MakesComparisons field .numeric (numericValue? options valueCategory)
      fun operator value =>
        .numeric ⟨field, operator, value, valueCategory⟩ where
  field_eq _ _ := rfl
  category_eq _ _ := rfl
  operator_eq _ _ := rfl
  plain notRange found := ⟨notRange, isInteger_of_numericValue? found⟩

theorem makesComparisons_date (options : ParsingOptions) (field : String) :
    MakesComparisons field .date options.parseDate
      fun operator value => .date ⟨field, operator, value⟩ where
  field_eq _ _ := rfl
  category_eq _ _ := rfl
  operator_eq _ _ := rfl
  plain notRange _ := notRange

theorem belong_of_specsOf {category : FilterCategory}
    (read_eq : specsOf options params field raw category = .ok specs) :
    Belong field specs := by
  cases category with
  | text =>
      simp only [specsOf] at read_eq
      split at read_eq
      · cases read_eq
        exact .nil field
      · split at read_eq
        · cases read_eq
          exact .nil field
        · cases read_eq
          exact .singleton rfl trivial
  | numeric =>
      simp only [specsOf] at read_eq
      split at read_eq
      · cases read_eq
        exact .nil field
      · exact (makesComparisons_numeric options _ field).belong (.inl rfl)
          read_eq
  | date =>
      simp only [specsOf] at read_eq
      split at read_eq
      · cases read_eq
        exact .nil field
      · exact (makesComparisons_date options field).belong (.inr rfl) read_eq
  | singleSelect =>
      cases read_eq
      exact .singleton rfl trivial
  | multiSelect =>
      simp only [specsOf] at read_eq
      split at read_eq
      · cases read_eq
        exact .nil field
      · cases read_eq
        exact .singleton rfl trivial

theorem belong_of_fieldSpecs
    (read_eq : fieldSpecs options params field = .ok specs) :
    Belong field specs := by
  unfold fieldSpecs at read_eq
  split at read_eq
  · cases read_eq
    exact .nil field
  · simp only at read_eq
    split at read_eq
    · cases read_eq
      exact .nil field
    · exact belong_of_specsOf read_eq

section AllFields

/-- The filters that parameters give a field: none if its name cannot be that of
a field, or if no category is given for it. -/
def ownSpecs (options : ParsingOptions) (params : Params) (field : String) :
    List FilterSpec :=
  if field ∈ filterFields options params then
    (fieldSpecs options params field).toOption.getD []
  else
    []

theorem ownSpecs_eq_of_agreeOn {other : Params}
    (agree : AgreeOn options params other field) :
    ownSpecs options other field = ownSpecs options params field := by
  have category :
      other.get? (options.fieldKey field options.filterCategoryKey) =
        params.get? (options.fieldKey field options.filterCategoryKey) :=
    agree .category
  unfold ownSpecs
  simp only [mem_filterFields_iff_get?, category,
    fieldSpecs_eq_of_agreeOn agree]

theorem belong_ownSpecs (options : ParsingOptions) (params : Params)
    (field : String) : Belong field (ownSpecs options params field) := by
  unfold ownSpecs
  split
  · cases read_eq : fieldSpecs options params field with
    | ok specs => exact belong_of_fieldSpecs read_eq
    | error error => exact .nil field
  · exact .nil field

/-- Where no range is malformed the filters are those of the fields. -/
theorem filterSpecs_eq_flatMap
    (read_eq : filterSpecs options params = .ok specs) :
    specs = (filterFields options params).flatMap
      (ownSpecs options params) := by
  have passes : ∀ field ∈ filterFields options params,
      fieldSpecs options params field =
        .ok (ownSpecs options params field) := by
    intro field member
    rw [ownSpecs, if_pos member]
    cases own : fieldSpecs options params field with
    | ok specs => rfl
    | error error =>
        have named := (mem_filterFields_iff.mp member).1
        obtain ⟨other, failed⟩ := exists_filterSpecs_eq_error_iff.mpr
          ⟨field, ((fieldSpecs_eq_error_iff named).mp own).1⟩
        rw [read_eq] at failed
        cases failed
  have all : filterSpecs options params = .ok ((filterFields options params)
      |>.flatMap (ownSpecs options params)) := by
    simpa [filterSpecs] using specsOfFields_map passes
  exact Except.ok.inj (read_eq.symm.trans all)

theorem flatMap_ownSpecs_eq_append {fields : List String}
    (nodup : fields.Nodup)
    (others : field ∉ fields → ownSpecs options params field = []) :
    ∃ before after,
      fields.flatMap (ownSpecs options params) =
        before ++ ownSpecs options params field ++ after ∧
      ∀ spec ∈ before ++ after, spec.field ≠ field := by
  have apart {names : List String} (absent : field ∉ names) :
      ∀ spec ∈ names.flatMap (ownSpecs options params),
        spec.field ≠ field := by
    intro spec member same
    obtain ⟨owner, listed, own⟩ := List.mem_flatMap.mp member
    rw [(belong_ownSpecs options params owner).field_eq spec own] at same
    exact absent (same ▸ listed)
  by_cases member : field ∈ fields
  · obtain ⟨before, after, rfl⟩ := List.append_of_mem member
    have once := List.nodup_middle.mp nodup
    have absent : field ∉ before ++ after := (List.nodup_cons.mp once).1
    refine ⟨before.flatMap (ownSpecs options params),
      after.flatMap (ownSpecs options params), by simp, ?_⟩
    rw [← List.flatMap_append]
    exact apart absent
  · refine ⟨fields.flatMap (ownSpecs options params), [], ?_, ?_⟩
    · simp [others member]
    · rw [List.append_nil]
      exact apart member

theorem filter_field_append {before own after : List FilterSpec}
    (apart : ∀ spec ∈ before ++ after, spec.field ≠ field)
    (belong : ∀ spec ∈ own, spec.field = field) :
    (before ++ own ++ after).filter (·.field = field) = own := by
  have nothing {specs : List FilterSpec}
      (others : ∀ spec ∈ specs, spec.field ≠ field) :
      specs.filter (·.field = field) = [] := by
    simpa [List.filter_eq_nil_iff] using others
  obtain ⟨beforeApart, afterApart⟩ := List.forall_mem_append.mp apart
  rw [List.filter_append, List.filter_append, nothing beforeApart,
    nothing afterApart, List.filter_eq_self.mpr (by simpa using belong)]
  simp

section Request

variable (read_eq : filterSpecs options params = .ok specs)

include read_eq

theorem filterSpecs_eq_append (field : String) :
    ∃ before after,
      specs = before ++ ownSpecs options params field ++ after ∧
      ∀ spec ∈ before ++ after, spec.field ≠ field := by
  rw [filterSpecs_eq_flatMap read_eq]
  apply flatMap_ownSpecs_eq_append (ascending_filterFields _ _).nodup
  intro absent
  rw [ownSpecs, if_neg absent]

theorem filter_field_filterSpecs (field : String) :
    specs.filter (·.field = field) = ownSpecs options params field := by
  obtain ⟨before, after, rfl, apart⟩ := filterSpecs_eq_append read_eq field
  exact filter_field_append apart
    (belong_ownSpecs options params field).field_eq

theorem mem_filterSpecs {spec : FilterSpec} (member : spec ∈ specs) :
    spec.field ∈ filterFields options params ∧
      spec ∈ ownSpecs options params spec.field := by
  rw [filterSpecs_eq_flatMap read_eq, List.mem_flatMap] at member
  obtain ⟨field, listed, own⟩ := member
  obtain rfl := (belong_ownSpecs options params field).field_eq spec own
  exact ⟨listed, own⟩

theorem pairwise_filterSpecs :
    specs.Pairwise fun left right =>
      (Text.byteOrder left.field right.field).isLE = true := by
  rw [filterSpecs_eq_flatMap read_eq, List.pairwise_flatMap]
  have belongs := belong_ownSpecs options params
  constructor
  · intro field _
    apply List.pairwise_of_forall_mem_list
    intro left leftOwn right rightOwn
    rw [(belongs field).field_eq left leftOwn,
      (belongs field).field_eq right rightOwn, Text.byteOrder_eq_stringOrder]
    exact Std.ReflCmp.isLE_rfl
  · refine (ascending_filterFields options params).imp ?_
    intro first second before left leftOwn right rightOwn
    rw [(belongs first).field_eq left leftOwn,
      (belongs second).field_eq right rightOwn, Text.byteOrder_eq_stringOrder,
      before]
    rfl

end Request

/-- The filters of a request stand in the order of the names of their fields,
byte by byte.  The names are those of fields with a category; the filters of a
field stand together, and there are at most two of them. -/
structure Shaped (options : ParsingOptions) (params : Params)
    (specs : List FilterSpec) : Prop where
  ascending : specs.Pairwise fun left right =>
    (Text.byteOrder left.field right.field).isLE = true
  nonblank : ∀ spec ∈ specs, ¬ Text.Blank spec.field.toList
  short : ∀ spec ∈ specs, (Text.utf8Bytes spec.field.toList).length ≤ 100
  unbracketed : ∀ spec ∈ specs,
    '[' ∉ spec.field.toList ∧ ']' ∉ spec.field.toList
  categorized : ∀ spec ∈ specs,
    (params.get? (options.fieldKey spec.field
      options.filterCategoryKey)).isSome = true
  grouped : ∀ field, ∃ before own after,
    specs = before ++ own ++ after ∧
    (∀ spec ∈ before ++ after, spec.field ≠ field) ∧
    (∀ spec ∈ own, spec.field = field) ∧ FieldFilters own
  plain : ∀ spec ∈ specs, spec.IsPlain

theorem isFieldName_iff {name : String} :
    isFieldName name = true ↔
      ¬ Text.Blank name.toList ∧ (Text.utf8Bytes name.toList).length ≤ 100 ∧
        '[' ∉ name.toList ∧ ']' ∉ name.toList := by
  have plain : ParsingOptions.hasBracket name = false ↔
      '[' ∉ name.toList ∧ ']' ∉ name.toList := by
    rw [ParsingOptions.hasBracket, List.any_eq_false]
    constructor
    · intro others
      exact ⟨fun member => others _ member rfl,
        fun member => others _ member rfl⟩
    · rintro ⟨noOpening, noClosing⟩ c member bracket
      rcases (Bool.or_eq_true _ _).mp bracket with same | same
      · exact noOpening (eq_of_beq same ▸ member)
      · exact noClosing (eq_of_beq same ▸ member)
  change _ ↔ _ ∧ _ ≤ maxFieldNameLength ∧ _
  rw [isFieldName, ← Text.trim_eq_nil_iff,
    ← Text.byteLength_eq_length_utf8Bytes, ← plain]
  simp [and_assoc]

theorem shaped_filterSpecs (read_eq : filterSpecs options params = .ok specs) :
    Shaped options params specs := by
  have fields : ∀ spec ∈ specs, isFieldName spec.field = true ∧
      (params.get? (options.fieldKey spec.field
        options.filterCategoryKey)).isSome = true :=
    fun spec member =>
      mem_filterFields_iff_get?.mp (mem_filterSpecs read_eq member).1
  have named := fun spec member => isFieldName_iff.mp (fields spec member).1
  refine ⟨pairwise_filterSpecs read_eq,
    fun spec member => (named spec member).1,
    fun spec member => (named spec member).2.1,
    fun spec member => (named spec member).2.2,
    fun spec member => (fields spec member).2, ?_, ?_⟩
  · intro field
    obtain ⟨before, after, split, apart⟩ :=
      filterSpecs_eq_append read_eq field
    have belong := belong_ownSpecs options params field
    exact ⟨before, _, after, split, apart, belong.field_eq, belong.few⟩
  · intro spec member
    exact (belong_ownSpecs options params spec.field).plain spec
      (mem_filterSpecs read_eq member).2

theorem shaped_nil (options : ParsingOptions) (params : Params) :
    Shaped options params [] :=
  ⟨.nil, by simp, by simp, by simp, by simp,
    fun _ => ⟨[], [], [], rfl, by simp, by simp, .none⟩, by simp⟩

/-- The filters of every request that is read.  Those of a field are the same in
all requests that are read from the same parameters of this field. -/
theorem parse_shaped {sections : Sections} {request : RequestSpec}
    (read : parse options sections params = .ok request) :
    Shaped options params request.filterSpecs ∧
    ∀ other otherRequest, parse options sections other = .ok otherRequest →
      ∀ field, AgreeOn options params other field →
        (otherRequest.filterSpecs.filter fun spec => spec.field = field) =
          request.filterSpecs.filter fun spec => spec.field = field := by
  have filters := filterSpecs_of_parse_eq_ok read
  by_cases filtersRead : sections.filters = true
  · rw [if_pos filtersRead] at filters
    refine ⟨shaped_filterSpecs filters, ?_⟩
    intro other otherRequest otherRead field agree
    have otherFilters := filterSpecs_of_parse_eq_ok otherRead
    rw [if_pos filtersRead] at otherFilters
    rw [filter_field_filterSpecs otherFilters,
      filter_field_filterSpecs filters, ownSpecs_eq_of_agreeOn agree]
  · rw [if_neg filtersRead] at filters
    rw [← Except.ok.inj filters]
    refine ⟨shaped_nil options params, ?_⟩
    intro other otherRequest otherRead field _
    have otherFilters := filterSpecs_of_parse_eq_ok otherRead
    rw [if_neg filtersRead] at otherFilters
    rw [← Except.ok.inj otherFilters]

/-- The parameters of a field with a range. -/
def amountRange : List (String × String) :=
  [("filter[Amount][filterCategory]", "1"),
    ("filter[Amount][filterType]", "10"),
    ("filter[Amount][valueCategory]", "2"), ("filter[Amount]", "5;1,000")]

def amountBounds : List FilterSpec :=
  [.numeric ⟨"Amount", .greaterThanOrEqual, .integer 5, .integer⟩,
    .numeric ⟨"Amount", .lessThanOrEqual, .integer 1000, .integer⟩]

/-- The bounds of a range are the filters of its field, behind the filter of
another field and without it. -/
theorem parse_shaped_amountRange :
    let alone : Params := ⟨amountRange⟩
    let behind : Params :=
      ⟨[("filter[Aim][filterCategory]", "3"), ("filter[Aim]", "late")] ++
        amountRange⟩
    ∃ request other, parse .default .all alone = .ok request ∧
      parse .default .all behind = .ok other ∧
      request.filterSpecs = amountBounds ∧
      AgreeOn .default alone behind "Amount" ∧
      Shaped .default alone request.filterSpecs ∧
      (other.filterSpecs.filter fun spec => spec.field = "Amount") =
        request.filterSpecs.filter fun spec => spec.field = "Amount" := by
  intro alone behind
  have read : parse .default .all alone =
      .ok { RequestSpec.everything with filterSpecs := amountBounds } := by
    cbv
  have otherRead : parse .default .all behind =
      .ok { RequestSpec.everything with
        filterSpecs := .singleSelect ⟨"Aim", "late"⟩ :: amountBounds } := by
    cbv
  have agree : AgreeOn .default alone behind "Amount" := by
    intro parameter
    cases parameter <;> decide
  obtain ⟨shaped, same⟩ := parse_shaped read
  exact ⟨_, _, read, otherRead, rfl, agree, shaped,
    same behind _ otherRead "Amount" agree⟩

end AllFields

end RequestParser

end GridQuery
