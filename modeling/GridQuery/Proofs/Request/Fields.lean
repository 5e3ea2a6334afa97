import GridQuery.Proofs.Ordering
import GridQuery.Proofs.Request.Keys
import GridQuery.Proofs.Request.Params
import GridQuery.Proofs.Text.Order

/-!
# Fields that have filters

The fields that a request has filters for are those with a category parameter.
They stand in the order of their names, each of them once, which leaves only one
list of them, however the parameters are arranged.
-/

namespace GridQuery.RequestParser

/-- Names stand in ascending order, so that no name is repeated. -/
def Ascending (names : List String) : Prop :=
  names.Pairwise fun left right => Text.stringOrder left right = .lt

instance (names : List String) : Decidable (Ascending names) :=
  inferInstanceAs (Decidable (names.Pairwise _))

theorem Ascending.nodup {names : List String} (ascending : Ascending names) :
    names.Nodup := by
  apply List.Pairwise.imp ?_ ascending
  rintro left _ before rfl
  exact Std.OrientedCmp.not_lt_of_lt before before

theorem lt_of_isLE_of_ne {left right : String}
    (le : (Text.stringOrder left right).isLE = true)
    (different : left ≠ right) : Text.stringOrder left right = .lt := by
  rcases Ordering.isLE_iff_eq_lt_or_eq_eq.mp le with before | tie
  · exact before
  · exact absurd (Std.LawfulEqCmp.eq_of_compare tie) different

theorem Ascending.eq_of_mem_iff {left right : List String}
    (leftAscending : Ascending left) (rightAscending : Ascending right)
    (same : ∀ name, name ∈ left ↔ name ∈ right) : left = right := by
  apply List.Perm.eq_of_pairwise ?_ leftAscending rightAscending
  · exact (List.perm_ext_iff_of_nodup leftAscending.nodup
      rightAscending.nodup).mpr same
  · intro first second _ _ before after
    exact absurd after (Std.OrientedCmp.not_lt_of_lt before)

section Repeats

variable {names : List String}

theorem mem_dropRepeats_iff {name : String} :
    name ∈ dropRepeats names ↔ name ∈ names := by
  induction names using dropRepeats.induct with
  | case1 => rfl
  | case2 => rfl
  | case3 repeated rest induction =>
      rw [dropRepeats, if_pos rfl, induction]
      simp
  | case4 first second rest different induction =>
      rw [dropRepeats, if_neg different, List.mem_cons, induction,
        List.mem_cons (b := first)]

theorem ascending_dropRepeats
    (inOrder : names.Pairwise fun left right =>
      (Text.stringOrder left right).isLE = true) :
    Ascending (dropRepeats names) := by
  induction names using dropRepeats.induct with
  | case1 => exact List.Pairwise.nil
  | case2 => exact List.pairwise_singleton _ _
  | case3 repeated rest induction =>
      rw [dropRepeats, if_pos rfl]
      exact induction inOrder.of_cons
  | case4 first second rest different induction =>
      rw [dropRepeats, if_neg different]
      refine List.Pairwise.cons ?_ (induction inOrder.of_cons)
      obtain ⟨firstLe, secondInOrder⟩ := List.pairwise_cons.mp inOrder
      have before : Text.stringOrder first second = .lt :=
        lt_of_isLE_of_ne (firstLe second List.mem_cons_self) different
      intro later member
      rcases List.mem_cons.mp (mem_dropRepeats_iff.mp member) with
        rfl | member
      · exact before
      · exact Std.TransCmp.lt_of_lt_of_isLE before
          ((List.pairwise_cons.mp secondInOrder).1 later member)

end Repeats

theorem ascending_filterFields (options : ParsingOptions) (params : Params) :
    Ascending (filterFields options params) := by
  apply ascending_dropRepeats
  exact List.pairwise_mergeSort (cmp_isLE_trans Text.stringOrder)
    (cmp_isLE_total Text.stringOrder) _

theorem mem_filterFields_iff {options : ParsingOptions} {params : Params}
    {field : String} :
    field ∈ filterFields options params ↔
      isFieldName field = true ∧
        ∃ value, (options.parameterName field .category, value) ∈
          params.entries := by
  rw [filterFields, mem_dropRepeats_iff, Text.sorted, List.mem_mergeSort,
    List.mem_filterMap]
  simp only [filterField?_eq_some_iff]
  constructor
  · rintro ⟨⟨name, value⟩, member, named, rfl⟩
    exact ⟨named, value, member⟩
  · rintro ⟨named, value, member⟩
    exact ⟨(_, value), member, named, rfl⟩

theorem mem_filterFields_iff_get? {options : ParsingOptions} {params : Params}
    {field : String} :
    field ∈ filterFields options params ↔
      isFieldName field = true ∧
        (params.get? (options.fieldKey field
          options.filterCategoryKey)).isSome = true := by
  rw [mem_filterFields_iff, Params.exists_mem_iff_lookup_isSome]
  rfl

theorem mem_filterFields_of_category? {options : ParsingOptions}
    {params : Params} {field : String} {category : FilterCategory}
    (named : isFieldName field = true)
    (given : category? options params field = some category) :
    field ∈ filterFields options params := by
  refine mem_filterFields_iff_get?.mpr ⟨named, ?_⟩
  rw [category?, code?] at given
  cases absent :
      params.get? (options.fieldKey field options.filterCategoryKey) with
  | some text => rfl
  | none => simp [absent] at given

section OneField

variable {options : ParsingOptions} {params other : Params} {field : String}

/-- Two requests have the same parameters for a field: its value, operator,
category and value category. -/
def AgreeOn (options : ParsingOptions) (params other : Params)
    (field : String) : Prop :=
  ∀ parameter, other.get? (options.parameterName field parameter) =
    params.get? (options.parameterName field parameter)

/-- The filters of a field depend on its own parameters only. -/
theorem fieldSpecs_eq_of_agreeOn (agree : AgreeOn options params other field) :
    fieldSpecs options other field = fieldSpecs options params field := by
  have value : other.get? (options.valueKey field) =
      params.get? (options.valueKey field) := agree .value
  have operator : other.get? (options.fieldKey field options.filterTypeKey) =
      params.get? (options.fieldKey field options.filterTypeKey) :=
    agree .operator
  have category :
      other.get? (options.fieldKey field options.filterCategoryKey) =
        params.get? (options.fieldKey field options.filterCategoryKey) :=
    agree .category
  have valueCategory :
      other.get? (options.fieldKey field options.valueCategoryKey) =
        params.get? (options.fieldKey field options.valueCategoryKey) :=
    agree .valueCategory
  unfold fieldSpecs specsOf category? operator? RequestParser.valueCategory
    rawValue code?
  rw [value, operator, category, valueCategory]

end OneField

section Reading

variable {options : ParsingOptions} {params : Params}

theorem specsOfFields_map {α : Type} {name : α → String}
    {specs : α → List FilterSpec} {items : List α}
    (read : ∀ item ∈ items,
      fieldSpecs options params (name item) = .ok (specs item)) :
    specsOfFields options params (items.map name) =
      .ok (items.flatMap specs) := by
  induction items with
  | nil => rfl
  | cons item items induction =>
      obtain ⟨readItem, readItems⟩ := List.forall_mem_cons.mp read
      rw [List.map_cons, specsOfFields, readItem, List.flatMap_cons]
      simp only [induction readItems]
      rfl

/-- The request of parameters, given its filters. -/
def requestWith (sections : Sections) (params : Params)
    (filters : List FilterSpec) : RequestSpec where
  draw := params.get? "draw"
  searchTerm := if sections.search then searchTerm? params else none
  skip := if sections.search then skip params else 0
  take := if sections.search then take? params else none
  sortSpecs := if sections.sort then sortSpecs params else []
  filterSpecs := filters

theorem parse_eq_map (options : ParsingOptions) (sections : Sections)
    (params : Params) :
    parse options sections params =
      (if sections.filters then filterSpecs options params else .ok []).map
        (requestWith sections params) := by
  by_cases filtersRead : sections.filters = true
  · rw [parse, if_pos filtersRead, if_pos filtersRead]
    cases filterSpecs options params <;> rfl
  · rw [parse, if_neg filtersRead, if_neg filtersRead]
    rfl

theorem filterSpecs_of_parse_eq_ok {sections : Sections}
    {request : RequestSpec}
    (read : parse options sections params = .ok request) :
    (if sections.filters then filterSpecs options params else .ok []) =
      .ok request.filterSpecs := by
  rw [parse_eq_map] at read
  cases filters : (if sections.filters then filterSpecs options params
      else .ok []) with
  | error error =>
      rw [filters] at read
      cases read
  | ok specs =>
      rw [filters] at read
      cases read
      rfl

theorem parse_filterSpecs {sections : Sections} {specs : List FilterSpec}
    (filtersRead : sections.filters = true)
    (read : filterSpecs options params = .ok specs) :
    ∃ request, parse options sections params = .ok request ∧
      request.filterSpecs = specs := by
  rw [parse, if_pos filtersRead, read]
  exact ⟨_, rfl, rfl⟩

end Reading

end GridQuery.RequestParser
