import Mathlib.Data.List.Nodup
import GridQuery.Proofs.Request.Writing

/-!
# Requests with written filters

The filters of a request are those that were written, each in full and in the
order of the fields, although the parameters have no order and others may be
among them.  No two of the written parameters have the same name, and no other
one brings a field of its own.
-/

namespace GridQuery

open RequestParser

/-- Filters on several fields and the other parameters that are sent with
them. -/
structure FilterForm (options : ParsingOptions) where
  filters : List (String × WrittenFilter)
  others : List (String × String)
  ascending : Ascending (filters.map Prod.fst)
  named : ∀ entry ∈ filters, isFieldName entry.1 = true
  written : ∀ entry ∈ filters, entry.2.IsWritten options
  /-- No other parameter has a name that is written. -/
  apart : ∀ other ∈ others, ∀ entry ∈ filters,
    other.1 ∉ (entry.2.parameters options entry.1).map Prod.fst
  /-- No other parameter gives the filter category of a field. -/
  uncategorized : ∀ other ∈ others, ∀ field, isFieldName field = true →
    other.1 ≠ options.fieldKey field options.filterCategoryKey

namespace FilterForm

variable {options : ParsingOptions}

def writtenParameters (form : FilterForm options) : List (String × String) :=
  form.filters.flatMap fun entry => entry.2.parameters options entry.1

def parameters (form : FilterForm options) : List (String × String) :=
  form.writtenParameters ++ form.others

/-- The filters that reading is to give. -/
def specs (form : FilterForm options) : List FilterSpec :=
  form.filters.flatMap fun entry => entry.2.specs entry.1

variable {form : FilterForm options} {field : String} {filter : WrittenFilter}

theorem plain (member : (field, filter) ∈ form.filters) :
    ParsingOptions.hasBracket field = false :=
  hasBracket_of_isFieldName (form.named (field, filter) member)

theorem filter_unique {other : WrittenFilter}
    (member : (field, filter) ∈ form.filters)
    (otherMember : (field, other) ∈ form.filters) : other = filter := by
  have same := List.inj_on_of_nodup_map form.ascending.nodup otherMember member
  exact (Prod.mk.inj (same rfl)).2

section Distinct

variable (distinct : options.DistinctKeys)

include distinct

theorem mem_writtenParameters_iff
    (plainField : ParsingOptions.hasBracket field = false)
    {parameter : FilterParameter} {text : String} :
    (options.parameterName field parameter, text) ∈ form.writtenParameters ↔
      ∃ filter, (field, filter) ∈ form.filters ∧
        filter.parameter? options parameter = some text := by
  rw [writtenParameters, List.mem_flatMap]
  constructor
  · rintro ⟨⟨owner, filter⟩, member, listed⟩
    obtain ⟨role, given, same⟩ := WrittenFilter.mem_parameters_iff.mp listed
    obtain ⟨rfl, rfl⟩ := (ParsingOptions.parameterName_inj distinct plainField
      (plain member)).mp same
    exact ⟨filter, member, given⟩
  · rintro ⟨filter, member, given⟩
    exact ⟨(field, filter), member,
      WrittenFilter.mem_parameters_iff.mpr ⟨parameter, given, rfl⟩⟩

variable {entries : List (String × String)}
  (sent : entries.Perm form.parameters)

include sent

theorem filterFields_eq :
    filterFields options (Params.ofList entries) =
      form.filters.map Prod.fst := by
  apply Ascending.eq_of_mem_iff (ascending_filterFields _ _) form.ascending
  intro field
  rw [mem_filterFields_iff, Params.exists_mem_entries_ofList_iff]
  simp only [sent.mem_iff, parameters, List.mem_append]
  constructor
  · rintro ⟨named, value, listed | listed⟩
    · have plainField := hasBracket_of_isFieldName named
      obtain ⟨filter, member, -⟩ :=
        (mem_writtenParameters_iff distinct plainField).mp listed
      exact List.mem_map.mpr ⟨_, member, rfl⟩
    · exact absurd rfl (form.uncategorized _ listed field named)
  · intro listed
    obtain ⟨⟨_, filter⟩, member, rfl⟩ := List.mem_map.mp listed
    have category := (mem_writtenParameters_iff distinct (plain member)).mpr
      ⟨filter, member, show filter.parameter? options .category = _ from rfl⟩
    exact ⟨form.named _ member, _, .inl category⟩

theorem carriedBy (member : (field, filter) ∈ form.filters) :
    filter.CarriedBy options (Params.ofList entries) field := by
  intro parameter text given
  have listed : (options.parameterName field parameter, text) ∈
      form.writtenParameters :=
    (mem_writtenParameters_iff distinct (plain member)).mpr
      ⟨filter, member, given⟩
  apply Params.get?_ofList_of_mem
  · exact sent.mem_iff.mpr (List.mem_append_left _ listed)
  · intro other otherListed
    rcases List.mem_append.mp (sent.mem_iff.mp otherListed) with
      inFilters | inOthers
    · obtain ⟨owner, ownerMember, otherGiven⟩ :=
        (mem_writtenParameters_iff distinct (plain member)).mp inFilters
      rw [filter_unique member ownerMember, given] at otherGiven
      exact (Option.some.inj otherGiven).symm
    · have own : (options.parameterName field parameter, text) ∈
          filter.parameters options field :=
        WrittenFilter.mem_parameters_iff.mpr ⟨parameter, given, rfl⟩
      exact absurd (List.mem_map.mpr ⟨_, own, rfl⟩)
        (form.apart _ inOthers _ member)

end Distinct

/-- The filters of a request are read as they were written. -/
theorem parse_parameters (form : FilterForm options)
    (valid : options.validate = .ok ()) (distinct : options.DistinctKeys)
    {sections : Sections} (filtersRead : sections.filters = true)
    {entries : List (String × String)}
    (sent : entries.Perm form.parameters) :
    ∃ request,
      parse options sections (Params.ofList entries) = .ok request ∧
        request.filterSpecs = form.specs := by
  have separated := options.separators_ne_empty valid
  have read : filterSpecs options (Params.ofList entries) =
      .ok form.specs := by
    rw [filterSpecs, filterFields_eq distinct sent]
    apply specsOfFields_map
    rintro ⟨field, filter⟩ member
    exact WrittenFilter.fieldSpecs_eq separated (form.written _ member)
      (carriedBy distinct sent member)
  exact parse_filterSpecs filtersRead read

/-- Filters of several kinds, among them a range with blanks around its
bounds. -/
def sample : FilterForm .default where
  filters := [
    ("Amount", .numeric .integer
      (.range (.integer 5) (.integer 1000) " 5" "1,000 ")),
    ("Iban", .text .startsWith .accountNumber "DE12"),
    ("Kind", .singleSelect "current"),
    ("State", .multiSelect ["open", "on hold"])]
  others := [("draw", "7"), ("filter[Note]", "late")]
  ascending := by decide
  named := by decide
  written := by decide
  apart := by decide
  uncategorized := by
    intro other member field named same
    have unread : ∀ other ∈ [("draw", "7"), ("filter[Note]", "late")],
        filterField? .default other.1 = none := by decide
    have found := filterField?_eq_some_iff.mpr ⟨named, same⟩
    rw [unread other member] at found
    cases found

theorem parse_parameters_sample :
    ∃ request,
      parse .default .all (Params.ofList sample.parameters.reverse) =
          .ok request ∧
        request.filterSpecs =
          [.numeric ⟨"Amount", .greaterThanOrEqual, .integer 5, .integer⟩,
            .numeric ⟨"Amount", .lessThanOrEqual, .integer 1000, .integer⟩,
            .text ⟨"Iban", .startsWith, "DE12", .accountNumber⟩,
            .singleSelect ⟨"Kind", "current"⟩,
            .multiSelect ⟨"State", ["open", "on hold"]⟩] :=
  parse_parameters sample rfl (by decide) rfl (List.reverse_perm _)

end FilterForm

end GridQuery
