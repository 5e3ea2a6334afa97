import GridQuery.Proofs.Text.Occurrence
import GridQuery.Request.Parser

/-!
# Names of filter parameters

A name of a filter parameter is read in one way only.  The bracket behind the
field is the first one after the prefix and its bracket, since a field name has
none, and what follows tells the parameters of the field apart by their keys.
-/

namespace GridQuery

/-- What a parameter of a filter says. -/
inductive FilterParameter where
  | value
  | operator
  | category
  | valueCategory
deriving DecidableEq

namespace ParsingOptions

variable {options : ParsingOptions} {left right : String}
  {first second : FilterParameter}

def parameterName (options : ParsingOptions) (field : String) :
    FilterParameter → String
  | .value => options.valueKey field
  | .operator => options.fieldKey field options.filterTypeKey
  | .category => options.fieldKey field options.filterCategoryKey
  | .valueCategory => options.fieldKey field options.valueCategoryKey

/-- No two of the three keys are the same. -/
def DistinctKeys (options : ParsingOptions) : Prop :=
  [options.filterTypeKey, options.filterCategoryKey,
    options.valueCategoryKey].Nodup

instance (options : ParsingOptions) : Decidable options.DistinctKeys :=
  inferInstanceAs (Decidable (List.Nodup _))

/-- What follows the field and its closing bracket in the name of a
parameter. -/
def nameEnd (options : ParsingOptions) : FilterParameter → List Char
  | .value => []
  | .operator => '[' :: (options.filterTypeKey.toList ++ [']'])
  | .category => '[' :: (options.filterCategoryKey.toList ++ [']'])
  | .valueCategory => '[' :: (options.valueCategoryKey.toList ++ [']'])

/-- The key in the name of a parameter.  The name for the value has none. -/
def parameterKey? (options : ParsingOptions) : FilterParameter → Option String
  | .value => none
  | .operator => some options.filterTypeKey
  | .category => some options.filterCategoryKey
  | .valueCategory => some options.valueCategoryKey

theorem nameEnd_eq_iff :
    options.nameEnd first = options.nameEnd second ↔
      options.parameterKey? first = options.parameterKey? second := by
  cases first <;> cases second <;>
    simp [nameEnd, parameterKey?, String.toList_inj]

theorem distinctKeys_iff :
    options.DistinctKeys ↔
      ∀ first second,
        options.parameterKey? first = options.parameterKey? second →
          first = second := by
  constructor
  · intro distinct first second same
    obtain ⟨⟨fromCategory, fromValueCategory⟩, categories⟩ :
        (options.filterTypeKey ≠ options.filterCategoryKey ∧
          options.filterTypeKey ≠ options.valueCategoryKey) ∧
        options.filterCategoryKey ≠ options.valueCategoryKey := by
      simpa [DistinctKeys] using distinct
    cases first <;> cases second <;>
      simp_all [parameterKey?, eq_comm]
  · intro injective
    have fromCategory : options.filterTypeKey ≠ options.filterCategoryKey := by
      intro same
      cases injective .operator .category (congrArg some same)
    have fromValueCategory :
        options.filterTypeKey ≠ options.valueCategoryKey := by
      intro same
      cases injective .operator .valueCategory (congrArg some same)
    have categories : options.filterCategoryKey ≠ options.valueCategoryKey := by
      intro same
      cases injective .category .valueCategory (congrArg some same)
    simp [DistinctKeys, fromCategory, fromValueCategory, categories]

theorem toList_parameterName (options : ParsingOptions) (field : String)
    (parameter : FilterParameter) :
    (options.parameterName field parameter).toList =
      options.filterPrefix.toList ++
        '[' :: (field.toList ++ ']' :: options.nameEnd parameter) := by
  cases parameter with
  | value | operator | category | valueCategory =>
      simp [parameterName, valueKey, fieldKey, nameEnd]

theorem not_mem_of_hasBracket {text : String}
    (plain : hasBracket text = false) : ']' ∉ text.toList := by
  intro member
  have found : hasBracket text = true :=
    List.any_eq_true.mpr ⟨']', member, rfl⟩
  rw [plain] at found
  cases found

theorem parameterName_eq_iff (leftPlain : hasBracket left = false)
    (rightPlain : hasBracket right = false) :
    options.parameterName left first = options.parameterName right second ↔
      left = right ∧
        options.parameterKey? first = options.parameterKey? second := by
  rw [← String.toList_inj, toList_parameterName, toList_parameterName,
    List.append_cancel_left_eq, List.cons_inj_right,
    Text.append_cons_inj (not_mem_of_hasBracket leftPlain)
      (not_mem_of_hasBracket rightPlain),
    String.toList_inj, nameEnd_eq_iff]

theorem parameterName_inj (distinct : options.DistinctKeys)
    (leftPlain : hasBracket left = false)
    (rightPlain : hasBracket right = false) :
    options.parameterName left first = options.parameterName right second ↔
      left = right ∧ first = second := by
  rw [parameterName_eq_iff leftPlain rightPlain]
  constructor
  · rintro ⟨sameField, sameKey⟩
    exact ⟨sameField, distinctKeys_iff.mp distinct first second sameKey⟩
  · rintro ⟨sameField, sameParameter⟩
    exact ⟨sameField, congrArg options.parameterKey? sameParameter⟩

end ParsingOptions

namespace RequestParser

theorem hasBracket_of_isFieldName {field : String}
    (named : isFieldName field = true) :
    ParsingOptions.hasBracket field = false := by
  have plain := (Bool.and_eq_true_iff.mp named).2
  simpa using plain

/-- The parameter that gives the filter category of a field is the one with the
field's name in it. -/
theorem filterField?_eq_some_iff {options : ParsingOptions}
    {name field : String} :
    filterField? options name = some field ↔
      isFieldName field = true ∧
        name = options.parameterName field .category := by
  rw [filterField?, Option.filter_eq_some_iff, Option.map_eq_some_iff]
  simp only [Option.bind_eq_some_iff, Text.dropStart?_eq_some_iff,
    Text.dropTail?_eq_some_iff]
  constructor
  · rintro ⟨⟨inner, ⟨rest, shape, rfl⟩, rfl⟩, named⟩
    refine ⟨named, String.toList_inj.mp ?_⟩
    rw [shape]
    simp [ParsingOptions.parameterName, ParsingOptions.fieldKey]
  · rintro ⟨named, rfl⟩
    refine ⟨⟨field.toList, ⟨_, ?_, rfl⟩, String.ofList_toList⟩, named⟩
    simp [ParsingOptions.parameterName, ParsingOptions.fieldKey]

theorem filterField?_parameterName {options : ParsingOptions}
    {field found : String} {parameter : FilterParameter}
    (named : isFieldName field = true) :
    filterField? options (options.parameterName field parameter) =
        some found ↔
      found = field ∧
        options.parameterKey? parameter = some options.filterCategoryKey := by
  rw [filterField?_eq_some_iff]
  constructor
  · rintro ⟨foundNamed, sameName⟩
    obtain ⟨sameField, sameKey⟩ := (ParsingOptions.parameterName_eq_iff
      (hasBracket_of_isFieldName named)
      (hasBracket_of_isFieldName foundNamed)).mp sameName
    exact ⟨sameField.symm, sameKey⟩
  · rintro ⟨rfl, sameKey⟩
    have plain := hasBracket_of_isFieldName named
    exact ⟨named, (ParsingOptions.parameterName_eq_iff plain plain).mpr
      ⟨rfl, sameKey⟩⟩

/-- Two parameters of fields that can be named have one name exactly if they are
of one field and have one key.  So no two of them are confused exactly if the
three keys differ from one another, which options need not do to be accepted.
The field is taken back out of the name of each parameter that has the key of
categories, and of no other. -/
theorem parameterName_unambiguous_iff (options : ParsingOptions) :
    (∀ left right, isFieldName left = true → isFieldName right = true →
      ∀ first second,
        options.parameterName left first =
            options.parameterName right second ↔
          left = right ∧
            options.parameterKey? first = options.parameterKey? second) ∧
    ((∀ left right, isFieldName left = true → isFieldName right = true →
        ∀ first second,
          options.parameterName left first =
              options.parameterName right second →
            left = right ∧ first = second) ↔
      options.DistinctKeys) ∧
    ∀ field, isFieldName field = true → ∀ parameter found,
      filterField? options (options.parameterName field parameter) =
          some found ↔
        found = field ∧
          options.parameterKey? parameter =
            some options.filterCategoryKey := by
  refine ⟨?_, ?_, fun field named parameter found =>
    filterField?_parameterName named⟩
  · intro left right leftNamed rightNamed first second
    exact ParsingOptions.parameterName_eq_iff
      (hasBracket_of_isFieldName leftNamed)
      (hasBracket_of_isFieldName rightNamed)
  · constructor
    · intro unambiguous
      have named : isFieldName "a" = true := by decide +kernel
      have plain := hasBracket_of_isFieldName named
      rw [ParsingOptions.distinctKeys_iff]
      intro first second sameKey
      have sameName := (ParsingOptions.parameterName_eq_iff plain plain).mpr
        ⟨rfl, sameKey⟩
      exact (unambiguous "a" "a" named named first second sameName).2
    · intro distinct left right leftNamed rightNamed first second
      exact (ParsingOptions.parameterName_inj distinct
        (hasBracket_of_isFieldName leftNamed)
        (hasBracket_of_isFieldName rightNamed)).mp

/-- Operators and categories under one key. -/
def sharedKeyOptions : ParsingOptions :=
  { ParsingOptions.default with
    filterTypeKey := "code", filterCategoryKey := "code" }

/-- Options are accepted under which two parameters of a field have one
name. -/
theorem parameterName_sharedKey :
    sharedKeyOptions.validate = .ok () ∧ isFieldName "Amount" = true ∧
      sharedKeyOptions.parameterName "Amount" .operator =
        sharedKeyOptions.parameterName "Amount" .category ∧
      FilterParameter.operator ≠ .category := by
  refine ⟨rfl, ?_, rfl, ?_⟩
  · decide +kernel
  · decide

/-- With the built-in options the name of a value is no name of a category; with
a shared key the operator is taken for the category. -/
theorem parameterName_unambiguous_iff_amount :
    ParsingOptions.default.parameterName "Amount" .value ≠
        ParsingOptions.default.parameterName "Amount" .category ∧
      filterField? sharedKeyOptions
          (sharedKeyOptions.parameterName "Amount" .operator) =
        some "Amount" := by
  have named : isFieldName "Amount" = true := by decide +kernel
  obtain ⟨-, distinct_iff, -⟩ :=
    parameterName_unambiguous_iff ParsingOptions.default
  obtain ⟨-, -, takenBack⟩ := parameterName_unambiguous_iff sharedKeyOptions
  constructor
  · intro sameName
    have confused := distinct_iff.mpr (by decide) "Amount" "Amount" named named
      .value .category sameName
    cases confused.2
  · exact (takenBack "Amount" named .operator "Amount").mpr ⟨rfl, rfl⟩

end RequestParser

end GridQuery
