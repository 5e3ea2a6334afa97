import GridQuery.Calendar.Reader
import GridQuery.Json.Decoding
import GridQuery.Number.Decimal.Encoding
import GridQuery.Request.Spec

/-!
# Requests as JSON

How requests are exchanged as JSON. Filters are written under the name of their category, and decimals
are strings, so that their places are kept.
-/

namespace GridQuery

open Number Json

def SortDirection.all : List SortDirection :=
  [ascending, descending]

def NumericValue.toJson : NumericValue → Json
  | integer value => .object [("Integer", .integer value.toInt)]
  | decimal value => .object [("Decimal", .ofText value.text)]

def TextFilter.toJson (filter : TextFilter) : Json :=
  .object [("field", .string filter.field), ("operator", .string filter.operator.name),
    ("value", .string filter.value), ("value_category", .string filter.valueCategory.name)]

def NumericFilter.toJson (filter : NumericFilter) : Json :=
  .object [("field", .string filter.field), ("operator", .string filter.operator.name),
    ("value", filter.value.toJson), ("value_category", .string filter.valueCategory.name)]

def DateFilter.toJson (filter : DateFilter) : Json :=
  .object [("field", .string filter.field), ("operator", .string filter.operator.name),
    ("value", .ofText filter.value.text)]

def SingleSelectFilter.toJson (filter : SingleSelectFilter) : Json :=
  .object [("field", .string filter.field), ("value", .string filter.value)]

def MultiSelectFilter.toJson (filter : MultiSelectFilter) : Json :=
  .object [("field", .string filter.field), ("values", .ofList .string filter.values)]

/-- The content of a filter without its category. -/
def FilterSpec.content : FilterSpec → Json
  | text filter => filter.toJson
  | numeric filter => filter.toJson
  | date filter => filter.toJson
  | singleSelect filter => filter.toJson
  | multiSelect filter => filter.toJson

def FilterSpec.toJson (filter : FilterSpec) : Json :=
  .object [(filter.category.name, filter.content)]

def SortSpec.toJson (spec : SortSpec) : Json :=
  .object [("field", .string spec.field), ("direction", .string spec.direction.name)]

def RequestSpec.toJson (spec : RequestSpec) : Json :=
  .object [("draw", .ofOption .string spec.draw),
    ("search_term", .ofOption .string spec.searchTerm),
    ("skip", .integer spec.skip.toNat),
    ("take", .ofOption (fun take => .integer take.toNat) spec.take),
    ("sort_specs", .ofList SortSpec.toJson spec.sortSpecs),
    ("filter_specs", .ofList FilterSpec.toJson spec.filterSpecs)]

def FilterOperator.ofDocument? (document : Document) : Option FilterOperator :=
  document.named? all name

def ValueCategory.ofDocument? (document : Document) : Option ValueCategory :=
  document.named? all name

def SortDirection.ofDocument? (document : Document) : Option SortDirection :=
  document.named? all name

def dateOfDocument? (document : Document) : Option Date :=
  document.text?.bind fun text => Calendar.readIsoDate? text.toList

def NumericValue.ofDocument? (document : Document) : Option NumericValue :=
  match document.variant? with
  | some ("Integer", some content) => content.signed?.map integer
  | some ("Decimal", some content) => (Decimal.ofDocument? content).map decimal
  | _ => none

def TextFilter.ofDocument? (document : Document) : Option TextFilter := do
  let member ← document.members? ["field", "operator", "value", "value_category"]
  return ⟨← (member "field").required Document.text?,
    ← (member "operator").required FilterOperator.ofDocument?,
    ← (member "value").required Document.text?,
    ← (member "value_category").required ValueCategory.ofDocument?⟩

def NumericFilter.ofDocument? (document : Document) : Option NumericFilter := do
  let member ← document.members? ["field", "operator", "value", "value_category"]
  return ⟨← (member "field").required Document.text?,
    ← (member "operator").required FilterOperator.ofDocument?,
    ← (member "value").required NumericValue.ofDocument?,
    ← (member "value_category").required ValueCategory.ofDocument?⟩

def DateFilter.ofDocument? (document : Document) : Option DateFilter := do
  let member ← document.members? ["field", "operator", "value"]
  return ⟨← (member "field").required Document.text?,
    ← (member "operator").required FilterOperator.ofDocument?,
    ← (member "value").required dateOfDocument?⟩

def SingleSelectFilter.ofDocument? (document : Document) : Option SingleSelectFilter := do
  let member ← document.members? ["field", "value"]
  return ⟨← (member "field").required Document.text?,
    ← (member "value").required Document.text?⟩

def MultiSelectFilter.ofDocument? (document : Document) : Option MultiSelectFilter := do
  let member ← document.members? ["field", "values"]
  return ⟨← (member "field").required Document.text?,
    ← (member "values").required (Document.list? Document.text?)⟩

def FilterSpec.ofDocument? (document : Document) : Option FilterSpec :=
  match document.variant? with
  | some ("Text", some content) => (TextFilter.ofDocument? content).map text
  | some ("Numeric", some content) => (NumericFilter.ofDocument? content).map numeric
  | some ("Date", some content) => (DateFilter.ofDocument? content).map date
  | some ("SingleSelect", some content) =>
      (SingleSelectFilter.ofDocument? content).map singleSelect
  | some ("MultiSelect", some content) => (MultiSelectFilter.ofDocument? content).map multiSelect
  | _ => none

def SortSpec.ofDocument? (document : Document) : Option SortSpec := do
  let member ← document.members? ["field", "direction"]
  return ⟨← (member "field").required Document.text?,
    ← (member "direction").required SortDirection.ofDocument?⟩

def RequestSpec.ofDocument? (document : Document) : Option RequestSpec := do
  let member ← document.members?
    ["draw", "search_term", "skip", "take", "sort_specs", "filter_specs"]
  return {
    draw := ← (member "draw").optional Document.text?
    searchTerm := ← (member "search_term").optional Document.text?
    skip := ← (member "skip").required Document.unsigned?
    take := ← (member "take").optional Document.unsigned?
    sortSpecs := ← (member "sort_specs").required (Document.list? SortSpec.ofDocument?)
    filterSpecs := ← (member "filter_specs").required (Document.list? FilterSpec.ofDocument?) }

end GridQuery
