import GridQuery.Calendar.Date
import GridQuery.Number.Decimal.Basic
import GridQuery.Request.Code

/-!
# Requests

A grid request after its parameters have been read: a search term, column filters, sort keys and a
page.
-/

namespace GridQuery

open Number

/-- The operand of a numeric filter. -/
inductive NumericValue where
  | integer (value : Int64)
  | decimal (value : Decimal)
deriving DecidableEq

/-- The operand as a decimal. -/
def NumericValue.toDecimal : NumericValue → Decimal
  | integer value => Decimal.ofInt64 value
  | decimal value => value

/-- A filter that compares text. -/
structure TextFilter where
  field : String
  operator : FilterOperator
  value : String
  valueCategory : ValueCategory
deriving DecidableEq

/-- A filter that compares numbers. -/
structure NumericFilter where
  field : String
  operator : FilterOperator
  value : NumericValue
  valueCategory : ValueCategory
deriving DecidableEq

/-- A filter that compares calendar days. -/
structure DateFilter where
  field : String
  operator : FilterOperator
  value : Date
deriving DecidableEq

/-- A filter for one value. -/
structure SingleSelectFilter where
  field : String
  value : String
deriving DecidableEq

/-- A filter for any of several values. -/
structure MultiSelectFilter where
  field : String
  values : List String
deriving DecidableEq

/-- A column filter. -/
inductive FilterSpec where
  | text (filter : TextFilter)
  | numeric (filter : NumericFilter)
  | date (filter : DateFilter)
  | singleSelect (filter : SingleSelectFilter)
  | multiSelect (filter : MultiSelectFilter)
deriving DecidableEq

namespace FilterSpec

/-- The name of the field that a filter is for. -/
def field : FilterSpec → String
  | text filter => filter.field
  | numeric filter => filter.field
  | date filter => filter.field
  | singleSelect filter => filter.field
  | multiSelect filter => filter.field

def category : FilterSpec → FilterCategory
  | text _ => .text
  | numeric _ => .numeric
  | date _ => .date
  | singleSelect _ => .singleSelect
  | multiSelect _ => .multiSelect

end FilterSpec

/-- A sort key. -/
structure SortSpec where
  field : String
  direction : SortDirection
deriving DecidableEq

/-- A grid request. Of the sort keys, later ones break the ties of earlier ones. -/
structure RequestSpec where
  /-- A token that the response repeats. -/
  draw : Option String
  searchTerm : Option String
  /-- The number of records before the page. -/
  skip : UInt64
  /-- The length of the page, if only a page is wanted. -/
  take : Option UInt64
  sortSpecs : List SortSpec
  filterSpecs : List FilterSpec
deriving DecidableEq

/-- The request for all records as they are. -/
def RequestSpec.everything : RequestSpec :=
  ⟨none, none, 0, none, [], []⟩

end GridQuery
