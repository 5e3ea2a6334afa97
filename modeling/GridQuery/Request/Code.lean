import GridQuery.Text.Ascii
import GridQuery.Text.Blank

/-!
# Codes of a request

The enumerations that a request names by small numbers: what a filter compares, how, and what its
value means.
-/

namespace GridQuery

/-- What a column filter looks at. -/
inductive FilterCategory where
  | text
  | numeric
  | date
  | singleSelect
  | multiSelect
deriving DecidableEq

namespace FilterCategory

def all : List FilterCategory :=
  [text, numeric, date, singleSelect, multiSelect]

def ofCode? (code : Int) : Option FilterCategory :=
  if 0 ≤ code then all[code.toNat]? else none

/-- The name of a category in requests. -/
def name : FilterCategory → String
  | text => "Text"
  | numeric => "Numeric"
  | date => "Date"
  | singleSelect => "SingleSelect"
  | multiSelect => "MultiSelect"

/-- The name of a category in messages. -/
def label : FilterCategory → String
  | text => "text"
  | numeric => "numeric"
  | date => "date"
  | singleSelect => "single-select"
  | multiSelect => "multi-select"

end FilterCategory

/-- How a filter compares a field with its value. -/
inductive FilterOperator where
  | equals
  | notEqual
  | contains
  | doesNotContain
  | startsWith
  | endsWith
  | greaterThan
  | greaterThanOrEqual
  | lessThan
  | lessThanOrEqual
  /-- A range; it is taken apart into two comparisons before it is used. -/
  | between
deriving DecidableEq

namespace FilterOperator

def all : List FilterOperator :=
  [equals, notEqual, contains, doesNotContain, startsWith, endsWith, greaterThan,
    greaterThanOrEqual, lessThan, lessThanOrEqual, between]

def ofCode? (code : Int) : Option FilterOperator :=
  if 0 ≤ code then all[code.toNat]? else none

def name : FilterOperator → String
  | equals => "Equals"
  | notEqual => "NotEqual"
  | contains => "Contains"
  | doesNotContain => "DoesNotContain"
  | startsWith => "StartsWith"
  | endsWith => "EndsWith"
  | greaterThan => "GreaterThan"
  | greaterThanOrEqual => "GreaterThanOrEqual"
  | lessThan => "LessThan"
  | lessThanOrEqual => "LessThanOrEqual"
  | between => "Between"

end FilterOperator

/-- What the value of a filter means. -/
inductive ValueCategory where
  | default
  /-- Account numbers are compared without their hyphens. -/
  | accountNumber
  | integer
  | decimal
deriving DecidableEq

namespace ValueCategory

def all : List ValueCategory :=
  [default, accountNumber, integer, decimal]

def ofCode? (code : Int) : Option ValueCategory :=
  if 0 ≤ code then all[code.toNat]? else none

def name : ValueCategory → String
  | default => "Default"
  | accountNumber => "AccountNumber"
  | integer => "Integer"
  | decimal => "Decimal"

end ValueCategory

/-- The direction of a sort. -/
inductive SortDirection where
  | ascending
  | descending
deriving DecidableEq

namespace SortDirection

/-- The direction of a request parameter: `desc` in any case is descending, all else ascending. -/
def ofParameter (text : String) : SortDirection :=
  if Text.sameIgnoringCase (Text.trim text.toList) ['d', 'e', 's', 'c'] then
    descending
  else
    ascending

def name : SortDirection → String
  | ascending => "Ascending"
  | descending => "Descending"

end SortDirection

end GridQuery
