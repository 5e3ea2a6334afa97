import GridQuery.Request.Options
import GridQuery.Request.Params
import GridQuery.Request.Spec
import GridQuery.Text.ByteLength
import GridQuery.Text.Occurrence
import GridQuery.Text.Order

/-!
# Reading requests

The request that parameters stand for. Filters that cannot be read are left out; only a range that
does not have two parts makes the whole request unreadable.
-/

namespace GridQuery

open Number

/-- Which parts of a request are read. -/
structure Sections where
  /-- The search term and the page. -/
  search : Bool
  sort : Bool
  filters : Bool
deriving DecidableEq

def Sections.all : Sections :=
  ⟨true, true, true⟩

namespace RequestParser

/-- The greatest length of a field name, in bytes. -/
def maxFieldNameLength : Nat := 100

/-- Whether a parameter may name a field so. -/
def isFieldName (name : String) : Bool :=
  !(Text.trim name.toList).isEmpty && Text.byteLength name.toList ≤ maxFieldNameLength &&
    !ParsingOptions.hasBracket name

/-- The search term, unless it is missing or blank. -/
def searchTerm? (params : Params) : Option String :=
  ((params.get? "search[value]").map Text.trimmed).filter (· != "")

/-- The number of records before the page. Without a readable one there are none. -/
def skip (params : Params) : UInt64 :=
  ((params.get? "start").bind fun text => readUnsigned? (Text.trim text.toList)).getD 0

/-- The length of the page. A negative one asks for all records. -/
def take? (params : Params) : Option UInt64 :=
  ((params.get? "length").bind fun text => readSigned? (Text.trim text.toList)).bind fun length =>
    if length.toInt < 0 then none else some (UInt64.ofNat length.toInt.toNat)

/-- Reads the number of a sort key or a column. -/
def readIndex? (text : List Char) : Option Nat :=
  (unsigned? text).filter (· < 18446744073709551616)

/-- The number of the sort key whose column a parameter gives. -/
def sortOrdinal? (name : String) : Option Nat :=
  ((Text.dropStart? "order[".toList name.toList).bind (Text.dropTail? "][column]".toList)).bind
    readIndex?

/-- The name of the parameter with the field of a column. -/
def columnKey (column : Nat) : String :=
  "columns[" ++ String.ofList (digits column) ++ "][data]"

/-- The name of the parameter with the direction of a sort key. -/
def directionKey (ordinal : Nat) : String :=
  "order[" ++ String.ofList (digits ordinal) ++ "][dir]"

/-- The sort key of a number and the text of its column. -/
def sortSpec? (params : Params) (ordinal : Nat) (column : String) : Option SortSpec :=
  (readIndex? (Text.trim column.toList)).bind fun column =>
    (((params.get? (columnKey column)).map Text.trimmed).filter (· != "")).map fun field =>
      ⟨field, ((params.get? (directionKey ordinal)).map SortDirection.ofParameter).getD .ascending⟩

/-- The sort keys, in the order of their numbers. -/
def sortSpecs (params : Params) : List SortSpec :=
  let ordinals := params.entries.filterMap fun entry =>
    (sortOrdinal? entry.1).map fun ordinal => (ordinal, entry.2)
  (ordinals.mergeSort fun left right => left.1 ≤ right.1).filterMap fun key =>
    sortSpec? params key.1 key.2

/-- The field whose filter category a parameter gives. -/
def filterField? (options : ParsingOptions) (name : String) : Option String :=
  let head := options.filterPrefix ++ "["
  let tail := "][" ++ options.filterCategoryKey ++ "]"
  (((Text.dropStart? head.toList name.toList).bind (Text.dropTail? tail.toList)).map
    String.ofList).filter isFieldName

/-- Each entry of a list that differs from the one before it. -/
def dropRepeats : List String → List String
  | [] => []
  | [field] => [field]
  | first :: second :: rest =>
      if first = second then dropRepeats (second :: rest) else first :: dropRepeats (second :: rest)

/-- The fields that have filters, in the order of their names. -/
def filterFields (options : ParsingOptions) (params : Params) : List String :=
  dropRepeats (Text.sorted (params.entries.filterMap fun entry => filterField? options entry.1))

/-- The code that a parameter of a filter gives. -/
def code? (options : ParsingOptions) (params : Params) (field key : String) : Option Int :=
  ((params.get? (options.fieldKey field key)).bind fun text =>
    readSigned? (Text.trim text.toList)).map (·.toInt)

def category? (options : ParsingOptions) (params : Params) (field : String) :
    Option FilterCategory :=
  (code? options params field options.filterCategoryKey).bind FilterCategory.ofCode?

def operator? (options : ParsingOptions) (params : Params) (field : String) :
    Option FilterOperator :=
  (code? options params field options.filterTypeKey).bind FilterOperator.ofCode?

def valueCategory (options : ParsingOptions) (params : Params) (field : String) : ValueCategory :=
  ((code? options params field options.valueCategoryKey).bind ValueCategory.ofCode?).getD .default

/-- The value of a filter, without blanks at its ends. -/
def rawValue (options : ParsingOptions) (params : Params) (field : String) : String :=
  Text.trimmed ((params.get? (options.valueKey field)).getD "")

/-- Reads the operand of a numeric filter. -/
def numericValue? (options : ParsingOptions) (category : ValueCategory) (raw : String) :
    Option NumericValue :=
  if category = .integer then
    (options.parseInteger raw).map .integer
  else
    (options.parseDecimal raw).map .decimal

/-- One bound of a range: nothing if its text is blank, and `none` if it cannot be read. -/
def bound? {α : Type} (read : String → Option α) (make : FilterOperator → α → FilterSpec)
    (operator : FilterOperator) (text : List Char) : Option (List FilterSpec) :=
  let text := Text.trim text
  if text.isEmpty then
    some []
  else
    (read (String.ofList text)).map fun value => [make operator value]

/-- The filters of a range: at least the lower and at most the upper bound. A bound that is written
but cannot be read drops the range. -/
def rangeSpecs {α : Type} (read : String → Option α) (make : FilterOperator → α → FilterSpec)
    (low high : List Char) : List FilterSpec :=
  match bound? read make .greaterThanOrEqual low, bound? read make .lessThanOrEqual high with
  | some lower, some upper => lower ++ upper
  | _, _ => []

/-- The filters of a comparison: one, or those of a range. -/
def comparisonSpecs {α : Type} (options : ParsingOptions) (field raw : String)
    (operator : FilterOperator) (read : String → Option α)
    (make : FilterOperator → α → FilterSpec) : Except GridError (List FilterSpec) :=
  if operator = .between then
    match Text.splitOn options.betweenSeparator.toList raw.toList with
    | [low, high] => .ok (rangeSpecs read make low high)
    | _ => .error (.malformedRange field raw)
  else
    .ok ((read raw).map (make operator)).toList

/-- The value of a text filter. Account numbers lose their hyphens. -/
def textValue (category : ValueCategory) (raw : String) : String :=
  if category = .accountNumber then String.ofList (raw.toList.filter (· != '-')) else raw

/-- The values of a multi-select filter, the blank ones left out. -/
def selectValues (options : ParsingOptions) (raw : String) : List String :=
  ((Text.splitOn options.multiSelectSeparator.toList raw.toList).map fun piece =>
    String.ofList (Text.trim piece)).filter (· != "")

/-- The filters of a field whose value is not blank. -/
def specsOf (options : ParsingOptions) (params : Params) (field raw : String)
    (category : FilterCategory) : Except GridError (List FilterSpec) :=
  let valueCategory := valueCategory options params field
  match category with
  | .text =>
      match operator? options params field with
      | none => .ok []
      | some operator =>
          let value := textValue valueCategory raw
          .ok (if value = "" then [] else [.text ⟨field, operator, value, valueCategory⟩])
  | .numeric =>
      match operator? options params field with
      | none => .ok []
      | some operator =>
          comparisonSpecs options field raw operator (numericValue? options valueCategory)
            fun operator value => .numeric ⟨field, operator, value, valueCategory⟩
  | .date =>
      match operator? options params field with
      | none => .ok []
      | some operator =>
          comparisonSpecs options field raw operator options.parseDate
            fun operator value => .date ⟨field, operator, value⟩
  | .singleSelect => .ok [.singleSelect ⟨field, raw⟩]
  | .multiSelect =>
      let values := selectValues options raw
      .ok (if values = [] then [] else [.multiSelect ⟨field, values⟩])

/-- The filters of a field: none if it has no known category or a blank value. -/
def fieldSpecs (options : ParsingOptions) (params : Params) (field : String) :
    Except GridError (List FilterSpec) :=
  match category? options params field with
  | none => .ok []
  | some category =>
      let raw := rawValue options params field
      if raw = "" then .ok [] else specsOf options params field raw category

/-- The filters of fields, one field after the other. -/
def specsOfFields (options : ParsingOptions) (params : Params) :
    List String → Except GridError (List FilterSpec)
  | [] => .ok []
  | field :: fields =>
      match fieldSpecs options params field with
      | .error error => .error error
      | .ok specs => (specsOfFields options params fields).map (specs ++ ·)

/-- All filters, in the order of the names of their fields. -/
def filterSpecs (options : ParsingOptions) (params : Params) :
    Except GridError (List FilterSpec) :=
  specsOfFields options params (filterFields options params)

/-- Reads a request. Parts that are not read are as in the request for everything. -/
def parse (options : ParsingOptions) (sections : Sections) (params : Params) :
    Except GridError RequestSpec := do
  let filters ← if sections.filters then filterSpecs options params else .ok []
  return {
    draw := params.get? "draw"
    searchTerm := if sections.search then searchTerm? params else none
    skip := if sections.search then skip params else 0
    take := if sections.search then take? params else none
    sortSpecs := if sections.sort then sortSpecs params else []
    filterSpecs := filters }

end RequestParser

end GridQuery
