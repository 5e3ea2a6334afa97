import GridQuery.Calendar.Reader
import GridQuery.Error
import GridQuery.Number.Decimal.Reader

/-!
# Parsing options

How the parameters of a request are named and how its values are written: separators, and patterns for
dates. Readers of numbers and dates follow the options.
-/

namespace GridQuery

open Number

/-- The naming of parameters and the form of values. -/
structure ParsingOptions where
  /-- What the names of filter parameters begin with. -/
  filterPrefix : String
  filterTypeKey : String
  filterCategoryKey : String
  valueCategoryKey : String
  /-- Stands between the bounds of a range. -/
  betweenSeparator : String
  /-- Stands between the values of a multi-select filter. -/
  multiSelectSeparator : String
  decimalSeparator : Char
  /-- Is removed from numbers. -/
  groupSeparator : Option Char
  /-- Patterns of days, tried in order. -/
  dateFormats : List String
  /-- Patterns of moments, tried in order. -/
  dateTimeFormats : List String
deriving DecidableEq

namespace ParsingOptions

def default : ParsingOptions where
  filterPrefix := "filter"
  filterTypeKey := "filterType"
  filterCategoryKey := "filterCategory"
  valueCategoryKey := "valueCategory"
  betweenSeparator := ";"
  multiSelectSeparator := ","
  decimalSeparator := '.'
  groupSeparator := some ','
  dateFormats := ["%Y-%m-%d", "%m/%d/%Y", "%d.%m.%Y"]
  dateTimeFormats := ["%Y-%m-%dT%H:%M:%S%.f", "%Y-%m-%d %H:%M:%S%.f", "%Y-%m-%dT%H:%M"]

def hasBracket (text : String) : Bool :=
  text.toList.any fun c => c == '[' || c == ']'

/-- Whether a text can be the key of a filter parameter. -/
def isKey (text : String) : Bool :=
  text != "" && !hasBracket text

/-- What is wrong with the options, if anything. Of several faults the first one counts. -/
def fault? (options : ParsingOptions) : Option String :=
  if options.filterPrefix = "" then
    some "prefix must not be empty"
  else if !(isKey options.filterTypeKey && isKey options.filterCategoryKey &&
      isKey options.valueCategoryKey) then
    some "filter keys must be non-empty and contain no brackets"
  else if options.betweenSeparator = "" ∨ options.multiSelectSeparator = "" then
    some "separators must not be empty"
  else if options.groupSeparator = some options.decimalSeparator then
    some "group and decimal separators must differ"
  else if options.dateFormats = [] then
    some "at least one date format is required"
  else
    none

/-- Accepts the options if nothing is wrong with them. -/
def validate (options : ParsingOptions) : Except GridError Unit :=
  match options.fault? with
  | some fault => .error (.invalidOptions fault)
  | none => .ok ()

/-- Makes the options the shared ones of a process, which can be done once and only before the shared
options are first used. -/
def install (initialised : Bool) (options : ParsingOptions) : Except GridError ParsingOptions := do
  options.validate
  if initialised then
    throw (.invalidOptions "global parsing options are already initialised")
  return options

/-- The name of the parameter with the value of a filter. -/
def valueKey (options : ParsingOptions) (field : String) : String :=
  options.filterPrefix ++ "[" ++ field ++ "]"

/-- The name of a further parameter of a filter. -/
def fieldKey (options : ParsingOptions) (field key : String) : String :=
  options.filterPrefix ++ "[" ++ field ++ "][" ++ key ++ "]"

/-- A number without group separators and blanks, and with a point for the decimal separator. -/
def normalizeNumber (options : ParsingOptions) (raw : List Char) : List Char :=
  ((Text.trim raw).filter fun c => some c != options.groupSeparator && !Text.isBlank c).map
    fun c => if c = options.decimalSeparator then '.' else c

def parseInteger (options : ParsingOptions) (raw : String) : Option Int64 :=
  readSigned? (options.normalizeNumber raw.toList)

def parseDecimal (options : ParsingOptions) (raw : String) : Option Decimal :=
  Decimal.read? (options.normalizeNumber raw.toList)

/-- Reads a day by the first pattern of days that fits. -/
def readDay? (options : ParsingOptions) (text : List Char) : Option Date :=
  options.dateFormats.findSome? fun format => Calendar.readDate? format.toList text

/-- Reads a moment by the first pattern of moments that fits. -/
def readMoment? (options : ParsingOptions) (text : List Char) : Option DateTime :=
  options.dateTimeFormats.findSome? fun format => Calendar.readDateTime? format.toList text

/-- Reads a moment. A day by itself stands for its midnight. -/
def parseDateTime (options : ParsingOptions) (raw : String) : Option DateTime :=
  let text := Text.trim raw.toList
  (options.readMoment? text).or ((options.readDay? text).map DateTime.midnight)

/-- Reads a day. A moment stands for its day. -/
def parseDate (options : ParsingOptions) (raw : String) : Option Date :=
  (options.readDay? (Text.trim raw.toList)).or ((options.parseDateTime raw).map (·.date))

end ParsingOptions

end GridQuery
