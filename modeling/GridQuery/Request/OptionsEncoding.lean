import GridQuery.Json.Reader
import GridQuery.Json.Decoding
import GridQuery.Request.Options

/-!
# Parsing options as JSON

How parsing options are exchanged as JSON. Members that are not given have their built-in values.
-/

namespace GridQuery.ParsingOptions

open Json

/-- The names of the members, in the order of an array. -/
def memberNames : List String :=
  ["prefix", "filterTypeKey", "filterCategoryKey", "valueCategoryKey", "betweenSeparator",
    "multiSelectSeparator", "decimalSeparator", "groupSeparator", "dateFormats",
    "dateTimeFormats"]

def toJson (options : ParsingOptions) : Json :=
  .object [("prefix", .string options.filterPrefix),
    ("filterTypeKey", .string options.filterTypeKey),
    ("filterCategoryKey", .string options.filterCategoryKey),
    ("valueCategoryKey", .string options.valueCategoryKey),
    ("betweenSeparator", .string options.betweenSeparator),
    ("multiSelectSeparator", .string options.multiSelectSeparator),
    ("decimalSeparator", .ofText [options.decimalSeparator]),
    ("groupSeparator", .ofOption (fun c => .ofText [c]) options.groupSeparator),
    ("dateFormats", .ofList .string options.dateFormats),
    ("dateTimeFormats", .ofList .string options.dateTimeFormats)]

/-- The options of a document, which may still be at fault. -/
def ofDocument? (document : Document) : Option ParsingOptions := do
  let member ← document.members? memberNames
  let text (name builtIn : String) : Option String :=
    (member name).withDefault builtIn Document.text?
  let texts (name : String) (builtIn : List String) : Option (List String) :=
    (member name).withDefault builtIn (Document.list? Document.text?)
  return {
    filterPrefix := ← text "prefix" default.filterPrefix
    filterTypeKey := ← text "filterTypeKey" default.filterTypeKey
    filterCategoryKey := ← text "filterCategoryKey" default.filterCategoryKey
    valueCategoryKey := ← text "valueCategoryKey" default.valueCategoryKey
    betweenSeparator := ← text "betweenSeparator" default.betweenSeparator
    multiSelectSeparator := ← text "multiSelectSeparator" default.multiSelectSeparator
    decimalSeparator := ←
      (member "decimalSeparator").withDefault default.decimalSeparator Document.char?
    groupSeparator := ←
      (member "groupSeparator").withDefault default.groupSeparator
        (Document.nullable? Document.char?)
    dateFormats := ← texts "dateFormats" default.dateFormats
    dateTimeFormats := ← texts "dateTimeFormats" default.dateTimeFormats }

/-- Reads options, which may still be at fault. -/
def read? (text : String) : Option ParsingOptions :=
  (Document.read? text).bind ofDocument?

end GridQuery.ParsingOptions
