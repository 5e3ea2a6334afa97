import GridQuery.Json.Document
import GridQuery.Json.Numeral
import GridQuery.Number.Integer

/-!
# Decoding JSON

The values that documents stand for, with or without a type that they are expected to have. A structure
is written as an object with its members, or as an array of them in a fixed order; members of other
names are passed over unread. A variant of a choice is written as its name, or as an object with its
name and its content.
-/

namespace GridQuery.Json

/-- The number of arrays and objects that may be nested in each other. -/
def maxDepth : Nat := 127

namespace Document

mutual

/-- The value of a document, if all its strings are texts, its numbers are not too large, and arrays and
objects are nested at most `depth` times. Of entries with equal keys the last one counts. -/
def value? (depth : Nat) : Document → Option Json
  | null => some .null
  | bool value => some (.bool value)
  | number text => numeral? text
  | string text => text.map .string
  | array items =>
      match depth with
      | 0 => none
      | depth + 1 => (itemValues? depth items).map .array
  | object entries =>
      match depth with
      | 0 => none
      | depth + 1 => (entryValues? depth [] entries).map .object

/-- The values of the items of an array. -/
def itemValues? (depth : Nat) : List Document → Option (List Json)
  | [] => some []
  | item :: items =>
      (value? depth item).bind fun value => (itemValues? depth items).map (value :: ·)

/-- The values of the entries of an object, after those already read. -/
def entryValues? (depth : Nat) (read : List (String × Json)) :
    List (Option String × Document) → Option (List (String × Json))
  | [] => some read
  | (key, document) :: entries =>
      key.bind fun key =>
        (value? depth document).bind fun value =>
          entryValues? depth (setEntry read key value) entries

end

def text? : Document → Option String
  | string text => text
  | _ => none

/-- The character of a string that has only one. -/
def char? (document : Document) : Option Char :=
  document.text?.bind fun text =>
    match text.toList with
    | [c] => some c
    | _ => none

/-- A whole number without point and exponent. -/
def integer? : Document → Option Int
  | number text =>
      match numeral? text with
      | some (.integer value) => some value
      | _ => none
  | _ => none

/-- A whole number of 64 bits with a sign. -/
def signed? (document : Document) : Option Int64 :=
  document.integer?.bind Number.signedWord?

/-- A whole number of 64 bits that is not negative. -/
def unsigned? (document : Document) : Option UInt64 :=
  document.integer?.bind fun value =>
    if value < 0 then none else Number.unsignedWord? value.toNat

def bool? : Document → Option Bool
  | bool value => some value
  | _ => none

/-- A value that null may stand in for. -/
def nullable? {α : Type} (decode : Document → Option α) : Document → Option (Option α)
  | null => some none
  | document => (decode document).map some

/-- The items of an array, all decoded in the same way. -/
def list? {α : Type} (decode : Document → Option α) : Document → Option (List α)
  | array items => items.mapM decode
  | _ => none

/-- A member of a structure. -/
inductive Member where
  | given (document : Document)
  /-- An object without the member. -/
  | omitted
  /-- An array that ends before the member. -/
  | cut

/-- The keys of an object, if all of them are texts. -/
def keys? (entries : List (Option String × Document)) : Option (List String) :=
  entries.mapM (·.1)

/-- The members of a structure by name. An object gives each member at most once, and an array has no
more items than there are members. -/
def members? (names : List String) : Document → Option (String → Member)
  | object entries =>
      (keys? entries).bind fun keys =>
        if names.all fun name => keys.count name ≤ 1 then
          some fun name => ((entries.lookup (some name)).map Member.given).getD .omitted
        else
          none
  | array items =>
      if items.length ≤ names.length then
        some fun name => (((names.zip items).lookup name).map Member.given).getD .cut
      else
        none
  | _ => none

namespace Member

variable {α : Type}

/-- Decodes a member that must be given. -/
def required (decode : Document → Option α) : Member → Option α
  | given document => decode document
  | _ => none

/-- Decodes a member that may be null. An object need not give it. -/
def optional (decode : Document → Option α) : Member → Option (Option α)
  | given document => document.nullable? decode
  | omitted => some none
  | cut => none

/-- Decodes a member that has a default. -/
def withDefault (default : α) (decode : Document → Option α) : Member → Option α
  | given document => decode document
  | _ => some default

end Member

/-- The name of a variant and its content. A variant written as a name alone has none. -/
def variant? : Document → Option (String × Option Document)
  | string text => text.map fun name => (name, none)
  | object [(key, content)] => key.map fun name => (name, some content)
  | _ => none

/-- The one of several values without content that is named. -/
def named? {α : Type} (values : List α) (name : α → String) (document : Document) : Option α :=
  document.variant?.bind fun (found, content) =>
    match content with
    | none => values.find? fun value => name value == found
    | some null => values.find? fun value => name value == found
    | some _ => none

end Document

end GridQuery.Json
