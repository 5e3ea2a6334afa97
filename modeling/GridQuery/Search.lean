import GridQuery.Field.Table
import GridQuery.Predicate
import GridQuery.Text.Ascii
import GridQuery.Text.ByteLength
import GridQuery.Text.Occurrence
import GridQuery.Text.Pattern

/-!
# Free-text search

A search for a term in the text of several fields at once, without regard to the case of ASCII letters.
Fields that do not exist take no part, and neither do identifiers. Where there is nothing to search for
or to search in, every record is accepted.
-/

namespace GridQuery.Search

/-- The greatest length of a search term, in bytes. -/
def maxTermLength : Nat := 10000

/-- A term cut to the greatest length, at the end of a character. -/
def bounded (term : List Char) : List Char :=
  Text.takeBytes maxTermLength term

/-- Whether fields of a kind can be searched. Databases do not agree on the text of identifiers. -/
def isSearchable : FieldKind → Bool
  | .uuid => false
  | _ => true

def searchedFields (table : FieldTable) (names : List String) : List FieldDescriptor :=
  (names.filterMap table.find?).filter fun field => isSearchable field.kind

/-- What a query looks at in a field: its text, null being empty. -/
def searchedTerm (field : FieldDescriptor) : Sql.Term :=
  match field.kind with
  | .bool => .wordOf field.column
  | _ => .textOf field.column

/-- The test that the text of a field contains a term in upper case. -/
def containsTest (field : FieldDescriptor) (term : List Char) : Sql.Test :=
  .like (.upper (searchedTerm field)) ('%' :: Text.escapePattern term ++ ['%'])

/-- Whether the text of a value contains a term in upper case. -/
def containsTerm (term : List Char) (value : FieldValue) : Bool :=
  Text.contains term (Text.upper value.searchText)

/-- The predicate of a search for a term. -/
def compile {ρ : Type} [Record ρ] (names : List String) (term : String) : Predicate ρ :=
  let term := bounded (Text.trim term.toList)
  let fields := searchedFields (FieldTable.of ρ) names
  if term.isEmpty || fields.isEmpty then
    .always
  else
    let term := Text.upper term
    .new (fun record => fields.any fun field => containsTerm term (field.read record))
      (.any (fields.map fun field => .test (containsTest field term)))

end GridQuery.Search
