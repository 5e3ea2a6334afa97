import GridQuery.Request.Code
import GridQuery.Sql.Rendering

/-!
# Queries

Queries for the rows of a table: a condition that grows with every filter, an ordering that grows with
every key, and a page. The rows can be fetched or counted; a count disregards ordering and page.
-/

namespace GridQuery.Sql

/-- Where nulls stand in an ordering. -/
inductive NullPlace where
  | first
  | last
deriving DecidableEq

/-- One key of an ordering. -/
inductive OrderTerm where
  /-- A column, with a place for nulls. -/
  | column (name : String) (direction : SortDirection) (nulls : NullPlace)
  /-- A column of the primary key, which is never null, upwards. -/
  | key (table name : String)
deriving DecidableEq

/-- A table of a database. -/
structure Table where
  name : String
  /-- The selected columns, as they are written. -/
  selection : String
  primaryKey : List String

/-- A query for rows of a table. -/
structure Select where
  table : Table
  condition : Option Condition
  ordering : List OrderTerm
  /-- The numbers of rows to skip and to take. -/
  page : Option (UInt64 × UInt64)

namespace Select

/-- The query for all rows of a table. -/
def all (table : Table) : Select :=
  ⟨table, none, [], none⟩

def restrict (select : Select) (condition : Condition) : Select :=
  { select with
    condition := some (match select.condition with
      | none => condition
      | some current => current.andAlso condition) }

/-- Adds a key to the end of the ordering. -/
def orderBy (select : Select) (term : OrderTerm) : Select :=
  { select with ordering := select.ordering ++ [term] }

/-- Adds the primary key to the end of the ordering. -/
def orderByKey (select : Select) : Select :=
  { select with
    ordering := select.ordering ++ select.table.primaryKey.map (.key select.table.name) }

def paginate (select : Select) (skip take : UInt64) : Select :=
  { select with page := some (skip, take) }

/-- The query without ordering and page. -/
def unordered (select : Select) : Select :=
  { select with ordering := [], page := none }

end Select

/-- The word for a direction in orderings. -/
def directionWord : SortDirection → String
  | .ascending => "ASC"
  | .descending => "DESC"

/-- The word for the place of nulls in orderings. -/
def NullPlace.word : NullPlace → String
  | first => "FIRST"
  | last => "LAST"

def OrderTerm.text : OrderTerm → String
  | column name direction nulls =>
      identifier name ++ " " ++ directionWord direction ++ " NULLS " ++ nulls.word
  | key table name => identifier table ++ "." ++ identifier name ++ " ASC"

/-- The condition of a query as it is written. -/
def whereClause : Option Condition → List Piece
  | none => []
  | some condition => .raw " WHERE " :: condition.pieces

/-- The ordering of a query as it is written. -/
def orderClause (ordering : List OrderTerm) : List Piece :=
  if ordering = [] then
    []
  else
    [.raw (" ORDER BY " ++ String.intercalate ", " (ordering.map OrderTerm.text))]

/-- The page of a query as it is written. -/
def pageClause : Option (UInt64 × UInt64) → List Piece
  | none => []
  | some (skip, take) =>
      [.raw " LIMIT ", .parameter (.count take), .raw " OFFSET ", .parameter (.count skip)]

def Select.pieces (select : Select) : List Piece :=
  .raw ("SELECT " ++ select.table.selection ++ " FROM " ++ identifier select.table.name) ::
    whereClause select.condition ++ orderClause select.ordering ++ pageClause select.page

/-- A statement for a database. -/
inductive Statement where
  | rows (select : Select)
  | count (select : Select)

def Statement.pieces : Statement → List Piece
  | rows select => select.pieces
  | count select =>
      .raw "SELECT COUNT(*) AS num_items FROM (" :: select.unordered.pieces ++
        [.raw ") AS \"sub_query\""]

/-- The text of a condition as a query for all columns of a table. -/
def conditionText (table : String) (condition : Condition) : String :=
  inlineText (.raw ("SELECT * FROM " ++ identifier table ++ " WHERE ") :: condition.pieces)

end GridQuery.Sql
