import GridQuery.Sql.Condition

/-!
# The text of conditions

A condition is written as pieces: text, and values that either stand in the text as literals or are
passed beside it as parameters. Nested AND and OR are put in parentheses where the order of the
operators would not say it, and on the right-hand side always.
-/

namespace GridQuery.Sql

/-- A piece of a query. -/
inductive Piece where
  | raw (text : String)
  | parameter (value : Value)

/-- A name in quotes. -/
def identifier (name : String) : String :=
  String.ofList (quoted '"' name.toList)

/-- The text of a query with its values as literals. -/
def inlineText (pieces : List Piece) : String :=
  String.ofList (pieces.flatMap fun piece =>
    match piece with
    | .raw text => text.toList
    | .parameter value => value.literal)

/-- The text of a query with a mark for each value. -/
def preparedText (pieces : List Piece) : String :=
  String.ofList (pieces.flatMap fun piece =>
    match piece with
    | .raw text => text.toList
    | .parameter _ => ['?'])

/-- The values of a query, in the order of their marks. -/
def parameters (pieces : List Piece) : List Value :=
  pieces.filterMap fun piece =>
    match piece with
    | .raw _ => none
    | .parameter value => some value

def comparisonSign : Comparison → String
  | .equal => "="
  | .notEqual => "<>"
  | .greater => ">"
  | .greaterOrEqual => ">="
  | .less => "<"
  | .lessOrEqual => "<="

/-- The word between the members of a junction. -/
def Junction.word : Junction → String
  | all => "AND"
  | any => "OR"

/-- The text of a junction without members. -/
def Junction.emptyText : Junction → String
  | all => "TRUE"
  | any => "FALSE"

def textParameter (text : List Char) : Piece :=
  .parameter (.text text)

def Term.pieces : Term → List Piece
  | column name => [.raw (identifier name)]
  | columnOf table name => [.raw (identifier table ++ "." ++ identifier name)]
  | value content => [.parameter content]
  | upper term => .raw "UPPER(" :: term.pieces ++ [.raw ")"]
  | textOf name =>
      [.raw ("COALESCE(CAST(" ++ identifier name ++ " AS TEXT), "), textParameter [], .raw ")"]
  | wordOf name =>
      [.raw ("(CASE WHEN (" ++ identifier name ++ " IS NULL) THEN "), textParameter [],
        .raw (" WHEN (" ++ identifier name ++ " = "), .parameter (.bool true), .raw ") THEN ",
        textParameter ['t', 'r', 'u', 'e'], .raw " ELSE ",
        textParameter ['f', 'a', 'l', 's', 'e'], .raw " END)"]

def commaSeparated (values : List Value) : List Piece :=
  (values.map Piece.parameter).intersperse (.raw ", ")

def Test.pieces : Test → List Piece
  | compare left comparison right =>
      left.pieces ++ .raw (" " ++ comparisonSign comparison ++ " ") :: right.pieces
  | isNull term => term.pieces ++ [.raw " IS NULL"]
  | isNotNull term => term.pieces ++ [.raw " IS NOT NULL"]
  | isIn term values => term.pieces ++ .raw " IN (" :: commaSeparated values ++ [.raw ")"]
  | like term pattern =>
      term.pieces ++ [.raw " LIKE ", textParameter pattern, .raw " ESCAPE '\\'"]
  | notLike term pattern =>
      term.pieces ++ [.raw " NOT LIKE ", textParameter pattern, .raw " ESCAPE '\\'"]

/-- A written condition with its outermost operator, if that is AND or OR. -/
structure Written where
  outermost : Option Junction
  pieces : List Piece

/-- A written condition in parentheses. -/
def Written.enclosed (written : Written) : List Piece :=
  .raw "(" :: written.pieces ++ [.raw ")"]

/-- A written condition as the left operand of a junction. -/
def Written.asLeft (junction : Junction) (written : Written) : List Piece :=
  if written.outermost = none ∨ written.outermost = some junction then
    written.pieces
  else
    written.enclosed

/-- A written condition as a right operand. -/
def Written.asRight (written : Written) : List Piece :=
  if written.outermost = none then written.pieces else written.enclosed

/-- Two written conditions joined by an operator. -/
def Written.joined (junction : Junction) (left right : Written) : Written :=
  ⟨some junction, left.asLeft junction ++ .raw (" " ++ junction.word ++ " ") :: right.asRight⟩

/-- Written conditions joined by operators, from the left. -/
def joinWritten (junction : Junction) : List Written → Written
  | [] => ⟨none, [.raw junction.emptyText]⟩
  | first :: others => others.foldl (Written.joined junction) first

mutual

/-- A condition as it is written. -/
def Condition.written : Condition → Written
  | .test test => ⟨none, test.pieces⟩
  | .join junction members => joinWritten junction (writtenMembers members)

/-- The members of a condition as they are written. -/
def writtenMembers : List Condition → List Written
  | [] => []
  | member :: members => member.written :: writtenMembers members

end

/-- The pieces of a condition. -/
def Condition.pieces (condition : Condition) : List Piece :=
  condition.written.pieces

end GridQuery.Sql
