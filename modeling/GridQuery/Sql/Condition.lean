import GridQuery.Comparison
import GridQuery.Sql.Value

/-!
# Query conditions

The conditions under which a query keeps a row: tests of columns, joined by AND and OR. A joined
condition with one member is not put inside another; its member is.
-/

namespace GridQuery.Sql

/-- What a test looks at. -/
inductive Term where
  | column (name : String)
  /-- The value of a column of a named table. -/
  | columnOf (table name : String)
  | value (value : Value)
  /-- A text with its letters in upper case. -/
  | upper (term : Term)
  /-- A column as text, null as the empty text. -/
  | textOf (column : String)
  /-- A column of truth values as a word, null as the empty text. -/
  | wordOf (column : String)
deriving DecidableEq

/-- A test of one row. -/
inductive Test where
  | compare (left : Term) (comparison : Comparison) (right : Term)
  | isNull (term : Term)
  | isNotNull (term : Term)
  | isIn (term : Term) (values : List Value)
  /-- Whether a text fits a pattern with a backslash as escape character. -/
  | like (term : Term) (pattern : List Char)
  | notLike (term : Term) (pattern : List Char)
deriving DecidableEq

/-- The ways of joining conditions. -/
inductive Junction where
  | all
  | any
deriving DecidableEq

/-- A condition: a test, or conditions of which all or any must hold. -/
inductive Condition where
  | test (test : Test)
  | join (junction : Junction) (members : List Condition)

namespace Condition

/-- A condition as a member of another. One that joins a single member is that member. -/
def asMember : Condition → Condition
  | join _ [member] => member
  | condition => condition

/-- The condition that all of the given ones hold. -/
def all (members : List Condition) : Condition :=
  join .all (members.map asMember)

/-- The condition that any of the given ones holds. -/
def any (members : List Condition) : Condition :=
  join .any (members.map asMember)

/-- The condition that holds of every row. -/
def always : Condition :=
  all []

/-- The condition of a single test. -/
def single (t : Test) : Condition :=
  all [test t]

/-- The condition that holds of no row: one equals zero. -/
def never : Condition :=
  single (.compare (.value (.integer 1)) .equal (.value (.integer 0)))

/-- Adds a condition to those that a query already has. -/
def andAlso : Condition → Condition → Condition
  | join .all members, join .all others => join .all (members ++ others)
  | join .all members, other => join .all (members ++ [other.asMember])
  | condition, other => all [condition, other]

end Condition

end GridQuery.Sql
