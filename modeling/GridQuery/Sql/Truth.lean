import GridQuery.Sql.Condition
import GridQuery.Text.Ascii
import GridQuery.Text.Pattern

/-!
# The truth of conditions

What conditions mean, apart from how they are written. A condition has one of three truth values on a
row: true, false, or neither where null leaves it open. A query keeps the rows on which its condition
is true.
-/

namespace GridQuery.Sql

/-- A row of a table: the value of each column. -/
abbrev Row :=
  String → FieldValue

/-- A truth value. None is neither true nor false. -/
abbrev Truth :=
  Option Bool

namespace Truth

/-- True if both are, and false as soon as one is. -/
def and : Truth → Truth → Truth
  | some false, _ => some false
  | _, some false => some false
  | some true, some true => some true
  | _, _ => none

/-- False if both are, and true as soon as one is. -/
def or : Truth → Truth → Truth
  | some true, _ => some true
  | _, some true => some true
  | some false, some false => some false
  | _, _ => none

end Truth

/-- Whether a comparison holds of two values. Values that are not comparable differ. -/
def Value.satisfies (left : Value) (comparison : Comparison) (right : Value) : Bool :=
  match left.order? right with
  | some ordering => comparison.accepts ordering
  | none => comparison == .notEqual

/-- The text of a value that is one. -/
def Value.text? : Value → Option (List Char)
  | text value => some value
  | _ => none

/-- The word for a truth value, null being empty. -/
def truthWord : FieldValue → List Char
  | .null => []
  | .bool true => ['t', 'r', 'u', 'e']
  | _ => ['f', 'a', 'l', 's', 'e']

/-- What a term stands for in a row. Null is no value. A value as text is the text that a search looks
at. -/
def Term.value? (row : Row) : Term → Option Value
  | column name => ofField? (row name)
  | columnOf _ name => ofField? (row name)
  | value content => some content
  | upper term => (term.value? row).bind fun content =>
      content.text?.map fun text => .text (Text.upper text)
  | textOf name => some (.text (row name).searchText)
  | wordOf name => some (.text (truthWord (row name)))

/-- Whether the text of a term fits a pattern. -/
def Term.fits (row : Row) (term : Term) (pattern : List Char) : Truth :=
  (term.value? row).bind fun content => content.text?.map (Text.fits pattern)

/-- The truth of a test on a row. -/
def Test.truth (row : Row) : Test → Truth
  | compare left comparison right =>
      (left.value? row).bind fun left =>
        (right.value? row).map fun right => left.satisfies comparison right
  | isNull term => some (term.value? row).isNone
  | isNotNull term => some (term.value? row).isSome
  | isIn term values =>
      (term.value? row).map fun content => values.any (content.satisfies .equal)
  | like term pattern => term.fits row pattern
  | notLike term pattern => (term.fits row pattern).map Bool.not

mutual

/-- The truth of a condition on a row. -/
def Condition.truth (row : Row) : Condition → Truth
  | .test test => test.truth row
  | .join .all members => allTruth row members
  | .join .any members => anyTruth row members

/-- The truth of all of several conditions together. -/
def allTruth (row : Row) : List Condition → Truth
  | [] => some true
  | member :: members => (member.truth row).and (allTruth row members)

/-- The truth of any of several conditions. -/
def anyTruth (row : Row) : List Condition → Truth
  | [] => some false
  | member :: members => (member.truth row).or (anyTruth row members)

end

/-- Whether a condition is true on a row. -/
def Condition.holds (condition : Condition) (row : Row) : Bool :=
  condition.truth row == some true

end GridQuery.Sql
