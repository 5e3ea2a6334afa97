import GridQuery.Ordering
import GridQuery.Sql.Select
import GridQuery.Sql.Truth

/-!
# The answers of queries

What a database may answer to a query: the rows on which the condition is true, in any arrangement
that the ordering allows, cut to the page. Rows that tie on every key may stand in either order, so a
query can have several answers. A count has one.
-/

namespace GridQuery.Sql

/-- The order of two values in an ordering with a place for nulls. -/
def directedOrder (direction : SortDirection) (nulls : NullPlace) (left right : FieldValue) :
    Ordering :=
  match left.isNull, right.isNull with
  | true, true => .eq
  | true, false => if nulls = .first then .lt else .gt
  | false, true => if nulls = .first then .gt else .lt
  | false, false => direction.apply (left.order right)

/-- The order of two rows by one key. -/
def OrderTerm.order (left right : Row) : OrderTerm → Ordering
  | column name direction nulls => directedOrder direction nulls (left name) (right name)
  | key _ name => (left name).order (right name)

/-- The order of two rows by keys, a later key breaking the ties of the earlier ones. -/
def rowOrder (left right : Row) : List OrderTerm → Ordering
  | [] => .eq
  | term :: terms => (term.order left right).then (rowOrder left right terms)

namespace Select

/-- Whether a query keeps a row. -/
def keeps (select : Select) (row : Row) : Bool :=
  match select.condition with
  | some condition => condition.holds row
  | none => true

/-- The part of arranged records that is on the page. -/
def onPage {α : Type} (select : Select) (records : List α) : List α :=
  match select.page with
  | some (skip, take) => (records.drop skip.toNat).take take.toNat
  | none => records

/-- Whether `answer` is an answer to a query about the records of a table, each standing in it as a
row. -/
def Answers {α : Type} (select : Select) (row : α → Row) (table answer : List α) : Prop :=
  ∃ arranged : List α,
    arranged.Perm (table.filter fun record => select.keeps (row record)) ∧
      arranged.Pairwise
        (fun earlier later => (rowOrder (row earlier) (row later) select.ordering).isLE = true) ∧
      answer = select.onPage arranged

/-- The answer to the count of a query about the records of a table. -/
def countOf {α : Type} (select : Select) (row : α → Row) (table : List α) : Nat :=
  (table.filter fun record => select.unordered.keeps (row record)).length

end Select

end GridQuery.Sql
