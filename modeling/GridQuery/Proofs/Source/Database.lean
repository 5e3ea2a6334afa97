import GridQuery.Proofs.Sql.Ordering
import GridQuery.Source.Database

/-!
# Databases that hold a table

What is known of a database is only that it answers queries: a count is exact,
and rows come in one of the arrangements that the query allows.  Which one is
left to the database.  There is such a database for every table.
-/

namespace GridQuery.Database

variable {μ : Type}

/-- The database holds these records, each as a row, and answers queries. -/
structure Serves (database : Database (Except GridError) μ)
    (row : μ → Sql.Row) (stored : List μ) : Prop where
  count : ∀ select : Sql.Select,
    database.count select = .ok (select.countOf row stored)
  rows : ∀ select : Sql.Select, ∃ answer,
    database.rows select = .ok answer ∧ select.Answers row stored answer

/-- The database that sorts the rows of a query and keeps the places of those
that tie. -/
@[reducible] def ofTable (row : μ → Sql.Row) (stored : List μ) :
    Database (Except GridError) μ where
  count select := .ok (select.countOf row stored)
  rows select := .ok (select.onPage
    ((stored.filter fun record => select.keeps (row record)).mergeSort
      fun left right =>
        (Sql.rowOrder (row left) (row right) select.ordering).isLE))

theorem serves_ofTable (row : μ → Sql.Row) (stored : List μ) :
    (ofTable row stored).Serves row stored where
  count _ := rfl
  rows select := by
    have total : Std.TransCmp fun left right : μ =>
        Sql.rowOrder (row left) (row right) select.ordering :=
      transCmp_on (fun left right => Sql.rowOrder left right select.ordering)
        row
    refine ⟨_, rfl, _, List.mergeSort_perm _ _, ?_, rfl⟩
    exact List.pairwise_mergeSort (cmp_isLE_trans _) (cmp_isLE_total _) _

end GridQuery.Database
