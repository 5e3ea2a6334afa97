import GridQuery.Sort
import GridQuery.Source.Basic

/-!
# Records in a database

A query as a source. Filters, ordering and page are added to the query, and nothing is loaded before it
is fetched. Only predicates with a query condition can be added. Every ordering, and every page without
one, ends with the primary key, so that rows which tie have a fixed order.
-/

namespace GridQuery

/-- A database whose rows are read as models. -/
class Database (m : Type → Type) (μ : Type) where
  /-- The number of rows of a query, without regard to its ordering and page. -/
  count : Sql.Select → m Nat
  rows : Sql.Select → m (List μ)

/-- A query, with the records that its rows are turned into. -/
structure QuerySource (μ ρ : Type) where
  select : Sql.Select
  /-- Whether the ordering ends with the primary key. -/
  ordered : Bool
  convert : μ → ρ

namespace QuerySource

variable {μ ρ π : Type}

/-- The models of a query as they are. -/
def ofSelect (select : Sql.Select) : QuerySource ρ ρ :=
  ⟨select, false, id⟩

/-- Adds the condition of a predicate, which must have one. -/
def filter (predicate : Predicate ρ) (source : QuerySource μ ρ) :
    Except GridError (QuerySource μ ρ) :=
  match predicate.condition with
  | some condition => .ok { source with select := source.select.restrict condition }
  | none => .error .pushdownUnavailable

/-- Ends the ordering with the primary key. -/
def orderByKey (source : QuerySource μ ρ) : QuerySource μ ρ :=
  { source with select := source.select.orderByKey, ordered := true }

/-- Adds the keys of an ordering and the primary key. -/
def order (order : RecordOrder) (source : QuerySource μ ρ) : QuerySource μ ρ :=
  orderByKey { source with
    select := order.keys.foldl (fun select key => select.orderBy (Sort.queryTerm key))
      source.select }

def paginate (skip take : UInt64) (source : QuerySource μ ρ) : QuerySource μ ρ :=
  let source := if source.ordered then source else source.orderByKey
  { source with select := source.select.paginate skip take }

/-- Turns the records into ones of another type. -/
def project (convert : ρ → π) (source : QuerySource μ ρ) : QuerySource μ π :=
  ⟨source.select, source.ordered, convert ∘ source.convert⟩

end QuerySource

instance {m : Type → Type} {μ ρ : Type} [Monad m] [MonadExceptOf GridError m] [Database m μ] :
    Source m (QuerySource μ ρ) ρ where
  filter predicate source := MonadExcept.ofExcept (source.filter predicate)
  order order source := pure (source.order order)
  paginate skip take source := pure (source.paginate skip take)
  count source := Database.count μ source.select
  fetch source := return (← Database.rows source.select).map source.convert

end GridQuery
