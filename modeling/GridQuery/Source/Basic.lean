import GridQuery.Error
import GridQuery.Ordering
import GridQuery.Predicate

/-!
# Sources

Sources of records: they are narrowed, ordered and cut to a page step by step, and then counted or
fetched. The effects that this has are those of a monad, which may fail with an error of the grid.
-/

namespace GridQuery

/-- A type of sources of records, used in a monad. -/
class Source (m : Type → Type) (σ : Type) (ρ : outParam Type) where
  /-- Keeps only the records that a predicate accepts. -/
  filter : Predicate ρ → σ → m σ
  order : RecordOrder → σ → m σ
  /-- Skips a number of records and keeps at most a number of the others. -/
  paginate : UInt64 → UInt64 → σ → m σ
  count : σ → m Nat
  fetch : σ → m (List ρ)

end GridQuery
