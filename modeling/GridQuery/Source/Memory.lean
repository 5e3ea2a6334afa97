import GridQuery.Source.Basic

/-!
# Records in memory

A list of records as a source. Predicates are tested on each record, and sorting keeps the places of
records that tie.
-/

namespace GridQuery

/-- Records held in memory. -/
structure MemorySource (ρ : Type) where
  records : List ρ

namespace MemorySource

variable {ρ π : Type}

def filter (predicate : Predicate ρ) (source : MemorySource ρ) : MemorySource ρ :=
  ⟨source.records.filter predicate.test⟩

def order [Record ρ] (order : RecordOrder) (source : MemorySource ρ) : MemorySource ρ :=
  ⟨order.sort source.records⟩

/-- At most `take` records, from position `skip` on. -/
def paginate (skip take : UInt64) (source : MemorySource ρ) : MemorySource ρ :=
  ⟨(source.records.drop skip.toNat).take take.toNat⟩

def count (source : MemorySource ρ) : Nat :=
  source.records.length

/-- Every record turned into one of another type. -/
def project (convert : ρ → π) (source : MemorySource ρ) : MemorySource π :=
  ⟨source.records.map convert⟩

end MemorySource

instance {m : Type → Type} {ρ : Type} [Monad m] [Record ρ] : Source m (MemorySource ρ) ρ where
  filter predicate source := pure (source.filter predicate)
  order order source := pure (source.order order)
  paginate skip take source := pure (source.paginate skip take)
  count source := pure source.count
  fetch source := pure source.records

end GridQuery
