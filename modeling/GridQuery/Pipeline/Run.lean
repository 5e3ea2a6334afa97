import GridQuery.Filter.Compile
import GridQuery.Pipeline.Response
import GridQuery.Search
import GridQuery.Sort
import GridQuery.Source.Basic

/-!
# Running requests

A request is first compiled, so that one which cannot be used never reaches the store. Then the records
are counted; the search and, after the projection, the filters are applied; the records are counted
again, put in order, cut to the page and fetched. A count of zero ends the run.

The counts and the fetch are the stages of a run. A blocking run goes straight through them; an
asynchronous one looks before each of them whether it has been given up.
-/

namespace GridQuery

/-- What a request asks of the searched records and of the projected ones. -/
structure Plan (ρ π : Type) where
  search : Option (Predicate ρ)
  filters : List (Predicate π)
  order : RecordOrder

/-- A request to run, with the fields that its term is searched in and the options for its values. -/
structure GridPipeline where
  request : RequestSpec
  searchFields : List String
  options : ParsingOptions

namespace GridPipeline

variable {ρ π σ τ : Type} {m : Type → Type}

/-- The predicate of the search, if there is a term and there are fields. -/
def searchPredicate [Record ρ] (pipeline : GridPipeline) : Option (Predicate ρ) :=
  match pipeline.request.searchTerm with
  | some term =>
      if pipeline.searchFields.isEmpty then
        none
      else
        some (Search.compile pipeline.searchFields term)
  | none => none

/-- Compiles the request: first the filters, then the sort keys. -/
def plan (ρ π : Type) [Record ρ] [Record π] (pipeline : GridPipeline) :
    Except GridError (Plan ρ π) :=
  (Filter.compileAll pipeline.options pipeline.request.filterSpecs).bind fun filters =>
    (Sort.compile π pipeline.request.sortSpecs).map fun order =>
      ⟨pipeline.searchPredicate, filters, order⟩

variable [Monad m] [Source m σ ρ] [Source m τ π]

def applySearch (search : Option (Predicate ρ)) (source : σ) : m σ :=
  match search with
  | some predicate => Source.filter predicate source
  | none => pure source

def applyFilters : List (Predicate π) → τ → m τ
  | [], source => pure source
  | predicate :: predicates, source => do
      applyFilters predicates (← Source.filter predicate source)

/-- Applies the ordering, if it orders anything. -/
def applyOrder (order : RecordOrder) (source : τ) : m τ :=
  if order.isEmpty then pure source else Source.order order source

/-- Cuts the page out, if the request is for one. -/
def applyPage (request : RequestSpec) (source : τ) : m τ :=
  match request.take with
  | some take => Source.paginate request.skip take source
  | none => pure source

/-- Runs a compiled request. Every stage is run by `stage`. -/
def execute (stage : {α : Type} → m α → m α) (request : RequestSpec) (plan : Plan ρ π)
    (project : σ → m τ) (source : σ) : m (GridResponse π Unit) := do
  let total ← stage (Source.count source)
  if total = 0 then
    return .empty request.draw 0
  let searched ← applySearch plan.search source
  let projected ← project searched
  let filtered ← applyFilters plan.filters projected
  let count ← stage (Source.count filtered)
  if count = 0 then
    return .empty request.draw total
  let ordered ← applyOrder plan.order filtered
  let paged ← applyPage request ordered
  let data ← stage (Source.fetch paged)
  return ⟨data, request.draw, total, count, none⟩

variable [MonadExceptOf GridError m] [Record ρ] [Record π]

def runWith (stage : {α : Type} → m α → m α) (pipeline : GridPipeline) (project : σ → m τ)
    (source : σ) : m (GridResponse π Unit) := do
  let plan ← MonadExcept.ofExcept (pipeline.plan ρ π)
  execute stage pipeline.request plan project source

/-- Runs a request to its end. -/
def runBlocking (pipeline : GridPipeline) (project : σ → m τ) (source : σ) :
    m (GridResponse π Unit) :=
  runWith id pipeline project source

/-- A stage that is not begun once the request has been given up. -/
def unlessCancelled (cancelled : m Bool) {α : Type} (stage : m α) : m α := do
  if ← cancelled then
    throw .cancelled
  stage

/-- Runs a request until it is given up. -/
def runAsync (cancelled : m Bool) (pipeline : GridPipeline) (project : σ → m τ) (source : σ) :
    m (GridResponse π Unit) :=
  runWith (unlessCancelled cancelled) pipeline project source

end GridPipeline

end GridQuery
