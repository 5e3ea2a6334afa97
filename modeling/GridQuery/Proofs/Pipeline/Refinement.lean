import GridQuery.Proofs.Filter.Agreement
import GridQuery.Proofs.Pipeline.Plan
import GridQuery.Proofs.Source.Refinement

/-!
# Requests to a database and in memory

A request gets the same response from a database as from the records of the
table in memory.  Each stage of the run keeps the query and the records
together; the counts are equal, and the fetched records are the same, in the
same arrangement if the request asks for one or for a page.
-/

namespace GridQuery

variable {μ ρ π : Type}

/-- The responses differ at most in the arrangement of their records. -/
structure GridResponse.Rearranges {α β : Type}
    (answered kept : GridResponse α β) : Prop where
  draw_eq : answered.draw = kept.draw
  recordsTotal_eq : answered.recordsTotal = kept.recordsTotal
  recordsFiltered_eq : answered.recordsFiltered = kept.recordsFiltered
  footerData_eq : answered.footerData = kept.footerData
  data_perm : answered.data.Perm kept.data

namespace GridPipeline

variable {σ : Type} {m : Type → Type} [Monad m] [Source m σ ρ]
  {request : RequestSpec}

theorem applyOrder_of_isEmpty {order : RecordOrder}
    (isEmpty : order.isEmpty = true) (source : σ) :
    (applyOrder order source : m σ) = pure source :=
  if_pos isEmpty

theorem applyOrder_of_not_isEmpty {order : RecordOrder}
    (notEmpty : ¬ order.isEmpty = true) (source : σ) :
    (applyOrder order source : m σ) = Source.order order source :=
  if_neg notEmpty

theorem applyPage_of_none (whole : request.take = none) (source : σ) :
    (applyPage request source : m σ) = pure source := by
  simp only [applyPage, whole]

theorem applyPage_of_some {take : UInt64} (cut : request.take = some take)
    (source : σ) :
    (applyPage request source : m σ) =
      Source.paginate request.skip take source := by
  simp only [applyPage, cut]

end GridPipeline

namespace Narrows

variable [Record ρ] {table : Sql.Table} {row : μ → Sql.Row}
  {stored records : List μ} {convert : μ → ρ}
  {query : QuerySource μ ρ} {memory : MemorySource ρ}

theorem applySearch
    (narrows : Narrows table row records convert query memory)
    [Database (Except GridError) μ]
    {search : Option (Predicate ρ)}
    (pushable : ∀ predicate ∈ search, predicate.condition.isSome = true)
    (alike : ∀ predicate ∈ search,
      predicate.SelectsAlike row records convert) :
    ∃ searched found,
      GridPipeline.applySearch search query =
        (.ok searched : Except GridError (QuerySource μ ρ)) ∧
      GridPipeline.applySearch search memory =
        (.ok found : Except GridError (MemorySource ρ)) ∧
      Narrows table row records convert searched found := by
  cases search with
  | none => exact ⟨query, memory, rfl, rfl, narrows⟩
  | some predicate =>
      obtain ⟨searched, added, narrowed⟩ :=
        narrows.filter (pushable predicate rfl) (alike predicate rfl)
      refine ⟨searched, memory.filter predicate, ?_, rfl, narrowed⟩
      simp only [GridPipeline.applySearch, Source.filter, added]
      rfl

theorem applyFilters
    (narrows : Narrows table row records convert query memory)
    [Database (Except GridError) μ]
    {filters : List (Predicate ρ)}
    (pushable : ∀ predicate ∈ filters, predicate.condition.isSome = true)
    (alike : ∀ predicate ∈ filters,
      predicate.SelectsAlike row records convert) :
    ∃ filtered found,
      GridPipeline.applyFilters filters query =
        (.ok filtered : Except GridError (QuerySource μ ρ)) ∧
      GridPipeline.applyFilters filters memory =
        (.ok found : Except GridError (MemorySource ρ)) ∧
      Narrows table row records convert filtered found := by
  induction filters generalizing query memory with
  | nil => exact ⟨query, memory, rfl, rfl, narrows⟩
  | cons predicate filters induction =>
      obtain ⟨pushableFirst, pushableRest⟩ := List.forall_mem_cons.mp pushable
      obtain ⟨alikeFirst, alikeRest⟩ := List.forall_mem_cons.mp alike
      obtain ⟨narrowed, added, narrowsFirst⟩ :=
        narrows.filter pushableFirst alikeFirst
      obtain ⟨filtered, found, queried, tested, narrowsAll⟩ :=
        induction narrowsFirst pushableRest alikeRest
      refine ⟨filtered, found, ?_, tested, narrowsAll⟩
      simp only [GridPipeline.applyFilters, Source.filter, added]
      exact queried

omit [Record ρ] in
theorem count
    (narrows : Narrows table row records convert query memory)
    (mirrors : Mirrors table row stored records)
    [database : Database (Except GridError) μ]
    (serves : database.Serves row stored) :
    (Source.count query : Except GridError Nat) = .ok memory.count := by
  rw [← narrows.count_eq mirrors]
  exact serves.count query.select

theorem applyOrder
    (narrows : Narrows table row records convert query memory)
    (mirrors : Mirrors table row stored records)
    [Database (Except GridError) μ] {order : RecordOrder}
    (columns : ∀ key ∈ order.keys, ∀ record ∈ stored,
      row record key.field.column = key.field.read (convert record)) :
    ∃ ordered arranged,
      GridPipeline.applyOrder order query =
        (.ok ordered : Except GridError (QuerySource μ ρ)) ∧
      GridPipeline.applyOrder order memory =
        (.ok arranged : Except GridError (MemorySource ρ)) ∧
      (order.keys = [] ∧
          Narrows table row records convert ordered arranged ∨
        Arranges row stored ordered arranged) := by
  by_cases unordered : order.keys = []
  · have isEmpty : order.isEmpty = true := by
      simp [RecordOrder.isEmpty, unordered]
    exact ⟨query, memory, GridPipeline.applyOrder_of_isEmpty isEmpty _,
      GridPipeline.applyOrder_of_isEmpty isEmpty _,
      Or.inl ⟨unordered, narrows⟩⟩
  · have notEmpty : ¬ order.isEmpty = true := by
      simpa [RecordOrder.isEmpty] using unordered
    exact ⟨query.order order, memory.order order,
      GridPipeline.applyOrder_of_not_isEmpty notEmpty _,
      GridPipeline.applyOrder_of_not_isEmpty notEmpty _,
      Or.inr (narrows.order mirrors columns)⟩

/-- A page of records that are not ordered is one of the order of the primary
key. -/
theorem applyPage
    (narrows : Narrows table row records convert query memory)
    (mirrors : Mirrors table row stored records)
    [Database (Except GridError) μ] (request : RequestSpec) :
    ∃ paged page,
      GridPipeline.applyPage request query =
        (.ok paged : Except GridError (QuerySource μ ρ)) ∧
      GridPipeline.applyPage request memory =
        (.ok page : Except GridError (MemorySource ρ)) ∧
      ∀ answer, paged.select.Answers row stored answer →
        (answer.map paged.convert).Perm page.records ∧
        (request.take.isSome = true →
          answer.map paged.convert = page.records) := by
  cases wanted : request.take with
  | none =>
      refine ⟨query, memory, GridPipeline.applyPage_of_none wanted _,
        GridPipeline.applyPage_of_none wanted _, ?_⟩
      intro answer answers
      exact ⟨narrows.fetch mirrors answers, by simp⟩
  | some take =>
      have arranges := narrows.orderByKey mirrors
      have paginate : query.paginate request.skip take =
          query.orderByKey.paginate request.skip take := by
        simp [QuerySource.paginate, narrows.ordered_eq, arranges.ordered_eq]
      refine ⟨query.paginate request.skip take,
        memory.paginate request.skip take,
        GridPipeline.applyPage_of_some wanted _,
        GridPipeline.applyPage_of_some wanted _, ?_⟩
      intro answer answers
      rw [paginate] at answers ⊢
      have same := arranges.fetch_paginate answers
      exact ⟨List.Perm.of_eq same, fun _ => same⟩

end Narrows

theorem Arranges.applyPage [Record ρ] {row : μ → Sql.Row} {stored : List μ}
    {query : QuerySource μ ρ} {memory : MemorySource ρ}
    (arranges : Arranges row stored query memory)
    [Database (Except GridError) μ] (request : RequestSpec) :
    ∃ paged page,
      GridPipeline.applyPage request query =
        (.ok paged : Except GridError (QuerySource μ ρ)) ∧
      GridPipeline.applyPage request memory =
        (.ok page : Except GridError (MemorySource ρ)) ∧
      ∀ answer, paged.select.Answers row stored answer →
        answer.map paged.convert = page.records := by
  cases wanted : request.take with
  | none =>
      exact ⟨query, memory, GridPipeline.applyPage_of_none wanted _,
        GridPipeline.applyPage_of_none wanted _, fun _ => arranges.fetch⟩
  | some take =>
      exact ⟨query.paginate request.skip take,
        memory.paginate request.skip take,
        GridPipeline.applyPage_of_some wanted _,
        GridPipeline.applyPage_of_some wanted _,
        fun _ => arranges.fetch_paginate⟩

/-- Ordered and cut to the page, the query has the records as an answer, in
one arrangement if they were ordered or cut. -/
theorem Narrows.applyOrder_applyPage
    [Record ρ] {table : Sql.Table} {row : μ → Sql.Row}
    {stored records : List μ} {convert : μ → ρ}
    {query : QuerySource μ ρ} {memory : MemorySource ρ}
    (narrows : Narrows table row records convert query memory)
    (mirrors : Mirrors table row stored records)
    [Database (Except GridError) μ] {order : RecordOrder}
    (columns : ∀ key ∈ order.keys, ∀ record ∈ stored,
      row record key.field.column = key.field.read (convert record))
    (request : RequestSpec) :
    ∃ ordered paged arranged page,
      GridPipeline.applyOrder order query =
        (.ok ordered : Except GridError (QuerySource μ ρ)) ∧
      GridPipeline.applyPage request ordered =
        (.ok paged : Except GridError (QuerySource μ ρ)) ∧
      GridPipeline.applyOrder order memory =
        (.ok arranged : Except GridError (MemorySource ρ)) ∧
      GridPipeline.applyPage request arranged =
        (.ok page : Except GridError (MemorySource ρ)) ∧
      ∀ answer, paged.select.Answers row stored answer →
        (answer.map paged.convert).Perm page.records ∧
        (order.keys ≠ [] ∨ request.take.isSome = true →
          answer.map paged.convert = page.records) := by
  obtain ⟨ordered, arranged, orderQuery, orderMemory, either⟩ :=
    narrows.applyOrder mirrors columns
  rcases either with ⟨unordered, narrowsOrdered⟩ | arranges
  · obtain ⟨paged, page, pageQuery, pageMemory, answers⟩ :=
      narrowsOrdered.applyPage mirrors request
    refine ⟨ordered, paged, arranged, page, orderQuery, pageQuery,
      orderMemory, pageMemory, ?_⟩
    intro answer given
    obtain ⟨perm, same⟩ := answers answer given
    refine ⟨perm, ?_⟩
    rintro (keys | cut)
    · exact absurd unordered keys
    · exact same cut
  · obtain ⟨paged, page, pageQuery, pageMemory, answers⟩ :=
      arranges.applyPage request
    refine ⟨ordered, paged, arranged, page, orderQuery, pageQuery,
      orderMemory, pageMemory, ?_⟩
    intro answer given
    have same := answers answer given
    exact ⟨List.Perm.of_eq same, fun _ => same⟩

theorem Database.Serves.fetch
    [database : Database (Except GridError) μ] {row : μ → Sql.Row}
    {stored : List μ} (serves : database.Serves row stored)
    (query : QuerySource μ ρ) :
    ∃ answer, query.select.Answers row stored answer ∧
      Source.fetch query =
        (.ok (answer.map query.convert) : Except GridError (List ρ)) := by
  obtain ⟨answer, given, answers⟩ := serves.rows query.select
  refine ⟨answer, answers, ?_⟩
  simp only [Source.fetch, given]
  rfl

namespace GridPipeline

theorem runAsync_eq_runBlocking
    {σ τ : Type} {m : Type → Type} [Monad m] [LawfulMonad m]
    [MonadExceptOf GridError m] [Source m σ ρ] [Source m τ π]
    [Record ρ] [Record π] (pipeline : GridPipeline) (project : σ → m τ)
    (source : σ) :
    pipeline.runAsync (pure false) project source =
      pipeline.runBlocking project source := by
  have stages : (fun {α : Type} (stage : m α) =>
      unlessCancelled (pure false) stage) = fun {α : Type} stage => stage := by
    funext α stage
    simp [unlessCancelled]
  unfold runAsync runBlocking
  rw [stages]
  rfl

/-- The response that a run ends with, given the two counts and the records
that it would fetch. -/
def responseOf (request : RequestSpec) (total count : Nat) (data : List π) :
    GridResponse π Unit :=
  if total = 0 then
    .empty request.draw 0
  else if count = 0 then
    .empty request.draw total
  else
    ⟨data, request.draw, total, count, none⟩

private theorem ok_bind {ε α β : Type} (value : α)
    (next : α → Except ε β) :
    ((.ok value : Except ε α) >>= next) = next value := rfl

theorem execute_eq_responseOf
    {σ τ : Type} [Source (Except GridError) σ ρ]
    [Source (Except GridError) τ π] {request : RequestSpec}
    {plan : Plan ρ π} {project : σ → Except GridError τ}
    {source searched : σ} {projected filtered ordered paged : τ}
    {total count : Nat} {data : List π}
    (counted : (Source.count source : Except GridError Nat) = .ok total)
    (search : (applySearch plan.search source : Except GridError σ) =
      .ok searched)
    (projection : project searched = .ok projected)
    (filters : (applyFilters plan.filters projected : Except GridError τ) =
      .ok filtered)
    (recounted : (Source.count filtered : Except GridError Nat) = .ok count)
    (order : (applyOrder plan.order filtered : Except GridError τ) =
      .ok ordered)
    (page : (applyPage request ordered : Except GridError τ) = .ok paged)
    (fetched : (Source.fetch paged : Except GridError (List π)) =
      .ok data) :
    execute id request plan project source =
      .ok (responseOf request total count data) := by
  unfold execute responseOf
  simp only [id, counted, ok_bind]
  by_cases nothing : total = 0
  · simp only [if_pos nothing]
    rfl
  · simp only [if_neg nothing, search, projection, filters, recounted, ok_bind]
    by_cases noneLeft : count = 0
    · simp only [if_pos noneLeft]
      rfl
    · simp only [if_neg noneLeft, order, page, fetched, ok_bind]
      rfl

theorem rearranges_responseOf
    {request : RequestSpec} {total count : Nat} {data data' : List π}
    (perm : data.Perm data') :
    (responseOf request total count data).Rearranges
      (responseOf request total count data') := by
  unfold responseOf
  split
  · exact ⟨rfl, rfl, rfl, rfl, .refl _⟩
  · split
    · exact ⟨rfl, rfl, rfl, rfl, .refl _⟩
    · exact ⟨rfl, rfl, rfl, rfl, perm⟩

/-- A database that holds a table answers a request as the records of the
table do in memory.  The models that the database has stored are those in
memory, told apart by the primary key of the table; `read` makes a record of
each, and `convert` makes of this the record that filters and sort keys look
at, the fields of which are in the columns of the row. -/
theorem runAsync_query_rearranges_runBlocking_memory
    [Record ρ] [Record π] [database : Database (Except GridError) μ]
    {table : Sql.Table} {row : μ → Sql.Row} {stored models : List μ}
    (serves : database.Serves row stored)
    (mirrors : Mirrors table row stored models)
    {read : μ → ρ} {convert : ρ → π}
    (columns : ∀ field ∈ Record.descriptors π, ∀ model ∈ stored,
      row model field.column = field.read (convert (read model)))
    {pipeline : GridPipeline} {plan : Plan ρ π}
    (compiled : pipeline.plan ρ π = .ok plan)
    (searchAlike : ∀ predicate ∈ plan.search,
      predicate.SelectsAlike row stored read)
    (filtersAlike : ∀ predicate ∈ plan.filters,
      predicate.SelectsAlike row stored (convert ∘ read)) :
    ∃ answered kept : GridResponse π Unit,
      pipeline.runAsync (pure false)
        (fun source : QuerySource μ ρ => pure (source.project convert))
        ((QuerySource.ofSelect (.all table)).project read) =
          (.ok answered : Except GridError (GridResponse π Unit)) ∧
      pipeline.runBlocking
        (fun source : MemorySource ρ => pure (source.project convert))
        ((MemorySource.mk models).project read) =
          (.ok kept : Except GridError (GridResponse π Unit)) ∧
      answered.Rearranges kept ∧
      (pipeline.request.sortSpecs ≠ [] ∨
          pipeline.request.take.isSome = true →
        answered = kept) := by
  obtain ⟨searchPushable, filtersPushable, keyCount, keyFields⟩ :=
    plan_spec compiled
  have start : Narrows table row models read
      ((QuerySource.ofSelect (.all table)).project read)
      ((MemorySource.mk models).project read) :=
    (Narrows.start table row models).project read
  obtain ⟨searched, found, searchQuery, searchMemory, narrowsSearched⟩ :=
    start.applySearch searchPushable
      fun predicate member =>
        mirrors.selectsAlike (searchAlike predicate member)
  obtain ⟨filtered, passed, filterQuery, filterMemory, narrowsFiltered⟩ :=
    (narrowsSearched.project convert).applyFilters filtersPushable
      fun predicate member =>
        mirrors.selectsAlike (filtersAlike predicate member)
  obtain ⟨ordered, paged, arranged, page, orderQuery, pageQuery, orderMemory,
      pageMemory, pages⟩ :=
    narrowsFiltered.applyOrder_applyPage mirrors
      (fun key member => columns key.field (keyFields key member))
      pipeline.request
  obtain ⟨answer, answers, fetched⟩ := serves.fetch paged
  obtain ⟨perm, same⟩ := pages answer answers
  let respond (data : List π) : GridResponse π Unit :=
    responseOf pipeline.request (models.map read).length passed.count data
  have queried : execute id pipeline.request plan
      (fun source : QuerySource μ ρ => pure (source.project convert))
      ((QuerySource.ofSelect (.all table)).project read) =
        (.ok (respond (answer.map paged.convert)) :
          Except GridError (GridResponse π Unit)) :=
    execute_eq_responseOf (start.count mirrors serves) searchQuery rfl
      filterQuery (narrowsFiltered.count mirrors serves) orderQuery pageQuery
      fetched
  have kept : execute id pipeline.request plan
      (fun source : MemorySource ρ => pure (source.project convert))
      ((MemorySource.mk models).project read) =
        (.ok (respond page.records) :
          Except GridError (GridResponse π Unit)) :=
    execute_eq_responseOf rfl searchMemory rfl filterMemory rfl orderMemory
      pageMemory rfl
  refine ⟨respond (answer.map paged.convert), respond page.records, ?_, ?_,
    ?_, ?_⟩
  · rw [runAsync_eq_runBlocking, runBlocking, runWith, compiled]
    exact queried
  · rw [runBlocking, runWith, compiled]
    exact kept
  · exact rearranges_responseOf perm
  · intro asked
    have keysOrPage : plan.order.keys ≠ [] ∨
        pipeline.request.take.isSome = true := by
      refine asked.imp_left ?_
      intro specs keys
      rw [keys, List.length_nil] at keyCount
      exact specs (List.length_eq_zero_iff.mp keyCount.symm)
    rw [same keysOrPage]

/-- A table of cells, the values of which are its primary key. -/
def cellTable : Sql.Table :=
  ⟨"cells", "*", ["cell"]⟩

def cellRow (cell : Cell) : Sql.Row :=
  fun _ => cell.value

def storedCells : List Cell :=
  [⟨.integer 12⟩, ⟨.integer 2⟩, ⟨.integer 11⟩, ⟨.integer 10⟩]

/-- A request for the second page of the cells that contain the digit one and
are greater than ten. -/
def cellPage : GridPipeline :=
  ⟨⟨none, some "1", 1, some 1, [⟨"Cell", .descending⟩],
    [.numeric ⟨"Cell", .greaterThan, .integer 10, .default⟩]⟩,
    ["Cell"], .default⟩

/-- The cells of the page, from the database and from memory. -/
theorem runAsync_query_rearranges_runBlocking_memory_cells :
    letI := Database.ofTable cellRow storedCells
    ∃ response : GridResponse Cell Unit,
      cellPage.runAsync (pure false)
        (fun source : QuerySource Cell Cell => pure (source.project id))
        ((QuerySource.ofSelect (.all cellTable)).project id) =
          (.ok response : Except GridError (GridResponse Cell Unit)) ∧
      cellPage.runBlocking
        (fun source : MemorySource Cell => pure (source.project id))
        ((MemorySource.mk
          [⟨.integer 2⟩, ⟨.integer 10⟩, ⟨.integer 11⟩, ⟨.integer 12⟩]).project
            id) =
          (.ok response : Except GridError (GridResponse Cell Unit)) := by
  let database := Database.ofTable cellRow storedCells
  have mirrors : Mirrors cellTable cellRow storedCells
      [⟨.integer 2⟩, ⟨.integer 10⟩, ⟨.integer 11⟩, ⟨.integer 12⟩] :=
    { distinct := by decide
      perm := by decide
      ascending := by decide }
  obtain ⟨plan, compiled, search, filters⟩ : ∃ plan : Plan Cell Cell,
      cellPage.plan Cell Cell = .ok plan ∧
      (∀ predicate ∈ plan.search,
        predicate.SelectsAlike cellRow storedCells id) ∧
      ∀ predicate ∈ plan.filters,
        predicate.SelectsAlike cellRow storedCells (id ∘ id) := by
    refine ⟨_, rfl, ?_, ?_⟩
    · rintro predicate ⟨⟩ condition ⟨⟩
      decide +kernel
    · simp only [List.forall_mem_singleton]
      rintro condition ⟨⟩
      decide +kernel
  obtain ⟨answered, kept, queried, inMemory, -, same⟩ :=
    runAsync_query_rearranges_runBlocking_memory
      (Database.serves_ofTable cellRow storedCells) mirrors
      (fun _ _ _ _ => rfl) compiled search filters
  have sorted : cellPage.request.sortSpecs ≠ [] := by decide
  rw [same (Or.inl sorted)] at queried
  exact ⟨kept, queried, inMemory⟩

end GridPipeline

end GridQuery
