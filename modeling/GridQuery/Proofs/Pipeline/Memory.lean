import Mathlib
import GridQuery.Proofs.Pipeline.Refinement

/-!
# Requests for records in memory

What a request for records in memory is answered with: the rows that the search
accepts and whose projections all filters accept, projected, sorted stably by
the sort keys and cut to the page.  A run may end after each of the counts, but
it ends with the same response.  The pages of one length, one after the other,
have all records of the request without a page, each of them once.
-/

namespace GridQuery

section Pages

variable {α : Type}

/-- The elements at the positions from `skip` on, before `skip + take`. -/
def window (skip take : Nat) (list : List α) : List α :=
  (list.zipIdx.filter fun entry =>
    skip ≤ entry.2 ∧ entry.2 < skip + take).map Prod.fst

theorem filter_zipIdx_eq_take_drop (skip take : Nat) (list : List α)
    (start : Nat) :
    ((list.zipIdx start).filter fun entry =>
        skip ≤ entry.2 ∧ entry.2 < skip + take).map Prod.fst =
      (list.drop (skip - start)).take (take - (start - skip)) := by
  induction list generalizing start with
  | nil => simp
  | cons head tail induction =>
      rw [List.zipIdx_cons, List.filter_cons]
      split
      · rename_i within
        simp only [decide_eq_true_eq] at within
        have first : skip - start = 0 := by omega
        have next : skip - (start + 1) = 0 := by omega
        have more : take - (start - skip) = take - (start + 1 - skip) + 1 := by
          omega
        rw [List.map_cons, induction, first, next, more, List.drop_zero,
          List.drop_zero, List.take_succ_cons]
      · rename_i outside
        simp only [decide_eq_true_eq] at outside
        rw [induction]
        by_cases before : start < skip
        · have first : skip - start = skip - (start + 1) + 1 := by omega
          have same : start - skip = start + 1 - skip := by omega
          rw [first, same, List.drop_succ_cons]
        · have nothing : take - (start - skip) = 0 := by omega
          have past : take - (start + 1 - skip) = 0 := by omega
          rw [nothing, past, List.take_zero, List.take_zero]

theorem window_eq_take_drop (skip take : Nat) (list : List α) :
    window skip take list = (list.drop skip).take take := by
  simpa [window] using filter_zipIdx_eq_take_drop skip take list 0

/-- Windows of one length, side by side, show the list up to where they
end. -/
theorem flatMap_window (size pages : Nat) (list : List α) :
    ((List.range pages).flatMap fun page => window (page * size) size list) =
      list.take (pages * size) := by
  induction pages with
  | zero => simp
  | succ pages induction =>
      rw [List.range_succ, List.flatMap_append, induction, Nat.succ_mul,
        List.take_add, List.flatMap_singleton, window_eq_take_drop]

/-- The number of pages that a list fills, the last one perhaps in part. -/
def pageCount (size : Nat) (list : List α) : Nat :=
  (list.length + size - 1) / size

theorem mul_lt_length_of_lt_pageCount {size page : Nat} {list : List α}
    (listed : page < pageCount size list) : page * size < list.length := by
  have positive : 0 < size := by
    rw [Nat.pos_iff_ne_zero]
    rintro rfl
    simp [pageCount] at listed
  have ends : (page + 1) * size ≤ list.length + size - 1 :=
    (Nat.le_div_iff_mul_le positive).mp listed
  rw [Nat.succ_mul] at ends
  omega

theorem length_le_pageCount_mul {size : Nat} (positive : 0 < size)
    (list : List α) : list.length ≤ pageCount size list * size := by
  have whole := Nat.div_add_mod' (list.length + size - 1) size
  have rest := Nat.mod_lt (list.length + size - 1) positive
  unfold pageCount
  omega

/-- The page that a request is for, or all records. -/
def pageOf (skip : UInt64) (take : Option UInt64) (list : List α) : List α :=
  match take with
  | some take => window skip.toNat take.toNat list
  | none => list

/-- The pages of one length are all of a list the positions in which can be
skipped to. -/
theorem flatMap_pageOf {size : UInt64} (positive : size ≠ 0) {list : List α}
    (reached : list.length ≤ UInt64.size) :
    ((List.range (pageCount size.toNat list)).flatMap fun page =>
      pageOf (UInt64.ofNat (page * size.toNat)) (some size) list) = list := by
  have sizePositive : 0 < size.toNat := by
    rw [Nat.pos_iff_ne_zero]
    exact fun zero => positive (UInt64.toNat_inj.mp zero)
  calc ((List.range (pageCount size.toNat list)).flatMap fun page =>
        pageOf (UInt64.ofNat (page * size.toNat)) (some size) list)
      = (List.range (pageCount size.toNat list)).flatMap fun page =>
          window (page * size.toNat) size.toNat list := by
        apply List.flatMap_congr
        intro page listed
        have before := mul_lt_length_of_lt_pageCount (List.mem_range.mp listed)
        have skipped : (UInt64.ofNat (page * size.toNat)).toNat =
            page * size.toNat :=
          UInt64.toNat_ofNat_of_lt' (Nat.lt_of_lt_of_le before reached)
        rw [pageOf, skipped]
    _ = list.take (pageCount size.toNat list * size.toNat) :=
        flatMap_window ..
    _ = list :=
        List.take_of_length_le (length_le_pageCount_mul sizePositive list)

end Pages

theorem MemorySource.project_id {ρ : Type} (source : MemorySource ρ) :
    source.project id = source := by
  rw [project, List.map_id]

namespace GridPipeline

variable {ρ π : Type}

section Reference

variable [Record ρ] (pipeline : GridPipeline)

/-- Whether the search accepts a row, as it does every row if there is no term
or no field to search. -/
def searchAccepts (row : ρ) : Bool :=
  match pipeline.request.searchTerm with
  | none => true
  | some term =>
      pipeline.searchFields.isEmpty ||
        (Search.compile pipeline.searchFields term).test row

/-- The projections of the rows that the search accepts, as far as all filters
accept them. -/
def survivors (filters : List (Predicate π)) (convert : ρ → π)
    (rows : List ρ) : List π :=
  (rows.filter fun row =>
    pipeline.searchAccepts row &&
      filters.all fun filter => filter.test (convert row)).map convert

omit [Record ρ] in
/-- The same request for another page, or for all records. -/
def onPage (skip : UInt64) (take : Option UInt64) : GridPipeline :=
  { pipeline with request := { pipeline.request with skip, take } }

end Reference

section Steps

variable [Record ρ]

theorem applySearch_memory (pipeline : GridPipeline) (rows : List ρ) :
    applySearch pipeline.searchPredicate (MemorySource.mk rows) =
      (.ok ⟨rows.filter pipeline.searchAccepts⟩ :
        Except GridError (MemorySource ρ)) := by
  unfold applySearch searchPredicate searchAccepts
  cases pipeline.request.searchTerm with
  | none =>
      rw [List.filter_true]
      rfl
  | some term =>
      cases noFields : pipeline.searchFields.isEmpty with
      | true =>
          simp only [if_true, Bool.true_or, List.filter_true]
          rfl
      | false => rfl

theorem applyFilters_memory (filters : List (Predicate ρ))
    (records : List ρ) :
    applyFilters filters (MemorySource.mk records) =
      (.ok ⟨records.filter fun record =>
          filters.all fun filter => filter.test record⟩ :
        Except GridError (MemorySource ρ)) := by
  induction filters generalizing records with
  | nil =>
      simp only [List.all_nil, List.filter_true]
      rfl
  | cons filter filters induction =>
      have kept := induction (records.filter filter.test)
      rw [List.filter_filter] at kept
      simp only [List.all_cons, Bool.and_comm (filter.test _)]
      exact kept

theorem applyOrder_memory (order : RecordOrder) (records : List ρ) :
    applyOrder order (MemorySource.mk records) =
      (.ok ⟨order.sort records⟩ : Except GridError (MemorySource ρ)) := by
  by_cases isEmpty : order.isEmpty = true
  · rw [applyOrder_of_isEmpty isEmpty]
    obtain ⟨keys⟩ := order
    obtain rfl : keys = [] := List.isEmpty_iff.mp isEmpty
    rw [RecordOrder.sort_nil]
    rfl
  · rw [applyOrder_of_not_isEmpty isEmpty]
    rfl

theorem applyPage_memory (request : RequestSpec) (records : List ρ) :
    applyPage request (MemorySource.mk records) =
      (.ok ⟨pageOf request.skip request.take records⟩ :
        Except GridError (MemorySource ρ)) := by
  cases asked : request.take with
  | none =>
      rw [applyPage_of_none asked]
      rfl
  | some take =>
      rw [applyPage_of_some asked, pageOf, window_eq_take_drop]
      rfl

end Steps

theorem pageOf_nil (skip : UInt64) (take : Option UInt64) :
    pageOf skip take ([] : List π) = [] := by
  cases take <;> rfl

/-- A run that ends after a count of zero would have ended with the same
response. -/
theorem responseOf_eq
    {request : RequestSpec} {total count : Nat} {data : List π}
    (counted : total = 0 → count = 0) (fetched : count = 0 → data = []) :
    responseOf request total count data =
      ⟨data, request.draw, total, count, none⟩ := by
  unfold responseOf
  split
  · rename_i nothing
    rw [fetched (counted nothing), counted nothing, nothing]
    rfl
  · split
    · rename_i noneLeft
      rw [fetched noneLeft, noneLeft]
      rfl
    · rfl

variable [Record ρ] [Record π]

theorem runBlocking_memory {pipeline : GridPipeline}
    {filters : List (Predicate π)} {order : RecordOrder}
    (filtersCompiled :
      Filter.compileAll pipeline.options pipeline.request.filterSpecs =
        .ok filters)
    (orderCompiled : Sort.compile π pipeline.request.sortSpecs = .ok order)
    (convert : ρ → π) (rows : List ρ) :
    pipeline.runBlocking
        (fun source : MemorySource ρ => pure (source.project convert))
        ⟨rows⟩ =
      (.ok
        ⟨pageOf pipeline.request.skip pipeline.request.take
            (order.sort (pipeline.survivors filters convert rows)),
          pipeline.request.draw, rows.length,
          (pipeline.survivors filters convert rows).length, none⟩ :
        Except GridError (GridResponse π Unit)) := by
  have compiled : pipeline.plan ρ π =
      .ok ⟨pipeline.searchPredicate, filters, order⟩ := by
    rw [plan, filtersCompiled, orderCompiled]
    rfl
  have survivors : ((rows.filter pipeline.searchAccepts).map convert).filter
      (fun record => filters.all fun filter => filter.test record) =
        pipeline.survivors filters convert rows := by
    rw [List.filter_map, List.filter_filter, GridPipeline.survivors]
    simp only [Function.comp_apply, Bool.and_comm]
  have filtered := applyFilters_memory filters
    ((rows.filter pipeline.searchAccepts).map convert)
  rw [survivors] at filtered
  have ran : execute id pipeline.request
      ⟨pipeline.searchPredicate, filters, order⟩
      (fun source : MemorySource ρ => pure (source.project convert)) ⟨rows⟩ =
        (.ok (responseOf pipeline.request rows.length
          (pipeline.survivors filters convert rows).length
          (pageOf pipeline.request.skip pipeline.request.take
            (order.sort (pipeline.survivors filters convert rows)))) :
          Except GridError (GridResponse π Unit)) :=
    execute_eq_responseOf rfl (applySearch_memory pipeline rows) rfl filtered
      rfl (applyOrder_memory order _) (applyPage_memory pipeline.request _) rfl
  rw [runBlocking, runWith, compiled]
  refine ran.trans (congrArg Except.ok (responseOf_eq ?_ ?_))
  · intro nothing
    rw [List.length_eq_zero_iff.mp nothing]
    rfl
  · intro noneLeft
    have noRecords : pipeline.survivors filters convert rows = [] :=
      List.length_eq_zero_iff.mp noneLeft
    rw [noRecords, RecordOrder.sort, List.mergeSort_nil, pageOf_nil]

theorem runBlocking_memory_filtered {pipeline : GridPipeline}
    {filters : List (Predicate ρ)} {order : RecordOrder}
    (filtersCompiled :
      Filter.compileAll pipeline.options pipeline.request.filterSpecs =
        .ok filters)
    (orderCompiled : Sort.compile ρ pipeline.request.sortSpecs = .ok order)
    (noSearch : pipeline.request.searchTerm = none)
    (noPage : pipeline.request.take = none) (records : List ρ) :
    pipeline.runBlocking (fun source : MemorySource ρ => pure source)
        ⟨records⟩ =
      (.ok
        ⟨order.sort (records.filter fun record =>
            filters.all fun filter => filter.test record),
          pipeline.request.draw, records.length,
          (records.filter fun record =>
            filters.all fun filter => filter.test record).length, none⟩ :
        Except GridError (GridResponse ρ Unit)) := by
  have ran := runBlocking_memory filtersCompiled orderCompiled id records
  have survivors : pipeline.survivors filters id records =
      records.filter fun record =>
        filters.all fun filter => filter.test record := by
    simp [GridPipeline.survivors, searchAccepts, noSearch]
  simp only [MemorySource.project_id, survivors, noPage, pageOf] at ran
  exact ran

/-- Rows in memory are answered by the page of one arrangement: of the
projected rows that the search and all filters let pass, sorted stably by the
sort keys.  Which page is asked for changes nothing else in the response, and
the pages of one length are the whole arrangement, unless there are more rows
than a page can skip. -/
theorem runBlocking_memory_pages {pipeline : GridPipeline}
    {filters : List (Predicate π)} {order : RecordOrder}
    (filtersCompiled :
      Filter.compileAll pipeline.options pipeline.request.filterSpecs =
        .ok filters)
    (orderCompiled : Sort.compile π pipeline.request.sortSpecs = .ok order)
    (convert : ρ → π) (rows : List ρ) :
    let kept := pipeline.survivors filters convert rows
    let run (skip : UInt64) (take : Option UInt64) :
        Except GridError (GridResponse π Unit) :=
      (pipeline.onPage skip take).runBlocking
        (fun source : MemorySource ρ => pure (source.project convert)) ⟨rows⟩
    ∃ arranged,
      order.SortsStably kept arranged ∧
      (∀ skip take, run skip take =
        .ok ⟨pageOf skip take arranged, pipeline.request.draw, rows.length,
          kept.length, none⟩) ∧
      ∀ size : UInt64, size ≠ 0 → rows.length ≤ UInt64.size →
        ∃ responses : Nat → GridResponse π Unit,
          (∀ page < pageCount size.toNat arranged,
            run (UInt64.ofNat (page * size.toNat)) (some size) =
              .ok (responses page)) ∧
          ((List.range (pageCount size.toNat arranged)).flatMap fun page =>
            (responses page).data) = arranged := by
  intro kept run
  have answered : ∀ skip take, run skip take =
      .ok ⟨pageOf skip take (order.sort kept), pipeline.request.draw,
        rows.length, kept.length, none⟩ := by
    intro skip take
    have onPage := @runBlocking_memory ρ π _ _ (pipeline.onPage skip take)
      filters order filtersCompiled orderCompiled convert rows
    exact onPage
  refine ⟨order.sort kept, order.sortsStably_sort kept, answered, ?_⟩
  intro size positive reached
  refine ⟨fun page =>
    ⟨pageOf (UInt64.ofNat (page * size.toNat)) (some size) (order.sort kept),
      pipeline.request.draw, rows.length, kept.length, none⟩,
    fun page _ => answered _ _, flatMap_pageOf positive ?_⟩
  calc (order.sort kept).length
      = kept.length := (order.sortsStably_sort kept).perm.length_eq
    _ ≤ rows.length := by
        simpa [kept, survivors] using List.length_filter_le _ rows
    _ ≤ UInt64.size := reached

/-- Pages of one cell, out of four cells of which two are left. -/
theorem runBlocking_memory_pages_cells :
    let run (skip : UInt64) (take : Option UInt64) :
        Except GridError (GridResponse Cell Unit) :=
      (cellPage.onPage skip take).runBlocking
        (fun source : MemorySource Cell => pure (source.project id))
        ⟨[⟨.integer 11⟩, ⟨.integer 2⟩, ⟨.integer 12⟩, ⟨.integer 10⟩]⟩
    ∃ first second : GridResponse Cell Unit,
      run 0 (some 1) = .ok first ∧
      run 1 (some 1) = .ok second ∧
      first.data ++ second.data = [⟨.integer 12⟩, ⟨.integer 11⟩] ∧
      first.recordsTotal = 4 ∧ first.recordsFiltered = 2 := by
  intro run
  obtain ⟨filters, filtersCompiled, kept⟩ : ∃ filters,
      Filter.compileAll cellPage.options cellPage.request.filterSpecs =
        .ok filters ∧
      cellPage.survivors filters id
        [⟨.integer 11⟩, ⟨.integer 2⟩, ⟨.integer 12⟩, ⟨.integer 10⟩] =
          [(⟨.integer 11⟩ : Cell), ⟨.integer 12⟩] :=
    ⟨_, rfl, by decide +kernel⟩
  obtain ⟨order, orderCompiled, sorted⟩ : ∃ order,
      Sort.compile Cell cellPage.request.sortSpecs = .ok order ∧
      order.sort [(⟨.integer 11⟩ : Cell), ⟨.integer 12⟩] =
        [⟨.integer 12⟩, ⟨.integer 11⟩] :=
    ⟨_, rfl, by cbv⟩
  obtain ⟨arranged, sorts, answered, tiles⟩ :=
    runBlocking_memory_pages filtersCompiled orderCompiled id
      [⟨.integer 11⟩, ⟨.integer 2⟩, ⟨.integer 12⟩, ⟨.integer 10⟩]
  obtain ⟨responses, pages, whole⟩ := tiles 1 (by decide) (by decide)
  rw [kept, RecordOrder.sortsStably_iff, sorted] at sorts
  subst sorts
  have both : pageCount (1 : UInt64).toNat
      [(⟨.integer 12⟩ : Cell), ⟨.integer 11⟩] = 2 := rfl
  rw [both] at pages whole
  have firstPage := pages 0 (by decide)
  rw [answered] at firstPage
  refine ⟨responses 0, responses 1, pages 0 (by decide), pages 1 (by decide),
    by simpa [List.range_succ] using whole, ?_, ?_⟩
  · rw [← Except.ok.inj firstPage]
    rfl
  · rw [← Except.ok.inj firstPage, kept]
    rfl

end GridPipeline

end GridQuery
