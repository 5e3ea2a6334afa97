import GridQuery.Proofs.Pipeline.Refinement

/-!
# Counting pages

A source in memory is counted as it is, so the count of a page is the number of
records that are fetched from it.  The count of a query disregards the page: it
is the number of all rows that the filters leave, which are as many as are
fetched only if the page has room for all of them.
-/

namespace GridQuery

/-- What is done to a source before it is counted or fetched. -/
inductive SourceStep (ρ : Type) where
  | filter (predicate : Predicate ρ)
  | order (keys : RecordOrder)
  | paginate (skip take : UInt64)

namespace SourceStep

variable {μ ρ σ : Type} {m : Type → Type}

def apply [Source m σ ρ] : SourceStep ρ → σ → m σ
  | filter predicate, source => Source.filter predicate source
  | order keys, source => Source.order keys source
  | paginate skip take, source => Source.paginate skip take source

/-- Takes steps one after the other. -/
def applyAll [Monad m] [Source m σ ρ] : List (SourceStep ρ) → σ → m σ
  | [], source => pure source
  | step :: steps, source => do applyAll steps (← step.apply source)

/-- Whether a step can be taken with a query: a filter needs a condition. -/
def Pushable : SourceStep ρ → Prop
  | filter predicate => predicate.condition.isSome = true
  | _ => True

/-- Whether a step keeps a row of a query: only a filter drops any. -/
def keeps (row : Sql.Row) : SourceStep ρ → Bool
  | filter predicate => predicate.condition.all fun condition =>
      condition.holds row
  | _ => true

/-- The page that a step sets. -/
def page? : SourceStep ρ → Option (UInt64 × UInt64)
  | paginate skip take => some (skip, take)
  | _ => none

section Memory

variable [Record ρ]

theorem exists_apply_memory (step : SourceStep ρ)
    (source : MemorySource ρ) :
    ∃ next, (step.apply source : Except GridError (MemorySource ρ)) =
      .ok next := by
  cases step with
  | filter predicate => exact ⟨source.filter predicate, rfl⟩
  | order keys => exact ⟨source.order keys, rfl⟩
  | paginate skip take => exact ⟨source.paginate skip take, rfl⟩

theorem exists_applyAll_memory (steps : List (SourceStep ρ))
    (source : MemorySource ρ) :
    ∃ reached, (applyAll steps source : Except GridError (MemorySource ρ)) =
      .ok reached := by
  induction steps generalizing source with
  | nil => exact ⟨source, rfl⟩
  | cons step steps induction =>
      obtain ⟨next, applied⟩ := step.exists_apply_memory source
      obtain ⟨reached, applies⟩ := induction next
      refine ⟨reached, ?_⟩
      rw [applyAll, applied]
      exact applies

end Memory

section Query

variable [Database (Except GridError) μ]

/-- What a step does to a query, whatever its ordering: a filter drops rows, and
only a page sets the page. -/
theorem exists_apply_query {step : SourceStep ρ} (pushable : step.Pushable)
    (source : QuerySource μ ρ) :
    ∃ next, (step.apply source : Except GridError (QuerySource μ ρ)) =
        .ok next ∧
      (∀ row, next.select.keeps row =
        (source.select.keeps row && step.keeps row)) ∧
      next.select.page = step.page?.or source.select.page := by
  cases step with
  | filter predicate =>
      obtain ⟨condition, known⟩ := Option.isSome_iff_exists.mp pushable
      refine ⟨{ source with select := source.select.restrict condition },
        ?_, ?_, rfl⟩
      · simp only [apply, Source.filter, QuerySource.filter, known]
        rfl
      · intro row
        simp only [keeps, known, Option.all_some]
        exact Sql.Select.keeps_restrict source.select condition row
  | order keys =>
      refine ⟨source.order keys, rfl, ?_, ?_⟩
      · intro row
        simp [QuerySource.order, QuerySource.orderByKey,
          Sql.Select.orderByKey, Sql.Select.foldl_orderBy, Sql.Select.keeps,
          keeps]
      · simp [QuerySource.order, QuerySource.orderByKey,
          Sql.Select.orderByKey, Sql.Select.foldl_orderBy, page?]
  | paginate skip take =>
      refine ⟨source.paginate skip take, rfl, ?_, ?_⟩
      · intro row
        cases ordered : source.ordered <;>
          simp [QuerySource.paginate, QuerySource.orderByKey,
            Sql.Select.orderByKey, Sql.Select.paginate, Sql.Select.keeps,
            keeps, ordered]
      · simp [QuerySource.paginate, Sql.Select.paginate, page?]

theorem exists_applyAll_query {steps : List (SourceStep ρ)}
    (pushable : ∀ step ∈ steps, step.Pushable) (source : QuerySource μ ρ) :
    ∃ reached, (applyAll steps source : Except GridError (QuerySource μ ρ)) =
        .ok reached ∧
      (∀ row, reached.select.keeps row =
        (source.select.keeps row && steps.all (keeps row))) ∧
      reached.select.page =
        (steps.filterMap page?).getLast?.or source.select.page := by
  induction steps generalizing source with
  | nil => exact ⟨source, rfl, by simp, rfl⟩
  | cons step steps induction =>
      obtain ⟨first, others⟩ := List.forall_mem_cons.mp pushable
      obtain ⟨next, applied, kept, paged⟩ := exists_apply_query first source
      obtain ⟨reached, applies, keptByAll, lastPaged⟩ :=
        induction others next
      refine ⟨reached, ?_, ?_, ?_⟩
      · rw [applyAll, applied]
        exact applies
      · intro row
        rw [keptByAll, kept, List.all_cons, Bool.and_assoc]
      · rw [lastPaged, paged, List.filterMap_cons]
        cases step.page? with
        | none => rfl
        | some page =>
            rw [List.getLast?_cons]
            cases (steps.filterMap page?).getLast? <;> rfl

end Query

theorem countOf_eq_length_filter (select : Sql.Select) (row : μ → Sql.Row)
    (stored : List μ) :
    select.countOf row stored =
      (stored.filter fun model => select.keeps (row model)).length := rfl

theorem length_take_drop {α : Type} (list : List α) (skip take : Nat) :
    ((list.drop skip).take take).length = min take (list.length - skip) := by
  rw [List.length_take, List.length_drop]

theorem length_of_answers {select : Sql.Select} {row : μ → Sql.Row}
    {stored answer : List μ} {skip take : UInt64}
    (paged : select.page = some (skip, take))
    (answers : select.Answers row stored answer) :
    answer.length =
      min take.toNat (select.countOf row stored - skip.toNat) := by
  obtain ⟨arranged, perm, -, rfl⟩ := answers
  rw [countOf_eq_length_filter, ← perm.length_eq, Sql.Select.onPage, paged]
  exact length_take_drop arranged skip.toNat take.toNat

theorem min_sub_eq_iff {selected skip take : Nat} :
    selected = min take (selected - skip) ↔
      selected = 0 ∨ skip = 0 ∧ selected ≤ take := by
  omega

end SourceStep

open SourceStep

variable {μ ρ : Type}

/-- After any steps the count of a source in memory is the number of records that
are fetched from it.  After steps that set one page the count of a query is the
number of rows that all filters keep; the fetch gives those on the page, so the
two are the same exactly if no row is kept, or if none is skipped and there is
room for all. -/
theorem count_eq_length_fetch_iff [Record ρ]
    [database : Database (Except GridError) μ] (steps : List (SourceStep ρ)) :
    (∀ source : MemorySource ρ, ∃ reached records,
      applyAll steps source =
          (.ok reached : Except GridError (MemorySource ρ)) ∧
        Source.fetch reached = (.ok records : Except GridError (List ρ)) ∧
        Source.count reached =
          (.ok records.length : Except GridError Nat)) ∧
    ∀ {row : μ → Sql.Row} {stored : List μ}, database.Serves row stored →
      (∀ step ∈ steps, step.Pushable) → ∀ {skip take : UInt64},
      steps.filterMap page? = [(skip, take)] →
      ∀ source : QuerySource μ ρ, ∃ reached records selected,
        applyAll steps source =
            (.ok reached : Except GridError (QuerySource μ ρ)) ∧
          Source.fetch reached = (.ok records : Except GridError (List ρ)) ∧
          Source.count reached = (.ok selected : Except GridError Nat) ∧
          selected = (stored.filter fun model =>
            source.select.keeps (row model) &&
              steps.all (keeps (row model))).length ∧
          records.length = min take.toNat (selected - skip.toNat) ∧
          (selected = records.length ↔
            selected = 0 ∨ skip.toNat = 0 ∧ selected ≤ take.toNat) := by
  constructor
  · intro source
    obtain ⟨reached, applies⟩ := exists_applyAll_memory steps source
    exact ⟨reached, reached.records, applies, rfl, rfl⟩
  · intro row stored serves pushable skip take onePage source
    obtain ⟨reached, applies, kept, lastPaged⟩ :=
      exists_applyAll_query pushable source
    obtain ⟨answer, answers, fetched⟩ := serves.fetch reached
    have paged : reached.select.page = some (skip, take) := by
      rw [lastPaged, onePage]
      rfl
    have length : (answer.map reached.convert).length =
        min take.toNat
          (reached.select.countOf row stored - skip.toNat) := by
      rw [List.length_map]
      exact length_of_answers paged answers
    refine ⟨reached, _, reached.select.countOf row stored, applies, fetched,
      serves.count reached.select, ?_, length, ?_⟩
    · rw [countOf_eq_length_filter]
      simp only [kept]
    · rw [length]
      exact min_sub_eq_iff

/-- Steps that put cells in order and set a page. -/
def cellSteps (skip take : UInt64) : List (SourceStep Cell) :=
  [.filter .always, .order ⟨[⟨Cell.field .integer true, .descending⟩]⟩,
    .paginate skip take]

open GridPipeline in
/-- A page with room for all cells is counted as it is fetched. -/
theorem count_eq_length_fetch_iff_cells :
    letI := Database.ofTable cellRow storedCells
    let source : QuerySource Cell Cell := .ofSelect (.all cellTable)
    ∃ reached records,
      applyAll (cellSteps 0 4) source =
          (.ok reached : Except GridError (QuerySource Cell Cell)) ∧
        Source.fetch reached = (.ok records : Except GridError (List Cell)) ∧
        Source.count reached = (.ok records.length : Except GridError Nat) ∧
        records.length = 4 := by
  let database := Database.ofTable cellRow storedCells
  intro source
  have onePage : (cellSteps 0 4).filterMap page? = [(0, 4)] := rfl
  have pushable : ∀ step ∈ cellSteps 0 4, step.Pushable := by
    simp [cellSteps, Pushable, Predicate.always, Predicate.new]
  obtain ⟨reached, records, selected, applies, fetched, counted, all, -,
    same_iff⟩ := (count_eq_length_fetch_iff (cellSteps 0 4)).2
      (Database.serves_ofTable cellRow storedCells) pushable onePage source
  have four : selected = 4 := all
  have same : selected = records.length :=
    same_iff.mpr (.inr ⟨rfl, Nat.le_of_eq four⟩)
  refine ⟨reached, records, applies, fetched, ?_, same.symm.trans four⟩
  rw [counted, same]

open GridPipeline in
/-- Of four cells two are on the page, and four are counted; in memory it is two
that are counted. -/
theorem count_ne_length_fetch_cells :
    letI := Database.ofTable cellRow storedCells
    let source : QuerySource Cell Cell := .ofSelect (.all cellTable)
    (∃ reached records,
      applyAll (cellSteps 1 2) source =
          (.ok reached : Except GridError (QuerySource Cell Cell)) ∧
        Source.fetch reached = (.ok records : Except GridError (List Cell)) ∧
        records.length = 2 ∧
        Source.count reached = (.ok 4 : Except GridError Nat)) ∧
      ∃ reached,
        applyAll (cellSteps 1 2) (MemorySource.mk storedCells) =
            (.ok reached : Except GridError (MemorySource Cell)) ∧
          Source.count reached = (.ok 2 : Except GridError Nat) := by
  let database := Database.ofTable cellRow storedCells
  intro source
  refine ⟨⟨_, _, rfl, rfl, ?_, rfl⟩, ⟨_, rfl, ?_⟩⟩
  · rw [List.length_map]
    refine (length_take_drop _ 1 2).trans ?_
    rw [List.length_mergeSort]
    rfl
  · refine congrArg Except.ok ((length_take_drop _ 1 2).trans ?_)
    refine congrArg (fun length => min 2 (length - 1)) (?_ : _ = 4)
    exact List.length_mergeSort _

end GridQuery
