import GridQuery.Proofs.Filter.Refusal
import GridQuery.Proofs.Pipeline.Cancellation
import GridQuery.Proofs.Pipeline.Memory
import GridQuery.Source.Journal

/-!
# Requests that cannot be used

A request is refused because of its first filter that is, or if there is none
because of its first sort key whose field does not exist.  This is found out
before the store is asked for anything, so that whatever the store holds, and
whether or not it works, the error is the same.  Fields to search that do not
exist are no reason to refuse a request, and records in memory answer every
request that is not refused.
-/

namespace GridQuery

variable {ρ π : Type} [Record ρ] [Record π] {error : GridError}

/-- No field of the records has the name that a sort key gives. -/
def Sort.Refused (ρ : Type) [Record ρ] (spec : SortSpec) (error : GridError) :
    Prop :=
  (∀ field ∈ Record.descriptors ρ, field.isNamed spec.field = false) ∧
    error = .fieldNotFound (Record.typeName ρ) spec.field

theorem Sort.exists_resolve_eq_ok_iff {spec : SortSpec} :
    (∃ field, (FieldTable.of ρ).resolve spec.field = .ok field) ↔
      ∀ error, ¬ Refused ρ spec error := by
  simp only [exists_eq_ok_iff, ne_eq, FieldTable.resolve_eq_error_iff]
  rfl

theorem Sort.compileKeys_eq_mapM (table : FieldTable) (specs : List SortSpec) :
    compileKeys table specs =
      specs.mapM fun spec =>
        (table.resolve spec.field).map (SortKey.mk · spec.direction) := by
  induction specs with
  | nil => rfl
  | cons spec specs induction =>
      rw [compileKeys, List.mapM_cons, induction]
      cases table.resolve spec.field <;> rfl

theorem Sort.compile_eq_error_iff {specs : List SortSpec} :
    compile ρ specs = .error error ↔ FailsFirst (Refused ρ) specs error := by
  rw [compile, map_eq_error_iff, compileKeys_eq_mapM, mapM_eq_error_iff]
  simp only [map_eq_error_iff, FieldTable.resolve_eq_error_iff]
  rfl

namespace RequestSpec

/-- A request for records is refused with an error: that of its first filter
that is refused, or if none is that of its first sort key without a field. -/
inductive Refused (π : Type) [Record π] (request : RequestSpec) :
    GridError → Prop where
  | filter {error : GridError} :
      FailsFirst (Filter.Refused π) request.filterSpecs error →
      Refused π request error
  | sort {error : GridError} :
      (∀ filter ∈ request.filterSpecs, ∀ reason,
        ¬ Filter.Refused π filter reason) →
      FailsFirst (Sort.Refused π) request.sortSpecs error →
      Refused π request error

/-- All filters and sort keys of a request can be used. -/
structure Compiles (π : Type) [Record π] (options : ParsingOptions)
    (request : RequestSpec) : Prop where
  filters : ∀ filter ∈ request.filterSpecs, ∃ predicate : Predicate π,
    Filter.compile filter options = .ok predicate
  sorts : ∀ spec ∈ request.sortSpecs, ∃ field,
    (FieldTable.of π).resolve spec.field = .ok field

theorem compiles_iff {options : ParsingOptions} {request : RequestSpec} :
    request.Compiles π options ↔ ∀ error, ¬ request.Refused π error := by
  constructor
  · rintro ⟨filters, sorts⟩ error refused
    simp only [Filter.exists_compile_eq_ok_iff] at filters
    simp only [Sort.exists_resolve_eq_ok_iff] at sorts
    cases refused with
    | filter fails => exact forall_not_failsFirst_iff.mpr filters error fails
    | sort _ fails => exact forall_not_failsFirst_iff.mpr sorts error fails
  · intro none
    have filters := forall_not_failsFirst_iff.mp fun error fails =>
      none error (.filter fails)
    have sorts := forall_not_failsFirst_iff.mp fun error fails =>
      none error (.sort filters fails)
    constructor
    · simpa only [Filter.exists_compile_eq_ok_iff] using filters
    · simpa only [Sort.exists_resolve_eq_ok_iff] using sorts

end RequestSpec

namespace GridPipeline

variable {pipeline : GridPipeline}

theorem plan_eq_error_iff :
    pipeline.plan ρ π = .error error ↔ pipeline.request.Refused π error := by
  rw [plan, bind_eq_error_iff, Filter.compileAll_eq_error_iff]
  simp only [map_eq_error_iff, Sort.compile_eq_error_iff, exists_and_right,
    Filter.exists_compileAll_eq_ok_iff]
  constructor
  · rintro (fails | ⟨passes, fails⟩)
    · exact .filter fails
    · exact .sort passes fails
  · intro refused
    cases refused with
    | filter fails => exact .inl fails
    | sort passes fails => exact .inr ⟨passes, fails⟩

theorem exists_plan_eq_ok_iff {options : ParsingOptions} :
    (∃ compiled : Plan ρ π, pipeline.plan ρ π = .ok compiled) ↔
      pipeline.request.Compiles π options := by
  rw [exists_eq_ok_iff, RequestSpec.compiles_iff]
  simp only [ne_eq, plan_eq_error_iff]

theorem refused_unique {request : RequestSpec} {other : GridError}
    (refused : request.Refused π error) (refused' : request.Refused π other) :
    other = error := by
  have failed : plan π π ⟨request, [], .default⟩ = .error error :=
    plan_eq_error_iff.mpr refused
  rw [plan_eq_error_iff.mpr refused'] at failed
  exact Except.error.inj failed

theorem exists_runBlocking_memory
    {compiled : Plan ρ π} (planned : pipeline.plan ρ π = .ok compiled)
    (project : MemorySource ρ → MemorySource π) (source : MemorySource ρ) :
    ∃ response : GridResponse π Unit,
      pipeline.runBlocking (fun source => pure (project source)) source =
        (.ok response : Except GridError (GridResponse π Unit)) := by
  obtain ⟨filters, -, rest⟩ := exists_of_bind_eq_ok planned
  obtain ⟨order, -, rfl⟩ := exists_of_map_eq_ok rest
  have ran : ∃ response, execute id pipeline.request
      ⟨pipeline.searchPredicate, filters, order⟩
      (fun source => pure (project source)) source =
        (.ok response : Except GridError (GridResponse π Unit)) :=
    ⟨_, execute_eq_responseOf rfl
      (applySearch_memory pipeline source.records) rfl
      (applyFilters_memory filters _) rfl (applyOrder_memory order _)
      (applyPage_memory pipeline.request _) rfl⟩
  rw [runBlocking, runWith, planned]
  exact ran

/-- A request that cannot be used is refused with the same error whatever the
source, whatever is to be searched, and whenever it is given up; the store is
not touched.  Every other request can be compiled, whatever is to be searched,
and records in memory answer it. -/
theorem run_refused (request : RequestSpec) (options : ParsingOptions) :
    (¬ request.Compiles π options →
      ∃ error, (∀ other, request.Refused π other ↔ other = error) ∧
        ∀ (searchFields : List String) {ρ ω σ τ : Type} [Record ρ]
          [Source (StoreM ω) σ ρ] [Source (StoreM ω) τ π]
          (project : σ → StoreM ω τ) (source : σ)
          (cancelled : StoreM (Progress ω) Bool) (store : ω),
          let pipeline : GridPipeline := ⟨request, searchFields, options⟩
          (pipeline.runBlocking (observedProjection project)
              ⟨source⟩).outcome ⟨store, []⟩ = (.error error, ⟨store, []⟩) ∧
          (pipeline.runAsync cancelled (observedProjection project)
              ⟨source⟩).outcome ⟨store, []⟩ = (.error error, ⟨store, []⟩)) ∧
    (request.Compiles π options →
      ∀ (searchFields : List String) (ρ : Type) [Record ρ],
        let pipeline : GridPipeline := ⟨request, searchFields, options⟩
        (∃ compiled : Plan ρ π, pipeline.plan ρ π = .ok compiled) ∧
        ∀ (project : MemorySource ρ → MemorySource π)
          (source : MemorySource ρ), ∃ response : GridResponse π Unit,
          pipeline.runBlocking (fun source => pure (project source)) source =
            (.ok response : Except GridError (GridResponse π Unit)) ∧
          pipeline.runAsync (pure false) (fun source => pure (project source))
              source =
            (.ok response : Except GridError (GridResponse π Unit))) := by
  constructor
  · intro fails
    rw [RequestSpec.compiles_iff, not_forall_not] at fails
    obtain ⟨error, refused⟩ := fails
    refine ⟨error, fun other => ⟨refused_unique refused, ?_⟩, ?_⟩
    · rintro rfl
      exact refused
    · intro searchFields ρ ω σ τ _ _ _ project source cancelled store pipeline
      have planned : pipeline.plan ρ π = .error error :=
        plan_eq_error_iff.mpr refused
      constructor
      · rw [runBlocking, runWith_of_plan_eq_error planned]
        rfl
      · rw [runAsync_of_plan_eq_error planned]
        rfl
  · intro compiles searchFields ρ _ pipeline
    obtain ⟨compiled, planned⟩ : ∃ compiled, pipeline.plan ρ π = .ok compiled :=
      exists_plan_eq_ok_iff.mpr compiles
    refine ⟨⟨compiled, planned⟩, ?_⟩
    intro project source
    obtain ⟨response, answered⟩ :=
      exists_runBlocking_memory planned project source
    refine ⟨response, answered, ?_⟩
    rw [runAsync_eq_runBlocking]
    exact answered

/-- A numeric filter of the cell, and the search for a field that cells do not
have. -/
def numericCells : RequestSpec :=
  { RequestSpec.everything with
    searchTerm := some "1"
    filterSpecs := [.numeric ⟨"Cell", .notEqual, .integer 2, .integer⟩] }

/-- Three more reasons to refuse a request: the kind of the cell, and two fields
that it does not have. -/
def refusedCells : RequestSpec :=
  { numericCells with
    filterSpecs := numericCells.filterSpecs ++
      [.text ⟨" cell", .between, "1", .default⟩, .singleSelect ⟨"Row", "1"⟩]
    sortSpecs := [⟨"Column", .ascending⟩] }

/-- An empty source and one whose first count fails refuse the second request
because of the kind of the cell.  The first request is answered. -/
theorem run_refused_cells :
    let failing : Journal := ⟨[], some "count:1", none, false⟩
    let empty (source : MemorySource Cell) :
        StoreM Journal (MemorySource Cell) := pure source
    let stored (source : Journaled (MemorySource Cell)) :
        StoreM Journal (Journaled (MemorySource Cell)) := pure source
    let refused : GridPipeline := ⟨refusedCells, ["Row"], .default⟩
    let answered : GridPipeline := ⟨numericCells, ["Row"], .default⟩
    ((Source.count (Journaled.mk (MemorySource.mk storedCells)) :
        StoreM Journal Nat).outcome failing).1 =
      .error (.database (.custom "failed at count:1")) ∧
    (refused.runBlocking (observedProjection empty) ⟨⟨[]⟩⟩).outcome
        ⟨failing, []⟩ =
      (.error (.typeMismatch "Cell" .text .integer), ⟨failing, []⟩) ∧
    (refused.runAsync (pure true) (observedProjection stored)
        ⟨⟨⟨storedCells⟩⟩⟩).outcome ⟨failing, []⟩ =
      (.error (.typeMismatch "Cell" .text .integer), ⟨failing, []⟩) ∧
    ∃ response, answered.runBlocking
        (fun source : MemorySource Cell => pure source) ⟨storedCells⟩ =
      (.ok response : Except GridError (GridResponse Cell Unit)) := by
  intro failing empty stored refused answered
  have planned : refused.plan Cell Cell =
      .error (.typeMismatch "Cell" .text .integer) := rfl
  have reason : refusedCells.Refused Cell
      (.typeMismatch "Cell" .text .integer) :=
    plan_eq_error_iff.mp planned
  have fails : ¬ refusedCells.Compiles Cell .default := by
    rw [RequestSpec.compiles_iff]
    exact fun none => none _ reason
  have compiles : numericCells.Compiles Cell .default :=
    exists_plan_eq_ok_iff.mp ⟨_, show plan Cell Cell answered = .ok _ from rfl⟩
  obtain ⟨error, determined, same⟩ :=
    (run_refused refusedCells .default).1 fails
  obtain rfl := (determined _).mp reason
  obtain ⟨-, answers⟩ :=
    (run_refused numericCells .default).2 compiles ["Row"] Cell
  obtain ⟨response, found, -⟩ := answers id ⟨storedCells⟩
  exact ⟨by decide +kernel, (same ["Row"] empty _ (pure false) failing).1,
    (same ["Row"] stored _ (pure true) failing).2, response, found⟩

end GridPipeline

end GridQuery
