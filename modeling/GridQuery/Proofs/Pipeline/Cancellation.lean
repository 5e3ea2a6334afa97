import GridQuery.Proofs.Pipeline.Refinement

/-!
# Giving requests up

The stages of a run are the count of all records, the count of those that are
left, and the fetch.  A run that is watched notes the stages that it has been
through, and does everything else as one that is not.  Given up after a number
of stages, a run is the same as if it had not been, unless it has another stage
to come: that stage is not begun, and the run ends as cancelled.
-/

namespace GridQuery

/-- The effects of a store, which changes its state and may fail. -/
abbrev StoreM (ω : Type) : Type → Type :=
  ExceptT GridError (StateM ω)

/-- A stage of a run. -/
inductive Stage where
  | total
  | filtered
  | fetch
deriving DecidableEq

/-- The state of a store, and the stages that a run has been through. -/
structure Progress (ω : Type) where
  store : ω
  stages : List Stage

/-- A source the count and the fetch of which are watched, the count as a given
stage. -/
structure Observed (stage : Stage) (σ : Type) where
  inner : σ

namespace StoreM

variable {ω α β : Type}

/-- How an action ends, and the state in which it leaves the store. -/
def outcome (action : StoreM ω α) (store : ω) : Except GridError α × ω :=
  action.run.run store

theorem ext {left right : StoreM ω α}
    (same : ∀ store, left.outcome store = right.outcome store) :
    left = right :=
  funext same

theorem outcome_bind (action : StoreM ω α) (next : α → StoreM ω β)
    (store : ω) :
    (action >>= next).outcome store =
      match action.outcome store with
      | (.ok value, after) => (next value).outcome after
      | (.error error, after) => (.error error, after) := by
  simp only [outcome, ExceptT.run_bind, StateT.run_bind]
  rcases action.run.run store with ⟨_ | _, after⟩
  · rfl
  · rfl

/-- Does an action, and then notes stages. -/
def noting (stages : List Stage) (action : StoreM ω α) :
    StoreM (Progress ω) α :=
  ExceptT.mk fun progress =>
    ((action.outcome progress.store).1,
      ⟨(action.outcome progress.store).2, progress.stages ++ stages⟩)

theorem outcome_noting (stages : List Stage) (action : StoreM ω α)
    (progress : Progress ω) :
    (action.noting stages).outcome progress =
      ((action.outcome progress.store).1,
        ⟨(action.outcome progress.store).2, progress.stages ++ stages⟩) := rfl

theorem noting_pure (value : α) :
    noting [] (pure value : StoreM ω α) = pure value := by
  apply ext
  intro progress
  rw [outcome_noting, List.append_nil]
  rfl

theorem noting_ofExcept (result : Except GridError α) :
    noting [] (MonadExcept.ofExcept result : StoreM ω α) =
      MonadExcept.ofExcept result := by
  apply ext
  intro progress
  rw [outcome_noting, List.append_nil]
  cases result <;> rfl

theorem outcome_noting_bind (stages : List Stage) (action : StoreM ω α)
    (next : α → StoreM (Progress ω) β) (progress : Progress ω) :
    (action.noting stages >>= next).outcome progress =
      match action.outcome progress.store with
      | (.ok value, after) =>
          (next value).outcome ⟨after, progress.stages ++ stages⟩
      | (.error error, after) =>
          (.error error, ⟨after, progress.stages ++ stages⟩) := by
  rw [outcome_bind, outcome_noting]
  rcases action.outcome progress.store with ⟨_ | _, after⟩
  · rfl
  · rfl

theorem noting_bind (action : StoreM ω α) (next : α → StoreM ω β) :
    (action >>= next).noting [] =
      action.noting [] >>= fun value => (next value).noting [] := by
  apply ext
  intro progress
  rw [outcome_noting, outcome_bind, outcome_noting_bind]
  rcases action.outcome progress.store with ⟨_ | _, after⟩
  · rfl
  · simp only [outcome_noting, List.append_nil]

end StoreM

instance {ω σ ρ : Type} {stage : Stage} [Source (StoreM ω) σ ρ] :
    Source (StoreM (Progress ω)) (Observed stage σ) ρ where
  filter predicate source :=
    Observed.mk <$> StoreM.noting [] (Source.filter predicate source.inner)
  order order source :=
    Observed.mk <$> StoreM.noting [] (Source.order order source.inner)
  paginate skip take source :=
    Observed.mk <$> StoreM.noting [] (Source.paginate skip take source.inner)
  count source := StoreM.noting [stage] (Source.count source.inner)
  fetch source := StoreM.noting [.fetch] (Source.fetch source.inner)

namespace GridPipeline

variable {ω ρ π σ τ α β : Type}

/-- Whether a run has been through so many stages that it is to be given up. -/
def givenUpAfter (k : Nat) : StoreM (Progress ω) Bool :=
  return k ≤ (← get).stages.length

/-- A projection to a source that is watched from then on. -/
def observedProjection (project : σ → StoreM ω τ)
    (source : Observed .total σ) : StoreM (Progress ω) (Observed .filtered τ) :=
  Observed.mk <$> StoreM.noting [] (project source.inner)

section Steps

variable [Source (StoreM ω) σ ρ] {stage : Stage}

theorem applySearch_observed (search : Option (Predicate ρ))
    (source : Observed stage σ) :
    (applySearch search source : StoreM (Progress ω) (Observed stage σ)) =
      Observed.mk <$> StoreM.noting [] (applySearch search source.inner) := by
  cases search with
  | none =>
      rw [applySearch, applySearch, StoreM.noting_pure, map_pure]
  | some predicate => rfl

theorem applyFilters_observed (filters : List (Predicate ρ))
    (source : Observed stage σ) :
    (applyFilters filters source : StoreM (Progress ω) (Observed stage σ)) =
      Observed.mk <$> StoreM.noting [] (applyFilters filters source.inner) := by
  induction filters generalizing source with
  | nil => rw [applyFilters, applyFilters, StoreM.noting_pure, map_pure]
  | cons filter filters induction =>
      rw [applyFilters, applyFilters, StoreM.noting_bind, map_bind]
      simp only [induction]
      exact bind_map_left _ _ _

theorem applyOrder_observed [Record ρ] (order : RecordOrder)
    (source : Observed stage σ) :
    (applyOrder order source : StoreM (Progress ω) (Observed stage σ)) =
      Observed.mk <$> StoreM.noting [] (applyOrder order source.inner) := by
  by_cases isEmpty : order.isEmpty = true
  · rw [applyOrder_of_isEmpty isEmpty, applyOrder_of_isEmpty isEmpty,
      StoreM.noting_pure, map_pure]
  · rw [applyOrder_of_not_isEmpty isEmpty, applyOrder_of_not_isEmpty isEmpty]
    rfl

theorem applyPage_observed (request : RequestSpec)
    (source : Observed stage σ) :
    (applyPage request source : StoreM (Progress ω) (Observed stage σ)) =
      Observed.mk <$> StoreM.noting [] (applyPage request source.inner) := by
  cases asked : request.take with
  | none =>
      rw [applyPage_of_none asked, applyPage_of_none asked,
        StoreM.noting_pure, map_pure]
  | some take =>
      rw [applyPage_of_some asked, applyPage_of_some asked]
      rfl

end Steps

theorem outcome_unlessCancelled_bind (k : Nat)
    (stage : StoreM (Progress ω) α) (next : α → StoreM (Progress ω) β)
    (progress : Progress ω) :
    (unlessCancelled (givenUpAfter k) stage >>= next).outcome progress =
      if k ≤ progress.stages.length then
        (.error .cancelled, progress)
      else
        (stage >>= next).outcome progress := by
  have looked : (givenUpAfter k).outcome progress =
      (.ok (decide (k ≤ progress.stages.length)), progress) := rfl
  rw [unlessCancelled, bind_assoc, StoreM.outcome_bind, looked]
  by_cases givenUp : k ≤ progress.stages.length
  · rw [if_pos givenUp, decide_eq_true givenUp]
    rfl
  · rw [if_neg givenUp, decide_eq_false givenUp]
    rfl

/-- A watched action ends as the action does, and goes through stages that are
listed, the first of them first. -/
def Noted (listed : List Stage) (plain : StoreM ω α)
    (whole : StoreM (Progress ω) α) : Prop :=
  ∀ progress, ∃ stages, stages <+: listed ∧
    whole.outcome progress =
      ((plain.outcome progress.store).1,
        ⟨(plain.outcome progress.store).2, progress.stages ++ stages⟩)

section Noting

variable {listed : List Stage} {plain : α → StoreM ω β}
  {whole : α → StoreM (Progress ω) β}
  (rest : ∀ value, Noted listed (plain value) (whole value))

include rest

theorem Noted.exists_stages_bind (stages : List Stage) (action : StoreM ω α)
    (progress : Progress ω) :
    ∃ others, others <+: listed ∧
      (action.noting stages >>= whole).outcome progress =
        (((action >>= plain).outcome progress.store).1,
          ⟨((action >>= plain).outcome progress.store).2,
            progress.stages ++ (stages ++ others)⟩) := by
  rw [StoreM.outcome_noting_bind, StoreM.outcome_bind]
  rcases action.outcome progress.store with ⟨error | value, after⟩
  · exact ⟨[], List.nil_prefix, by rw [List.append_nil]⟩
  · obtain ⟨others, first, ended⟩ :=
      rest value ⟨after, progress.stages ++ stages⟩
    refine ⟨others, first, ended.trans ?_⟩
    rw [List.append_assoc]

theorem Noted.bind (stages : List Stage) (action : StoreM ω α) :
    Noted (stages ++ listed) (action >>= plain)
      (action.noting stages >>= whole) := by
  intro progress
  obtain ⟨others, first, ended⟩ :=
    Noted.exists_stages_bind rest stages action progress
  exact ⟨stages ++ others, (List.prefix_append_right_inj stages).mpr first,
    ended⟩

end Noting

/-- How an action ends that may be given up after `k` stages, beside one that is
only watched. -/
structure CutAt (k : Nat) (whole cut : Except GridError α × Progress ω) :
    Prop where
  finished : whole.2.stages.length ≤ k → cut = whole
  stopped : k < whole.2.stages.length →
    cut.1 = .error .cancelled ∧ cut.2.stages = whole.2.stages.take k

theorem CutAt.refl {k : Nat} {whole : Except GridError α × Progress ω}
    (within : whole.2.stages.length ≤ k) : CutAt k whole whole where
  finished _ := rfl
  stopped more := absurd more (Nat.not_lt.mpr within)

/-- What an action that may be given up after `k` stages has in common with one
that is only watched, and this with one that is not. -/
structure Cuts (k : Nat) (listed : List Stage) (plain : StoreM ω α)
    (whole cut : StoreM (Progress ω) α) : Prop where
  noted : Noted listed plain whole
  cutAt : ∀ progress, progress.stages.length ≤ k →
    CutAt k (whole.outcome progress) (cut.outcome progress)

namespace Cuts

variable {k : Nat} {listed : List Stage}

theorem of_pure (k : Nat) (listed : List Stage) (value : α) :
    Cuts k listed (pure value : StoreM ω α) (pure value) (pure value) where
  noted progress := by
    refine ⟨[], List.nil_prefix, ?_⟩
    rw [List.append_nil]
    rfl
  cutAt _ within := .refl within

section Bind

variable {plain : α → StoreM ω β} {whole cut : α → StoreM (Progress ω) β}
  (rest : ∀ value, Cuts k listed (plain value) (whole value) (cut value))

include rest

theorem cutAt_noting_bind {stages : List Stage} (action : StoreM ω α)
    {progress : Progress ω}
    (within : (progress.stages ++ stages).length ≤ k) :
    CutAt k ((action.noting stages >>= whole).outcome progress)
      ((action.noting stages >>= cut).outcome progress) := by
  rw [StoreM.outcome_noting_bind, StoreM.outcome_noting_bind]
  rcases action.outcome progress.store with ⟨error | value, after⟩
  · exact .refl within
  · exact (rest value).cutAt ⟨after, progress.stages ++ stages⟩ within

theorem noting_nil_bind (action : StoreM ω α) :
    Cuts k listed (action >>= plain) (action.noting [] >>= whole)
      (action.noting [] >>= cut) where
  noted := .bind (fun value => (rest value).noted) [] action
  cutAt progress within := by
    apply cutAt_noting_bind rest action
    rw [List.append_nil]
    exact within

theorem noting_stage_bind {stage : Stage} (action : StoreM ω α) :
    Cuts k (stage :: listed) (action >>= plain)
      (action.noting [stage] >>= whole)
      (unlessCancelled (givenUpAfter k) (action.noting [stage]) >>= cut) where
  noted := .bind (fun value => (rest value).noted) [stage] action
  cutAt progress within := by
    rw [outcome_unlessCancelled_bind]
    by_cases givenUp : k ≤ progress.stages.length
    · obtain ⟨others, -, ended⟩ := Noted.exists_stages_bind
        (fun value => (rest value).noted) [stage] action progress
      rw [if_pos givenUp, ended]
      refine ⟨?_, fun _ => ⟨rfl, ?_⟩⟩
      · intro few
        simp only [List.length_append, List.length_singleton] at few
        omega
      · rw [List.take_append_of_le_length givenUp,
          List.take_of_length_le within]
    · rw [if_neg givenUp]
      apply cutAt_noting_bind rest action
      rw [List.length_append, List.length_singleton]
      omega

end Bind

end Cuts

variable [Source (StoreM ω) σ ρ] [Source (StoreM ω) τ π]

theorem cuts_execute [Record ρ] [Record π] (k : Nat) (request : RequestSpec)
    (plan : Plan ρ π) (project : σ → StoreM ω τ) (source : σ) :
    Cuts k [.total, .filtered, .fetch]
      (execute id request plan project source)
      (execute id request plan (observedProjection project) ⟨source⟩)
      (execute (unlessCancelled (givenUpAfter k)) request plan
        (observedProjection project) ⟨source⟩) := by
  unfold execute
  simp only [applySearch_observed, applyFilters_observed, applyOrder_observed,
    applyPage_observed, observedProjection, bind_map_left, id]
  refine Cuts.noting_stage_bind (fun total => ?_) _
  by_cases nothing : total = 0
  · simp only [if_pos nothing]
    exact .of_pure ..
  · simp only [if_neg nothing]
    refine Cuts.noting_nil_bind (fun searched => ?_) _
    refine Cuts.noting_nil_bind (fun projected => ?_) _
    refine Cuts.noting_nil_bind (fun filtered => ?_) _
    refine Cuts.noting_stage_bind (fun count => ?_) _
    by_cases noneLeft : count = 0
    · simp only [if_pos noneLeft]
      exact .of_pure ..
    · simp only [if_neg noneLeft]
      refine Cuts.noting_nil_bind (fun ordered => ?_) _
      refine Cuts.noting_nil_bind (fun paged => ?_) _
      exact Cuts.noting_stage_bind (fun data => .of_pure ..) _

variable [Record ρ] [Record π]

theorem cuts_run (k : Nat) (pipeline : GridPipeline)
    (project : σ → StoreM ω τ) (source : σ) :
    Cuts k [.total, .filtered, .fetch]
      (pipeline.runBlocking project source)
      (pipeline.runBlocking (observedProjection project) ⟨source⟩)
      (pipeline.runAsync (givenUpAfter k) (observedProjection project)
        ⟨source⟩) := by
  unfold runBlocking runAsync runWith
  have cuts := Cuts.noting_nil_bind
    (fun plan => cuts_execute k pipeline.request plan project source)
    (MonadExcept.ofExcept (pipeline.plan ρ π) : StoreM ω (Plan ρ π))
  rwa [StoreM.noting_ofExcept] at cuts

theorem runWith_of_plan_eq_error {pipeline : GridPipeline}
    {error : GridError} (refused : pipeline.plan ρ π = .error error)
    (stage : {α : Type} → StoreM ω α → StoreM ω α)
    (project : σ → StoreM ω τ) (source : σ) :
    (runWith (m := StoreM ω) stage pipeline project source :
      StoreM ω (GridResponse π Unit)) = throw error := by
  rw [runWith, refused]
  rfl

theorem runAsync_of_plan_eq_error {pipeline : GridPipeline}
    {error : GridError} (refused : pipeline.plan ρ π = .error error)
    (cancelled : StoreM ω Bool) (project : σ → StoreM ω τ) (source : σ) :
    pipeline.runAsync cancelled project source = throw error :=
  runWith_of_plan_eq_error refused _ project source

/-- A run that is given up as soon as it has been through `k` stages.  It goes
through the first `k` of the stages of a run to the end, which are the counts
and the fetch or the first of these.  If there are more, it ends as cancelled,
and otherwise as the other run does.  A request that cannot be used is refused
whenever it is given up, and one that never is runs to its end. -/
theorem runAsync_givenUpAfter (pipeline : GridPipeline)
    (project : σ → StoreM ω τ) (source : σ) (k : Nat) (store : ω) :
    let whole := (pipeline.runBlocking project source).outcome store
    let blocking :=
      (pipeline.runBlocking (observedProjection project) ⟨source⟩).outcome
        ⟨store, []⟩
    let async :=
      (pipeline.runAsync (givenUpAfter k) (observedProjection project)
        ⟨source⟩).outcome ⟨store, []⟩
    (blocking.1 = whole.1 ∧ blocking.2.store = whole.2 ∧
      blocking.2.stages <+: [.total, .filtered, .fetch]) ∧
    async.2.stages = blocking.2.stages.take k ∧
    (k < blocking.2.stages.length → async.1 = .error .cancelled) ∧
    (blocking.2.stages.length ≤ k → async = blocking) ∧
    (∀ error, pipeline.plan ρ π = .error error →
      ∀ cancelled : StoreM ω Bool,
        pipeline.runAsync cancelled project source = throw error) ∧
    pipeline.runAsync (pure false) project source =
      pipeline.runBlocking project source := by
  intro whole blocking async
  have cuts := cuts_run k pipeline project source
  obtain ⟨stages, listed, ended⟩ := cuts.noted ⟨store, []⟩
  rw [List.nil_append] at ended
  have cutAt : CutAt k blocking async :=
    cuts.cutAt ⟨store, []⟩ (Nat.zero_le k)
  refine ⟨?_, ?_, ?_, cutAt.finished, ?_, ?_⟩
  · rw [show blocking = (whole.1, ⟨whole.2, stages⟩) from ended]
    exact ⟨rfl, rfl, listed⟩
  · by_cases more : k < blocking.2.stages.length
    · exact (cutAt.stopped more).2
    · have within := Nat.le_of_not_lt more
      rw [cutAt.finished within, List.take_of_length_le within]
  · exact fun more => (cutAt.stopped more).1
  · intro error refused cancelled
    exact runAsync_of_plan_eq_error refused cancelled project source
  · exact runAsync_eq_runBlocking pipeline project source

/-- The page of cells, given up after the first count and after the fetch. -/
theorem runAsync_givenUpAfter_cells :
    let project (source : MemorySource Cell) :
        StoreM Unit (MemorySource Cell) := pure source
    let async (k : Nat) :=
      (cellPage.runAsync (givenUpAfter k) (observedProjection project)
        ⟨⟨storedCells⟩⟩).outcome ⟨(), []⟩
    (async 1).1 = .error .cancelled ∧ (async 1).2.stages = [.total] ∧
    (async 3).1 =
      ((cellPage.runBlocking project ⟨storedCells⟩).outcome ()).1 := by
  intro project async
  have stages : ((cellPage.runBlocking (observedProjection project)
      ⟨⟨storedCells⟩⟩).outcome ⟨(), []⟩).2.stages =
        [.total, .filtered, .fetch] := by
    decide +kernel
  obtain ⟨-, taken, cancelled, -⟩ :=
    runAsync_givenUpAfter cellPage project ⟨storedCells⟩ 1 ()
  obtain ⟨⟨result, -⟩, -, -, finished, -⟩ :=
    runAsync_givenUpAfter cellPage project ⟨storedCells⟩ 3 ()
  simp only [stages] at taken cancelled finished
  exact ⟨cancelled (by decide), taken,
    (congrArg Prod.fst (finished (by decide))).trans result⟩

end GridPipeline

end GridQuery
