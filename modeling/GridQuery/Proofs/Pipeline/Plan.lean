import GridQuery.Pipeline.Run
import GridQuery.Proofs.Field.Table
import GridQuery.Proofs.FirstFailure

/-!
# What compiled requests consist of

Every predicate of a compiled request has a condition, so that all of them can
be added to a query, and every key orders by a field of the records.
-/

namespace GridQuery

variable {ρ π : Type} [Record ρ] [Record π]

namespace Filter

theorem condition_isSome_membership
    (field : FieldDescriptor) (values : List FieldValue) :
    (membership field values : Predicate ρ).condition.isSome = true := by
  unfold membership
  split <;> rfl

theorem condition_isSome_of_compileOn
    {field : FieldDescriptor} {filter : FilterSpec} {options : ParsingOptions}
    {predicate : Predicate ρ}
    (compiled : compileOn field filter options = .ok predicate) :
    predicate.condition.isSome = true := by
  cases filter with
  | text filter | numeric filter | date filter =>
      simp only [compileOn, compileText, compileNumeric, compileDate]
        at compiled
      split at compiled
      · split at compiled
        · cases compiled
          rfl
        · cases compiled
      · cases compiled
  | singleSelect filter =>
      cases compiled
      unfold compileSingleSelect
      split
      · exact condition_isSome_membership field _
      · rfl
  | multiSelect filter =>
      cases compiled
      exact condition_isSome_membership field _

theorem condition_isSome_of_compileAll
    {filters : List FilterSpec} {options : ParsingOptions}
    {predicates : List (Predicate ρ)}
    (compiled : compileAll options filters = .ok predicates) :
    ∀ predicate ∈ predicates, predicate.condition.isSome = true := by
  induction filters generalizing predicates with
  | nil =>
      cases compiled
      simp
  | cons filter filters induction =>
      obtain ⟨first, compiledFirst, rest⟩ :=
        exists_of_bind_eq_ok compiled
      obtain ⟨others, compiledOthers, rfl⟩ := exists_of_map_eq_ok rest
      obtain ⟨field, -, onField⟩ := exists_of_bind_eq_ok compiledFirst
      exact List.forall_mem_cons.mpr
        ⟨condition_isSome_of_compileOn onField, induction compiledOthers⟩

end Filter

theorem Search.condition_isSome_compile (names : List String) (term : String) :
    (compile names term : Predicate ρ).condition.isSome = true := by
  simp only [compile]
  split <;> rfl

theorem Sort.compileKeys_spec
    {specs : List SortSpec} {keys : List SortKey}
    (compiled : Sort.compileKeys (FieldTable.of ρ) specs = .ok keys) :
    keys.length = specs.length ∧
      ∀ key ∈ keys, key.field ∈ Record.descriptors ρ := by
  induction specs generalizing keys with
  | nil =>
      cases compiled
      simp
  | cons spec specs induction =>
      obtain ⟨field, resolved, rest⟩ := exists_of_bind_eq_ok compiled
      obtain ⟨others, compiledOthers, rfl⟩ := exists_of_map_eq_ok rest
      obtain ⟨length, known⟩ := induction compiledOthers
      constructor
      · simp [length]
      · exact List.forall_mem_cons.mpr
          ⟨FieldTable.mem_descriptors_of_resolve resolved, known⟩

namespace GridPipeline

/-- Everything that runs of compiled requests rely on. -/
theorem plan_spec
    {pipeline : GridPipeline} {plan : Plan ρ π}
    (compiled : pipeline.plan ρ π = .ok plan) :
    (∀ predicate ∈ plan.search, predicate.condition.isSome = true) ∧
      (∀ predicate ∈ plan.filters, predicate.condition.isSome = true) ∧
      plan.order.keys.length = pipeline.request.sortSpecs.length ∧
      ∀ key ∈ plan.order.keys, key.field ∈ Record.descriptors π := by
  obtain ⟨filters, compiledFilters, rest⟩ :=
    exists_of_bind_eq_ok compiled
  obtain ⟨order, compiledOrder, rfl⟩ := exists_of_map_eq_ok rest
  obtain ⟨keys, compiledKeys, rfl⟩ := exists_of_map_eq_ok compiledOrder
  refine ⟨?_, Filter.condition_isSome_of_compileAll compiledFilters,
    Sort.compileKeys_spec compiledKeys⟩
  intro predicate searched
  simp only [searchPredicate] at searched
  split at searched
  · split at searched
    · cases searched
    · cases searched
      exact Search.condition_isSome_compile _ _
  · cases searched

end GridPipeline

end GridQuery
