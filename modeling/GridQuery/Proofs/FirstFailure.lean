import Mathlib.Data.List.Basic

/-!
# The first failure

A list whose items are gone through one by one, until one of them fails, fails
with the error of this item.  In a list that is in order it is the least of the
items that fail.
-/

namespace GridQuery

/-- An item of a list fails with an error, and no item before it fails. -/
inductive FailsFirst {α ε : Type} (Fails : α → ε → Prop) :
    List α → ε → Prop where
  | here {item : α} {rest : List α} {error : ε} :
      Fails item error → FailsFirst Fails (item :: rest) error
  | there {item : α} {rest : List α} {error : ε} :
      (∀ other, ¬ Fails item other) →
      FailsFirst Fails rest error →
      FailsFirst Fails (item :: rest) error

variable {α β ε : Type} {Fails : α → ε → Prop} {items : List α} {error : ε}

theorem failsFirst_iff_split :
    FailsFirst Fails items error ↔
      ∃ before item after, items = before ++ item :: after ∧
        (∀ earlier ∈ before, ∀ other, ¬ Fails earlier other) ∧
        Fails item error := by
  constructor
  · intro fails
    induction fails with
    | here failed => exact ⟨[], _, _, rfl, by simp, failed⟩
    | @there passed _ _ passes _ induction =>
        obtain ⟨before, item, after, rfl, none, failed⟩ := induction
        exact ⟨passed :: before, item, after, rfl,
          List.forall_mem_cons.mpr ⟨passes, none⟩, failed⟩
  · rintro ⟨before, item, after, rfl, none, failed⟩
    induction before with
    | nil => exact .here failed
    | cons passed before induction =>
        obtain ⟨passes, others⟩ := List.forall_mem_cons.mp none
        exact .there passes (induction others)

theorem exists_failsFirst_iff :
    (∃ error, FailsFirst Fails items error) ↔
      ∃ item ∈ items, ∃ error, Fails item error := by
  constructor
  · rintro ⟨error, fails⟩
    obtain ⟨before, item, after, rfl, -, failed⟩ :=
      failsFirst_iff_split.mp fails
    exact ⟨item, by simp, error, failed⟩
  · rintro ⟨item, member, error, failed⟩
    induction items with
    | nil => cases member
    | cons head rest induction =>
        by_cases passes : ∀ other, ¬ Fails head other
        · rcases List.mem_cons.mp member with rfl | later
          · exact absurd failed (passes error)
          · obtain ⟨first, fails⟩ := induction later
            exact ⟨first, .there passes fails⟩
        · obtain ⟨first, fails⟩ := not_forall_not.mp passes
          exact ⟨first, .here fails⟩

theorem forall_not_failsFirst_iff :
    (∀ error, ¬ FailsFirst Fails items error) ↔
      ∀ item ∈ items, ∀ error, ¬ Fails item error := by
  rw [← not_exists, exists_failsFirst_iff]
  simp

/-- In a list in order the first item that fails is the least one. -/
theorem failsFirst_iff_least {Before : α → α → Prop}
    (inOrder : items.Pairwise Before)
    (asymm : ∀ left right, Before left right → ¬ Before right left) :
    FailsFirst Fails items error ↔
      ∃ item ∈ items, Fails item error ∧
        ∀ other ∈ items, (∃ reason, Fails other reason) →
          other = item ∨ Before item other := by
  constructor
  · intro fails
    obtain ⟨before, item, after, rfl, none, failed⟩ :=
      failsFirst_iff_split.mp fails
    refine ⟨item, by simp, failed, ?_⟩
    rintro other member ⟨reason, fails⟩
    rcases List.mem_append.mp member with earlier | later
    · exact absurd fails (none other earlier reason)
    · have behind :=
        (List.pairwise_cons.mp (List.pairwise_append.mp inOrder).2.1).1
      rcases List.mem_cons.mp later with rfl | later
      · exact .inl rfl
      · exact .inr (behind other later)
  · rintro ⟨item, member, failed, least⟩
    obtain ⟨before, after, rfl⟩ := List.append_of_mem member
    refine failsFirst_iff_split.mpr
      ⟨before, item, after, rfl, ?_, failed⟩
    intro earlier listed reason fails
    have ahead : Before earlier item :=
      (List.pairwise_append.mp inOrder).2.2 earlier listed item
        List.mem_cons_self
    rcases least earlier (List.mem_append_left _ listed) ⟨reason, fails⟩ with
      rfl | behind
    · exact asymm _ _ ahead ahead
    · exact asymm _ _ ahead behind

theorem map_eq_error_iff {result : Except ε α} {f : α → β} :
    result.map f = .error error ↔ result = .error error := by
  cases result <;> simp [Except.map]

theorem bind_eq_error_iff {first : Except ε α} {next : α → Except ε β} :
    first.bind next = .error error ↔
      first = .error error ∨
        ∃ value, first = .ok value ∧ next value = .error error := by
  cases first <;> simp [Except.bind]

theorem exists_of_bind_eq_ok {first : Except ε α} {next : α → Except ε β}
    {result : β} (bound : first.bind next = .ok result) :
    ∃ value, first = .ok value ∧ next value = .ok result := by
  cases first with
  | error reason => cases bound
  | ok value => exact ⟨value, rfl, bound⟩

theorem exists_of_map_eq_ok {first : Except ε α} {f : α → β} {result : β}
    (mapped : first.map f = .ok result) :
    ∃ value, first = .ok value ∧ f value = result := by
  cases first with
  | error reason => cases mapped
  | ok value => exact ⟨value, rfl, Except.ok.inj mapped⟩

theorem exists_eq_ok_iff {result : Except ε α} :
    (∃ value, result = .ok value) ↔ ∀ error, result ≠ .error error := by
  cases result <;> simp

/-- A function that can fail, done to every item, ends with the first error. -/
theorem mapM_eq_error_iff {f : α → Except ε β} :
    items.mapM f = .error error ↔
      FailsFirst (fun item error => f item = .error error) items error := by
  induction items with
  | nil =>
      constructor
      · intro failed
        cases failed
      · intro fails
        cases fails
  | cons item rest induction =>
      rw [List.mapM_cons]
      cases first : f item with
      | error reason =>
          constructor
          · intro failed
            obtain rfl : reason = error := Except.error.inj failed
            exact .here first
          · intro fails
            cases fails with
            | here failed =>
                obtain rfl : reason = error :=
                  Except.error.inj (first.symm.trans failed)
                rfl
            | there passes => exact absurd first (passes reason)
      | ok value =>
          have passes : ∀ reason, f item ≠ .error reason := by
            simp [first]
          have others : (do
              let values ← rest.mapM f
              pure (value :: values) : Except ε (List β)) = .error error ↔
                rest.mapM f = .error error :=
            map_eq_error_iff
          refine others.trans (induction.trans ?_)
          constructor
          · exact .there passes
          · intro fails
            cases fails with
            | here failed => exact absurd failed (passes error)
            | there _ later => exact later

end GridQuery
