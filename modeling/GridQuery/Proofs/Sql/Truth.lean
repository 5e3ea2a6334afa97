import GridQuery.Sql.Truth

/-!
# When conditions are true

A query asks of a condition only whether it is true, so an open truth value
counts as a false one wherever conditions are joined.  What matters of a joined
condition is therefore which of its members are true, and putting a condition
inside another one, which drops a junction with a single member, changes
nothing.
-/

namespace GridQuery.Sql

namespace Truth

@[simp] theorem and_eq_true_iff {left right : Truth} :
    left.and right = some true ↔ left = some true ∧ right = some true := by
  cases left with
  | none => cases right with
    | none => simp [Truth.and]
    | some right => cases right <;> simp [Truth.and]
  | some left => cases left with
    | false => simp [Truth.and]
    | true => cases right with
      | none => simp [Truth.and]
      | some right => cases right <;> simp [Truth.and]

@[simp] theorem or_eq_true_iff {left right : Truth} :
    left.or right = some true ↔ left = some true ∨ right = some true := by
  cases left with
  | none => cases right with
    | none => simp [Truth.or]
    | some right => cases right <;> simp [Truth.or]
  | some left => cases left with
    | true => simp [Truth.or]
    | false => cases right with
      | none => simp [Truth.or]
      | some right => cases right <;> simp [Truth.or]

theorem and_true (truth : Truth) : truth.and (some true) = truth := by
  cases truth with
  | none => rfl
  | some value => cases value <;> rfl

theorem or_false (truth : Truth) : truth.or (some false) = truth := by
  cases truth with
  | none => rfl
  | some value => cases value <;> rfl

end Truth

variable {row : Row}

theorem Value.satisfies_of_order?_eq_some
    {left right : Value} {ordering : Ordering}
    (comparable : left.order? right = some ordering)
    (comparison : Comparison) :
    left.satisfies comparison right = comparison.accepts ordering := by
  simp [Value.satisfies, comparable]

@[simp] theorem Term.value?_column (name : String) :
    (Term.column name).value? row = ofField? (row name) := rfl

@[simp] theorem Term.value?_value (content : Value) :
    (Term.value content).value? row = some content := rfl

namespace Test

theorem truth_compare
    {left right : Term} {leftValue rightValue : Value}
    (leftKnown : left.value? row = some leftValue)
    (rightKnown : right.value? row = some rightValue)
    (comparison : Comparison) :
    (Test.compare left comparison right).truth row =
      some (leftValue.satisfies comparison rightValue) := by
  simp [truth, leftKnown, rightKnown]

theorem truth_compare_of_null
    {left : Term} (null : left.value? row = none)
    (comparison : Comparison) (right : Term) :
    (Test.compare left comparison right).truth row = none := by
  simp [truth, null]

theorem truth_like
    {term : Term} {text : List Char}
    (known : term.value? row = some (.text text)) (pattern : List Char) :
    (Test.like term pattern).truth row = some (Text.fits pattern text) := by
  simp [truth, Term.fits, known, Value.text?]

theorem truth_notLike
    {term : Term} {text : List Char}
    (known : term.value? row = some (.text text)) (pattern : List Char) :
    (Test.notLike term pattern).truth row =
      some (!Text.fits pattern text) := by
  simp [truth, Term.fits, known, Value.text?]

end Test

@[simp] theorem allTruth_eq_true_iff {members : List Condition} :
    allTruth row members = some true ↔
      ∀ member ∈ members, member.truth row = some true := by
  induction members with
  | nil => simp [allTruth]
  | cons member members induction => simp [allTruth, induction]

@[simp] theorem anyTruth_eq_true_iff {members : List Condition} :
    anyTruth row members = some true ↔
      ∃ member ∈ members, member.truth row = some true := by
  induction members with
  | nil => simp [anyTruth]
  | cons member members induction => simp [anyTruth, induction]

namespace Condition

@[simp] theorem truth_test (test : Test) :
    (Condition.test test).truth row = test.truth row := by
  simp [truth]

/-- Dropping a junction with one member keeps the truth value, also an open
one. -/
@[simp] theorem truth_asMember (condition : Condition) :
    condition.asMember.truth row = condition.truth row := by
  unfold asMember
  split
  · rename_i junction member
    cases junction with
    | all => simp [truth, allTruth, Truth.and_true]
    | any => simp [truth, anyTruth, Truth.or_false]
  · rfl

@[simp] theorem truth_all_eq_true_iff {members : List Condition} :
    (all members).truth row = some true ↔
      ∀ member ∈ members, member.truth row = some true := by
  simp [all, truth]

@[simp] theorem truth_any_eq_true_iff {members : List Condition} :
    (any members).truth row = some true ↔
      ∃ member ∈ members, member.truth row = some true := by
  simp only [any, truth, anyTruth_eq_true_iff, List.mem_map]
  constructor
  · rintro ⟨_, ⟨member, listed, rfl⟩, holds⟩
    exact ⟨member, listed, by simpa using holds⟩
  · rintro ⟨member, listed, holds⟩
    exact ⟨member.asMember, ⟨member, listed, rfl⟩, by simpa using holds⟩

@[simp] theorem truth_single_eq_true_iff {test : Test} :
    (single test).truth row = some true ↔ test.truth row = some true := by
  simp [single]

/-- One is not zero, so the condition that asks for it holds of no row. -/
@[simp] theorem truth_never_ne_true : never.truth row ≠ some true := by
  have greater : (Value.integer 1).order? (.integer 0) = some .gt := by decide
  have unequal : (Value.integer 1).satisfies .equal (.integer 0) = false :=
    Value.satisfies_of_order?_eq_some greater .equal
  have compared :
      (Test.compare (.value (.integer 1)) .equal (.value (.integer 0))).truth
        row = some false := by
    rw [Test.truth_compare rfl rfl, unequal]
  simp [never, compared]

@[simp] theorem truth_andAlso_eq_true_iff {condition other : Condition} :
    (condition.andAlso other).truth row = some true ↔
      condition.truth row = some true ∧ other.truth row = some true := by
  unfold andAlso
  split
  · simp [truth, or_imp, forall_and]
  · simp [truth, or_imp, forall_and]
  · simp

theorem holds_eq_true_iff {condition : Condition} :
    condition.holds row = true ↔ condition.truth row = some true := by
  simp [holds]

end Condition

end GridQuery.Sql
