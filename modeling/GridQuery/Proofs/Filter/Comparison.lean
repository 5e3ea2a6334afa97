import GridQuery.Proofs.Filter.Range
import GridQuery.Proofs.Filter.Select

/-!
# The six comparisons of a field

A value is ordered with an operand, or is null, or cannot be compared with it at
all, and the six comparisons go by this alone.  At most one of less, equal and
greater holds, and the comparisons made of two of them hold if one of the two
does.  Not every value that does not equal the operand differs from it: a float
that is not a number does neither.
-/

namespace GridQuery

def FieldValue.isNotANumber : FieldValue → Bool
  | float value => value.isNaN
  | _ => false

/-- What is known when a value is compared with an operand. -/
inductive Outcome where
  | ordered (ordering : Ordering)
  | null
  | incomparable
deriving DecidableEq

def Outcome.accepts : Outcome → Comparison → Bool
  | ordered ordering, comparison => comparison.accepts ordering
  | null, comparison => comparison.acceptsNull
  | incomparable, _ => false

/-- Of less, equal and greater at most one accepts, and the comparisons made of
two of them accept if one of the two does. -/
structure OrderLaws (accepts : Comparison → Bool) : Prop where
  greaterOrEqual : accepts .greaterOrEqual =
    (accepts .greater || accepts .equal)
  lessOrEqual : accepts .lessOrEqual = (accepts .less || accepts .equal)
  not_less_and_equal : (accepts .less && accepts .equal) = false
  not_equal_and_greater : (accepts .equal && accepts .greater) = false
  not_less_and_greater : (accepts .less && accepts .greater) = false

namespace Outcome

theorem orderLaws (outcome : Outcome) : OrderLaws outcome.accepts := by
  cases outcome with
  | ordered ordering => cases ordering <;> exact ⟨rfl, rfl, rfl, rfl, rfl⟩
  | null | incomparable => exact ⟨rfl, rfl, rfl, rfl, rfl⟩

/-- Values differ from an operand exactly if they do not equal it, except for
those that cannot be compared with it. -/
theorem accepts_notEqual_iff (outcome : Outcome) :
    outcome.accepts .notEqual = !outcome.accepts .equal ↔
      outcome ≠ .incomparable := by
  cases outcome with
  | ordered ordering => cases ordering <;> decide
  | null | incomparable => decide

end Outcome

theorem Number.Binary64.isNaN_eq_false_of_isFinite {x : Number.Binary64}
    (finite : x.isFinite = true) : x.isNaN = false := by
  simp only [isFinite, isNaN, decide_eq_true_eq, decide_eq_false_iff_not]
    at finite ⊢
  omega

namespace Bound

open GridQuery.Filter

def outcome (value : FieldValue) : Bound → Outcome
  | number target =>
      if value.isNull then .null
      else ((numericOrder? value target).map .ordered).getD .incomparable
  | day target =>
      (value.day?.map fun found => .ordered (found.order target)).getD .null

theorem accepts_eq_outcome (comparison : Comparison) (value : FieldValue)
    (bound : Bound) :
    bound.accepts comparison value =
      (bound.outcome value).accepts comparison := by
  cases bound with
  | number target =>
      rw [accepts, acceptsNumber, outcome]
      cases value.isNull with
      | true => rfl
      | false => cases numericOrder? value target <;> rfl
  | day target =>
      rw [accepts, acceptsDay, outcome]
      cases value.day? <;> rfl

/-- Floats that are not numbers are the only values of a numeric field that a
number cannot be compared with. -/
theorem numericOrder?_eq_none_iff {kind : FieldKind} {value : FieldValue}
    (isNumeric : kind.isNumeric = true) (hasKind : value.hasKind kind = true)
    (target : NumericValue) :
    numericOrder? value target = none ↔ value.isNotANumber = true := by
  cases value with
  | float value =>
      have operand : target.toDecimal.toBinary64.isNaN = false :=
        Number.Binary64.isNaN_eq_false_of_isFinite
          target.toDecimal.isFinite_toBinary64
      simp [numericOrder?, Number.Binary64.partialOrder?, operand,
        FieldValue.isNotANumber]
  | integer value | decimal value =>
      simp [numericOrder?, FieldValue.toDecimal?, FieldValue.isNotANumber]
  | null | bool | text | date | dateTime | dateTimeUtc | uuid | enumeration =>
      cases kind <;>
        simp [FieldKind.isNumeric, FieldValue.hasKind] at isNumeric hasKind

theorem exists_day?_of_hasKind {kind : FieldKind} {value : FieldValue}
    (isTemporal : kind.isTemporal = true)
    (hasKind : value.hasKind kind = true) :
    (∃ found, value.day? = some found) ∧ value.isNotANumber = false := by
  cases value with
  | date | dateTime | dateTimeUtc => exact ⟨⟨_, rfl⟩, rfl⟩
  | null | bool | integer | float | decimal | text | uuid | enumeration =>
      cases kind <;>
        simp [FieldKind.isTemporal, FieldValue.hasKind] at isTemporal hasKind

theorem outcome_eq_incomparable_iff {kind : FieldKind} {value : FieldValue}
    {bound : Bound} (suits : bound.category.suits kind = true)
    (ofKind : value.IsOfKind kind) :
    bound.outcome value = .incomparable ↔ value.isNotANumber = true := by
  rcases ofKind with rfl | hasKind
  · cases bound <;>
      simp [outcome, FieldValue.isNull, FieldValue.day?,
        FieldValue.isNotANumber]
  cases bound with
  | number target =>
      have notNull := Filter.isNull_of_hasKind hasKind
      rw [← numericOrder?_eq_none_iff suits hasKind target, outcome, notNull]
      cases numericOrder? value target <;> simp
  | day target =>
      obtain ⟨⟨found, known⟩, isNumber⟩ :=
        exists_day?_of_hasKind suits hasKind
      simp [outcome, known, isNumber]

end Bound

namespace Filter

variable {ρ : Type} [Record ρ]

/-- The comparisons of a field with an operand obey the laws of an order.  A
value differs from the operand exactly if it does not equal it, unless it is a
float that is not a number, which no comparison accepts. -/
theorem compileOn_comparisons (field : FieldDescriptor) (bound : Bound)
    (suits : bound.category.suits field.kind = true) (name : String)
    (valueCategory : ValueCategory) (options : ParsingOptions) :
    ∃ predicate : Comparison → Predicate ρ,
      (∀ operator comparison,
        Comparison.ofOperator? operator = some comparison →
        compileOn field (bound.filter name valueCategory operator) options =
          .ok (predicate comparison)) ∧
      ∀ record : ρ, (field.read record).IsOfKind field.kind →
        OrderLaws (fun comparison => (predicate comparison).test record) ∧
        (((predicate .notEqual).test record =
            !(predicate .equal).test record) ↔
          (field.read record).isNotANumber = false) ∧
        ((field.read record).isNotANumber = true →
          ∀ comparison, (predicate comparison).test record = false) := by
  refine ⟨fun comparison => .new
      (fun record => bound.accepts comparison (field.read record))
      (bound.condition field comparison),
    fun operator comparison compares =>
      Bound.compileOn_filter suits compares name valueCategory options, ?_⟩
  intro record ofKind
  have test (comparison : Comparison) := bound.accepts_eq_outcome comparison
    (field.read record)
  have incomparable := Bound.outcome_eq_incomparable_iff suits ofKind
  simp only [Predicate.new, test]
  refine ⟨(bound.outcome (field.read record)).orderLaws, ?_, ?_⟩
  · rw [Outcome.accepts_notEqual_iff, ne_eq, incomparable, Bool.not_eq_true]
  · intro isNotANumber comparison
    rw [incomparable.mpr isNotANumber, Outcome.accepts]

def five : Bound :=
  .number (.integer 5)

/-- A float that is not a number neither equals five nor differs from it,
although the condition that asks for different values is true of it. -/
theorem compileOn_comparisons_nan :
    ∃ (equals differs : Predicate Cell) (condition : Sql.Condition),
      compileOn (Cell.field .float false)
        (five.filter "Cell" .integer .equals) .default = .ok equals ∧
      compileOn (Cell.field .float false)
        (five.filter "Cell" .integer .notEqual) .default = .ok differs ∧
      equals.test ⟨.float (.nan false)⟩ = false ∧
      differs.test ⟨.float (.nan false)⟩ = false ∧
      differs.condition = some condition ∧
      condition.truth (fun _ => .float (.nan false)) = some true := by
  refine ⟨_, _, _, rfl, rfl, ?_, ?_, rfl, ?_⟩
  · decide +kernel
  · decide +kernel
  · decide +kernel

/-- An infinity differs from five, and so does null, but a float that is not a
number is not even at most five. -/
theorem compileOn_comparisons_infinity :
    ∃ predicate : Comparison → Predicate Cell,
      compileOn (Cell.field .float true)
        (five.filter "Cell" .integer .notEqual) .default =
          .ok (predicate .notEqual) ∧
      ((predicate .notEqual).test ⟨.float (.infinity true)⟩ =
        !(predicate .equal).test ⟨.float (.infinity true)⟩) ∧
      ((predicate .notEqual).test ⟨.null⟩ =
        !(predicate .equal).test ⟨.null⟩) ∧
      (predicate .lessOrEqual).test ⟨.float (.nan true)⟩ = false := by
  obtain ⟨predicate, compiled, laws⟩ :=
    @compileOn_comparisons Cell _ (Cell.field .float true) five rfl "Cell"
      .integer .default
  refine ⟨predicate, compiled .notEqual .notEqual rfl, ?_, ?_, ?_⟩
  · exact (laws ⟨.float (.infinity true)⟩ (.inr rfl)).2.1.mpr (by decide)
  · exact (laws ⟨.null⟩ (.inl rfl)).2.1.mpr rfl
  · exact (laws ⟨.float (.nan true)⟩ (.inr rfl)).2.2 (by decide) .lessOrEqual

end Filter

end GridQuery
