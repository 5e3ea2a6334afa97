import GridQuery.Filter.Compile
import GridQuery.Proofs.Filter.Day
import GridQuery.Proofs.Filter.Numeric
import GridQuery.Proofs.Filter.Refusal
import GridQuery.Proofs.Request.Writing

/-!
# Ranges of numbers and of days

A range has two bounds, both numbers or both days, and each of them is a filter
of its own.  Together they accept the values that lie between the bounds, the
bounds among them: exact values of numbers, and of moments their days.  Null
lies in no range.
-/

namespace GridQuery

open RequestParser

/-- Whether there are ranges of a category on fields of a kind. -/
def FilterCategory.rangesOver : FilterCategory → FieldKind → Bool
  | numeric, .integer | numeric, .decimal => true
  | date, .date | date, .dateTime | date, .dateTimeUtc => true
  | _, _ => false

theorem FilterCategory.rangesOver_numeric_iff {kind : FieldKind} :
    numeric.rangesOver kind = true ↔ kind = .integer ∨ kind = .decimal := by
  cases kind <;> simp [rangesOver]

theorem FilterCategory.rangesOver_date (kind : FieldKind) :
    date.rangesOver kind = kind.isTemporal := by
  cases kind <;> rfl

theorem FilterCategory.suits_of_rangesOver {category : FilterCategory}
    {kind : FieldKind} (ranges : category.rangesOver kind = true) :
    category.suits kind = true := by
  cases category with
  | numeric =>
      rcases rangesOver_numeric_iff.mp ranges with rfl | rfl
      · rfl
      · rfl
  | date => exact (rangesOver_date kind).symm.trans ranges
  | text => cases ranges
  | singleSelect | multiSelect => rfl

/-- A value is null or of a kind. -/
def FieldValue.IsOfKind (value : FieldValue) (kind : FieldKind) : Prop :=
  value = .null ∨ value.hasKind kind = true

instance (value : FieldValue) (kind : FieldKind) :
    Decidable (value.IsOfKind kind) :=
  inferInstanceAs (Decidable (_ ∨ _))

/-- A bound of a range. -/
inductive Bound where
  | number (value : NumericValue)
  | day (value : Date)
deriving DecidableEq

namespace Bound

def category : Bound → FilterCategory
  | number _ => .numeric
  | day _ => .date

/-- The bound that a text stands for in a filter of a category. -/
def read? (options : ParsingOptions) (category : FilterCategory)
    (valueCategory : ValueCategory) (text : String) : Option Bound :=
  match category with
  | .numeric => (numericValue? options valueCategory text).map number
  | .date => (options.parseDate text).map day
  | _ => none

/-- The filter that compares a field with a bound. -/
def filter (field : String) (valueCategory : ValueCategory)
    (operator : FilterOperator) : Bound → FilterSpec
  | number value => .numeric ⟨field, operator, value, valueCategory⟩
  | day value => .date ⟨field, operator, value⟩

/-- Whether a value is not null and lies between two bounds. -/
def liesBetween (low high : Bound) (value : FieldValue) : Bool :=
  match low, high with
  | number low, number high =>
      value.number?.any fun number =>
        low.toDecimal.toRat ≤ number && number ≤ high.toDecimal.toRat
  | day low, day high =>
      value.day?.any fun day => low.place ≤ day.place && day.place ≤ high.place
  | _, _ => false

/-- A value is not null and compares so with a bound. -/
def Relates (comparison : Comparison) (value : FieldValue) : Bound → Prop
  | number bound => ∃ number, value.number? = some number ∧
      comparison.Relates number bound.toDecimal.toRat
  | day bound => ∃ day, value.day? = some day ∧
      comparison.Relates day.place bound.place

theorem category_eq_of_read? {options : ParsingOptions}
    {category : FilterCategory} {valueCategory : ValueCategory}
    {text : String} {bound : Bound}
    (read : read? options category valueCategory text = some bound) :
    bound.category = category := by
  cases category with
  | numeric | date =>
      obtain ⟨value, -, rfl⟩ := Option.map_eq_some_iff.mp read
      rfl
  | text | singleSelect | multiSelect => cases read

theorem liesBetween_iff {low high : Bound}
    (alike : low.category = high.category) (value : FieldValue) :
    liesBetween low high value = true ↔
      low.Relates .greaterOrEqual value ∧ high.Relates .lessOrEqual value := by
  cases low with
  | number low =>
      cases high with
      | number high => cases known : value.number? <;>
          simp [liesBetween, Relates, Comparison.Relates, known]
      | day high => cases alike
  | day low =>
      cases high with
      | number high => cases alike
      | day high => cases known : value.day? <;>
          simp [liesBetween, Relates, Comparison.Relates, known]

section Compiling

variable {ρ : Type} [Record ρ] {descriptor : FieldDescriptor}
  {comparison : Comparison}

open GridQuery.Filter

/-- The test of a filter that compares with a bound. -/
def accepts (comparison : Comparison) (value : FieldValue) : Bound → Bool
  | number target => acceptsNumber comparison target value
  | day target => acceptsDay comparison target value

/-- The condition of a filter that compares with a bound. -/
def condition (field : FieldDescriptor) (comparison : Comparison) :
    Bound → Sql.Condition
  | number target =>
      compareColumn field comparison (numericParameter field.kind target)
  | day target =>
      if field.kind = .date then compareColumn field comparison (.date target)
      else dayCondition field comparison target

theorem compileOn_filter {bound : Bound} {operator : FilterOperator}
    (suits : bound.category.suits descriptor.kind = true)
    (compares : Comparison.ofOperator? operator = some comparison)
    (name : String) (valueCategory : ValueCategory)
    (options : ParsingOptions) :
    (compileOn descriptor (bound.filter name valueCategory operator) options :
        Except GridError (Predicate ρ)) =
      .ok (.new
        (fun record => bound.accepts comparison (descriptor.read record))
        (bound.condition descriptor comparison)) := by
  cases bound with
  | number target =>
      have isNumeric : descriptor.kind.isNumeric = true := suits
      simp only [Bound.filter, compileOn, compileNumeric, isNumeric, compares]
      rfl
  | day target =>
      have isTemporal : descriptor.kind.isTemporal = true := suits
      simp only [Bound.filter, compileOn, compileDate, isTemporal, compares]
      rfl

theorem acceptsNumber_iff {value : FieldValue}
    (ranges : FilterCategory.numeric.rangesOver descriptor.kind = true)
    (ofKind : value.IsOfKind descriptor.kind)
    (ordered : comparison.acceptsNull = false) (target : NumericValue) :
    acceptsNumber comparison target value = true ↔
      (number target).Relates comparison value := by
  have exact := FilterCategory.rangesOver_numeric_iff.mp ranges
  rcases ofKind with rfl | hasKind
  · simp [acceptsNumber, FieldValue.isNull, ordered, Relates,
      FieldValue.number?, Sql.ofField?]
  · obtain ⟨bound, known, -⟩ := exists_number_numericParameter exact target
    obtain ⟨-, found, -, number?, notNull, tested, -⟩ :=
      exists_number_of_hasKind exact hasKind target known
    rw [acceptsNumber_iff_relates notNull tested]
    simp [Relates, number?]

theorem acceptsDay_iff {value : FieldValue}
    (ordered : comparison.acceptsNull = false) (target : Date) :
    acceptsDay comparison target value = true ↔
      (day target).Relates comparison value := by
  cases known : value.day? with
  | none => simp [acceptsDay, known, ordered, Relates]
  | some found =>
      simp [acceptsDay, known, Relates, accepts_dateOrder_iff]

theorem compile_filter {field : String} (bound : Bound)
    (operator : FilterOperator) (options : ParsingOptions)
    (valueCategory : ValueCategory)
    (resolved : (FieldTable.of ρ).resolve field = .ok descriptor)
    (ranges : bound.category.rangesOver descriptor.kind = true)
    (compares : Comparison.ofOperator? operator = some comparison)
    (ordered : comparison.acceptsNull = false) :
    ∃ predicate : Predicate ρ,
      Filter.compile (bound.filter field valueCategory operator) options =
        .ok predicate ∧
      ∀ record : ρ, (descriptor.read record).IsOfKind descriptor.kind →
        (predicate.test record = true ↔
          bound.Relates comparison (descriptor.read record)) := by
  have compiled :
      Filter.compile (bound.filter field valueCategory operator) options =
        .ok (.new (fun record : ρ =>
            bound.accepts comparison (descriptor.read record))
          (bound.condition descriptor comparison)) := by
    have named : (bound.filter field valueCategory operator).field = field := by
      cases bound <;> rfl
    rw [Filter.compile, named, resolved]
    exact compileOn_filter (FilterCategory.suits_of_rangesOver ranges) compares
      field valueCategory options
  refine ⟨_, compiled, fun record ofKind => ?_⟩
  cases bound with
  | number target => exact acceptsNumber_iff ranges ofKind ordered target
  | day target => exact acceptsDay_iff ordered target

/-- The filters of two bounds accept the values between them, and without one
of the bounds there are no filters. -/
theorem compileAll_boundSpecs {field : String} {low? high? : Option Bound}
    {category : FilterCategory} (options : ParsingOptions)
    (valueCategory : ValueCategory)
    (resolved : (FieldTable.of ρ).resolve field = .ok descriptor)
    (ranges : category.rangesOver descriptor.kind = true)
    (lowCategory : ∀ low ∈ low?, low.category = category)
    (highCategory : ∀ high ∈ high?, high.category = category) :
    ∃ predicates : List (Predicate ρ),
      Filter.compileAll options
          (WrittenComparison.boundSpecs
            (fun operator bound => bound.filter field valueCategory operator)
            low? high?) = .ok predicates ∧
      ∀ record : ρ, (descriptor.read record).IsOfKind descriptor.kind →
        (predicates.all (fun predicate => predicate.test record) = true ↔
          ∀ low ∈ low?, ∀ high ∈ high?,
            liesBetween low high (descriptor.read record) = true) := by
  cases low? with
  | none => exact ⟨[], rfl, by simp⟩
  | some low =>
      cases high? with
      | none => exact ⟨[], rfl, by simp⟩
      | some high =>
          have lowIs : low.category = category := lowCategory low rfl
          have highIs : high.category = category := highCategory high rfl
          obtain ⟨atLeast, compiledLow, testLow⟩ :=
            compile_filter (ρ := ρ) low .greaterThanOrEqual options
              valueCategory resolved (by rw [lowIs]; exact ranges) rfl rfl
          obtain ⟨atMost, compiledHigh, testHigh⟩ :=
            compile_filter (ρ := ρ) high .lessThanOrEqual options
              valueCategory resolved (by rw [highIs]; exact ranges) rfl rfl
          refine ⟨[atLeast, atMost], ?_, ?_⟩
          · simp only [WrittenComparison.boundSpecs, Filter.compileAll,
              compiledLow, compiledHigh]
            rfl
          · intro record ofKind
            simp [testLow record ofKind, testHigh record ofKind,
              liesBetween_iff (lowIs.trans highIs.symm)]

end Compiling

end Bound

end GridQuery
