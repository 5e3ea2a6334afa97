import GridQuery.Filter.Numeric
import GridQuery.Proofs.Filter.Column
import GridQuery.Proofs.Number.Decimal

/-!
# Numeric filters in queries

A test compares the exact value of a number with the operand of its filter.
The condition compares it with a bound that stands for the operand and has the
type of the column.  On decimals the bound is the operand; on integers it is
the operand if that is an integer of 64 bits and else a float near to it.  The
two select the same records except for the values between operand and bound.
-/

namespace GridQuery

open Number

/-- The exact value of a number in a field. -/
def FieldValue.number? (value : FieldValue) : Option Rat :=
  (Sql.ofField? value).bind Sql.Value.number?

namespace Comparison

/-- The values that a comparison with an operand and one with a bound in its
place do not agree on.  They lie between the two, and which of the ends are
among them depends on the comparison. -/
def TellsApart (comparison : Comparison) (operand bound value : Rat) : Prop :=
  match comparison with
  | equal | notEqual => operand ≠ bound ∧ (value = operand ∨ value = bound)
  | greater | lessOrEqual =>
      operand < value ∧ value ≤ bound ∨ bound < value ∧ value ≤ operand
  | greaterOrEqual | less =>
      operand ≤ value ∧ value < bound ∨ bound ≤ value ∧ value < operand

theorem relates_congr_iff_not_tellsApart
    (comparison : Comparison) (operand bound value : Rat) :
    (comparison.Relates value operand ↔ comparison.Relates value bound) ↔
      ¬ comparison.TellsApart operand bound value := by
  cases comparison <;> simp only [Relates, TellsApart] <;> grind

theorem accepts_numberOrder_iff
    (comparison : Comparison) (left right : Rat) :
    comparison.accepts (Sql.numberOrder left right) = true ↔
      comparison.Relates left right := by
  unfold Sql.numberOrder
  cases comparison <;> simp only [accepts, Relates] <;> grind

end Comparison

theorem Number.Decimal.order_eq_numberOrder (left right : Decimal) :
    left.order right = Sql.numberOrder left.toRat right.toRat := by
  simp only [Sql.numberOrder, order, ← Decimal.units_lt_units_iff]
  rcases Int.lt_trichotomy left.units right.units with less | same | greater
  · rw [Int.compare_eq_lt.mpr less, if_pos less]
  · rw [Int.compare_eq_eq.mpr same]
    simp [same]
  · rw [Int.compare_eq_gt.mpr greater, if_neg (by omega), if_pos greater]

theorem Sql.Value.order?_eq_numberOrder {left right : Sql.Value}
    {leftNumber rightNumber : Rat}
    (leftKnown : left.number? = some leftNumber)
    (rightKnown : right.number? = some rightNumber)
    (notFloat : ∀ x, left ≠ .float x) :
    left.order? right = some (Sql.numberOrder leftNumber rightNumber) := by
  cases left with
  | float x => exact absurd rfl (notFloat x)
  | integer | decimal | count =>
      simp [order?, leftKnown, rightKnown]
  | _ => simp [number?] at leftKnown

namespace Filter

variable {ρ : Type} [Record ρ] {field : FieldDescriptor}

/-- The bound of a numeric filter is a number.  It is the operand on a decimal
column, and also on an integer column if an integer has the value of the
operand. -/
theorem exists_number_numericParameter
    (exact : field.kind = .integer ∨ field.kind = .decimal)
    (target : NumericValue) :
    ∃ bound, (numericParameter field.kind target).number? = some bound ∧
      (field.kind = .decimal → bound = target.toDecimal.toRat) ∧
      (∀ n : Int64, target.toDecimal.toRat = n.toInt → bound = n.toInt) := by
  obtain ⟨near, rounded⟩ := target.toDecimal.exists_toRat?_toBinary64
  rcases exact with kind | kind
  · rw [kind]
    simp only [numericParameter]
    split
    · rename_i isWhole
      split
      · rename_i integer converted
        have same : target.toDecimal.toRat = integer.toInt :=
          Decimal.toRat_eq_of_toInt64? isWhole converted
        refine ⟨integer.toInt, rfl, by simp, ?_⟩
        intro n equal
        exact same.symm.trans equal
      · rename_i outside
        refine ⟨near, rounded, by simp, ?_⟩
        intro n equal
        obtain ⟨-, converted⟩ := Decimal.toInt64?_eq_some_of_toRat_eq equal
        rw [converted] at outside
        cases outside
    · rename_i hasFraction
      refine ⟨near, rounded, by simp, ?_⟩
      intro n equal
      obtain ⟨isWhole, -⟩ := Decimal.toInt64?_eq_some_of_toRat_eq equal
      exact absurd isWhole hasFraction
  · rw [kind]
    exact ⟨_, rfl, fun _ => rfl, fun _ equal => equal⟩

/-- A number that a field can hold, as the test and as the condition sees
it. -/
theorem exists_number_of_hasKind {value : FieldValue} {bound : Rat}
    (exact : field.kind = .integer ∨ field.kind = .decimal)
    (ofKind : value.hasKind field.kind = true) (target : NumericValue)
    (known : (numericParameter field.kind target).number? = some bound) :
    ∃ content number, Sql.ofField? value = some content ∧
      value.number? = some number ∧ value.isNull = false ∧
      numericOrder? value target =
        some (Sql.numberOrder number target.toDecimal.toRat) ∧
      content.order? (numericParameter field.kind target) =
        some (Sql.numberOrder number bound) := by
  have comparable {content : Sql.Value} {number : Rat}
      (numeric : content.number? = some number)
      (notFloat : ∀ x, content ≠ .float x) :=
    Sql.Value.order?_eq_numberOrder numeric known notFloat
  rcases exact with kind | kind
  · rw [kind] at ofKind
    cases value with
    | integer n =>
        have order : (Decimal.ofInt64 n).order target.toDecimal =
            Sql.numberOrder n.toInt target.toDecimal.toRat := by
          rw [Decimal.order_eq_numberOrder, Decimal.toRat_ofInt64]
        exact ⟨.integer n, n.toInt, rfl, rfl, rfl, congrArg some order,
          comparable rfl (by simp)⟩
    | _ => simp [FieldValue.hasKind] at ofKind
  · rw [kind] at ofKind
    cases value with
    | decimal d =>
        exact ⟨.decimal d, d.toRat, rfl, rfl, rfl,
          congrArg some (d.order_eq_numberOrder target.toDecimal),
          comparable rfl (by simp)⟩
    | _ => simp [FieldValue.hasKind] at ofKind

/-- The test of a numeric filter compares exact values. -/
theorem acceptsNumber_iff_relates {value : FieldValue} {number : Rat}
    {target : NumericValue} (notNull : value.isNull = false)
    (ordered : numericOrder? value target =
      some (Sql.numberOrder number target.toDecimal.toRat))
    (comparison : Comparison) :
    acceptsNumber comparison target value = true ↔
      comparison.Relates number target.toDecimal.toRat := by
  rw [acceptsNumber, notNull, ordered, ← Comparison.accepts_numberOrder_iff]
  simp

/-- Where the test of a numeric filter and its condition differ. -/
theorem acceptsNumber_iff_truth_iff {value : FieldValue} {row : Sql.Row}
    {bound : Rat} (exact : field.kind = .integer ∨ field.kind = .decimal)
    (kept : row field.column = value) (admitted : field.Admits value)
    (comparison : Comparison) (target : NumericValue)
    (known : (numericParameter field.kind target).number? = some bound) :
    (acceptsNumber comparison target value = true ↔
        (compareColumn field comparison
          (numericParameter field.kind target)).truth row = some true) ↔
      ¬ ∃ number, value.number? = some number ∧
        comparison.TellsApart target.toDecimal.toRat bound number := by
  rcases admitted with ofKind | ⟨rfl, optional⟩
  · obtain ⟨content, number, content?, number?, notNull, tested, asked⟩ :=
      exists_number_of_hasKind exact ofKind target known
    have test : acceptsNumber comparison target value = true ↔
        comparison.Relates number target.toDecimal.toRat :=
      acceptsNumber_iff_relates notNull tested comparison
    have condition :
        (compareColumn field comparison
          (numericParameter field.kind target)).truth row = some true ↔
        comparison.Relates number bound := by
      rw [truth_compareColumn_iff_of_value (by rw [kept, content?]),
        Sql.Value.satisfies_of_order?_eq_some asked,
        Comparison.accepts_numberOrder_iff]
    rw [test, condition, Comparison.relates_congr_iff_not_tellsApart]
    simp [number?]
  · rw [truth_compareColumn_iff_of_null kept optional]
    simp [acceptsNumber, FieldValue.isNull, FieldValue.number?, Sql.ofField?]

/-- A numeric filter on an exact column is compiled for each of the six
comparisons, and its test and its condition differ on the values between the
operand and the bound of the condition, on no others. -/
theorem compileNumeric_agrees_iff
    (field : FieldDescriptor) (filter : NumericFilter)
    (exact : field.kind = .integer ∨ field.kind = .decimal)
    (supported : filter.operator ∈ comparisonOperators) :
    ∃ (comparison : Comparison) (predicate : Predicate ρ)
      (condition : Sql.Condition) (bound : Rat),
      Comparison.ofOperator? filter.operator = some comparison ∧
      compileNumeric field filter = .ok predicate ∧
      predicate.condition = some condition ∧
      (∀ record, predicate.test record =
        acceptsNumber comparison filter.value (field.read record)) ∧
      (numericParameter field.kind filter.value).number? = some bound ∧
      (field.kind = .decimal → bound = filter.value.toDecimal.toRat) ∧
      (∀ n : Int64, filter.value.toDecimal.toRat = n.toInt →
        bound = n.toInt) ∧
      ∀ (record : ρ) (row : Sql.Row), row field.column = field.read record →
        field.Admits (field.read record) →
        ((predicate.test record = true ↔ condition.truth row = some true) ↔
          ¬ ∃ number, (field.read record).number? = some number ∧
            comparison.TellsApart filter.value.toDecimal.toRat bound
              number) := by
  obtain ⟨comparison, ofOperator⟩ := Option.isSome_iff_exists.mp
    (Comparison.ofOperator?_isSome_iff.mpr supported)
  obtain ⟨bound, known, onDecimals, onIntegers⟩ :=
    exists_number_numericParameter exact filter.value
  have isNumeric : field.kind.isNumeric = true := by
    rcases exact with kind | kind <;> rw [kind] <;> rfl
  have compiled :
      (compileNumeric field filter : Except GridError (Predicate ρ)) =
        .ok (.new (fun record =>
            acceptsNumber comparison filter.value (field.read record))
          (compareColumn field comparison
            (numericParameter field.kind filter.value))) := by
    simp only [compileNumeric, isNumeric, ofOperator]
    rfl
  refine ⟨comparison, _, _, bound, ofOperator, compiled, rfl, fun _ => rfl,
    known, onDecimals, onIntegers, ?_⟩
  intro record row kept admitted
  exact acceptsNumber_iff_truth_iff exact kept admitted comparison
    filter.value known

/-- The greatest decimal below one. -/
def justBelowOne : Decimal :=
  ⟨false, 9999999999999999999999999999, 28, by decide, by decide⟩

/-- Asked for the greatest decimal below one, a query finds the integer one,
which the test does not accept. -/
theorem compileNumeric_equals_justBelowOne :
    ∃ (predicate : Predicate Cell) (condition : Sql.Condition),
      compileNumeric (Cell.field .integer false)
        ⟨"Cell", .equals, .decimal justBelowOne, .decimal⟩ = .ok predicate ∧
      predicate.condition = some condition ∧
      predicate.test ⟨.integer 1⟩ = false ∧
      condition.truth (fun _ => .integer 1) = some true := by
  refine ⟨_, _, rfl, rfl, ?_, ?_⟩
  · decide +kernel
  · decide +kernel

/-- The bound of the greatest decimal below one is one, so the answers differ
on the integer one and not on the integer two. -/
theorem compileNumeric_agrees_iff_justBelowOne :
    ∃ (predicate : Predicate Cell) (condition : Sql.Condition),
      compileNumeric (Cell.field .integer false)
        ⟨"Cell", .equals, .decimal justBelowOne, .decimal⟩ = .ok predicate ∧
      predicate.condition = some condition ∧
      ¬ (predicate.test ⟨.integer 1⟩ = true ↔
        condition.truth (fun _ => .integer 1) = some true) ∧
      (predicate.test ⟨.integer 2⟩ = true ↔
        condition.truth (fun _ => .integer 2) = some true) := by
  obtain ⟨comparison, predicate, condition, bound, known, compiled,
      condition?, -, bound?, -, -, agrees⟩ :=
    @compileNumeric_agrees_iff Cell _ (Cell.field .integer false)
      ⟨"Cell", .equals, .decimal justBelowOne, .decimal⟩ (by decide)
      (by decide)
  cases known
  have computed :
      (numericParameter .integer (.decimal justBelowOne)).number? =
        some 1 := by decide +kernel
  cases bound?.symm.trans computed
  have below : justBelowOne.toRat ≠ 1 ∧ justBelowOne.toRat ≠ 2 := by
    decide +kernel
  refine ⟨predicate, condition, compiled, condition?, ?_, ?_⟩
  · rw [agrees ⟨.integer 1⟩ (fun _ => .integer 1) rfl (.inl rfl), not_not]
    exact ⟨1, rfl, below.1, .inr rfl⟩
  · rw [agrees ⟨.integer 2⟩ (fun _ => .integer 2) rfl (.inl rfl)]
    rintro ⟨number, two, -, same⟩
    cases two
    rcases same with same | same
    · exact below.2 same.symm
    · exact absurd same (by decide)

end Filter

end GridQuery
