import GridQuery.Filter.Text
import GridQuery.Proofs.Filter.Agreement
import GridQuery.Proofs.Text.Order
import GridQuery.Proofs.Text.Pattern

/-!
# Text filters in queries

The condition of a text filter is true on exactly the values that its test
accepts.  The value of the filter reaches the condition through the escaping of
pattern marks, so it stands for itself whatever it contains; null leaves the
condition open, also under the negated operators.
-/

namespace GridQuery.Filter

variable {ρ : Type} [Record ρ]

theorem textTest?_isSome_iff {column : String} {operator : FilterOperator}
    {value : List Char} :
    (textTest? column operator value).isSome = true ↔
      operator ∈ textOperators := by
  cases operator <;> simp [textTest?, textOperators]

theorem truth_textTest_text
    {column : String} {operator : FilterOperator} {value : List Char}
    {test : Sql.Test} {row : Sql.Row} {text : String}
    (compiled : textTest? column operator value = some test)
    (kept : row column = .text text) :
    test.truth row =
      some (textMatches operator (Text.upper text.toList) value) := by
  have content : (Sql.Term.upper (.column column)).value? row =
      some (.text (Text.upper text.toList)) := by
    simp [Sql.Term.value?, kept, Sql.ofField?, Sql.Value.text?]
  have satisfies (comparison : Comparison) :
      (Sql.Value.text (Text.upper text.toList)).satisfies comparison
          (.text value) =
        comparison.accepts (Text.order (Text.upper text.toList) value) :=
    Sql.Value.satisfies_of_order?_eq_some rfl comparison
  cases operator <;> cases compiled
  case equals =>
    rw [Sql.Test.truth_compare content rfl, satisfies]
    simp [Comparison.accepts, textMatches, Text.order_beq_eq]
  case notEqual =>
    rw [Sql.Test.truth_compare content rfl, satisfies]
    simp [Comparison.accepts, textMatches, Text.order_beq_eq, bne]
  case contains =>
    rw [Sql.Test.truth_like content, List.cons_append,
      Text.fits_anyText_escapePattern_anyText]
    rfl
  case doesNotContain =>
    rw [Sql.Test.truth_notLike content, List.cons_append,
      Text.fits_anyText_escapePattern_anyText]
    rfl
  case startsWith =>
    rw [Sql.Test.truth_like content, Text.fits_escapePattern_anyText]
    rfl
  case endsWith =>
    rw [Sql.Test.truth_like content, Text.fits_anyText_escapePattern]
    rfl

theorem truth_textTest_null
    {column : String} {operator : FilterOperator} {value : List Char}
    {test : Sql.Test} {row : Sql.Row}
    (compiled : textTest? column operator value = some test)
    (kept : row column = .null) :
    test.truth row = none := by
  have content : (Sql.Term.upper (.column column)).value? row = none := by
    simp [Sql.Term.value?, kept, Sql.ofField?]
  cases operator <;> cases compiled <;>
    simp [Sql.Test.truth, Sql.Term.fits, content]

/-- A text filter on a text field is compiled for each of the six operators,
its test reads the value of the field, and its condition is true on exactly the
accepted records, whether or not the field is optional. -/
theorem compileText_agrees
    (field : FieldDescriptor) (filter : TextFilter)
    (textual : field.kind = .text)
    (supported : filter.operator ∈ textOperators) :
    ∃ predicate : Predicate ρ,
      compileText field filter = .ok predicate ∧
      (∀ record, predicate.test record =
        acceptsText filter.operator (Text.upper filter.value.toList)
          (field.read record)) ∧
      predicate.AgreesOn field
        (fun value => value.hasKind .text = true ∨ value = .null) := by
  obtain ⟨test, compiled⟩ := Option.isSome_iff_exists.mp
    (textTest?_isSome_iff.mpr supported :
      (textTest? field.column filter.operator
        (Text.upper filter.value.toList)).isSome = true)
  refine ⟨_, by simp [compileText, textual, compiled]; rfl, fun _ => rfl, ?_⟩
  apply Predicate.agreesOn_new
  intro value row kept possible
  rw [Sql.Condition.truth_single_eq_true_iff]
  rcases possible with textValue | rfl
  · cases value with
    | text text => simp [acceptsText, truth_textTest_text compiled kept]
    | _ => simp [FieldValue.hasKind] at textValue
  · simp [acceptsText, truth_textTest_null compiled kept]

/-- The marks of patterns, and the mark that escapes them, are found where
they stand and nowhere else. -/
theorem compileText_agrees_marks :
    ∃ predicate : Predicate Cell,
      compileText (Cell.field .text true)
        ⟨"Cell", .contains, "5\\%_", .default⟩ = .ok predicate ∧
      predicate.test ⟨.text "15\\%_"⟩ = true ∧
      predicate.test ⟨.text "5\\abc"⟩ = false ∧
      predicate.AgreesOn (Cell.field .text true)
        (fun value => value.hasKind .text = true ∨ value = .null) := by
  obtain ⟨predicate, compiled, test, agrees⟩ :=
    @compileText_agrees Cell _ (Cell.field .text true)
      ⟨"Cell", .contains, "5\\%_", .default⟩ rfl (by decide)
  refine ⟨predicate, compiled, ?_, ?_, agrees⟩
  · rw [test]
    decide
  · rw [test]
    decide

end GridQuery.Filter
