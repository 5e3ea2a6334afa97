import GridQuery.Proofs.Request.Options
import GridQuery.Proofs.Text.Occurrence
import GridQuery.Request.Parser

/-!
# Comparisons that are written and read

A comparison with numbers or dates is written as one text, or as two texts with
the separator of ranges in between.  Whatever texts are chosen for the values,
reading gives the comparisons with the values back.
-/

namespace GridQuery

open RequestParser

/-- A comparison together with the texts that are written for its values. -/
inductive WrittenComparison (α : Type) where
  | single (operator : FilterOperator) (value : α) (text : String)
  | range (low high : α) (lowText highText : String)

namespace WrittenComparison

variable {α : Type}

def operator : WrittenComparison α → FilterOperator
  | single operator _ _ => operator
  | range .. => .between

def text (separator : String) : WrittenComparison α → String
  | single _ _ text => text
  | range _ _ lowText highText => lowText ++ separator ++ highText

/-- The filters of a comparison, of which a range has two. -/
def specs (make : FilterOperator → α → FilterSpec) :
    WrittenComparison α → List FilterSpec
  | single operator value _ => [make operator value]
  | range low high _ _ =>
      [make .greaterThanOrEqual low, make .lessThanOrEqual high]

/-- The texts stand for the values, and no bound of a range has a character of
the separator in it.  A single comparison does not have the operator of
ranges. -/
def IsWritten (separator : String) (Denotes : String → α → Prop) :
    WrittenComparison α → Prop
  | single operator value text => operator ≠ .between ∧ Denotes text value
  | range low high lowText highText =>
      (Denotes lowText low ∧
          Text.Avoids separator.toList lowText.toList) ∧
        Denotes highText high ∧
          Text.Avoids separator.toList highText.toList

instance {separator : String} {Denotes : String → α → Prop}
    [∀ text value, Decidable (Denotes text value)] :
    (comparison : WrittenComparison α) →
      Decidable (comparison.IsWritten separator Denotes)
  | single .. | range .. => inferInstanceAs (Decidable (_ ∧ _))

/-- The filters of a range whose bounds have been read: none unless both of
them could be. -/
def boundSpecs (make : FilterOperator → α → FilterSpec) :
    Option α → Option α → List FilterSpec
  | some low, some high =>
      [make .greaterThanOrEqual low, make .lessThanOrEqual high]
  | _, _ => []

theorem boundSpecs_map {β : Type} (make : FilterOperator → β → FilterSpec)
    (f : α → β) (low high : Option α) :
    boundSpecs make (low.map f) (high.map f) =
      boundSpecs (fun operator value => make operator (f value)) low high := by
  cases low <;> cases high <;> rfl

section Reading

variable {read : String → Option α}
  {make : FilterOperator → α → FilterSpec}
  (ignores : ParsingOptions.IgnoresBlanks read)

include ignores

theorem bound?_eq_map {operator : FilterOperator} {text : List Char}
    {raw : String} (solid : Text.trim raw.toList ≠ [])
    (same : Text.trim text = Text.trim raw.toList) :
    bound? read make operator text =
      (read raw).map fun value => [make operator value] := by
  have written : (Text.trim raw.toList).isEmpty = false :=
    List.isEmpty_eq_false_iff.mpr solid
  have readTrimmed := ignores.trimmed raw
  rw [Text.trimmed] at readTrimmed
  simp only [bound?, same, written, readTrimmed]
  rfl

section Range

variable {lowText highText : String}
  (lowWritten : Text.trim lowText.toList ≠ [])
  (highWritten : Text.trim highText.toList ≠ [])

include lowWritten highWritten

theorem rangeSpecs_eq_boundSpecs {first last : List Char}
    (firstTrim : Text.trim first = Text.trim lowText.toList)
    (lastTrim : Text.trim last = Text.trim highText.toList) :
    rangeSpecs read make first last =
      boundSpecs make (read lowText) (read highText) := by
  rw [rangeSpecs, bound?_eq_map ignores lowWritten firstTrim,
    bound?_eq_map ignores highWritten lastTrim]
  cases read lowText <;> cases read highText <;> rfl

theorem comparisonSpecs_between {options : ParsingOptions} {field : String}
    (separated : options.betweenSeparator ≠ "")
    (lowAvoids :
      Text.Avoids options.betweenSeparator.toList lowText.toList)
    (highAvoids :
      Text.Avoids options.betweenSeparator.toList highText.toList) :
    comparisonSpecs options field
        (Text.trimmed (lowText ++ options.betweenSeparator ++ highText))
        .between read make =
      .ok (boundSpecs make (read lowText) (read highText)) := by
  have nonempty : options.betweenSeparator.toList ≠ [] := by
    simpa using separated
  -- The range is trimmed as a whole before it is split, so each bound has
  -- lost its blanks on one side only.
  obtain ⟨first, last, joined, ⟨firstPart, firstTrim⟩, lastPart, lastTrim⟩ :=
    Text.exists_trim_joined lowWritten highWritten
      options.betweenSeparator.toList
  have pieces : Text.splitOn options.betweenSeparator.toList
      (first ++ options.betweenSeparator.toList ++ last) = [first, last] :=
    Text.splitOn_two nonempty (lowAvoids.subset firstPart)
      (highAvoids.subset lastPart)
  have bounds : rangeSpecs read make first last =
      boundSpecs make (read lowText) (read highText) :=
    rangeSpecs_eq_boundSpecs ignores lowWritten highWritten firstTrim lastTrim
  rw [comparisonSpecs, if_pos rfl, Text.toList_trimmed, String.toList_append,
    String.toList_append, joined, pieces]
  exact congrArg Except.ok bounds

end Range

variable {options : ParsingOptions} {field : String}
  {comparison : WrittenComparison α}
  (written : comparison.IsWritten options.betweenSeparator
    fun text value => read text = some value)

include written

theorem trim_text_ne_nil :
    Text.trim (comparison.text options.betweenSeparator).toList ≠ [] := by
  cases comparison with
  | single operator value text => exact ignores.trim_ne_nil written.2
  | range low high lowText highText =>
      obtain ⟨⟨lowFound, -⟩, highFound, -⟩ := written
      rw [text, String.toList_append, String.toList_append]
      exact Text.trim_joined_ne_nil (ignores.trim_ne_nil lowFound)
        (ignores.trim_ne_nil highFound) _

theorem comparisonSpecs_text (separated : options.betweenSeparator ≠ "") :
    comparisonSpecs options field
        (Text.trimmed (comparison.text options.betweenSeparator))
        comparison.operator read make =
      .ok (comparison.specs make) := by
  cases comparison with
  | single operator value text =>
      obtain ⟨notRange, found⟩ := written
      rw [comparisonSpecs, WrittenComparison.operator, if_neg notRange,
        WrittenComparison.text, ignores.trimmed, found]
      rfl
  | range low high lowText highText =>
      obtain ⟨⟨lowFound, lowAvoids⟩, highFound, highAvoids⟩ := written
      have specs : boundSpecs make (read lowText) (read highText) =
          [make .greaterThanOrEqual low, make .lessThanOrEqual high] := by
        rw [lowFound, highFound]
        rfl
      rw [WrittenComparison.specs, ← specs]
      exact comparisonSpecs_between ignores (ignores.trim_ne_nil lowFound)
        (ignores.trim_ne_nil highFound) separated lowAvoids highAvoids

end Reading

end WrittenComparison

end GridQuery
