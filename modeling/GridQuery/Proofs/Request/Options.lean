import GridQuery.Proofs.Calendar.Reader
import GridQuery.Proofs.Text.Blank
import GridQuery.Request.Options

/-!
# Blanks around numbers and dates

The readers of numbers and dates pass over the blanks at the ends of a text, and
they read nothing from blanks alone.
-/

namespace GridQuery.ParsingOptions

/-- A reader passes over the blanks at the ends of a text and reads nothing
from a text without other characters. -/
structure IgnoresBlanks {α : Type} (read : String → Option α) : Prop where
  trimmed (raw : String) : read (Text.trimmed raw) = read raw
  empty : read "" = none

theorem IgnoresBlanks.trim_ne_nil {α : Type} {read : String → Option α}
    (ignores : IgnoresBlanks read) {raw : String} {value : α}
    (found : read raw = some value) : Text.trim raw.toList ≠ [] := by
  intro blank
  rw [← ignores.trimmed, Text.trimmed_eq_empty_iff.mpr blank,
    ignores.empty] at found
  cases found

variable (options : ParsingOptions)

@[simp] theorem normalizeNumber_trim (raw : List Char) :
    options.normalizeNumber (Text.trim raw) = options.normalizeNumber raw := by
  rw [normalizeNumber, Text.trim_trim, normalizeNumber]

theorem ignoresBlanks_parseInteger : IgnoresBlanks options.parseInteger where
  trimmed raw := by simp [parseInteger]
  empty := rfl

theorem ignoresBlanks_parseDecimal : IgnoresBlanks options.parseDecimal where
  trimmed raw := by simp [parseDecimal]
  empty := rfl

theorem parseDateTime_trimmed (raw : String) :
    options.parseDateTime (Text.trimmed raw) = options.parseDateTime raw := by
  simp [parseDateTime, Text.trim_trim]

theorem readDay?_nil : options.readDay? [] = none := by
  rw [readDay?, List.findSome?_eq_none_iff]
  intro format _
  exact Calendar.readDate?_nil format.toList

theorem readMoment?_nil : options.readMoment? [] = none := by
  rw [readMoment?, List.findSome?_eq_none_iff]
  intro format _
  exact Calendar.readDateTime?_nil format.toList

theorem ignoresBlanks_parseDate : IgnoresBlanks options.parseDate where
  trimmed raw := by simp [parseDate, parseDateTime_trimmed, Text.trim_trim]
  empty := by simp [parseDate, parseDateTime, readDay?_nil, readMoment?_nil]

theorem fault?_eq_none (valid : options.validate = .ok ()) :
    options.fault? = none := by
  unfold validate at valid
  split at valid
  · cases valid
  · assumption

theorem separators_ne_empty (valid : options.validate = .ok ()) :
    options.betweenSeparator ≠ "" ∧ options.multiSelectSeparator ≠ "" := by
  have faultless := options.fault?_eq_none valid
  unfold fault? at faultless
  apply not_or.mp
  intro empty
  rw [if_pos empty] at faultless
  split at faultless
  · cases faultless
  · split at faultless <;> cases faultless

theorem groupSeparator_ne_decimalSeparator
    (valid : options.validate = .ok ()) :
    options.groupSeparator ≠ some options.decimalSeparator := by
  have faultless := options.fault?_eq_none valid
  unfold fault? at faultless
  intro equal
  rw [if_pos equal] at faultless
  split at faultless
  · cases faultless
  · split at faultless
    · cases faultless
    · split at faultless <;> cases faultless

end GridQuery.ParsingOptions
