import GridQuery.Filter.Select
import GridQuery.Proofs.Calendar.Characters
import GridQuery.Proofs.Calendar.Pattern
import GridQuery.Proofs.Request.Options

/-!
# Days and moments of one text

The readers of days and of moments try the same patterns in different orders,
and each falls back on the other, so they read the same texts.  A character that
every pattern of moments asks for and that no pattern of days takes keeps the
patterns apart; then the two readers give the same day.
-/

namespace GridQuery.ParsingOptions

open Calendar

variable {options : ParsingOptions} {mark : Char}

/-- Every pattern of moments asks for a character that no pattern of days
takes. -/
structure MarksMoments (options : ParsingOptions) (mark : Char) : Prop where
  day : ∀ format ∈ options.dateFormats, ∃ items,
    items? format.toList = some items ∧ items.any (·.takes mark) = false
  moment : ∀ format ∈ options.dateTimeFormats, ∃ items,
    items? format.toList = some items ∧ .literal mark ∈ items

theorem marksMoments_default : default.MarksMoments ':' := by
  constructor
  · intro format listed
    simp only [default, List.mem_cons, List.not_mem_nil, or_false] at listed
    rcases listed with rfl | rfl | rfl
    · exact ⟨_, items?_hyphenatedDay, by decide⟩
    · exact ⟨_, items?_slashedDay, by decide⟩
    · exact ⟨_, items?_pointedDay, by decide⟩
  · intro format listed
    simp only [default, List.mem_cons, List.not_mem_nil, or_false] at listed
    rcases listed with rfl | rfl | rfl
    · exact ⟨_, items?_letteredMoment, by simp [clockItems]⟩
    · exact ⟨_, items?_spacedMoment, by simp [clockItems]⟩
    · exact ⟨_, items?_shortMoment, by simp⟩

theorem readDay?_eq_none_of_readMoment? (marks : options.MarksMoments mark)
    {text : List Char} {moment : DateTime}
    (read : options.readMoment? text = some moment) :
    options.readDay? text = none := by
  obtain ⟨format, listed, readFormat⟩ := List.exists_of_findSome?_eq_some read
  obtain ⟨items, known, asked⟩ := marks.moment format listed
  have marked : mark ∈ text := mem_of_readDateTime? known asked readFormat
  rw [readDay?, List.findSome?_eq_none_iff]
  intro dayFormat dayListed
  rw [Option.eq_none_iff_forall_ne_some]
  intro date readDay
  obtain ⟨dayItems, dayKnown, untaken⟩ := marks.day dayFormat dayListed
  cases untaken.symm.trans (takes_of_readDate? dayKnown readDay marked)

theorem parseDate_eq_map (marks : options.MarksMoments mark) (raw : String) :
    options.parseDate raw = (options.parseDateTime raw).map (·.date) := by
  rw [parseDate, parseDateTime]
  cases read : options.readMoment? (Text.trim raw.toList) with
  | none =>
      cases options.readDay? (Text.trim raw.toList) with
      | none => rfl
      | some date => rfl
  | some moment =>
      rw [readDay?_eq_none_of_readMoment? marks read]
      rfl

theorem isSome_parseDate (options : ParsingOptions) (raw : String) :
    (options.parseDate raw).isSome = (options.parseDateTime raw).isSome := by
  rw [parseDate, parseDateTime]
  cases options.readDay? (Text.trim raw.toList) with
  | none => simp
  | some date => simp

/-- A day and a moment are read from the same texts, whatever the options are.
Under the built-in options the day is that of the moment, so that a filter for
a day and a choice of a moment in one text mean the same day. -/
theorem parseDate_agrees :
    (∀ (options : ParsingOptions) (raw : String),
      (options.parseDate raw).isSome = (options.parseDateTime raw).isSome) ∧
    ∀ raw : String,
      default.parseDate raw = (default.parseDateTime raw).map (·.date) ∧
      (Filter.coerce? .dateTime default raw).bind (·.day?) =
        default.parseDate raw ∧
      (Filter.coerce? .dateTimeUtc default raw).bind (·.day?) =
        default.parseDate raw := by
  have day (raw : String) :
      default.parseDate raw = (default.parseDateTime raw).map (·.date) :=
    parseDate_eq_map marksMoments_default raw
  have trimmed (raw : String) :
      default.parseDateTime (String.ofList (Text.trim raw.toList)) =
        default.parseDateTime raw :=
    default.parseDateTime_trimmed raw
  refine ⟨isSome_parseDate, fun raw => ⟨day raw, ?_, ?_⟩⟩
  · rw [day raw, Filter.coerce?, trimmed]
    cases default.parseDateTime raw <;> rfl
  · rw [day raw, Filter.coerce?, trimmed]
    cases default.parseDateTime raw <;> rfl

end GridQuery.ParsingOptions
