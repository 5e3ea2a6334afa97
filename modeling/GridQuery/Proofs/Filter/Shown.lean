import GridQuery.Proofs.Calendar.Written
import GridQuery.Proofs.Filter.Select
import GridQuery.Proofs.Request.Numeral
import GridQuery.Proofs.Uuid

/-!
# Selecting the text that is shown

A search looks at a value in the text that is shown of it.  As a raw value under
the built-in options this text stands for the value itself, or for a zero
without its sign, so a filter for it finds the records with this value.
-/

namespace GridQuery

open Number

/-- The text that is shown of the value has all of it, in a form that the
built-in options read. -/
def FieldValue.ShownInFull : FieldValue → Prop
  | null | float _ | enumeration _ => False
  | date day => day.HasPlainYear
  | dateTime moment | dateTimeUtc moment =>
      moment.date.HasPlainYear ∧ moment.nanosecond = 0
  | bool _ | integer _ | decimal _ | text _ | uuid _ => True

theorem FieldValue.same_withoutZeroSign (d : Decimal) (other : FieldValue) :
    (decimal d.withoutZeroSign).same other = (decimal d).same other := by
  have units : d.withoutZeroSign.units = d.units := by
    rw [Decimal.units, d.signedCoefficient_withoutZeroSign]
    rfl
  cases other with
  | decimal other => rw [same, same, Decimal.same, Decimal.same, units]
  | _ => rfl

theorem FieldValue.same_self {value : FieldValue}
    (shown : value.ShownInFull) : value.same value = true := by
  cases value with
  | null | float _ | enumeration _ => cases shown
  | _ => simp [same, Decimal.same]

namespace ParsingOptions

variable {day : Date} {moment : DateTime}

theorem parseInteger_signedText (n : Int64) :
    default.parseInteger (String.ofList (signedText n)) = some n := by
  have numeral : ∀ c ∈ signedText n, writesIntegers c = true ∨ c = '.' := by
    intro c member
    exact .inl (writesIntegers_of_mem_integerText member)
  rw [parseInteger, String.toList_ofList, normalizeNumber_default numeral,
    readSigned?_signedText]

theorem parseDecimal_text (d : Decimal) :
    default.parseDecimal (String.ofList d.text) = some d.withoutZeroSign := by
  have normalized : default.normalizeNumber d.text = d.text :=
    normalizeNumber_default
      fun c => Decimal.writesIntegers_or_point_of_mem_text
  rw [parseDecimal, String.toList_ofList, normalized, Decimal.read?_text]

theorem readDay?_text (plain : day.HasPlainYear) :
    default.readDay? day.text = some day := by
  rw [readDay?, default, List.findSome?_cons, Calendar.readDate?_text plain]

/-- The text of a moment is read by the second pattern, which has blanks before
the time of day. -/
theorem readMoment?_text (plain : moment.date.HasPlainYear)
    (whole : moment.nanosecond = 0) :
    default.readMoment? moment.text = some moment := by
  rw [readMoment?, default, List.findSome?_cons,
    Calendar.readDateTime?_text_eq_none plain, List.findSome?_cons,
    Calendar.readDateTime?_text plain whole]

theorem parseDate_text (plain : day.HasPlainYear) :
    default.parseDate (String.ofList day.text) = some day := by
  rw [parseDate, String.toList_ofList, (Calendar.solid_dayText plain).trim_eq,
    readDay?_text plain, Option.some_or]

theorem parseDateTime_text (plain : moment.date.HasPlainYear)
    (whole : moment.nanosecond = 0) :
    default.parseDateTime (String.ofList moment.text) = some moment := by
  rw [parseDateTime, String.toList_ofList,
    (Calendar.solid_momentText plain).trim_eq, readMoment?_text plain whole,
    Option.some_or]

end ParsingOptions

namespace Filter

open ParsingOptions

/-- The text that is shown of a value stands for one that equals the same
values. -/
theorem coerce?_searchText {kind : FieldKind} {value : FieldValue}
    (shown : value.ShownInFull) (ofKind : value.hasKind kind = true) :
    ∃ found,
      coerce? kind .default (String.ofList value.searchText) = some found ∧
        ∀ other, found.same other = value.same other := by
  cases value with
  | null | float _ | enumeration _ => cases shown
  | bool truth =>
      cases kind <;> cases ofKind
      refine ⟨.bool truth, ?_, fun _ => rfl⟩
      cases truth <;> rfl
  | integer n =>
      cases kind <;> cases ofKind
      refine ⟨.integer n, ?_, fun _ => rfl⟩
      simp only [coerce?, FieldValue.searchText]
      rw [← Text.trimmed, (ignoresBlanks_parseInteger .default).trimmed,
        parseInteger_signedText, Option.map_some]
  | decimal d =>
      cases kind <;> cases ofKind
      refine ⟨.decimal d.withoutZeroSign, ?_, FieldValue.same_withoutZeroSign d⟩
      simp only [coerce?, FieldValue.searchText]
      rw [← Text.trimmed, (ignoresBlanks_parseDecimal .default).trimmed,
        parseDecimal_text, Option.map_some]
  | text written =>
      cases kind <;> cases ofKind
      refine ⟨.text written, ?_, fun _ => rfl⟩
      rw [coerce?, FieldValue.searchText, String.ofList_toList]
  | date day =>
      cases kind <;> cases ofKind
      refine ⟨.date day, ?_, fun _ => rfl⟩
      simp only [coerce?, FieldValue.searchText]
      rw [← Text.trimmed, (ignoresBlanks_parseDate .default).trimmed,
        parseDate_text shown, Option.map_some]
  | dateTime moment =>
      cases kind <;> cases ofKind
      refine ⟨.dateTime moment, ?_, fun _ => rfl⟩
      simp only [coerce?, FieldValue.searchText]
      rw [← Text.trimmed, parseDateTime_trimmed,
        parseDateTime_text shown.1 shown.2, Option.map_some]
  | dateTimeUtc moment =>
      cases kind <;> cases ofKind
      refine ⟨.dateTimeUtc moment, ?_, fun _ => rfl⟩
      simp only [coerce?, FieldValue.searchText]
      rw [← Text.trimmed, parseDateTime_trimmed,
        parseDateTime_text shown.1 shown.2, Option.map_some]
  | uuid u =>
      cases kind <;> cases ofKind
      refine ⟨.uuid u, ?_, fun _ => rfl⟩
      simp only [coerce?, FieldValue.searchText, String.toList_ofList,
        u.solid_text.trim_eq, u.read?_text, Option.map_some]

/-- Under the built-in options the text that is shown of a value is taken for a
value that equals it.  A filter for this text accepts the records whose field
equals the value, and no others. -/
theorem compileSingleSelect_searchText {ρ : Type} [Record ρ]
    {field : FieldDescriptor} {value : FieldValue}
    (shown : value.ShownInFull) (ofKind : value.hasKind field.kind = true) :
    ∃ found,
      coerce? field.kind .default (String.ofList value.searchText) =
        some found ∧
      found.same value = true ∧
      ∀ record : ρ,
        (compileSingleSelect field
            ⟨field.name, String.ofList value.searchText⟩ .default).test
              record = true ↔
          (field.read record).same value = true := by
  obtain ⟨found, coerced, same⟩ := coerce?_searchText shown ofKind
  refine ⟨found, coerced, by rw [same, FieldValue.same_self shown], ?_⟩
  intro record
  rw [test_compileSingleSelect coerced, same, FieldValue.same_comm]
  constructor
  · exact And.right
  · intro equal
    have notNull := isNull_of_hasKind ofKind
    exact ⟨(FieldValue.isNull_eq_of_same equal).trans notNull, equal⟩

/-- Zero with a sign and two places. -/
def signedZero : Decimal :=
  { Decimal.zero with negative := true, scale := 2, scale_le := by decide }

/-- The text of a zero with a sign finds a zero without one, and not null. -/
theorem compileSingleSelect_searchText_signedZero :
    let test (value : FieldValue) : Bool :=
      (compileSingleSelect (Cell.field .decimal true) ⟨"Cell", "-0.00"⟩
        .default).test (⟨value⟩ : Cell)
    String.ofList (FieldValue.decimal signedZero).searchText = "-0.00" ∧
      test (.decimal .zero) = true ∧ test .null ≠ true := by
  intro test
  have shown : (FieldValue.decimal signedZero).ShownInFull := trivial
  have ofKind : (FieldValue.decimal signedZero).hasKind
      (Cell.field .decimal true).kind = true := rfl
  have text :
      String.ofList (FieldValue.decimal signedZero).searchText = "-0.00" := by
    decide +kernel
  have selects (value : FieldValue) :
      test value = true ↔ value.same (.decimal signedZero) = true := by
    obtain ⟨-, -, -, tested⟩ :=
      compileSingleSelect_searchText (ρ := Cell) shown ofKind
    rw [text] at tested
    exact tested ⟨value⟩
  refine ⟨text, (selects _).mpr (by decide), ?_⟩
  rw [ne_eq, selects]
  decide

end Filter

end GridQuery
