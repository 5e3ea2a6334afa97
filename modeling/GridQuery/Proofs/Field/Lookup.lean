import GridQuery.Proofs.Field.Table
import GridQuery.Proofs.Text.Lowercase

/-!
# Looking up fields

A name leads to the first field whose name has its lower case form.  Fields
that are added behind the others change nothing for names that lead to one of
these, and neither do blanks around a name and the case of its ASCII letters.
-/

namespace GridQuery.FieldTable

/-- A text is another one with the case of some ASCII letters changed and with
blanks around it. -/
def IsSpelling (core text : List Char) : Prop :=
  ∃ before inner after, Text.Blank before ∧ Text.Blank after ∧
    Text.sameIgnoringCase inner core = true ∧ text = before ++ inner ++ after

/-- The name of a field is a given one, but for case. -/
def Matches (field : FieldDescriptor) (name : String) : Prop :=
  Text.lowercase field.name.toList = Text.lowercase (Text.trim name.toList)

instance (field : FieldDescriptor) (name : String) :
    Decidable (Matches field name) :=
  inferInstanceAs (Decidable (_ = _))

/-- A field is the first one with a name. -/
def IsFirst (fields : List FieldDescriptor) (name : String)
    (field : FieldDescriptor) : Prop :=
  ∃ before after, fields = before ++ field :: after ∧ Matches field name ∧
    ∀ earlier ∈ before, ¬ Matches earlier name

theorem isNamed_iff {field : FieldDescriptor} {name : String} :
    field.isNamed name = true ↔ Matches field name := by
  rw [FieldDescriptor.isNamed, beq_iff_eq]
  rfl

theorem IsSpelling.foldedName_trim_eq {core text : List Char}
    (spelling : IsSpelling core text) :
    foldedName (Text.trim text) = foldedName (Text.trim core) := by
  obtain ⟨before, inner, after, beforeBlank, afterBlank, same, rfl⟩ := spelling
  rw [Text.trim_surrounded_of_blank beforeBlank afterBlank]
  exact Text.lowercase_eq_of_sameIgnoringCase (Text.sameIgnoringCase_trim same)

section Lookup

variable {record : String} {fields : List FieldDescriptor} {name : String}

theorem find?_eq_some_iff {field : FieldDescriptor} :
    (build record fields).find? name = some field ↔
      IsFirst fields name field := by
  simp only [find?_build, List.find?_eq_some_iff_append, isNamed_iff,
    Bool.not_eq_eq_eq_not, Bool.not_true, ← Bool.not_eq_true]
  constructor
  · rintro ⟨matching, before, after, shape, earlier⟩
    exact ⟨before, after, shape, matching, earlier⟩
  · rintro ⟨before, after, shape, matching, earlier⟩
    exact ⟨matching, before, after, shape, earlier⟩

theorem find?_eq_none_iff :
    (build record fields).find? name = none ↔
      ∀ field ∈ fields, ¬ Matches field name := by
  simp only [find?_build, List.find?_eq_none, isNamed_iff]

theorem find?_build_append (more : List FieldDescriptor) :
    (build record (fields ++ more)).find? name =
      ((build record fields).find? name).or
        ((build record more).find? name) := by
  simp only [find?_build, List.find?_append]

theorem find?_eq_of_isSpelling {core : List Char} {other : String}
    (spelling : IsSpelling core name.toList)
    (otherSpelling : IsSpelling core other.toList) :
    (build record fields).find? other = (build record fields).find? name := by
  simp only [find?_build, FieldDescriptor.isNamed,
    spelling.foldedName_trim_eq, otherSpelling.foldedName_trim_eq]

end Lookup

/-- Names lead to the first field that has them, if there is one, also when
fields are added behind the others.  Blanks around a name and the case of its
ASCII letters make no difference. -/
theorem find?_isFirst (record : String) (fields : List FieldDescriptor)
    (name : String) :
    (∀ field, (build record fields).find? name = some field ↔
      IsFirst fields name field) ∧
    ((build record fields).find? name = none ↔
      ∀ field ∈ fields, ¬ Matches field name) ∧
    (∀ field, (build record fields).resolve name = .ok field ↔
      IsFirst fields name field) ∧
    (∀ error, (build record fields).resolve name = .error error ↔
      (∀ field ∈ fields, ¬ Matches field name) ∧
        error = .fieldNotFound record name) ∧
    (∀ field more, (build record fields).find? name = some field →
      (build record (fields ++ more)).find? name = some field) ∧
    (∀ core other, IsSpelling core name.toList →
      IsSpelling core other.toList →
      (build record fields).find? other =
        (build record fields).find? name) := by
  refine ⟨fun _ => find?_eq_some_iff, find?_eq_none_iff, fun field => ?_,
    fun error => ?_, fun field more found => ?_, fun core other spelling
      otherSpelling => find?_eq_of_isSpelling spelling otherSpelling⟩
  · rw [resolve_build_eq_ok_iff, find?_eq_some_iff]
  · rw [resolve_build_eq_error_iff, find?_eq_none_iff]
  · rw [find?_build_append, found, Option.some_or]

/-- Three fields of sums, two of which have names that differ in case only. -/
def sums : List FieldDescriptor :=
  [⟨0, "Έσοδα ΦΠΑ", "income", .decimal, false⟩,
    ⟨1, "Max ΛΌΓΟΣ", "ratio", .float, true⟩,
    ⟨2, "MAX λόγος", "ratios", .float, true⟩]

/-- The final sigma of a name is found from a capital one, after which there
may be blanks, and the case of the letters before it does not matter. -/
theorem find?_isFirst_sums :
    (build "Sum" sums).resolve "mAX ΛΌΓΟΣ" =
      .ok ⟨1, "Max ΛΌΓΟΣ", "ratio", .float, true⟩ ∧
    (build "Sum" (sums ++ [⟨3, "max ΛΌΓΟς", "more", .text, true⟩])).find?
      "mAX ΛΌΓΟΣ" = some ⟨1, "Max ΛΌΓΟΣ", "ratio", .float, true⟩ ∧
    (build "Sum" sums).find? "\t Max ΛΌΓΟΣ\u00A0" =
      (build "Sum" sums).find? "mAX ΛΌΓΟΣ" ∧
    (build "Sum" sums).resolve " Έσοδα" =
      .error (.fieldNotFound "Sum" " Έσοδα") := by
  have first : IsFirst sums "mAX ΛΌΓΟΣ"
      ⟨1, "Max ΛΌΓΟΣ", "ratio", .float, true⟩ :=
    ⟨[_], [_], rfl, by decide +kernel, by decide +kernel⟩
  have unmatched : ∀ field ∈ sums, ¬ Matches field " Έσοδα" := by
    decide +kernel
  obtain ⟨found, -, resolved, -, added, spelled⟩ :=
    find?_isFirst "Sum" sums "mAX ΛΌΓΟΣ"
  refine ⟨(resolved _).mpr first, added _ _ ((found _).mpr first), ?_,
    ((find?_isFirst "Sum" sums " Έσοδα").2.2.2.1 _).mpr ⟨unmatched, rfl⟩⟩
  apply spelled "max ΛΌΓΟΣ".toList
  · exact ⟨[], "mAX ΛΌΓΟΣ".toList, [], by decide, by decide, by decide, rfl⟩
  · exact ⟨"\t ".toList, "Max ΛΌΓΟΣ".toList, ['\u00A0'], by decide, by decide,
      by decide, rfl⟩

end GridQuery.FieldTable
