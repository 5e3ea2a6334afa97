import GridQuery.Proofs.Declaration.RecordType
import GridQuery.Proofs.Field.Table
import GridQuery.Proofs.Text.LowercaseTrim

/-!
# Fields and their own names

A field is asked for by its own name.  Blanks around a name are taken away
where it is asked for, but not where it is declared, so this works for the names
without blanks around them, and to a field with another name nothing leads.
-/

namespace GridQuery

open Declaration

/-- What the own name of a field should lead to when the given fields stand
before it: the first of them whose name differs in case at most, or else the
field itself. -/
def FieldDescriptor.namesake (field : FieldDescriptor)
    (before : List FieldDescriptor) : FieldDescriptor :=
  (before.find? fun earlier =>
    Text.lowercase earlier.name.toList ==
      Text.lowercase field.name.toList).getD field

namespace FieldTable

variable {record name : String} {before after fields : List FieldDescriptor}
  {field : FieldDescriptor}

theorem lowercase_name_namesake (before : List FieldDescriptor)
    (field : FieldDescriptor) :
    Text.lowercase (field.namesake before).name.toList =
      Text.lowercase field.name.toList := by
  unfold FieldDescriptor.namesake
  cases found : before.find? fun earlier =>
      Text.lowercase earlier.name.toList ==
        Text.lowercase field.name.toList with
  | none => rfl
  | some earlier => simpa using List.find?_some found

/-- What a name leads to has a name without blanks around it. -/
theorem trim_name_of_find?
    (found : (build record fields).find? name = some field) :
    Text.trim field.name.toList = field.name.toList := by
  rw [find?_build] at found
  have named : Text.lowercase field.name.toList =
      Text.lowercase (Text.trim name.toList) := by
    simpa [FieldDescriptor.isNamed, foldedName] using List.find?_some found
  apply Text.lowercase_trim_eq_iff.mp
  rw [← Text.trim_lowercase, named, Text.trim_lowercase, Text.trim_trim]

/-- The own name of a field leads where it should if there are no blanks around
it. -/
theorem find?_ownName
    (trimmed : Text.trim field.name.toList = field.name.toList) :
    (build record (before ++ field :: after)).find? field.name =
      some (field.namesake before) := by
  have test : (fun other : FieldDescriptor => other.isNamed field.name) =
      fun other => Text.lowercase other.name.toList ==
        Text.lowercase field.name.toList := by
    funext other
    rw [FieldDescriptor.isNamed, trimmed]
    rfl
  have itself : (field :: after).find? (fun other =>
      Text.lowercase other.name.toList ==
        Text.lowercase field.name.toList) = some field :=
    List.find?_cons_of_pos (beq_self_eq_true _)
  rw [find?_build, test, List.find?_append, itself, FieldDescriptor.namesake]
  cases before.find? _ <;> rfl

theorem find?_ownName_iff :
    (build record (before ++ field :: after)).find? field.name =
        some (field.namesake before) ↔
      Text.trim field.name.toList = field.name.toList := by
  constructor
  · intro found
    have same := lowercase_name_namesake before field
    have trimmed := trim_name_of_find? found
    apply Text.lowercase_trim_eq_iff.mp
    rw [← Text.trim_lowercase, ← same, Text.trim_lowercase, trimmed]
  · exact find?_ownName

/-- A field is found under its own name, or an earlier one that differs from it
in case at most, exactly if there are no blanks around the name; otherwise no
name leads to the field.  In the table of a declared record type the names are
identifiers and what fields were renamed to, which is never blank, so it is only
a renaming that can put blanks around a name. -/
theorem resolve_ownName_iff (record : String) :
    (∀ before field after,
      ((build record (before ++ field :: after)).resolve field.name =
          .ok (field.namesake before) ↔
        Text.trim field.name.toList = field.name.toList) ∧
      (Text.trim field.name.toList ≠ field.name.toList →
        ∀ name,
          (build record (before ++ field :: after)).find? name ≠
            some field)) ∧
    ∀ declaration recordType kindOf isOptional before field after,
      RecordType.ofDeclaration declaration = .ok recordType →
      (∀ item ∈ declaration.items, ∀ c ∈ item.identifier.toList,
        Text.isBlank c = false) →
      recordType.descriptors kindOf isOptional = before ++ field :: after →
      ∃ item ∈ declaration.items, ∃ settings,
        item.Names settings field.name ∧
        (∀ renamed, settings.rename = some renamed →
          ¬ Text.Blank renamed.toList) ∧
        ((build record (recordType.descriptors kindOf isOptional)).resolve
            field.name = .ok (field.namesake before) ↔
          ∀ renamed, settings.rename = some renamed →
            Text.trim renamed.toList = renamed.toList) := by
  have ofList (before : List FieldDescriptor) (field : FieldDescriptor)
      (after : List FieldDescriptor) :
      (build record (before ++ field :: after)).resolve field.name =
          .ok (field.namesake before) ↔
        Text.trim field.name.toList = field.name.toList := by
    rw [resolve_build_eq_ok_iff, find?_ownName_iff]
  refine ⟨fun before field after => ⟨ofList before field after, ?_⟩, ?_⟩
  · intro padded name found
    exact padded (trim_name_of_find? found)
  · intro declaration recordType kindOf isOptional before field after accepted
      unspaced shape
    have member : field ∈ recordType.descriptors kindOf isOptional := by
      rw [shape]
      exact List.mem_append_right before List.mem_cons_self
    obtain ⟨item, listed, settings, set, kept, name_eq⟩ :=
      RecordType.exists_names_of_mem_descriptors accepted member
    refine ⟨item, listed, settings, ⟨set, kept, name_eq⟩, ?_, ?_⟩
    · intro renamed rename
      exact Settings.not_blank_of_rename set rename
    · rw [shape, ofList, name_eq]
      cases settings.rename with
      | none => simpa using trim_plainName (unspaced item listed)
      | some renamed => simp

/-- A structure with a field that is renamed to its name in a form, and another
field that is renamed to a name with blanks around it. -/
def invoiceDeclaration : Declaration :=
  let rename (name : String) : Attribute :=
    ⟨"grid", .arguments [.word "rename", .sign '=' false, .text name]⟩
  ⟨.namedFields,
    [⟨"total", "Decimal", [], false⟩,
      ⟨"r#type", "Decimal", [], false⟩,
      ⟨"sum", "Decimal", [rename "TOTAL"], false⟩,
      ⟨"tax", "Decimal", [rename " Tax "], false⟩]⟩

def paddedTax : FieldDescriptor :=
  ⟨3, " Tax ", "tax", .decimal, false⟩

/-- The descriptors of the declared structure. -/
def invoiceFields : List FieldDescriptor :=
  [⟨0, "total", "total", .decimal, false⟩, ⟨1, "type", "type", .decimal, false⟩,
    ⟨2, "TOTAL", "sum", .decimal, false⟩, paddedTax]

theorem descriptors_invoice :
    ∃ recordType,
      RecordType.ofDeclaration invoiceDeclaration = .ok recordType ∧
      recordType.descriptors (fun _ => .decimal) (fun _ => false) =
        invoiceFields :=
  ⟨_, rfl, rfl⟩

/-- A field is declared with blanks around its name, and asked for by exactly
this name it is not found. -/
theorem resolve_paddedName :
    (∃ recordType,
      RecordType.ofDeclaration invoiceDeclaration = .ok recordType ∧
      recordType.descriptors (fun _ => .decimal) (fun _ => false) =
        invoiceFields) ∧
    paddedTax ∈ invoiceFields ∧ paddedTax.name = " Tax " ∧
    (build "Invoice" invoiceFields).resolve " Tax " =
      .error (.fieldNotFound "Invoice" " Tax ") := by
  refine ⟨descriptors_invoice, by decide +kernel, rfl, ?_⟩
  rw [resolve_build_eq_error_iff]
  exact ⟨by decide +kernel, rfl⟩

/-- A plain name leads to its field, one that repeats an earlier one leads to
the earlier field, and one with blanks around it leads to none. -/
theorem resolve_ownName_iff_invoice :
    (build "Invoice" invoiceFields).resolve "type" =
      .ok ⟨1, "type", "type", .decimal, false⟩ ∧
    (build "Invoice" invoiceFields).resolve "TOTAL" =
      .ok ⟨0, "total", "total", .decimal, false⟩ ∧
    ∃ item ∈ invoiceDeclaration.items, ∃ settings,
      item.Names settings " Tax " ∧
      ¬ ∀ renamed, settings.rename = some renamed →
        Text.trim renamed.toList = renamed.toList := by
  obtain ⟨recordType, accepted, described⟩ := descriptors_invoice
  obtain ⟨ofList, ofDeclaration⟩ := resolve_ownName_iff "Invoice"
  have unspaced : ∀ item ∈ invoiceDeclaration.items,
      ∀ c ∈ item.identifier.toList, Text.isBlank c = false := by
    simp [invoiceDeclaration, Text.isBlank]
  have namesake : FieldDescriptor.namesake
      ⟨2, "TOTAL", "sum", .decimal, false⟩ (invoiceFields.take 2) =
        ⟨0, "total", "total", .decimal, false⟩ := by
    decide +kernel
  have other : FieldDescriptor.namesake
      ⟨1, "type", "type", .decimal, false⟩ (invoiceFields.take 1) =
        ⟨1, "type", "type", .decimal, false⟩ := by
    decide +kernel
  refine ⟨?_, ?_, ?_⟩
  · rw [← other]
    exact (ofList (invoiceFields.take 1) _ (invoiceFields.drop 2)).1.mpr
      (by decide +kernel)
  · rw [← namesake]
    exact (ofList (invoiceFields.take 2) _ (invoiceFields.drop 3)).1.mpr
      (by decide +kernel)
  · obtain ⟨item, listed, settings, names, -, exact_iff⟩ :=
      ofDeclaration invoiceDeclaration recordType (fun _ => .decimal)
        (fun _ => false) (invoiceFields.take 3) paddedTax [] accepted
        unspaced described
    refine ⟨item, listed, settings, names, ?_⟩
    intro unpadded
    have found := exact_iff.mpr unpadded
    rw [described] at found
    have trimmed := (ofList (invoiceFields.take 3) paddedTax []).1.mp found
    exact absurd trimmed (by decide +kernel)

end FieldTable

end GridQuery
