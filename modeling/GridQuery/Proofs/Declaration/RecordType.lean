import GridQuery.Declaration.RecordType
import GridQuery.Proofs.Declaration.Settings
import GridQuery.Proofs.Text.Occurrence

/-!
# Fields of record types from declarations

The fields of the grid are the fields of the declared structure that are not
skipped, in their order, each with the name that its attributes set or with its
identifier.
-/

namespace GridQuery.Declaration

/-- A field of a structure, with the settings of its attributes, is not skipped
and gives a field of the grid its name. -/
def Item.Names (item : Item) (settings : Settings) (name : String) : Prop :=
  Settings.ofAttributes .field item.attributes = .ok settings ∧
    settings.skip = false ∧
    name = settings.rename.getD (plainName item.identifier)

/-- All that the attributes of a field set, in their order. -/
def Item.settings (item : Item) : List Setting :=
  (settingsOfAttributes .field item.attributes).toOption.getD []

/-- The field of the grid for a field of a structure, with all that is set. -/
def Item.gridField (item : Item) : GridField :=
  .ofItem item (.ofList item.settings)

theorem settings_of_ofAttributes {item : Item} {settings : Settings}
    (accepted : Settings.ofAttributes .field item.attributes = .ok settings) :
    settingsOfAttributes .field item.attributes = .ok item.settings ∧
      settings = .ofList item.settings := by
  obtain ⟨list, set, rfl⟩ := exists_of_map_eq_ok accepted
  have whole : item.settings = list := by
    rw [Item.settings, set]
    rfl
  rw [whole]
  exact ⟨set, rfl⟩

theorem gridFields_eq_ok {items : List Item} {fields : List GridField}
    (accepted : gridFields items = .ok fields) :
    (∀ item ∈ items,
      settingsOfAttributes .field item.attributes = .ok item.settings) ∧
    fields = (items.filter fun item => !item.settings.contains .skip).map
      Item.gridField := by
  induction items generalizing fields with
  | nil =>
      cases accepted
      exact ⟨List.forall_mem_nil _, rfl⟩
  | cons item items induction =>
      obtain ⟨settings, set, rest⟩ := exists_of_bind_eq_ok accepted
      obtain ⟨others, acceptedOthers, rfl⟩ := exists_of_map_eq_ok rest
      obtain ⟨setAll, rfl⟩ := settings_of_ofAttributes set
      obtain ⟨setOthers, rfl⟩ := induction acceptedOthers
      refine ⟨List.forall_mem_cons.mpr ⟨setAll, setOthers⟩, ?_⟩
      rw [Settings.skip_ofList, List.filter_cons]
      cases item.settings.contains .skip <;> rfl

theorem numberedFrom_eq_zipIdx {α : Type} (start : Nat) (values : List α) :
    numberedFrom start values = (values.zipIdx start).map Prod.swap := by
  induction values generalizing start with
  | nil => rfl
  | cons value values induction =>
      rw [numberedFrom, induction, List.zipIdx_cons, List.map_cons]
      rfl

theorem lookup_numberedFrom {α : Type} (start : Nat) (values : List α)
    (index : Nat) :
    (numberedFrom start values).lookup (start + index) = values[index]? := by
  induction values generalizing start index with
  | nil => rfl
  | cons value values induction =>
      cases index with
      | zero => exact List.lookup_cons_self
      | succ index =>
          have later : (start + (index + 1) == start) = false := by simp
          have next : start + (index + 1) = start + 1 + index := by omega
          rw [numberedFrom, List.lookup_cons, later, next]
          exact induction (start + 1) index

namespace RecordType

theorem exists_gridFields_of_ofDeclaration {declaration : Declaration}
    {recordType : RecordType}
    (accepted : ofDeclaration declaration = .ok recordType) :
    ∃ fields, gridFields declaration.items = .ok fields ∧
      recordType = ofFields fields := by
  unfold ofDeclaration at accepted
  split at accepted
  · obtain ⟨fields, collected, same⟩ := exists_of_map_eq_ok accepted
    exact ⟨fields, collected, same.symm⟩
  all_goals cases accepted

theorem descriptors_ofFields (fields : List GridField)
    (kindOf : String → FieldKind) (isOptional : String → Bool) :
    (ofFields fields).descriptors kindOf isOptional =
      fields.zipIdx.map fun (field, index) =>
        ⟨index, field.name, field.column, kindOf field.type,
          isOptional field.type⟩ := by
  rw [descriptors, ofFields, numberedFrom_eq_zipIdx, List.map_map]
  rfl

theorem value_ofFields (fields : List GridField)
    (fieldValue : String → FieldValue) (index : Nat) :
    (ofFields fields).value fieldValue index =
      match fields[index]? with
      | some field => fieldValue field.identifier
      | none => .null := by
  have looked :=
    lookup_numberedFrom 0 (fields.map (·.identifier)) index
  rw [Nat.zero_add] at looked
  rw [value, ofFields, looked, List.getElem?_map]
  cases fields[index]? <;> rfl

theorem exists_names_of_mem_descriptors {declaration : Declaration}
    {recordType : RecordType} {kindOf : String → FieldKind}
    {isOptional : String → Bool} {descriptor : FieldDescriptor}
    (accepted : ofDeclaration declaration = .ok recordType)
    (member : descriptor ∈ recordType.descriptors kindOf isOptional) :
    ∃ item ∈ declaration.items, ∃ settings,
      item.Names settings descriptor.name := by
  obtain ⟨fields, collected, rfl⟩ :=
    exists_gridFields_of_ofDeclaration accepted
  obtain ⟨set, rfl⟩ := gridFields_eq_ok collected
  rw [descriptors_ofFields] at member
  obtain ⟨⟨field, index⟩, placed, rfl⟩ := List.mem_map.mp member
  obtain ⟨item, kept, rfl⟩ :=
    List.mem_map.mp (List.fst_mem_of_mem_zipIdx placed)
  obtain ⟨listed, unskipped⟩ := List.mem_filter.mp kept
  refine ⟨item, listed, .ofList item.settings, ?_, ?_, rfl⟩
  · rw [Settings.ofAttributes, set item listed]
    rfl
  · rw [Settings.skip_ofList]
    simpa using unskipped

end RecordType

theorem trim_plainName {identifier : String}
    (solid : ∀ c ∈ identifier.toList, Text.isBlank c = false) :
    Text.trim (plainName identifier).toList =
      (plainName identifier).toList := by
  have within : (plainName identifier).toList ⊆ identifier.toList := by
    unfold plainName
    split
    · rename_i name dropped
      rw [Text.dropStart?_eq_some_iff.mp dropped, String.toList_ofList]
      exact List.subset_append_right _ name
    · exact List.Subset.refl _
  apply Text.trim_eq_of_forall_not_isBlank
  intro c member
  exact solid c (within member)

end GridQuery.Declaration
