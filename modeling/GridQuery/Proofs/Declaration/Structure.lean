import GridQuery.Declaration.Structure
import GridQuery.Proofs.Declaration.FieldType
import GridQuery.Proofs.Declaration.RecordType
import Mathlib.Data.List.Nodup

/-!
# Records of declared structures

The descriptors of a declared structure and the values of its records are kept
apart, and they agree: each descriptor is that of one field, in the order of the
declaration, and what is read for it is the value of this field.  Nothing else
can be read.
-/

namespace GridQuery

namespace Declaration

/-- The name of an identifier without the mark `r#`, if it has this mark. -/
inductive PlainName (identifier : String) : String → Prop where
  | marked {name : String} :
      identifier.toList = ['r', '#'] ++ name.toList →
      PlainName identifier name
  | unmarked :
      ¬ ['r', '#'] <+: identifier.toList →
      PlainName identifier identifier

/-- The name of a field: the one that is set last, or the plain name. -/
inductive Item.HasName (item : Item) : String → Prop where
  | set {name : String} :
      LastOf .rename item.settings (some name) →
      item.HasName name
  | plain {name : String} :
      LastOf .rename item.settings none →
      PlainName item.identifier name →
      item.HasName name

/-- The column of a field: the one that is set last, or the first one that an
attribute of the store names, or the plain name. -/
inductive Item.HasColumn (item : Item) : String → Prop where
  | set {column : String} :
      LastOf .column item.settings (some column) →
      item.HasColumn column
  | stored {before after : List Attribute} {entry : Attribute}
      {column : String} :
      LastOf .column item.settings none →
      item.attributes = before ++ entry :: after →
      (∀ earlier ∈ before, earlier.storeColumn? = none) →
      entry.storeColumn? = some column →
      item.HasColumn column
  | plain {name : String} :
      LastOf .column item.settings none →
      (∀ entry ∈ item.attributes, entry.storeColumn? = none) →
      PlainName item.identifier name →
      item.HasColumn name

theorem plainName_isPlain (identifier : String) :
    PlainName identifier (plainName identifier) := by
  unfold plainName
  cases dropped : Text.dropStart? ['r', '#'] identifier.toList with
  | none =>
      apply PlainName.unmarked
      rintro ⟨rest, marked⟩
      rw [Text.dropStart?_eq_some_iff.mpr marked.symm] at dropped
      cases dropped
  | some name =>
      apply PlainName.marked
      rw [String.toList_ofList]
      exact Text.dropStart?_eq_some_iff.mp dropped

theorem Item.hasName_gridField (item : Item) :
    item.HasName item.gridField.name := by
  have last := Settings.lastOf_rename item.settings
  unfold gridField GridField.ofItem
  cases renamed : (Settings.ofList item.settings).rename with
  | none =>
      rw [renamed] at last
      exact .plain last (plainName_isPlain item.identifier)
  | some name =>
      rw [renamed] at last
      exact .set last

theorem Item.hasColumn_gridField (item : Item) :
    item.HasColumn item.gridField.column := by
  have last := Settings.lastOf_column item.settings
  unfold gridField GridField.ofItem
  cases set : (Settings.ofList item.settings).column with
  | some column =>
      rw [set] at last
      exact .set last
  | none =>
      rw [set] at last
      cases stored : storeColumn? item.attributes with
      | none =>
          exact .plain last (List.findSome?_eq_none_iff.mp stored)
            (plainName_isPlain item.identifier)
      | some column =>
          obtain ⟨before, entry, after, attributes, names, none⟩ :=
            List.findSome?_eq_some_iff.mp stored
          exact .stored last attributes none names

end Declaration

open Declaration

namespace RecordStructure

variable (declared : RecordStructure)

/-- The fields of a structure that are not skipped. -/
def kept : List Item :=
  declared.declaration.items.filter fun item => !item.settings.contains .skip

/-- A descriptor is that of a field of a structure, and what it reads of a
record is the value of this field. -/
structure Describes (index : Nat) (item : Item)
    (descriptor : FieldDescriptor) : Prop where
  index_eq : descriptor.index = index
  hasName : item.HasName descriptor.name
  hasColumn : item.HasColumn descriptor.column
  kind_eq : descriptor.kind = (declared.typeOf item.type).kind
  isOptional_eq :
    descriptor.isOptional = (declared.typeOf item.type).isOptional
  read_eq : ∀ (record : declared.Instance) member,
    descriptor.read record =
      (declared.typeOf item.type).fieldValue (record.contents item member)
  hasKind_or_null : ∀ record : declared.Instance,
    (descriptor.read record).hasKind descriptor.kind = true ∨
      descriptor.isOptional = true ∧ descriptor.read record = .null

variable {declared} {item : Item} {index : Nat}

def descriptor (declared : RecordStructure) (index : Nat) (item : Item) :
    FieldDescriptor :=
  ⟨index, item.gridField.name, item.gridField.column,
    (declared.typeOf item.type).kind,
    (declared.typeOf item.type).isOptional⟩

theorem recordType_eq :
    (∀ item ∈ declared.declaration.items,
      settingsOfAttributes .field item.attributes = .ok item.settings) ∧
    declared.recordType = .ofFields (declared.kept.map Item.gridField) := by
  obtain ⟨fields, collected, recordType⟩ :=
    RecordType.exists_gridFields_of_ofDeclaration declared.accepted
  obtain ⟨set, rfl⟩ := gridFields_eq_ok collected
  exact ⟨set, recordType⟩

theorem fieldValue_identifier (record : declared.Instance)
    (member : item ∈ declared.declaration.items) :
    record.fieldValue item.identifier =
      (declared.typeOf item.type).fieldValue (record.contents item member) := by
  unfold Instance.fieldValue
  split
  · rename_i other found
    have same : other.identifier = item.identifier := by
      simpa using List.find?_some found
    obtain rfl : other = item :=
      List.inj_on_of_nodup_map declared.distinct
        (List.mem_of_find?_eq_some found) member same
    rfl
  · rename_i missing
    have different := List.find?_eq_none.mp missing item member
    exact absurd (beq_self_eq_true _) different

theorem value_eq (record : declared.Instance) (index : Nat) :
    Record.value record index =
      match declared.kept[index]? with
      | some item => record.fieldValue item.identifier
      | none => .null := by
  change declared.recordType.value record.fieldValue index = _
  rw [recordType_eq.2, RecordType.value_ofFields, List.getElem?_map]
  cases declared.kept[index]? <;> rfl

theorem value_of_kept (record : declared.Instance)
    (place : declared.kept[index]? = some item)
    (member : item ∈ declared.declaration.items) :
    Record.value record index =
      (declared.typeOf item.type).fieldValue (record.contents item member) := by
  rw [value_eq, place]
  exact fieldValue_identifier record member

theorem value_of_length_le (record : declared.Instance)
    (beyond : declared.kept.length ≤ index) :
    Record.value record index = .null := by
  rw [value_eq, List.getElem?_eq_none beyond]

theorem descriptors_eq :
    Record.descriptors declared.Instance =
      declared.kept.zipIdx.map fun (item, index) =>
        declared.descriptor index item := by
  change declared.recordType.descriptors _ _ = _
  rw [recordType_eq.2, RecordType.descriptors_ofFields, List.zipIdx_map,
    List.map_map]
  rfl

theorem length_descriptors :
    (Record.descriptors declared.Instance).length = declared.kept.length := by
  rw [descriptors_eq, List.length_map, List.length_zipIdx]

theorem getElem?_descriptors (place : declared.kept[index]? = some item) :
    (Record.descriptors declared.Instance)[index]? =
      some (declared.descriptor index item) := by
  rw [descriptors_eq, List.getElem?_map, List.getElem?_zipIdx, place,
    Nat.zero_add]
  rfl

theorem describes_descriptor (place : declared.kept[index]? = some item) :
    declared.Describes index item (declared.descriptor index item) := by
  have member : item ∈ declared.declaration.items :=
    List.mem_of_mem_filter (List.mem_of_getElem? place)
  have read (record : declared.Instance) :
      (declared.descriptor index item).read record =
        (declared.typeOf item.type).fieldValue
          (record.contents item member) :=
    value_of_kept record place member
  exact
    { index_eq := rfl
      hasName := item.hasName_gridField
      hasColumn := item.hasColumn_gridField
      kind_eq := rfl
      isOptional_eq := rfl
      read_eq := fun record _ => read record
      hasKind_or_null := by
        intro record
        rw [read]
        exact FieldType.hasKind_fieldValue _ _ }

/-- The descriptors of a declared structure are those of the fields that are not
skipped, in their order, and each of them reads the value of its own field.  No
other index has a value, and what a record holds for skipped fields cannot be
read. -/
theorem descriptors_describe_kept (declared : RecordStructure) :
    (∀ item ∈ declared.declaration.items,
      settingsOfAttributes .field item.attributes = .ok item.settings) ∧
    (Record.descriptors declared.Instance).length = declared.kept.length ∧
    (∀ (index : Nat) item, declared.kept[index]? = some item →
      ∃ descriptor,
        (Record.descriptors declared.Instance)[index]? = some descriptor ∧
        declared.Describes index item descriptor) ∧
    (∀ (record : declared.Instance) index, declared.kept.length ≤ index →
      Record.value record index = .null) ∧
    ∀ record other : declared.Instance,
      (∀ item ∈ declared.kept, ∀ member,
        record.contents item member = other.contents item member) →
      ∀ index, Record.value record index = Record.value other index := by
  refine ⟨recordType_eq.1, length_descriptors,
    fun index item place => ⟨declared.descriptor index item,
      getElem?_descriptors place, describes_descriptor place⟩,
    fun record _ => value_of_length_le record, ?_⟩
  intro record other same index
  cases place : declared.kept[index]? with
  | none =>
      have beyond := List.getElem?_eq_none_iff.mp place
      rw [value_of_length_le record beyond, value_of_length_le other beyond]
  | some item =>
      have listed := List.mem_of_getElem? place
      have member : item ∈ declared.declaration.items :=
        List.mem_of_mem_filter listed
      rw [value_of_kept record place member, same item listed member,
        value_of_kept other place member]

/-- The states of an account, one of which is renamed. -/
def accountState : ValueType :=
  ⟨[("Open", "Open"), ("OnHold", "on-hold")]⟩

/-- The types of the fields of an account, each with a value. -/
def accountField : String → (type : FieldType) × type.Value
  | "i32" => ⟨.integer .int32, Int32.ofInt 7⟩
  | "Option<i64>" => ⟨.optional (.integer .int64), none⟩
  | "State" => ⟨.enumeration accountState, ⟨"OnHold", rfl⟩⟩
  | _ => ⟨.text, "hidden"⟩

/-- A field with a mark on its identifier and a column in the store. -/
def accountType : Item :=
  ⟨"r#type", "State",
    [⟨"sea_orm", .arguments
      [.word "column_name", .sign '=' false, .text "state"]⟩], false⟩

/-- A structure with a field the column of which is set twice, and a field that
is skipped. -/
def accountStructure : RecordStructure where
  typeName := "Account"
  declaration :=
    let set (key value : String) : Attribute :=
      ⟨"grid", .arguments [.word key, .sign '=' false, .text value]⟩
    ⟨.namedFields,
      [⟨"id", "i32", [set "rename" "Id"], false⟩,
        ⟨"notes", "String", [⟨"grid", .arguments [.word "skip"]⟩], false⟩,
        ⟨"balance", "Option<i64>",
          [set "column" "balance", set "column" "balance_cents"], false⟩,
        accountType]⟩
  typeOf text := (accountField text).1
  recordType := .ofFields
    [⟨"id", "i32", "Id", "id"⟩,
      ⟨"balance", "Option<i64>", "balance", "balance_cents"⟩,
      ⟨"r#type", "State", "type", "state"⟩]
  accepted := rfl
  distinct := by decide

def account : accountStructure.Instance :=
  ⟨fun item _ => (accountField item.type).2⟩

/-- The last field of an account is read by its last descriptor. -/
theorem descriptors_describe_kept_account :
    ∃ descriptor,
      (Record.descriptors accountStructure.Instance)[2]? = some descriptor ∧
      accountStructure.Describes 2 accountType descriptor ∧
      descriptor.read account = .enumeration "on-hold" ∧
      Record.value account 3 = .null := by
  obtain ⟨-, -, described, beyond, -⟩ :=
    descriptors_describe_kept accountStructure
  obtain ⟨descriptor, found, describes⟩ := described 2 accountType rfl
  refine ⟨descriptor, found, describes, ?_, beyond account 3 (by decide)⟩
  rw [describes.read_eq account (by decide)]
  rfl

example : Record.descriptors accountStructure.Instance =
    [⟨0, "Id", "id", .integer, false⟩,
      ⟨1, "balance", "balance_cents", .integer, true⟩,
      ⟨2, "type", "state", .enumeration ["Open", "on-hold"], false⟩] := rfl

end RecordStructure

end GridQuery
