import GridQuery.Field.Table

/-!
# Fields that names lead to

A name leads to a field of the record type, if to any: to the first one with
this name.
-/

namespace GridQuery

variable {ρ : Type} [Record ρ]

/-- Whether a name is that of a field, but for case and for the blanks around
it. -/
def FieldDescriptor.isNamed (field : FieldDescriptor) (name : String) : Bool :=
  FieldTable.foldedName field.name.toList ==
    FieldTable.foldedName (Text.trim name.toList)

namespace FieldTable

section Entries

variable (fields : List FieldDescriptor)
  (entries : List (List Char × FieldDescriptor)) (key : List Char)

theorem find?_insert (field : FieldDescriptor) :
    ((insert entries field).find? (·.1 == key)).map (·.2) =
      ((entries.find? (·.1 == key)).map (·.2)).or
        ([field].find? fun field => foldedName field.name.toList == key) := by
  unfold insert
  by_cases known : entries.any (·.1 == foldedName field.name.toList) = true
  · rw [if_pos known]
    by_cases same : foldedName field.name.toList = key
    · rw [same] at known
      obtain ⟨entry, found⟩ :=
        Option.isSome_iff_exists.mp (List.find?_isSome.mpr
          (List.any_eq_true.mp known))
      rw [found]
      rfl
    · simp [same]
  · rw [if_neg known, List.find?_append]
    by_cases same : foldedName field.name.toList = key
    · cases entries.find? (·.1 == key) <;> simp [same]
    · simp [same]

theorem find?_foldl_insert :
    ((fields.foldl insert entries).find? (·.1 == key)).map (·.2) =
      ((entries.find? (·.1 == key)).map (·.2)).or
        (fields.find? fun field => foldedName field.name.toList == key) := by
  induction fields generalizing entries with
  | nil => simp
  | cons field fields induction =>
      rw [List.foldl_cons, induction, find?_insert, Option.or_assoc,
        ← List.find?_append, List.singleton_append]

end Entries

/-- A name leads to the first field that has it. -/
theorem find?_build (record : String) (fields : List FieldDescriptor)
    (name : String) :
    (build record fields).find? name = fields.find? (·.isNamed name) :=
  find?_foldl_insert fields [] _

theorem mem_insert
    {entries : List (List Char × FieldDescriptor)} {added : FieldDescriptor}
    {entry : List Char × FieldDescriptor}
    (member : entry ∈ insert entries added) :
    entry ∈ entries ∨ entry.2 = added := by
  simp only [insert] at member
  split at member
  · exact Or.inl member
  · rcases List.mem_append.mp member with old | new
    · exact Or.inl old
    · rw [List.mem_singleton.mp new]
      exact Or.inr rfl

theorem mem_foldl_insert
    {fields : List FieldDescriptor}
    {entries : List (List Char × FieldDescriptor)}
    {entry : List Char × FieldDescriptor}
    (member : entry ∈ fields.foldl insert entries) :
    entry ∈ entries ∨ entry.2 ∈ fields := by
  induction fields generalizing entries with
  | nil => exact Or.inl member
  | cons added fields induction =>
      rcases induction member with earlier | later
      · rcases mem_insert earlier with old | new
        · exact Or.inl old
        · exact Or.inr (List.mem_cons.mpr (Or.inl new))
      · exact Or.inr (List.mem_cons_of_mem added later)

theorem mem_descriptors_of_find?
    {name : String} {field : FieldDescriptor}
    (found : (FieldTable.of ρ).find? name = some field) :
    field ∈ Record.descriptors ρ := by
  simp only [find?, Option.map_eq_some_iff] at found
  obtain ⟨entry, first, rfl⟩ := found
  rcases mem_foldl_insert (List.mem_of_find?_eq_some first) with none | member
  · cases none
  · exact member

theorem mem_descriptors_of_resolve
    {name : String} {field : FieldDescriptor}
    (resolved : (FieldTable.of ρ).resolve name = .ok field) :
    field ∈ Record.descriptors ρ := by
  unfold resolve at resolved
  split at resolved
  · rename_i found
    cases resolved
    exact mem_descriptors_of_find? found
  · cases resolved

section Resolve

variable {record name : String} {fields : List FieldDescriptor}
  {field : FieldDescriptor} {error : GridError}

theorem resolve_build_eq_ok_iff :
    (build record fields).resolve name = .ok field ↔
      (build record fields).find? name = some field := by
  rw [resolve]
  cases (build record fields).find? name <;> simp

theorem resolve_build_eq_error_iff :
    (build record fields).resolve name = .error error ↔
      (build record fields).find? name = none ∧
        error = .fieldNotFound record name := by
  rw [resolve]
  cases (build record fields).find? name <;> simp [build, eq_comm]

theorem resolve_eq_ok_iff :
    (FieldTable.of ρ).resolve name = .ok field ↔
      (Record.descriptors ρ).find? (·.isNamed name) = some field := by
  rw [FieldTable.of, resolve_build_eq_ok_iff, find?_build]

theorem resolve_eq_error_iff :
    (FieldTable.of ρ).resolve name = .error error ↔
      (∀ field ∈ Record.descriptors ρ, field.isNamed name = false) ∧
        error = .fieldNotFound (Record.typeName ρ) name := by
  rw [FieldTable.of, resolve_build_eq_error_iff, find?_build]
  simp [List.find?_eq_none]

end Resolve

end FieldTable

end GridQuery
