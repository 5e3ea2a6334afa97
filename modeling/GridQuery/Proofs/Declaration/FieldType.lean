import GridQuery.Declaration.FieldType

/-!
# Values of declared types

A value of the type of a field is a value of the kind of the field, or it is
missing, which only an optional type allows.  Numbers stay what they are.
-/

namespace GridQuery.Declaration

namespace IntegerType

/-- The number that a value is. -/
def toInt : (type : IntegerType) → type.Value → Int
  | int8, value => Int8.toInt value
  | int16, value => Int16.toInt value
  | int32, value => Int32.toInt value
  | int64, value => Int64.toInt value
  | uint8, value => (UInt8.toNat value : Int)
  | uint16, value => (UInt16.toNat value : Int)
  | uint32, value => (UInt32.toNat value : Int)

theorem toInt_widen (type : IntegerType) (value : type.Value) :
    (type.widen value).toInt = type.toInt value := by
  cases type with
  | int8 => exact Int8.toInt_toInt64 value
  | int16 => exact Int16.toInt_toInt64 value
  | int32 => exact Int32.toInt_toInt64 value
  | int64 => rfl
  | uint8 =>
      apply Int64.toInt_ofNat_of_lt
      exact Nat.lt_trans (UInt8.toNat_lt value) (by decide)
  | uint16 =>
      apply Int64.toInt_ofNat_of_lt
      exact Nat.lt_trans (UInt16.toNat_lt value) (by decide)
  | uint32 =>
      apply Int64.toInt_ofNat_of_lt
      exact Nat.lt_trans (UInt32.toNat_lt value) (by decide)

end IntegerType

theorem ValueType.hasKind_of_value? {type : ValueType} {identifier : String}
    {value : FieldValue} (found : type.value? identifier = some value) :
    value.hasKind type.kind = true := by
  obtain ⟨name, looked, rfl⟩ := Option.map_eq_some_iff.mp found
  obtain ⟨before, after, variants, -⟩ := List.lookup_eq_some_iff.mp looked
  have listed : (identifier, name) ∈ type.variants := by
    rw [variants]
    exact List.mem_append_right before List.mem_cons_self
  apply List.contains_iff_mem.mpr
  exact List.mem_map_of_mem listed

namespace FieldType

theorem hasKind_fieldValue (type : FieldType) (value : type.Value) :
    (type.fieldValue value).hasKind type.kind = true ∨
      type.isOptional = true ∧ type.fieldValue value = .null := by
  induction type with
  | enumeration type =>
      exact .inl (ValueType.hasKind_of_value? (Option.some_get value.2).symm)
  | optional content induction =>
      cases value with
      | none => exact .inr ⟨rfl, rfl⟩
      | some value =>
          rcases induction value with ofKind | ⟨-, missing⟩
          · exact .inl ofKind
          · exact .inr ⟨rfl, missing⟩
  | _ => exact .inl rfl

end FieldType

end GridQuery.Declaration
