import GridQuery.Proofs.Declaration.ValueType
import GridQuery.Proofs.Filter.Select

/-!
# Select filters for variants

A field with the values of a declared enumeration is filtered by the name of a
variant.  The names of variants need not differ, and the case of letters does
not count, so the name stands for the first variant that has it.
-/

namespace GridQuery.Filter

open Declaration

variable {ρ : Type} [Record ρ] {field : FieldDescriptor}
  {options : ParsingOptions} {raw : String} {record : ρ}

theorem same_enumeration_iff {name : String} {value : FieldValue} :
    (FieldValue.enumeration name).same value = true ↔
      value = .enumeration name := by
  cases value with
  | enumeration other =>
      rw [FieldValue.same, beq_iff_eq, FieldValue.enumeration.injEq, eq_comm]
  | _ => simp [FieldValue.same]

theorem test_compileSingleSelect_enumeration {name : String}
    (coerced : coerce? field.kind options raw = some (.enumeration name)) :
    (compileSingleSelect field ⟨field.name, raw⟩ options).test record = true ↔
      field.read record = .enumeration name := by
  rw [test_compileSingleSelect coerced, same_enumeration_iff]
  constructor
  · exact And.right
  · intro read
    rw [read]
    exact ⟨rfl, rfl⟩

/-- The name of a variant without blanks around it is taken for the first
variant that has it but for case. -/
theorem coerce?_variantName {declaration : Declaration}
    {valueType : ValueType} {name first : String}
    (accepted : ValueType.ofDeclaration declaration = .ok valueType)
    (trimmed : Text.trim name.toList = name.toList)
    (spelled : FirstSpelled name declaration.items first) :
    coerce? valueType.kind options name = some (.enumeration first) := by
  have found := (find?_names_eq_some_iff
    (ValueType.namedVariants_of_ofDeclaration accepted)).mpr spelled
  simp only [coerce?, ValueType.kind, trimmed, found, Option.map_some]

/-- A filter for the name of a variant of an accepted enumeration, without
blanks around it, accepts what holds the name of the first variant that has
this name but for the case of ASCII letters.  If no other variant has it, this
is what holds the variant itself. -/
theorem compileSingleSelect_variantName
    {declaration : Declaration} {valueType : ValueType}
    (accepted : ValueType.ofDeclaration declaration = .ok valueType)
    (distinct : (declaration.items.map (·.identifier)).Nodup)
    {field : FieldDescriptor} (ofType : field.kind = valueType.kind)
    (options : ParsingOptions) {item held : Item} {name : String}
    (member : item ∈ declaration.items) (named : item.IsNamed name)
    (trimmed : Text.trim name.toList = name.toList)
    (heldMember : held ∈ declaration.items) {record : ρ}
    (holds : valueType.value? held.identifier = some (field.read record)) :
    (∃ first, FirstSpelled name declaration.items first ∧
      ((compileSingleSelect field ⟨field.name, name⟩ options).test record =
          true ↔
        held.IsNamed first)) ∧
    ((∀ rival ∈ declaration.items, rival ≠ item → ∀ rivalName,
        rival.IsNamed rivalName →
          Text.sameIgnoringCase rivalName.toList name.toList = false) →
      ((compileSingleSelect field ⟨field.name, name⟩ options).test record =
          true ↔
        held = item)) := by
  have variants := ValueType.namedVariants_of_ofDeclaration accepted
  obtain ⟨heldName, heldNamed⟩ := exists_isNamed variants heldMember
  have read : field.read record = .enumeration heldName :=
    (ValueType.value?_eq_some_iff accepted distinct heldMember heldNamed).mp
      holds
  obtain ⟨first, spelled⟩ := exists_firstSpelled variants member named
  have coerced : coerce? field.kind options name =
      some (.enumeration first) := by
    rw [ofType]
    exact coerce?_variantName accepted trimmed spelled
  have tested :
      (compileSingleSelect field ⟨field.name, name⟩ options).test record =
          true ↔ held.IsNamed first := by
    rw [test_compileSingleSelect_enumeration coerced, read,
      FieldValue.enumeration.injEq]
    constructor
    · intro sameName
      exact sameName ▸ heldNamed
    · intro alsoNamed
      exact alsoNamed.unique heldNamed
  refine ⟨⟨first, spelled, tested⟩, ?_⟩
  intro others
  rw [tested, spelled.eq_of_forall_other named others]
  constructor
  · intro sameName
    by_contra different
    have apart := others held heldMember different name sameName
    cases (beq_self_eq_true _).symm.trans apart
  · intro itself
    rw [itself]
    exact named

/-- Two variants whose identifiers differ in case only, and one that is renamed
to a name with blanks around it. -/
def doorDeclaration : Declaration :=
  ⟨.enumeration,
    [⟨"Open", "", [], false⟩, ⟨"OPEN", "", [], false⟩,
      ⟨"Shut", "", [⟨"grid", .arguments
        [.word "rename", .sign '=' false, .text " shut "]⟩], false⟩]⟩

def doorType : ValueType :=
  ⟨[("Open", "Open"), ("OPEN", "OPEN"), ("Shut", " shut ")]⟩

/-- A variant is not selected by its own name but another one is, and a name
with blanks around it selects every variant. -/
theorem compileSingleSelect_notByOwnName :
    let test (name : String) (cell : Cell) : Bool :=
      (compileSingleSelect (Cell.field doorType.kind false) ⟨"Cell", name⟩
        .default).test cell
    ValueType.ofDeclaration doorDeclaration = .ok doorType ∧
      doorType.value? "OPEN" = some (.enumeration "OPEN") ∧
      test "OPEN" ⟨.enumeration "OPEN"⟩ = false ∧
      test "OPEN" ⟨.enumeration "Open"⟩ = true ∧
      doorType.value? "Shut" = some (.enumeration " shut ") ∧
      test " shut " ⟨.enumeration "Open"⟩ = true := by
  intro test
  exact ⟨rfl, by decide, by decide +kernel, by decide +kernel, by decide,
    by decide +kernel⟩

/-- The name of the second variant is taken for that of the first. -/
theorem compileSingleSelect_variantName_door :
    let test (held : String) : Bool :=
      (compileSingleSelect (Cell.field doorType.kind false) ⟨"Cell", "OPEN"⟩
        .default).test (⟨.enumeration held⟩ : Cell)
    test "Open" = true ∧ test "OPEN" ≠ true ∧ test " shut " ≠ true := by
  intro test
  have accepted : ValueType.ofDeclaration doorDeclaration = .ok doorType := rfl
  have isOpen : Item.IsNamed ⟨"Open", "", [], false⟩ "Open" := rfl
  have selected (held : Item) (heldName : String)
      (listed : held ∈ doorDeclaration.items) (named : held.IsNamed heldName)
      (holds : doorType.value? held.identifier =
        some (.enumeration heldName)) :
      test heldName = true ↔ heldName = "Open" := by
    have ofType : (Cell.field doorType.kind false).kind = doorType.kind := rfl
    have itself : Item.IsNamed ⟨"OPEN", "", [], false⟩ "OPEN" := rfl
    have member : ⟨"OPEN", "", [], false⟩ ∈ doorDeclaration.items := by decide
    have read : doorType.value? held.identifier =
        some ((Cell.field doorType.kind false).read
          (⟨.enumeration heldName⟩ : Cell)) := holds
    obtain ⟨⟨first, spelled, tested⟩, -⟩ :=
      compileSingleSelect_variantName accepted (by decide) ofType .default
        member itself (by decide) listed read
    have isFirst : first = "Open" := by
      cases spelled with
      | here isNamed _ => exact isOpen.unique isNamed
      | there isNamed different _ =>
          rw [isOpen.unique isNamed] at different
          cases different
    rw [isFirst] at tested
    apply tested.trans
    constructor
    · intro alsoOpen
      exact alsoOpen.unique named
    · intro sameName
      exact sameName ▸ named
  refine ⟨(selected ⟨"Open", "", [], false⟩ "Open" (by decide) rfl rfl).mpr
    rfl, ?_, ?_⟩
  · rw [ne_eq, selected ⟨"OPEN", "", [], false⟩ "OPEN" (by decide) rfl rfl]
    decide
  · rw [ne_eq, selected (doorDeclaration.items.getLast (by decide)) " shut "
      (by decide) rfl rfl]
    decide

end GridQuery.Filter
