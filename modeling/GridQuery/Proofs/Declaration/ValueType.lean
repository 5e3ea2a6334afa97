import GridQuery.Declaration.ValueType
import GridQuery.Proofs.FirstFailure
import GridQuery.Text.Ascii

/-!
# Variants of value types from declarations

An accepted enumeration has a name for each of its variants.  Nothing keeps
these names apart, and a name leads to the first variant that has it, whatever
the case of its ASCII letters.
-/

namespace GridQuery.Declaration

/-- A variant of an enumeration is accepted with a name. -/
def Item.IsNamed (item : Item) (name : String) : Prop :=
  namedVariant item = .ok (item.identifier, name)

/-- The name of the first variant that has a given name but for the case of
ASCII letters: all variants that are passed over have other names. -/
inductive FirstSpelled (name : String) : List Item → String → Prop where
  | here {item : Item} {rest : List Item} {first : String} :
      item.IsNamed first →
      Text.sameIgnoringCase first.toList name.toList = true →
      FirstSpelled name (item :: rest) first
  | there {item : Item} {rest : List Item} {other first : String} :
      item.IsNamed other →
      Text.sameIgnoringCase other.toList name.toList = false →
      FirstSpelled name rest first →
      FirstSpelled name (item :: rest) first

variable {item : Item} {items : List Item} {name other first : String}
  {variants : List (String × String)}

theorem Item.IsNamed.unique (named : item.IsNamed name)
    (also : item.IsNamed other) : other = name :=
  congrArg Prod.snd (Except.ok.inj (also.symm.trans named))

theorem isNamed_of_namedVariant {variant : String × String}
    (accepted : namedVariant item = .ok variant) :
    ∃ name, variant = (item.identifier, name) ∧ item.IsNamed name := by
  have identifier : variant.1 = item.identifier := by
    unfold namedVariant at accepted
    split at accepted
    · cases accepted
    · obtain ⟨settings, -, rfl⟩ := exists_of_map_eq_ok accepted
      rfl
  have whole : variant = (item.identifier, variant.2) :=
    Prod.ext identifier rfl
  exact ⟨variant.2, whole, accepted.trans (congrArg Except.ok whole)⟩

theorem namedVariants_cons_eq_ok
    (accepted : namedVariants (item :: items) = .ok variants) :
    ∃ name others, item.IsNamed name ∧ namedVariants items = .ok others ∧
      variants = (item.identifier, name) :: others := by
  obtain ⟨variant, named, rest⟩ := exists_of_bind_eq_ok accepted
  obtain ⟨others, acceptedOthers, rfl⟩ := exists_of_map_eq_ok rest
  obtain ⟨name, rfl, isNamed⟩ := isNamed_of_namedVariant named
  exact ⟨name, others, isNamed, acceptedOthers, rfl⟩

theorem exists_isNamed (accepted : namedVariants items = .ok variants)
    (member : item ∈ items) : ∃ name, item.IsNamed name := by
  induction items generalizing variants with
  | nil => cases member
  | cons head items induction =>
      obtain ⟨headName, others, isNamed, acceptedOthers, -⟩ :=
        namedVariants_cons_eq_ok accepted
      rcases List.mem_cons.mp member with rfl | later
      · exact ⟨headName, isNamed⟩
      · exact induction acceptedOthers later

theorem lookup_variants (accepted : namedVariants items = .ok variants)
    (distinct : (items.map (·.identifier)).Nodup) (member : item ∈ items)
    (named : item.IsNamed name) :
    variants.lookup item.identifier = some name := by
  induction items generalizing variants with
  | nil => cases member
  | cons head items induction =>
      obtain ⟨headName, others, isNamed, acceptedOthers, rfl⟩ :=
        namedVariants_cons_eq_ok accepted
      obtain ⟨apart, distinctItems⟩ := List.nodup_cons.mp distinct
      rcases List.mem_cons.mp member with rfl | later
      · rw [List.lookup_cons_self, named.unique isNamed]
      · have different : item.identifier ≠ head.identifier := by
          intro same
          exact apart (List.mem_map.mpr ⟨item, later, same⟩)
        rw [List.lookup_cons, beq_false_of_ne different]
        exact induction acceptedOthers distinctItems later

theorem find?_names_eq_some_iff
    (accepted : namedVariants items = .ok variants) :
    (variants.map (·.2)).find? (fun variant =>
        Text.sameIgnoringCase variant.toList name.toList) = some first ↔
      FirstSpelled name items first := by
  induction items generalizing variants with
  | nil =>
      cases accepted
      constructor
      · intro found
        cases found
      · intro spelled
        cases spelled
  | cons head items induction =>
      obtain ⟨headName, others, isNamed, acceptedOthers, rfl⟩ :=
        namedVariants_cons_eq_ok accepted
      rw [List.map_cons, List.find?_cons]
      cases same : Text.sameIgnoringCase headName.toList name.toList with
      | true =>
          constructor
          · intro found
            obtain rfl : headName = first := Option.some.inj found
            exact .here isNamed same
          · intro spelled
            cases spelled with
            | here named _ => exact congrArg some (named.unique isNamed)
            | there named different _ =>
                rw [← named.unique isNamed, same] at different
                cases different
      | false =>
          rw [induction acceptedOthers]
          constructor
          · exact .there isNamed same
          · intro spelled
            cases spelled with
            | here named alike =>
                rw [named.unique isNamed, alike] at same
                cases same
            | there _ _ later => exact later

theorem FirstSpelled.exists_isNamed (spelled : FirstSpelled name items first) :
    (∃ item ∈ items, item.IsNamed first) ∧
      Text.sameIgnoringCase first.toList name.toList = true := by
  induction spelled with
  | here named same => exact ⟨⟨_, List.mem_cons_self, named⟩, same⟩
  | there _ _ _ induction =>
      obtain ⟨⟨item, member, named⟩, same⟩ := induction
      exact ⟨⟨item, List.mem_cons_of_mem _ member, named⟩, same⟩

theorem exists_firstSpelled (accepted : namedVariants items = .ok variants)
    (member : item ∈ items) (named : item.IsNamed name) :
    ∃ first, FirstSpelled name items first := by
  induction items generalizing variants with
  | nil => cases member
  | cons head items induction =>
      obtain ⟨headName, others, isNamed, acceptedOthers, -⟩ :=
        namedVariants_cons_eq_ok accepted
      cases same : Text.sameIgnoringCase headName.toList name.toList with
      | true => exact ⟨headName, .here isNamed same⟩
      | false =>
          rcases List.mem_cons.mp member with rfl | later
          · rw [isNamed.unique named] at same
            cases (beq_self_eq_true _).symm.trans same
          · obtain ⟨first, spelled⟩ := induction acceptedOthers later
            exact ⟨first, .there isNamed same spelled⟩

theorem FirstSpelled.eq_of_forall_other
    (spelled : FirstSpelled name items first) (named : item.IsNamed name)
    (others : ∀ rival ∈ items, rival ≠ item → ∀ rivalName,
      rival.IsNamed rivalName →
        Text.sameIgnoringCase rivalName.toList name.toList = false) :
    first = name := by
  obtain ⟨⟨found, member, foundNamed⟩, same⟩ := spelled.exists_isNamed
  by_cases itself : found = item
  · rw [itself] at foundNamed
    exact named.unique foundNamed
  · rw [others found member itself first foundNamed] at same
    cases same

namespace ValueType

variable {declaration : Declaration} {valueType : ValueType}

theorem namedVariants_of_ofDeclaration
    (accepted : ofDeclaration declaration = .ok valueType) :
    namedVariants declaration.items = .ok valueType.variants := by
  unfold ofDeclaration at accepted
  split at accepted
  · split at accepted
    · cases accepted
    · obtain ⟨variants, named, rfl⟩ := exists_of_map_eq_ok accepted
      exact named
  · cases accepted

theorem value?_eq_some_iff
    (accepted : ofDeclaration declaration = .ok valueType)
    (distinct : (declaration.items.map (·.identifier)).Nodup)
    (member : item ∈ declaration.items) (named : item.IsNamed name)
    {value : FieldValue} :
    valueType.value? item.identifier = some value ↔
      value = .enumeration name := by
  rw [value?, lookup_variants (namedVariants_of_ofDeclaration accepted)
    distinct member named, Option.map_some, Option.some.injEq, eq_comm]

end ValueType

end GridQuery.Declaration
