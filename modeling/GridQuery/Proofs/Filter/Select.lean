import GridQuery.Filter.Select
import GridQuery.Proofs.Field.Equality
import GridQuery.Proofs.Filter.Agreement

/-!
# Select filters in queries

A select filter asks whether a field has one of the values that its raw values
stand for.  A query asks this in one of three ways, which depends on how many
values there are, and in memory null is excluded by name while in a query it
leaves the condition open.  All of them say the same, and only the set of raw
values that fit the kind of the field matters.
-/

namespace GridQuery

variable {ρ : Type}

/-- Two predicates select the same records in memory and the same rows in a
query. -/
def Predicate.SelectsSame (left right : Predicate ρ) : Prop :=
  (∀ record, left.test record = right.test record) ∧
    ∃ leftCondition rightCondition, left.condition = some leftCondition ∧
      right.condition = some rightCondition ∧
      ∀ row, leftCondition.truth row = some true ↔
        rightCondition.truth row = some true

namespace Filter

variable [Record ρ] {field : FieldDescriptor} {options : ParsingOptions}

theorem hasKind_of_coerce? {kind : FieldKind} {raw : String}
    {value : FieldValue} (coerced : coerce? kind options raw = some value) :
    value.hasKind kind = true := by
  cases kind
  case text =>
    cases coerced
    rfl
  case enumeration variants =>
    simp only [coerce?, Option.map_eq_some_iff] at coerced
    obtain ⟨variant, found, rfl⟩ := coerced
    have listed := List.mem_of_find?_eq_some found
    simpa [FieldValue.hasKind] using listed
  all_goals
    simp only [coerce?, Option.map_eq_some_iff] at coerced
    obtain ⟨_, _, rfl⟩ := coerced
    rfl

theorem isNull_of_hasKind {kind : FieldKind} {value : FieldValue}
    (ofKind : value.hasKind kind = true) : value.isNull = false := by
  cases value with
  | null => cases kind <;> cases ofKind
  | _ => rfl

/-- No raw value fits the kind, or one of those that do stands for an accepted
value. -/
def SomeChoice (kind : FieldKind) (options : ParsingOptions)
    (raws : List String) (accepted : FieldValue → Prop) : Prop :=
  (∀ raw ∈ raws, coerce? kind options raw = none) ∨
    ∃ raw ∈ raws, ∃ value, coerce? kind options raw = some value ∧
      accepted value

/-- Only the set of raw values that fit matters. -/
theorem someChoice_congr {kind : FieldKind} {raws others : List String}
    (sameFitting : ∀ raw, (coerce? kind options raw).isSome = true →
      (raw ∈ others ↔ raw ∈ raws))
    (accepted : FieldValue → Prop) :
    SomeChoice kind options others accepted ↔
      SomeChoice kind options raws accepted := by
  have noneFits : (∀ raw ∈ others, coerce? kind options raw = none) ↔
      ∀ raw ∈ raws, coerce? kind options raw = none := by
    constructor
    all_goals
      intro none raw member
      rw [Option.eq_none_iff_forall_ne_some]
      intro value coerced
      have fits := sameFitting raw (Option.isSome_of_eq_some coerced)
      have unfit := none raw (by simpa [fits] using member)
      rw [unfit] at coerced
      cases coerced
  have someFits : (∃ raw ∈ others, ∃ value,
        coerce? kind options raw = some value ∧ accepted value) ↔
      ∃ raw ∈ raws, ∃ value,
        coerce? kind options raw = some value ∧ accepted value := by
    constructor
    all_goals
      rintro ⟨raw, member, value, coerced, accepts⟩
      have fits := sameFitting raw (Option.isSome_of_eq_some coerced)
      exact ⟨raw, by simpa [fits] using member, value, coerced, accepts⟩
  exact or_congr noneFits someFits

theorem someChoice_iff {kind : FieldKind} {raws : List String}
    {accepted alsoAccepted : FieldValue → Prop}
    (same : ∀ raw value, coerce? kind options raw = some value →
      (accepted value ↔ alsoAccepted value)) :
    SomeChoice kind options raws accepted ↔
      SomeChoice kind options raws alsoAccepted := by
  apply or_congr Iff.rfl
  constructor
  · rintro ⟨raw, member, value, coerced, accepts⟩
    exact ⟨raw, member, value, coerced, (same raw value coerced).mp accepts⟩
  · rintro ⟨raw, member, value, coerced, accepts⟩
    exact ⟨raw, member, value, coerced, (same raw value coerced).mpr accepts⟩

theorem exists_ofField? {value : FieldValue} (notNull : value.isNull = false) :
    ∃ parameter, Sql.ofField? value = some parameter := by
  cases value with
  | null => cases notNull
  | _ => exact ⟨_, rfl⟩

theorem filterMap_coerce?_eq_nil_iff {kind : FieldKind} {raws : List String} :
    (raws.filterMap (coerce? kind options)).filterMap Sql.ofField? = [] ↔
      ∀ raw ∈ raws, coerce? kind options raw = none := by
  have asked {raw : String} {value : FieldValue}
      (coerced : coerce? kind options raw = some value) :
      Sql.ofField? value ≠ none := by
    obtain ⟨parameter, known⟩ :=
      exists_ofField? (isNull_of_hasKind (hasKind_of_coerce? coerced))
    simp [known]
  simp only [List.filterMap_eq_nil_iff, List.mem_filterMap,
    forall_exists_index, and_imp]
  constructor
  · intro nothing raw member
    cases coerced : coerce? kind options raw with
    | none => rfl
    | some value =>
        exact absurd (nothing value raw member coerced) (asked coerced)
  · intro nothing value raw member coerced
    rw [nothing raw member] at coerced
    cases coerced

theorem truth_compareEqual_iff {column : String} {row : Sql.Row}
    {parameter : Sql.Value} :
    (Sql.Test.compare (.column column) .equal (.value parameter)).truth row =
        some true ↔
      ∃ content, Sql.ofField? (row column) = some content ∧
        content.satisfies .equal parameter = true := by
  simp [Sql.Test.truth, Option.bind_eq_some_iff]

theorem truth_isIn_iff {column : String} {row : Sql.Row}
    {parameters : List Sql.Value} :
    (Sql.Test.isIn (.column column) parameters).truth row = some true ↔
      ∃ content, Sql.ofField? (row column) = some content ∧
        ∃ parameter ∈ parameters,
          content.satisfies .equal parameter = true := by
  simp [Sql.Test.truth]

/-- The three forms of membership say one thing, in memory and in a query. -/
theorem membership_spec (field : FieldDescriptor) (values : List FieldValue) :
    ∃ condition, (membership field values : Predicate ρ) =
        .new (fun record => (values.filterMap Sql.ofField?).isEmpty ||
          isMember values (field.read record)) condition ∧
      ∀ row, condition.truth row = some true ↔
        values.filterMap Sql.ofField? = [] ∨
          ∃ content, Sql.ofField? (row field.column) = some content ∧
            ∃ parameter ∈ values.filterMap Sql.ofField?,
              content.satisfies .equal parameter = true := by
  unfold membership
  cases parameters : values.filterMap Sql.ofField? with
  | nil =>
      refine ⟨.always, rfl, ?_⟩
      intro row
      simp [Sql.Condition.always]
  | cons first others =>
      cases others with
      | nil =>
          refine ⟨_, rfl, ?_⟩
          intro row
          rw [Sql.Condition.truth_single_eq_true_iff, truth_compareEqual_iff]
          simp
      | cons second others =>
          refine ⟨_, rfl, ?_⟩
          intro row
          rw [Sql.Condition.truth_single_eq_true_iff, truth_isIn_iff]
          simp

theorem isMember_eq_true_iff {values : List FieldValue} {value : FieldValue} :
    isMember values value = true ↔
      value.isNull = false ∧
        ∃ candidate ∈ values, candidate.same value = true := by
  simp [isMember]

theorem test_compileSingleSelect {raw : String} {value : FieldValue}
    {record : ρ} (coerced : coerce? field.kind options raw = some value) :
    (compileSingleSelect field ⟨field.name, raw⟩ options).test record = true ↔
      (field.read record).isNull = false ∧
        value.same (field.read record) = true := by
  obtain ⟨parameter, known⟩ :=
    exists_ofField? (isNull_of_hasKind (hasKind_of_coerce? coerced))
  obtain ⟨condition, compiled, -⟩ := membership_spec (ρ := ρ) field [value]
  have tested :
      (compileSingleSelect field ⟨field.name, raw⟩ options).test record =
        isMember [value] (field.read record) := by
    simp [compileSingleSelect, coerced, compiled, known, Predicate.new]
  rw [tested, isMember_eq_true_iff]
  simp

/-- A query finds a value of the kind of the field by a parameter of this kind
exactly if the two are equal, and it never finds null. -/
theorem satisfies_equal_iff_same {kind : FieldKind}
    {candidate value : FieldValue}
    (candidateKind : candidate.hasKind kind = true)
    (possible : value = .null ∨ value.hasKind kind = true) :
    (∃ content parameter, Sql.ofField? value = some content ∧
        Sql.ofField? candidate = some parameter ∧
        content.satisfies .equal parameter = true) ↔
      value.isNull = false ∧ candidate.same value = true := by
  rcases possible with rfl | ofKind
  · simp [Sql.ofField?, FieldValue.isNull]
  · have notNull := isNull_of_hasKind ofKind
    have sameRank : value.rank = candidate.rank := by
      rw [FieldValue.rank_of_hasKind ofKind,
        FieldValue.rank_of_hasKind candidateKind]
    obtain ⟨content, parameter, known, asked, agree⟩ :=
      FieldValue.exists_satisfies_equal_eq_same notNull sameRank
    simp [known, asked, agree, notNull]

theorem compileMultiSelect_spec
    (field : FieldDescriptor) (filter : MultiSelectFilter)
    (options : ParsingOptions) :
    ∃ condition,
      (compileMultiSelect field filter options : Predicate ρ).condition =
        some condition ∧
      (∀ record : ρ,
        (compileMultiSelect field filter options).test record = true ↔
          SomeChoice field.kind options filter.values fun value =>
            (field.read record).isNull = false ∧
              value.same (field.read record) = true) ∧
      ∀ row, condition.truth row = some true ↔
        SomeChoice field.kind options filter.values fun value =>
          ∃ content parameter,
            Sql.ofField? (row field.column) = some content ∧
            Sql.ofField? value = some parameter ∧
            content.satisfies .equal parameter = true := by
  obtain ⟨condition, compiled, truth⟩ := membership_spec (ρ := ρ) field
    (filter.values.filterMap (coerce? field.kind options))
  refine ⟨condition, by rw [compileMultiSelect, compiled]; rfl, ?_, ?_⟩
  · intro record
    rw [compileMultiSelect, compiled]
    simp only [Predicate.new, Bool.or_eq_true, List.isEmpty_iff,
      filterMap_coerce?_eq_nil_iff, isMember_eq_true_iff, List.mem_filterMap,
      SomeChoice]
    grind
  · intro row
    rw [truth, filterMap_coerce?_eq_nil_iff]
    simp only [List.mem_filterMap, SomeChoice]
    grind

/-- A multi-select filter is compiled for every field.  Its test accepts
everything if no raw value fits the kind of the field, and else the values that
are not null and equal to one that a raw value stands for; its condition is
true on the same values.  Only the set of raw values that fit matters: neither
their order, nor repetitions, nor raw values that do not fit.  A filter for one
value is the filter for the list of this value. -/
theorem compileMultiSelect_selects
    (field : FieldDescriptor) (filter : MultiSelectFilter)
    (options : ParsingOptions) :
    (∃ condition,
      (compileMultiSelect field filter options : Predicate ρ).condition =
        some condition ∧
      ∀ record : ρ,
        field.read record = .null ∨
          (field.read record).hasKind field.kind = true →
        ((compileMultiSelect field filter options).test record = true ↔
          (∀ raw ∈ filter.values, coerce? field.kind options raw = none) ∨
          (field.read record).isNull = false ∧
            ∃ raw ∈ filter.values, ∃ value,
              coerce? field.kind options raw = some value ∧
              value.same (field.read record) = true) ∧
        ∀ row : Sql.Row, row field.column = field.read record →
          (condition.truth row = some true ↔
            (compileMultiSelect field filter options).test record = true)) ∧
    (∀ others : List String,
      (∀ raw, (coerce? field.kind options raw).isSome = true →
        (raw ∈ others ↔ raw ∈ filter.values)) →
      (compileMultiSelect field ⟨filter.field, others⟩ options :
        Predicate ρ).SelectsSame (compileMultiSelect field filter options)) ∧
    ∀ name raw,
      (compileSingleSelect field ⟨name, raw⟩ options : Predicate ρ) =
        compileMultiSelect field ⟨name, [raw]⟩ options := by
  obtain ⟨condition, known, tested, asked⟩ :=
    compileMultiSelect_spec (ρ := ρ) field filter options
  refine ⟨⟨condition, known, ?_⟩, ?_, ?_⟩
  · intro record possible
    refine ⟨?_, ?_⟩
    · rw [tested, SomeChoice]
      grind
    · intro row kept
      rw [tested, asked, kept]
      apply someChoice_iff
      intro raw value coerced
      exact satisfies_equal_iff_same (hasKind_of_coerce? coerced) possible
  · intro others sameFitting
    obtain ⟨otherCondition, otherKnown, otherTested, otherAsked⟩ :=
      compileMultiSelect_spec (ρ := ρ) field ⟨filter.field, others⟩ options
    refine ⟨?_, otherCondition, condition, otherKnown, known, ?_⟩
    · intro record
      rw [Bool.eq_iff_iff, otherTested, tested]
      exact someChoice_congr sameFitting _
    · intro row
      rw [otherAsked, asked]
      exact someChoice_congr sameFitting _
  · intro name raw
    unfold compileSingleSelect compileMultiSelect
    cases coerced : coerce? field.kind options raw with
    | none => simp [coerced, membership]
    | some value => simp [coerced]

/-- Blanks around a raw value do not matter, one that is no integer is passed
over, and null is not found. -/
theorem compileMultiSelect_selects_integers :
    ∃ condition : Sql.Condition,
      (compileMultiSelect (Cell.field .integer true)
        ⟨"Cell", ["x", " 3 ", "2"]⟩ .default : Predicate Cell).condition =
          some condition ∧
      condition.truth (fun _ => .integer 3) = some true ∧
      condition.truth (fun _ => .null) ≠ some true ∧
      (compileMultiSelect (Cell.field .integer true)
        ⟨"Cell", ["2", " 3 ", "2", "y"]⟩ .default :
          Predicate Cell).SelectsSame
        (compileMultiSelect (Cell.field .integer true)
          ⟨"Cell", ["x", " 3 ", "2"]⟩ .default) := by
  obtain ⟨⟨condition, known, selects⟩, same, -⟩ :=
    compileMultiSelect_selects (ρ := Cell) (Cell.field .integer true)
      ⟨"Cell", ["x", " 3 ", "2"]⟩ .default
  have two : coerce? .integer .default "2" = some (.integer 2) := by
    decide +kernel
  have three : coerce? .integer .default " 3 " = some (.integer 3) := by
    decide +kernel
  have neither : coerce? .integer .default "x" = none ∧
      coerce? .integer .default "y" = none := by
    decide +kernel
  refine ⟨condition, known, ?_, ?_, ?_⟩
  · obtain ⟨tested, asked⟩ := selects ⟨.integer 3⟩ (.inr rfl)
    rw [asked (fun _ => .integer 3) rfl, tested]
    exact .inr ⟨rfl, " 3 ", by simp, _, three, rfl⟩
  · obtain ⟨tested, asked⟩ := selects ⟨.null⟩ (.inl rfl)
    rw [ne_eq, asked (fun _ => .null) rfl, tested]
    rintro (nothing | ⟨notNull, -⟩)
    · cases two.symm.trans (nothing "2" (by simp))
    · cases notNull
  · apply same
    intro raw fits
    constructor
    · intro member
      simp only [List.mem_cons, List.not_mem_nil, or_false] at member
      rcases member with rfl | rfl | rfl | rfl
      · simp
      · simp
      · simp
      · cases fits.symm.trans (congrArg Option.isSome neither.2)
    · intro member
      simp only [List.mem_cons, List.not_mem_nil, or_false] at member
      rcases member with rfl | rfl | rfl
      · cases fits.symm.trans (congrArg Option.isSome neither.1)
      · simp
      · simp

end Filter

end GridQuery
