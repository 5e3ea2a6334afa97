import GridQuery.Proofs.Request.Shape

/-!
# Values of filters

A field whose value is blank has no filter, and a filter for several values has
no blank one among them.  Account numbers lose their hyphens after that, and the
blanks that stood between hyphens are left: a value of nothing but hyphens and
blanks becomes a filter for blanks.
-/

namespace GridQuery

/-- The values that a filter looks for are written, and not by blanks alone. -/
def FilterSpec.HasValue : FilterSpec → Prop
  | text filter => ¬ Text.Blank filter.value.toList
  | singleSelect filter => ¬ Text.Blank filter.value.toList
  | multiSelect filter =>
      filter.values ≠ [] ∧ ∀ value ∈ filter.values, ¬ Text.Blank value.toList
  | numeric _ | date _ => True

def FilterSpec.IsUnhyphenated : FilterSpec → Prop
  | text filter =>
      filter.valueCategory = .accountNumber → '-' ∉ filter.value.toList
  | numeric _ | date _ | singleSelect _ | multiSelect _ => True

namespace RequestParser

variable {options : ParsingOptions} {params : Params} {field raw : String}
  {specs : List FilterSpec} {spec : FilterSpec}

/-- The text has hyphens and blanks only, and blanks are among them. -/
def IsHyphenatedBlank (text : String) : Prop :=
  (∀ c ∈ text.toList, c = '-' ∨ Text.isBlank c = true) ∧
    text.toList.any Text.isBlank = true

/-- An account number is to be looked for that is written as blanks between
hyphens. -/
structure BlankAccount (options : ParsingOptions) (params : Params)
    (field : String) : Prop where
  named : isFieldName field = true
  category_eq : category? options params field = some .text
  operated : (operator? options params field).isSome = true
  valueCategory_eq : valueCategory options params field = .accountNumber
  written : IsHyphenatedBlank (rawValue options params field)

section Text

theorem not_blank_ofList_trim {text : List Char}
    (written : String.ofList (Text.trim text) ≠ "") :
    ¬ Text.Blank (String.ofList (Text.trim text)).toList := by
  rw [String.toList_ofList, ← Text.trim_eq_nil_iff, Text.trim_trim]
  intro nothing
  exact written (by rw [nothing])

theorem not_blank_rawValue (written : rawValue options params field ≠ "") :
    ¬ Text.Blank (rawValue options params field).toList :=
  not_blank_ofList_trim written

theorem mem_textValue_iff {category : ValueCategory} {c : Char} :
    c ∈ (textValue category raw).toList ↔
      c ∈ raw.toList ∧ (category = .accountNumber → c ≠ '-') := by
  unfold textValue
  split
  · rename_i account
    simp [account]
  · rename_i other
    simp [other]

theorem blank_textValue_iff {category : ValueCategory}
    (written : ¬ Text.Blank raw.toList)
    (kept : textValue category raw ≠ "") :
    Text.Blank (textValue category raw).toList ↔
      category = .accountNumber ∧ IsHyphenatedBlank raw := by
  by_cases account : category = .accountNumber
  · have hyphens : Text.Blank (textValue category raw).toList ↔
        ∀ c ∈ raw.toList, c = '-' ∨ Text.isBlank c = true := by
      simp only [Text.Blank, mem_textValue_iff, account, true_implies]
      constructor
      · intro blank c member
        by_cases hyphen : c = '-'
        · exact .inl hyphen
        · exact .inr (blank c ⟨member, hyphen⟩)
      · intro only c member
        exact (only c member.1).resolve_left member.2
    obtain ⟨c, member⟩ := List.exists_mem_of_ne_nil _
      (mt String.toList_eq_nil_iff.mp kept)
    rw [hyphens, IsHyphenatedBlank]
    constructor
    · intro only
      obtain ⟨inRaw, notHyphen⟩ := mem_textValue_iff.mp member
      have blank := (only c inRaw).resolve_left (notHyphen account)
      exact ⟨account, only, List.any_eq_true.mpr ⟨c, inRaw, blank⟩⟩
    · rintro ⟨-, only, -⟩
      exact only
  · have whole : textValue category raw = raw := if_neg account
    simp [whole, written, account]

end Text

section OneField

theorem mem_comparisonSpecs {α : Type} {operator : FilterOperator}
    {read : String → Option α} {make : FilterOperator → α → FilterSpec}
    (read_eq : comparisonSpecs options field raw operator read make =
      .ok specs)
    (member : spec ∈ specs) :
    ∃ operator value, spec = make operator value := by
  rcases comparisonSpecs_cases read_eq with
    rfl | ⟨operator, value, -, -, -, rfl⟩ |
      ⟨low, high, -, -, -, -, rfl⟩
  · cases member
  · exact ⟨operator, value, List.mem_singleton.mp member⟩
  · rcases List.mem_pair.mp member with rfl | rfl
    · exact ⟨_, low, rfl⟩
    · exact ⟨_, high, rfl⟩

theorem not_blank_of_mem_selectValues {value : String}
    (member : value ∈ selectValues options raw) :
    ¬ Text.Blank value.toList := by
  obtain ⟨listed, nonempty⟩ := List.mem_filter.mp member
  obtain ⟨piece, -, rfl⟩ := List.mem_map.mp listed
  exact not_blank_ofList_trim (by simpa using nonempty)

theorem values_of_mem_specsOf {category : FilterCategory}
    (written : ¬ Text.Blank raw.toList)
    (read_eq : specsOf options params field raw category = .ok specs)
    (member : spec ∈ specs) :
    spec.IsUnhyphenated ∧
      (spec.HasValue ↔
        ¬ (category = .text ∧
          (operator? options params field).isSome = true ∧
          valueCategory options params field = .accountNumber ∧
          IsHyphenatedBlank raw)) := by
  cases category with
  | text =>
      simp only [specsOf] at read_eq
      split at read_eq
      · cases read_eq
        cases member
      · rename_i operator given
        split at read_eq
        · cases read_eq
          cases member
        · rename_i kept
          cases read_eq
          obtain rfl := List.mem_singleton.mp member
          constructor
          · intro account hyphen
            exact (mem_textValue_iff.mp hyphen).2 account rfl
          · rw [FilterSpec.HasValue, blank_textValue_iff written kept]
            simp [given]
  | numeric =>
      simp only [specsOf] at read_eq
      split at read_eq
      · cases read_eq
        cases member
      · obtain ⟨operator, value, rfl⟩ := mem_comparisonSpecs read_eq member
        simp [FilterSpec.IsUnhyphenated, FilterSpec.HasValue]
  | date =>
      simp only [specsOf] at read_eq
      split at read_eq
      · cases read_eq
        cases member
      · obtain ⟨operator, value, rfl⟩ := mem_comparisonSpecs read_eq member
        simp [FilterSpec.IsUnhyphenated, FilterSpec.HasValue]
  | singleSelect =>
      cases read_eq
      obtain rfl := List.mem_singleton.mp member
      simp [FilterSpec.IsUnhyphenated, FilterSpec.HasValue, written]
  | multiSelect =>
      simp only [specsOf] at read_eq
      split at read_eq
      · cases read_eq
        cases member
      · rename_i nonempty
        cases read_eq
        obtain rfl := List.mem_singleton.mp member
        have visible : ∀ value ∈ selectValues options raw,
            ¬ Text.Blank value.toList :=
          fun value => not_blank_of_mem_selectValues
        simpa [FilterSpec.IsUnhyphenated, FilterSpec.HasValue, nonempty] using
          visible

theorem values_of_mem_fieldSpecs (named : isFieldName field = true)
    (read_eq : fieldSpecs options params field = .ok specs)
    (member : spec ∈ specs) :
    spec.IsUnhyphenated ∧
      (spec.HasValue ↔ ¬ BlankAccount options params field) := by
  unfold fieldSpecs at read_eq
  split at read_eq
  · cases read_eq
    cases member
  · rename_i category given
    simp only at read_eq
    split at read_eq
    · cases read_eq
      cases member
    · rename_i written
      obtain ⟨unhyphenated, hasValue⟩ :=
        values_of_mem_specsOf (not_blank_rawValue written) read_eq member
      refine ⟨unhyphenated, hasValue.trans (not_congr ?_)⟩
      constructor
      · rintro ⟨rfl, operated, account, blank⟩
        exact ⟨named, given, operated, account, blank⟩
      · rintro ⟨-, text, operated, account, blank⟩
        exact ⟨Option.some.inj (given.symm.trans text), operated, account,
          blank⟩

/-- A blank account number has a filter all the same. -/
theorem BlankAccount.exists_fieldSpecs_eq
    (account : BlankAccount options params field) :
    ∃ spec, fieldSpecs options params field = .ok [spec] ∧
      spec.field = field := by
  obtain ⟨operator, given⟩ := Option.isSome_iff_exists.mp account.operated
  obtain ⟨c, member, blank⟩ := List.any_eq_true.mp account.written.2
  have written : rawValue options params field ≠ "" := by
    intro nothing
    rw [nothing] at member
    cases member
  have kept :
      textValue .accountNumber (rawValue options params field) ≠ "" := by
    intro nothing
    have inValue : c ∈ (textValue .accountNumber
        (rawValue options params field)).toList := by
      refine mem_textValue_iff.mpr ⟨member, fun _ => ?_⟩
      rintro rfl
      cases blank
    rw [nothing] at inValue
    cases inValue
  refine ⟨.text ⟨field, operator, textValue .accountNumber
    (rawValue options params field), .accountNumber⟩, ?_, rfl⟩
  rw [fieldSpecs, account.category_eq]
  simp [written, specsOf, given, account.valueCategory_eq, kept]

end OneField

section AllFields

theorem values_of_mem_filterSpecs
    (read_eq : filterSpecs options params = .ok specs)
    (member : spec ∈ specs) :
    spec.IsUnhyphenated ∧
      (spec.HasValue ↔ ¬ BlankAccount options params spec.field) := by
  obtain ⟨listed, own⟩ := mem_filterSpecs read_eq member
  rw [ownSpecs, if_pos listed] at own
  cases fieldRead : fieldSpecs options params spec.field with
  | error error =>
      rw [fieldRead] at own
      cases own
  | ok fieldFilters =>
      rw [fieldRead] at own
      exact values_of_mem_fieldSpecs (mem_filterFields_iff.mp listed).1
        fieldRead own

theorem BlankAccount.exists_mem_filterSpecs
    (read_eq : filterSpecs options params = .ok specs)
    (account : BlankAccount options params field) :
    ∃ spec ∈ specs, spec.field = field := by
  obtain ⟨spec, fieldRead, same⟩ := account.exists_fieldSpecs_eq
  have listed := mem_filterFields_of_category? account.named account.category_eq
  refine ⟨spec, ?_, same⟩
  rw [filterSpecs_eq_flatMap read_eq, List.mem_flatMap]
  refine ⟨field, listed, ?_⟩
  rw [ownSpecs, if_pos listed, fieldRead]
  exact List.mem_singleton_self spec

end AllFields

/-- The filters of every request that is read have values, except those for
account numbers that are written as blanks between hyphens.  No account number
has a hyphen. -/
theorem parse_hasValue_iff {sections : Sections} {request : RequestSpec}
    (read : parse options sections params = .ok request) :
    (∀ spec ∈ request.filterSpecs, spec.IsUnhyphenated ∧
      (spec.HasValue ↔ ¬ BlankAccount options params spec.field)) ∧
    ((∀ spec ∈ request.filterSpecs, spec.HasValue) ↔
      (sections.filters = true →
        ∀ field, ¬ BlankAccount options params field)) := by
  have filters := filterSpecs_of_parse_eq_ok read
  by_cases filtersRead : sections.filters = true
  · rw [if_pos filtersRead] at filters
    have values : ∀ spec ∈ request.filterSpecs, spec.IsUnhyphenated ∧
        (spec.HasValue ↔ ¬ BlankAccount options params spec.field) :=
      fun spec => values_of_mem_filterSpecs filters
    refine ⟨values, ?_, ?_⟩
    · intro haveValues _ field account
      obtain ⟨spec, member, rfl⟩ := account.exists_mem_filterSpecs filters
      exact (values spec member).2.mp (haveValues spec member) account
    · intro none spec member
      exact (values spec member).2.mpr (none filtersRead spec.field)
  · rw [if_neg filtersRead] at filters
    rw [← Except.ok.inj filters]
    simp [filtersRead]

def accountFilter (value : String) : Params :=
  ⟨[("filter[Iban][filterCategory]", "0"), ("filter[Iban][filterType]", "0"),
    ("filter[Iban][valueCategory]", "1"), ("filter[Iban]", value)]⟩

/-- A hyphen in an account number is no reason against its filter. -/
theorem parse_hasValue_iff_hyphen :
    ∃ request, parse .default .all (accountFilter " 12-34 ") = .ok request ∧
      request.filterSpecs =
        [.text ⟨"Iban", .equals, "1234", .accountNumber⟩] ∧
      ∀ spec ∈ request.filterSpecs, spec.HasValue := by
  have read : parse .default .all (accountFilter " 12-34 ") =
      .ok { RequestSpec.everything with filterSpecs :=
        [.text ⟨"Iban", .equals, "1234", .accountNumber⟩] } := by
    cbv
  refine ⟨_, read, rfl, ?_⟩
  obtain ⟨values, -⟩ := parse_hasValue_iff read
  intro spec member
  refine (values spec member).2.mpr ?_
  obtain rfl := List.mem_singleton.mp member
  intro blankAccount
  have written :
      IsHyphenatedBlank (rawValue .default (accountFilter " 12-34 ") "Iban") :=
    blankAccount.written
  have raw : rawValue .default (accountFilter " 12-34 ") "Iban" = "12-34" := by
    cbv
  rw [raw] at written
  exact absurd written.2 (by decide)

/-- Two hyphens with a blank between them become a filter for a blank. -/
theorem parse_hasValue_twoHyphens :
    ParsingOptions.default.validate = .ok () ∧
    ∃ request, parse .default .all (accountFilter "- -") = .ok request ∧
      request.filterSpecs =
        [.text ⟨"Iban", .equals, " ", .accountNumber⟩] ∧
      ¬ ∀ spec ∈ request.filterSpecs, spec.HasValue := by
  have read : parse .default .all (accountFilter "- -") =
      .ok { RequestSpec.everything with filterSpecs :=
        [.text ⟨"Iban", .equals, " ", .accountNumber⟩] } := by
    cbv
  refine ⟨rfl, _, read, rfl, ?_⟩
  intro haveValues
  refine haveValues _ (List.mem_singleton_self _) ?_
  decide

end RequestParser

end GridQuery
