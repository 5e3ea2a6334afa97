import GridQuery.Proofs.Field.Table
import GridQuery.Proofs.Filter.Agreement
import GridQuery.Proofs.Text.Ascii
import GridQuery.Proofs.Text.Blank
import GridQuery.Proofs.Text.Boundary
import GridQuery.Proofs.Text.Pattern
import GridQuery.Search

/-!
# What a search finds

A search finds the records that have its term in the text of one of the fields
to search.  A query looks at the text that the database makes of a column, and
at a word for a truth value, and finds the same records.  With nothing to
search for, or nothing to search in, every record is found.  Going on with a
term never finds more.  A term that is too long is searched for as far as whole
characters of it fit.
-/

namespace GridQuery

variable {ρ : Type} [Record ρ]

/-- Every field of a record is null or has a value of its kind. -/
def WellKinded (record : ρ) : Prop :=
  ∀ field ∈ Record.descriptors ρ,
    field.read record = .null ∨ (field.read record).hasKind field.kind = true

/-- A row has the fields of a record in their columns. -/
def Sql.Row.Keeps (row : Sql.Row) (record : ρ) : Prop :=
  ∀ field ∈ Record.descriptors ρ, row field.column = field.read record

namespace Search

theorem isSearchable_eq_true_iff {kind : FieldKind} :
    isSearchable kind = true ↔ kind ≠ .uuid := by
  cases kind <;> simp [isSearchable]

theorem mem_searchedFields_iff {table : FieldTable} {names : List String}
    {field : FieldDescriptor} :
    field ∈ searchedFields table names ↔
      ∃ name ∈ names, table.find? name = some field ∧ field.kind ≠ .uuid := by
  simp only [searchedFields, List.mem_filter, List.mem_filterMap,
    isSearchable_eq_true_iff]
  constructor
  · rintro ⟨⟨name, listed, found⟩, searchable⟩
    exact ⟨name, listed, found, searchable⟩
  · rintro ⟨name, listed, found, searchable⟩
    exact ⟨⟨name, listed, found⟩, searchable⟩

theorem searchedFields_eq_nil_iff {table : FieldTable} {names : List String} :
    searchedFields table names = [] ↔
      ∀ name ∈ names, ∀ field, table.find? name = some field →
        field.kind = .uuid := by
  rw [List.eq_nil_iff_forall_not_mem]
  simp only [mem_searchedFields_iff, not_exists, not_and, not_not]
  constructor
  · intro none name listed field found
    exact none field name listed found
  · intro none field name listed found
    exact none name listed field found

/-- The text that a query looks at is the one that a search looks at in
memory. -/
theorem value?_searchedTerm {field : FieldDescriptor} {row : Sql.Row}
    {value : FieldValue} (kept : row field.column = value)
    (possible : value = .null ∨ value.hasKind field.kind = true) :
    (searchedTerm field).value? row = some (.text value.searchText) := by
  unfold searchedTerm
  split
  · rename_i kind
    rw [kind] at possible
    have word : Sql.truthWord value = value.searchText := by
      rcases possible with rfl | ofKind
      · rfl
      · cases value with
        | bool value => cases value <;> rfl
        | _ => cases ofKind
    simp [Sql.Term.value?, kept, word]
  · simp [Sql.Term.value?, kept]

theorem truth_containsTest {field : FieldDescriptor} {row : Sql.Row}
    {value : FieldValue} (kept : row field.column = value)
    (possible : value = .null ∨ value.hasKind field.kind = true)
    (term : List Char) :
    (containsTest field term).truth row = some (containsTerm term value) := by
  have known : (Sql.Term.upper (searchedTerm field)).value? row =
      some (.text (Text.upper value.searchText)) := by
    simp [Sql.Term.value?, value?_searchedTerm kept possible,
      Sql.Value.text?]
  rw [containsTest, Sql.Test.truth_like known, List.cons_append,
    Text.fits_anyText_escapePattern_anyText, containsTerm]

theorem containsTerm_upper_eq_true_iff {term : List Char}
    {value : FieldValue} :
    containsTerm (Text.upper term) value = true ↔
      Text.OccursIgnoringCase term value.searchText := by
  rw [containsTerm, Text.contains_eq_true_iff, Text.upper_infix_upper_iff]

theorem containsTerm_of_prefix {term longer : List Char} {value : FieldValue}
    (start : term <+: longer)
    (found : containsTerm (Text.upper longer) value = true) :
    containsTerm (Text.upper term) value = true := by
  rw [containsTerm, Text.contains_eq_true_iff] at found ⊢
  have upperStart : Text.upper term <+: Text.upper longer :=
    start.map Char.toUpper
  exact upperStart.isInfix.trans found

/-- The two forms of a search.  Without a term or a field it accepts
everything, and else it asks each of the fields. -/
theorem compile_eq (names : List String) (term : String) :
    (compile names term : Predicate ρ) =
      if Text.trim term.toList = [] ∨
          searchedFields (FieldTable.of ρ) names = [] then
        .always
      else
        .new
          (fun record => (searchedFields (FieldTable.of ρ) names).any
            fun field => containsTerm
              (Text.upper (bounded (Text.trim term.toList)))
              (field.read record))
          (.any ((searchedFields (FieldTable.of ρ) names).map fun field =>
            .test (containsTest field
              (Text.upper (bounded (Text.trim term.toList)))))) := by
  have bounded_eq_nil : bounded (Text.trim term.toList) = [] ↔
      Text.trim term.toList = [] :=
    Text.takeBytes_eq_nil_iff (by decide)
  simp only [compile, Bool.or_eq_true, List.isEmpty_iff, bounded_eq_nil]

/-- A search is compiled whatever it is for.  On records with values of their
kinds its test accepts everything if the term is blank or no name leads to a
field to search, and else the records with the term in the text of one of the
fields; its condition is true on the rows of the same records. -/
theorem compile_finds (names : List String) (term : String) :
    ∃ condition,
      (compile names term : Predicate ρ).condition = some condition ∧
      ∀ record : ρ, WellKinded record →
        ((compile names term).test record = true ↔
          Text.trim term.toList = [] ∨
          (∀ name ∈ names, ∀ field,
            (FieldTable.of ρ).find? name = some field →
              field.kind = .uuid) ∨
          ∃ name ∈ names, ∃ field,
            (FieldTable.of ρ).find? name = some field ∧
            field.kind ≠ .uuid ∧
            Text.OccursIgnoringCase (bounded (Text.trim term.toList))
              (field.read record).searchText) ∧
        ∀ row : Sql.Row, row.Keeps record →
          (condition.truth row = some true ↔
            (compile names term).test record = true) := by
  rw [compile_eq, ← searchedFields_eq_nil_iff]
  by_cases nothing : Text.trim term.toList = [] ∨
      searchedFields (FieldTable.of ρ) names = []
  · rw [if_pos nothing]
    refine ⟨.always, rfl, ?_⟩
    intro record _
    have accepted : (Predicate.always : Predicate ρ).test record = true := rfl
    refine ⟨?_, ?_⟩
    · rw [← or_assoc]
      exact iff_of_true accepted (.inl nothing)
    · intro row _
      exact iff_of_true (by simp [Sql.Condition.always]) accepted
  · rw [if_neg nothing]
    refine ⟨_, rfl, ?_⟩
    intro record wellKinded
    obtain ⟨notBlank, someField⟩ := not_or.mp nothing
    refine ⟨?_, ?_⟩
    · simp only [Predicate.new, List.any_eq_true, mem_searchedFields_iff,
        containsTerm_upper_eq_true_iff, notBlank, someField, false_or]
      constructor
      · rintro ⟨field, ⟨name, listed, found, searchable⟩, occurs⟩
        exact ⟨name, listed, field, found, searchable, occurs⟩
      · rintro ⟨name, listed, field, found, searchable, occurs⟩
        exact ⟨field, ⟨name, listed, found, searchable⟩, occurs⟩
    · intro row keeps
      have asked {field : FieldDescriptor}
          (searched : field ∈ searchedFields (FieldTable.of ρ) names)
          (term : List Char) :
          (containsTest field term).truth row =
            some (containsTerm term (field.read record)) := by
        obtain ⟨name, -, found, -⟩ := mem_searchedFields_iff.mp searched
        have described := FieldTable.mem_descriptors_of_find? found
        exact truth_containsTest (keeps field described)
          (wellKinded field described) term
      simp only [Predicate.new, Sql.Condition.truth_any_eq_true_iff,
        List.any_eq_true, List.mem_map]
      constructor
      · rintro ⟨_, ⟨field, searched, rfl⟩, holds⟩
        rw [Sql.Condition.truth_test, asked searched] at holds
        exact ⟨field, searched, Option.some.inj holds⟩
      · rintro ⟨field, searched, accepted⟩
        refine ⟨_, ⟨field, searched, rfl⟩, ?_⟩
        rw [Sql.Condition.truth_test, asked searched, accepted]

/-- A name that leads nowhere and blanks around the others do not matter, and
the text of null has no digits in it. -/
theorem compile_finds_digits :
    WellKinded (Cell.mk (.integer 312)) ∧ WellKinded (Cell.mk .null) ∧
    ∃ condition,
      (compile ["Row", " cELL "] " 12\t" : Predicate Cell).condition =
        some condition ∧
      condition.truth (fun _ => .integer 312) = some true ∧
      condition.truth (fun _ => .null) ≠ some true := by
  have held : WellKinded (Cell.mk (.integer 312)) := by
    simp only [WellKinded]
    decide
  have null : WellKinded (Cell.mk .null) := by
    simp only [WellKinded]
    decide
  obtain ⟨condition, known, finds⟩ :=
    compile_finds (ρ := Cell) ["Row", " cELL "] " 12\t"
  have resolved : (FieldTable.of Cell).find? " cELL " =
      some (Cell.field .integer true) := by
    decide +kernel
  refine ⟨held, null, condition, known, ?_, ?_⟩
  · obtain ⟨tested, asked⟩ := finds ⟨.integer 312⟩ held
    rw [asked (fun _ => .integer 312) (fun _ _ => rfl), tested]
    refine .inr (.inr ⟨" cELL ", by simp, _, resolved, by decide, ?_⟩)
    exact ⟨['1', '2'], by decide +kernel, by decide +kernel⟩
  · obtain ⟨tested, asked⟩ := finds ⟨.null⟩ null
    rw [ne_eq, asked (fun _ => .null) (fun _ _ => rfl), tested]
    rintro (blank | unsearched | ⟨name, -, field, -, -, run, within, equal⟩)
    · exact absurd blank (by decide +kernel)
    · exact absurd (unsearched " cELL " (by simp) _ resolved) (by decide)
    · rw [List.eq_nil_of_infix_nil within] at equal
      exact absurd equal (by decide +kernel)

/-- A search accepts every record that a search for a longer term accepts.  The
shorter term begins the longer one also after both are freed of the blanks
around them and cut; where it is blank, everything is accepted. -/
theorem compile_narrows (names : List String) {term longer : String}
    (start : term.toList <+: longer.toList) {record : ρ}
    (accepted : (compile names longer).test record = true) :
    (compile names term).test record = true := by
  have trimmed := Text.trim_prefix_trim start
  have cut : bounded (Text.trim term.toList) <+:
      bounded (Text.trim longer.toList) :=
    Text.takeBytes_prefix_takeBytes trimmed maxTermLength
  rw [compile_eq] at accepted ⊢
  by_cases nothing : Text.trim term.toList = [] ∨
      searchedFields (FieldTable.of ρ) names = []
  · rw [if_pos nothing]
    rfl
  · obtain ⟨notBlank, someField⟩ := not_or.mp nothing
    have longerNotBlank : Text.trim longer.toList ≠ [] := by
      intro blank
      rw [blank, List.prefix_nil] at trimmed
      exact notBlank trimmed
    rw [if_neg (not_or.mpr ⟨longerNotBlank, someField⟩)] at accepted
    rw [if_neg nothing]
    simp only [Predicate.new, List.any_eq_true] at accepted ⊢
    obtain ⟨field, searched, found⟩ := accepted
    exact ⟨field, searched, containsTerm_of_prefix cut found⟩

/-- The blank at the end of the shorter term would not be found. -/
theorem compile_narrows_blankEnd :
    " 4 ".toList <+: " 4 2\t".toList ∧
      (compile ["cell"] " 4 2\t" : Predicate Cell).test
        ⟨.text "a4 2"⟩ = true ∧
      (compile ["cell"] " 4 " : Predicate Cell).test ⟨.text "a4 2"⟩ = true := by
  have start : " 4 ".toList <+: " 4 2\t".toList := ⟨['2', '\t'], by decide⟩
  have accepted : (compile ["cell"] " 4 2\t" : Predicate Cell).test
      ⟨.text "a4 2"⟩ = true := by
    decide +kernel
  exact ⟨start, accepted, compile_narrows ["cell"] start accepted⟩

/-- A term is cut to the longest of its beginnings that fits in 10000 bytes.
Among the bytes this is going back from the limit to a boundary between
characters, which is found before the start is passed, and cutting there. -/
theorem bounded_isLongest (term : List Char) :
    Text.cutBytes? 10000 (Text.utf8Bytes term) =
        some (Text.utf8Bytes (bounded term)) ∧
      bounded term <+: term ∧
      Text.isBoundary (Text.utf8Bytes term)
        (Text.byteLength (bounded term)) = true ∧
      Text.byteLength (bounded term) ≤ 10000 ∧
      (Text.byteLength term ≤ 10000 → bounded term = term) ∧
      (∀ start, start <+: term → Text.byteLength start ≤ 10000 →
        start <+: bounded term) ∧
      (∀ position ≤ 10000,
        Text.isBoundary (Text.utf8Bytes term) position = true →
          position ≤ Text.byteLength (bounded term)) ∧
      (term ≠ [] → bounded term ≠ []) := by
  have begins : bounded term <+: term :=
    Text.takeBytes_prefix maxTermLength term
  refine ⟨Text.cutBytes?_utf8Bytes maxTermLength term, begins, ?_,
    Text.byteLength_takeBytes_le maxTermLength term, Text.takeBytes_of_fits,
    ?_, ?_, ?_⟩
  · apply Text.isBoundary_iff.mpr
    exact ⟨bounded term, begins, rfl⟩
  · intro start starts fits
    exact Text.prefix_takeBytes starts fits
  · intro position within boundary
    exact Text.le_byteLength_takeBytes boundary within
  · intro someText nothing
    have room : 4 ≤ maxTermLength := by decide
    exact someText ((Text.takeBytes_eq_nil_iff room).mp nothing)

end Search

end GridQuery
