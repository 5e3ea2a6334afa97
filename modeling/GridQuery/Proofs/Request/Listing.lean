import GridQuery.Proofs.Request.Arrangement
import GridQuery.Proofs.Request.Failure
import GridQuery.Proofs.Request.Writing

/-!
# Listings that are written and read

A listing has a search term, sort keys and a page.  Each sort key is written
under a number and names its field by a column, which other sort keys may name
as well.  Reading puts the sort keys in the order of their numbers and finds
everything else as it was written, whatever other parameters there are and
however all of them are arranged.
-/

namespace GridQuery

open Number RequestParser

inductive ListingParameter where
  | draw
  | searchTerm
  | skip
  | take
  | columnField (column : Nat)
  | sortColumn (ordinal : Nat)
  | sortDirection (ordinal : Nat)
deriving DecidableEq

namespace ListingParameter

def name : ListingParameter → String
  | draw => "draw"
  | searchTerm => "search[value]"
  | skip => "start"
  | take => "length"
  | columnField column => columnKey column
  | sortColumn ordinal =>
      "order[" ++ String.ofList (digits ordinal) ++ "][column]"
  | sortDirection ordinal => directionKey ordinal

variable {parameter : ListingParameter} {ordinal : Nat}

theorem eq_draw_of_name (same : parameter.name = "draw") :
    parameter = draw := by
  rw [← String.toList_inj] at same
  cases parameter <;> simp [name, columnKey, directionKey] at same ⊢

theorem eq_searchTerm_of_name (same : parameter.name = "search[value]") :
    parameter = searchTerm := by
  rw [← String.toList_inj] at same
  cases parameter <;> simp [name, columnKey, directionKey] at same ⊢

theorem readIndex?_digits {n : Nat} (fits : n < 18446744073709551616) :
    readIndex? (digits n) = some n := by
  rw [readIndex?, unsigned?_digits]
  simpa [Option.filter] using fits

theorem sortOrdinal?_eq_some_iff {name : String} :
    sortOrdinal? name = some ordinal ↔
      ∃ text, readIndex? text = some ordinal ∧
        name.toList = "order[".toList ++ text ++ "][column]".toList := by
  rw [sortOrdinal?]
  simp only [Option.bind_eq_some_iff, Text.dropStart?_eq_some_iff,
    Text.dropTail?_eq_some_iff]
  constructor
  · rintro ⟨text, ⟨rest, shape, rfl⟩, found⟩
    exact ⟨text, found, by rw [shape, List.append_assoc]⟩
  · rintro ⟨text, found, shape⟩
    exact ⟨text, ⟨_, by rw [shape, List.append_assoc], rfl⟩, found⟩

theorem sortOrdinal?_sortColumn (fits : ordinal < 18446744073709551616) :
    sortOrdinal? (sortColumn ordinal).name = some ordinal :=
  sortOrdinal?_eq_some_iff.mpr
    ⟨digits ordinal, readIndex?_digits fits, by simp [name]⟩

theorem sortOrdinal?_eq_none
    (other : ∀ ordinal, parameter ≠ sortColumn ordinal) :
    sortOrdinal? parameter.name = none := by
  rw [Option.eq_none_iff_forall_not_mem]
  intro number found
  obtain ⟨text, -, shape⟩ := sortOrdinal?_eq_some_iff.mp found
  cases parameter with
  | sortColumn ordinal => exact other ordinal rfl
  | sortDirection ordinal =>
      have backwards := congrArg List.reverse shape
      simp [name, directionKey] at backwards
  | draw | searchTerm | skip | take | columnField column =>
      simp [name, columnKey] at shape

theorem bracket_not_mem_digits (n : Nat) : ']' ∉ digits n := by
  intro member
  have digit : Char.isDigit ']' = true := isDigit_of_mem_digits member
  exact absurd digit (by decide)

theorem name_ne_append_key (shorter longer : ListingParameter)
    (key : List Char) :
    longer.name.toList ≠ shorter.name.toList ++ '[' :: key := by
  intro same
  cases shorter with
  | columnField _ | sortColumn _ | sortDirection _ =>
      cases longer <;>
        simp [name, columnKey, directionKey, Text.append_cons_inj,
          bracket_not_mem_digits] at same
  | draw | searchTerm | skip | take =>
      cases longer <;> simp [name, columnKey, directionKey] at same

end ListingParameter

/-- A sort key with the number and the column that it is written with. -/
structure WrittenSortKey where
  ordinal : Nat
  column : Nat
  spec : SortSpec

def SortDirection.parameter : SortDirection → String
  | ascending => "asc"
  | descending => "desc"

theorem SortDirection.ofParameter_parameter (direction : SortDirection) :
    ofParameter direction.parameter = direction := by
  cases direction <;> rfl

/-- A listing that is asked for, and the other parameters that are sent with
it. -/
structure ListingForm where
  draw : Option String
  searchTerm : Option String
  skip : UInt64
  take : Option UInt64
  sortKeys : List WrittenSortKey
  /-- The numbers of columns and the fields that are shown in them. -/
  columns : List (Nat × String)
  others : List (String × String)
  searchTerm_trimmed : ∀ term ∈ searchTerm, IsTrimmed term
  take_le : ∀ length ∈ take, length.toNat ≤ 9223372036854775807
  ascending : sortKeys.Pairwise fun left right => left.ordinal < right.ordinal
  ordinal_lt : ∀ key ∈ sortKeys, key.ordinal < 18446744073709551616
  column_lt : ∀ key ∈ sortKeys, key.column < 18446744073709551616
  field_trimmed : ∀ key ∈ sortKeys, IsTrimmed key.spec.field
  placed : ∀ key ∈ sortKeys, (key.column, key.spec.field) ∈ columns
  /-- No other parameter gives what is left out or one more sort key. -/
  unrelated : ∀ other ∈ others, other.1 ≠ ListingParameter.draw.name ∧
    other.1 ≠ ListingParameter.searchTerm.name ∧ sortOrdinal? other.1 = none

namespace ListingForm

def lengthText : Option UInt64 → String
  | none => "-1"
  | some length => String.ofList (digits length.toNat)

/-- The parameters of a listing and their texts, except for the columns of the
sort keys. -/
def unnumbered (form : ListingForm) : List (ListingParameter × String) :=
  form.draw.toList.map (fun draw => (ListingParameter.draw, draw)) ++
    form.searchTerm.toList.map
      (fun term => (ListingParameter.searchTerm, term)) ++
    [(ListingParameter.skip, String.ofList (digits form.skip.toNat)),
      (ListingParameter.take, lengthText form.take)] ++
    form.columns.map
      (fun column => (ListingParameter.columnField column.1, column.2)) ++
    form.sortKeys.map (fun key => (ListingParameter.sortDirection key.ordinal,
      key.spec.direction.parameter))

def columnTexts (form : ListingForm) : List (Nat × String) :=
  form.sortKeys.map fun key => (key.ordinal, String.ofList (digits key.column))

def values (form : ListingForm) : List (ListingParameter × String) :=
  form.unnumbered ++
    form.columnTexts.map fun column =>
      (ListingParameter.sortColumn column.1, column.2)

def parameters (form : ListingForm) : List (String × String) :=
  form.values.map (fun value => (value.1.name, value.2)) ++ form.others

/-- The request that reading is to give, together with the filters. -/
def request (form : ListingForm) (filters : List FilterSpec) : RequestSpec where
  draw := form.draw
  searchTerm := form.searchTerm
  skip := form.skip
  take := form.take
  sortSpecs := form.sortKeys.map (·.spec)
  filterSpecs := filters

/-- No other parameter is the value or the category of a filter. -/
def Unfiltered (options : ParsingOptions) (form : ListingForm) : Prop :=
  ∀ other ∈ form.others, ∀ field, isFieldName field = true →
    other.1 ≠ options.parameterName field .value ∧
      other.1 ≠ options.parameterName field .category

theorem eq_of_ordinal_eq {form : ListingForm} {left right : WrittenSortKey}
    (leftMember : left ∈ form.sortKeys) (rightMember : right ∈ form.sortKeys)
    (same : left.ordinal = right.ordinal) : left = right := by
  have nodup : (form.sortKeys.map (·.ordinal)).Nodup :=
    List.Pairwise.map _ (fun _ _ before => Nat.ne_of_lt before) form.ascending
  exact List.inj_on_of_nodup_map nodup leftMember rightMember same

theorem sortColumns_eq_nil {entries : List (String × String)}
    (plain : ∀ entry ∈ entries, sortOrdinal? entry.1 = none) :
    sortColumns ⟨entries⟩ = [] := by
  rw [sortColumns, List.filterMap_eq_nil_iff]
  intro entry member
  rw [plain entry member]
  rfl

theorem ne_sortColumn_of_mem_unnumbered {form : ListingForm}
    {value : ListingParameter × String} (member : value ∈ form.unnumbered)
    (ordinal : Nat) : value.1 ≠ .sortColumn ordinal := by
  obtain ⟨parameter, text⟩ := value
  rintro rfl
  simp [unnumbered] at member

/-- The columns of the sort keys are found among the parameters, and nothing
else is taken for one of them. -/
theorem sortColumns_parameters (form : ListingForm) :
    sortColumns ⟨form.parameters⟩ = form.columnTexts := by
  have append (first second : List (String × String)) :
      sortColumns ⟨first ++ second⟩ =
        sortColumns ⟨first⟩ ++ sortColumns ⟨second⟩ := List.filterMap_append
  have unnumbered : sortColumns ⟨form.unnumbered.map fun value =>
      (value.1.name, value.2)⟩ = [] := by
    apply sortColumns_eq_nil
    intro entry member
    obtain ⟨value, given, rfl⟩ := List.mem_map.mp member
    exact ListingParameter.sortOrdinal?_eq_none
      (ne_sortColumn_of_mem_unnumbered given)
  have others : sortColumns ⟨form.others⟩ = [] :=
    sortColumns_eq_nil fun other member => (form.unrelated other member).2.2
  have numbered : sortColumns ⟨form.columnTexts.map fun column =>
      ((ListingParameter.sortColumn column.1).name, column.2)⟩ =
      form.columnTexts := by
    rw [sortColumns, List.filterMap_map]
    refine (List.filterMap_congr fun column member => ?_).trans
      List.filterMap_some
    obtain ⟨key, listed, rfl⟩ := List.mem_map.mp member
    rw [Function.comp_apply,
      ListingParameter.sortOrdinal?_sortColumn (form.ordinal_lt key listed)]
    rfl
  rw [parameters, values, List.map_append, List.map_map, append, append,
    unnumbered, others]
  simpa [Function.comp_def] using numbered

section Reading

variable {form : ListingForm} {params : Params}
  {parameter : ListingParameter} {text : String}
  (once : params.NamedOnce) (sent : params.entries.Perm form.parameters)

include once sent

theorem get?_name (given : (parameter, text) ∈ form.values) :
    params.get? parameter.name = some text := by
  rw [Params.get?_eq_some_iff once, sent.mem_iff]
  exact List.mem_append_left _ (List.mem_map_of_mem given)

omit once in
theorem get?_eq_none {name : String}
    (unwritten : ∀ value ∈ form.values, value.1.name ≠ name)
    (unsent : ∀ other ∈ form.others, other.1 ≠ name) :
    params.get? name = none := by
  rw [Params.get?, ← Option.not_isSome_iff_eq_none,
    ← Params.exists_mem_iff_lookup_isSome]
  rintro ⟨text, member⟩
  rcases List.mem_append.mp (sent.mem_iff.mp member) with written | other
  · obtain ⟨value, given, same⟩ := List.mem_map.mp written
    exact unwritten value given (Prod.mk.inj same).1
  · exact unsent _ other rfl

theorem get?_draw : params.get? "draw" = form.draw := by
  cases given : form.draw with
  | some draw =>
      have written : (.draw, draw) ∈ form.values := by
        simp [values, unnumbered, given]
      exact get?_name once sent written
  | none =>
      apply get?_eq_none sent
      · intro value member same
        obtain ⟨parameter, text⟩ := value
        obtain rfl := ListingParameter.eq_draw_of_name same
        simp [values, unnumbered, given] at member
      · exact fun other member => (form.unrelated other member).1

theorem searchTerm?_eq : searchTerm? params = form.searchTerm := by
  rw [searchTerm?]
  cases given : form.searchTerm with
  | some term =>
      have written : (.searchTerm, term) ∈ form.values := by
        simp [values, unnumbered, given]
      have found : params.get? "search[value]" = some term :=
        get?_name once sent written
      obtain ⟨nonempty, trimmed⟩ := form.searchTerm_trimmed term given
      simp [found, trimmed, nonempty, Option.filter]
  | none =>
      have absent : params.get? "search[value]" = none := by
        apply get?_eq_none sent
        · intro value member same
          obtain ⟨parameter, text⟩ := value
          obtain rfl := ListingParameter.eq_searchTerm_of_name same
          simp [values, unnumbered, given] at member
        · exact fun other member => (form.unrelated other member).2.1
      rw [absent]
      rfl

theorem skip_eq : RequestParser.skip params = form.skip := by
  have written : (.skip, String.ofList (digits form.skip.toNat)) ∈
      form.values := by simp [values, unnumbered]
  have found : params.get? "start" =
      some (String.ofList (digits form.skip.toNat)) :=
    get?_name once sent written
  rw [RequestParser.skip, found, Option.bind_some, String.toList_ofList,
    (solid_digits _).trim_eq, readUnsigned?_digits, Option.getD_some]

theorem take?_eq : take? params = form.take := by
  have written : (.take, lengthText form.take) ∈ form.values := by
    simp [values, unnumbered]
  have found : params.get? "length" = some (lengthText form.take) :=
    get?_name once sent written
  rw [take?, found, Option.bind_some]
  cases given : form.take with
  | none => rfl
  | some length =>
      have short := form.take_le length given
      have fits : length.toNat < 2 ^ 63 := by omega
      obtain ⟨word, read, value⟩ :=
        Option.map_eq_some_iff.mp (toInt_readSigned?_digits fits)
      rw [lengthText, String.toList_ofList, (solid_digits _).trim_eq, read,
        Option.bind_some, value, if_neg (by omega), Int.toNat_natCast,
        UInt64.ofNat_toNat]

theorem sortSpec?_eq {key : WrittenSortKey} (member : key ∈ form.sortKeys) :
    sortSpec? params key.ordinal (String.ofList (digits key.column)) =
      some key.spec := by
  have column : (.columnField key.column, key.spec.field) ∈ form.values := by
    simpa [values, unnumbered] using form.placed key member
  have direction : (.sortDirection key.ordinal,
      key.spec.direction.parameter) ∈ form.values := by
    simp only [values, unnumbered, List.mem_append]
    exact .inl (.inr (List.mem_map_of_mem member))
  have field? : params.get? (columnKey key.column) = some key.spec.field :=
    get?_name once sent column
  have direction? : params.get? (directionKey key.ordinal) =
      some key.spec.direction.parameter := get?_name once sent direction
  obtain ⟨nonempty, trimmed⟩ := form.field_trimmed key member
  rw [sortSpec?, String.toList_ofList, (solid_digits _).trim_eq,
    ListingParameter.readIndex?_digits (form.column_lt key member)]
  simp [field?, direction?, trimmed, nonempty, Option.filter,
    SortDirection.ofParameter_parameter]

omit once in
theorem sortColumns_perm : (sortColumns params).Perm form.columnTexts := by
  rw [← sortColumns_parameters]
  exact sent.filterMap _

omit once in
theorem mergeSort_sortColumns :
    ((sortColumns params).mergeSort fun left right => left.1 ≤ right.1) =
      form.columnTexts := by
  have ascending : form.columnTexts.Pairwise
      fun left right => left.1 ≤ right.1 :=
    form.ascending.map _ fun _ _ => Nat.le_of_lt
  apply List.Perm.eq_of_pairwise ?_ (pairwise_mergeSort_sortColumns params)
    ascending ((List.mergeSort_perm _ _).trans (sortColumns_perm sent))
  intro left right leftMember rightMember le ge
  rw [List.mem_mergeSort, (sortColumns_perm sent).mem_iff] at leftMember
  obtain ⟨leftKey, leftListed, rfl⟩ := List.mem_map.mp leftMember
  obtain ⟨rightKey, rightListed, rfl⟩ := List.mem_map.mp rightMember
  rw [eq_of_ordinal_eq leftListed rightListed (Nat.le_antisymm le ge)]

theorem sortSpecs_eq : sortSpecs params = form.sortKeys.map (·.spec) := by
  rw [sortSpecs_eq_map_orderedSpecs, orderedSpecs, mergeSort_sortColumns sent,
    numberedSpecs, columnTexts, List.filterMap_map, List.map_filterMap,
    ← List.filterMap_eq_map]
  apply List.filterMap_congr
  intro key member
  simp [sortSpec?_eq once sent member]

theorem requestWith_eq {sections : Sections}
    (searchRead : sections.search = true) (sortRead : sections.sort = true) :
    requestWith sections params = form.request := by
  funext filters
  rw [requestWith, if_pos searchRead, if_pos searchRead, if_pos searchRead,
    if_pos sortRead, get?_draw once sent, searchTerm?_eq once sent,
    skip_eq once sent, take?_eq once sent, sortSpecs_eq once sent, request]

omit once in
theorem fieldSpecs_eq_nil {options : ParsingOptions} {field : String}
    (unfiltered : form.Unfiltered options)
    (filtered : field ∈ filterFields options params) :
    fieldSpecs options params field = .ok [] := by
  obtain ⟨named, text, listed⟩ := mem_filterFields_iff.mp filtered
  have written : ∃ value ∈ form.values,
      value.1.name = options.parameterName field .category := by
    rcases List.mem_append.mp (sent.mem_iff.mp listed) with member | member
    · obtain ⟨value, given, same⟩ := List.mem_map.mp member
      exact ⟨value, given, congrArg Prod.fst same⟩
    · exact absurd rfl (unfiltered _ member field named).2
  obtain ⟨category, -, categoryName⟩ := written
  have absent : params.get? (options.valueKey field) = none := by
    apply get?_eq_none sent
    · rintro value - valueName
      apply ListingParameter.name_ne_append_key value.1 category.1
        (options.filterCategoryKey.toList ++ [']'])
      rw [categoryName, valueName]
      simp [ParsingOptions.parameterName, ParsingOptions.fieldKey,
        ParsingOptions.valueKey]
    · exact fun other member => (unfiltered other member field named).1
  have blank : rawValue options params field = "" := by
    rw [rawValue, absent]
    rfl
  rw [fieldSpecs]
  cases category? options params field with
  | none => rfl
  | some category => exact if_pos blank

omit once in
theorem filterSpecs_eq_nil {options : ParsingOptions}
    (unfiltered : form.Unfiltered options) :
    filterSpecs options params = .ok [] := by
  have read : specsOfFields options params
      ((filterFields options params).map id) =
        .ok ((filterFields options params).flatMap fun _ => []) :=
    specsOfFields_map fun _ filtered =>
      fieldSpecs_eq_nil sent unfiltered filtered
  have none : ((filterFields options params).flatMap fun _ => []) =
      ([] : List FilterSpec) := List.flatMap_eq_nil_iff.mpr fun _ _ => rfl
  rwa [List.map_id, none] at read

/-- A listing is read as it was written.  Other parameters may stand for
filters, and these alone may keep the request from being read. -/
theorem parse_listing (options : ParsingOptions) {sections : Sections}
    (searchRead : sections.search = true) (sortRead : sections.sort = true) :
    (∀ request, parse options sections params = .ok request →
      request = form.request request.filterSpecs) ∧
    ((∃ request, parse options sections params = .ok request) ↔
      (sections.filters = true →
        ∀ field, ¬ MalformedRange options params field)) ∧
    (form.Unfiltered options →
      parse options sections params = .ok (form.request [])) := by
  have shape := parse_eq_map options sections params
  rw [requestWith_eq once sent searchRead sortRead] at shape
  refine ⟨fun request read => ?_, exists_parse_eq_ok_iff, fun unfiltered => ?_⟩
  · have filters := filterSpecs_of_parse_eq_ok read
    rw [shape, filters] at read
    exact (Except.ok.inj read).symm
  · rw [shape, filterSpecs_eq_nil sent unfiltered, ite_self]
    rfl

end Reading

/-- Three sort keys, two of them for one column, and a column that nothing is
sorted by. -/
def sample : ListingForm where
  draw := some " 3"
  searchTerm := some "größer als"
  skip := 40
  take := none
  sortKeys := [⟨2, 0, ⟨"Name", .descending⟩⟩, ⟨10, 7, ⟨"Amount", .ascending⟩⟩,
    ⟨11, 0, ⟨"Name", .ascending⟩⟩]
  columns := [(0, "Name"), (1, "Kind"), (7, "Amount")]
  others := [("order[3][dir]", "desc"), ("columns[1][search]", "on")]
  searchTerm_trimmed := by decide
  take_le := nofun
  ascending := by decide
  ordinal_lt := by decide
  column_lt := by decide
  field_trimmed := by decide
  placed := by decide
  unrelated := by decide

/-- The sort keys stand in the order of their numbers, in which ten comes after
two, although the parameters are sent in reverse. -/
theorem parse_listing_sample :
    let params : Params := ⟨sample.parameters.reverse⟩
    params.NamedOnce ∧ parse .default .all params =
      .ok ⟨some " 3", some "größer als", 40, none,
        [⟨"Name", .descending⟩, ⟨"Amount", .ascending⟩,
          ⟨"Name", .ascending⟩], []⟩ := by
  intro params
  have once : params.NamedOnce := by decide
  have sent : params.entries.Perm sample.parameters := List.reverse_perm _
  have unfiltered : sample.Unfiltered .default := by
    intro other member field named
    have filterLetter (parameter : FilterParameter) :
        (ParsingOptions.default.parameterName field parameter).toList.head? =
          some 'f' := by
      rw [ParsingOptions.toList_parameterName]
      rfl
    have otherLetter : ∀ other ∈ sample.others,
        other.1.toList.head? ≠ some 'f' := by decide
    constructor
    · intro same
      exact otherLetter other member (same ▸ filterLetter .value)
    · intro same
      exact otherLetter other member (same ▸ filterLetter .category)
  exact ⟨once, (parse_listing once sent .default rfl rfl).2.2 unfiltered⟩

end ListingForm

end GridQuery
