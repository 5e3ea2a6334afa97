import Mathlib
import GridQuery.Proofs.Request.Fields
import GridQuery.Proofs.Request.Params

/-!
# Parameters in another arrangement

A request takes its parameters by name, except for the fields with filters and
for the sort keys, which it collects from the list of all parameters.  The
fields are put in the order of their names, so that it does not matter how the
parameters are arranged.  The sort keys are put in the order of their numbers.
Since a number can be written in several ways, with zeros or a sign before it,
one number may have several sort keys, and these stay as the parameters are
arranged.
-/

namespace GridQuery

namespace RequestParser

variable {options : ParsingOptions} {sections : Sections}
  {params other : Params}

section SameValues

variable (same : other.get? = params.get?)

include same

theorem sortSpec?_eq_of_get? : sortSpec? other = sortSpec? params := by
  funext ordinal column
  simp only [sortSpec?, same]

theorem specsOfFields_eq_of_get? (fields : List String) :
    specsOfFields options other fields =
      specsOfFields options params fields := by
  induction fields with
  | nil => rfl
  | cons field fields induction =>
      have agree : AgreeOn options params other field :=
        fun parameter => congrFun same _
      rw [specsOfFields, specsOfFields, fieldSpecs_eq_of_agreeOn agree,
        induction]

end SameValues

theorem filterFields_eq_of_perm (perm : other.entries.Perm params.entries) :
    filterFields options other = filterFields options params := by
  apply Ascending.eq_of_mem_iff (ascending_filterFields _ _)
    (ascending_filterFields _ _)
  intro field
  simp only [mem_filterFields_iff, perm.mem_iff]

theorem filterSpecs_eq_of_perm (once : params.NamedOnce)
    (perm : other.entries.Perm params.entries) :
    filterSpecs options other = filterSpecs options params := by
  rw [filterSpecs, filterFields_eq_of_perm perm,
    specsOfFields_eq_of_get? (Params.get?_eq_of_perm once perm), filterSpecs]

section SortKeys

/-- The numbers of the sort keys and the texts of their columns, as the
parameters are arranged. -/
def sortColumns (params : Params) : List (Nat × String) :=
  params.entries.filterMap fun entry =>
    (sortOrdinal? entry.1).map fun ordinal => (ordinal, entry.2)

/-- The sort keys of columns, together with their numbers. -/
def numberedSpecs (params : Params) (columns : List (Nat × String)) :
    List (Nat × SortSpec) :=
  columns.filterMap fun key =>
    (sortSpec? params key.1 key.2).map fun spec => (key.1, spec)

/-- The sort keys in the order of their numbers. -/
def orderedSpecs (params : Params) : List (Nat × SortSpec) :=
  numberedSpecs params
    ((sortColumns params).mergeSort fun left right => left.1 ≤ right.1)

/-- Parameters give a sort key under a number. -/
def GivesSortKey (params : Params) (ordinal : Nat) (spec : SortSpec) : Prop :=
  ∃ entry ∈ params.entries, sortOrdinal? entry.1 = some ordinal ∧
    sortSpec? params ordinal entry.2 = some spec

/-- No number has two different sort keys, however it is written. -/
def SortKeysAgree (params : Params) : Prop :=
  ∀ ordinal first second, GivesSortKey params ordinal first →
    GivesSortKey params ordinal second → first = second

theorem mem_numberedSpecs_iff {ordinal : Nat} {spec : SortSpec} :
    (ordinal, spec) ∈ numberedSpecs params (sortColumns params) ↔
      GivesSortKey params ordinal spec := by
  simp only [numberedSpecs, sortColumns, List.mem_filterMap,
    Option.map_eq_some_iff, GivesSortKey, Prod.mk.injEq]
  constructor
  · rintro ⟨_, ⟨entry, listed, _, numbered, rfl⟩, _, found, rfl, rfl⟩
    exact ⟨entry, listed, numbered, found⟩
  · rintro ⟨entry, listed, numbered, found⟩
    exact ⟨_, ⟨entry, listed, ordinal, numbered, rfl⟩, spec, found, rfl, rfl⟩

theorem sortSpecs_eq_map_orderedSpecs (params : Params) :
    sortSpecs params = (orderedSpecs params).map Prod.snd := by
  simp [orderedSpecs, numberedSpecs, sortSpecs, sortColumns,
    List.map_filterMap, Function.comp_def]

theorem orderedSpecs_perm (params : Params) :
    (orderedSpecs params).Perm
      (numberedSpecs params (sortColumns params)) :=
  (List.mergeSort_perm _ _).filterMap _

theorem numberLE_trans (first second third : Nat × String)
    (le : decide (first.1 ≤ second.1) = true)
    (le' : decide (second.1 ≤ third.1) = true) :
    decide (first.1 ≤ third.1) = true := by
  simp only [decide_eq_true_eq] at le le' ⊢
  omega

theorem numberLE_total (left right : Nat × String) :
    (decide (left.1 ≤ right.1) || decide (right.1 ≤ left.1)) = true := by
  simp only [Bool.or_eq_true, decide_eq_true_eq]
  omega

theorem pairwise_mergeSort_sortColumns (params : Params) :
    ((sortColumns params).mergeSort fun left right =>
      left.1 ≤ right.1).Pairwise fun left right => left.1 ≤ right.1 := by
  simpa using
    List.pairwise_mergeSort numberLE_trans numberLE_total (sortColumns params)

theorem pairwise_orderedSpecs (params : Params) :
    (orderedSpecs params).Pairwise fun left right => left.1 ≤ right.1 := by
  refine (pairwise_mergeSort_sortColumns params).filterMap _ ?_
  intro left right le first found second found'
  obtain ⟨_, -, rfl⟩ := Option.map_eq_some_iff.mp found
  obtain ⟨_, -, rfl⟩ := Option.map_eq_some_iff.mp found'
  exact le

/-- Sort keys of one number stand as the parameters are arranged. -/
theorem filter_orderedSpecs (params : Params) (ordinal : Nat) :
    (orderedSpecs params).filter (·.1 = ordinal) =
      (numberedSpecs params (sortColumns params)).filter (·.1 = ordinal) := by
  have numbered (columns : List (Nat × String)) :
      (numberedSpecs params columns).filter (·.1 = ordinal) =
        numberedSpecs params (columns.filter (·.1 = ordinal)) := by
    simp only [numberedSpecs, List.filter_filterMap, List.filterMap_filter]
    congr 1
    funext key
    cases sortSpec? params key.1 key.2 <;> simp [Option.filter]
  rw [orderedSpecs, numbered, numbered]
  congr 1
  apply filter_mergeSort_of_tied numberLE_trans numberLE_total
  intro left right leftNumber rightNumber
  simp only [decide_eq_true_eq] at leftNumber rightNumber ⊢
  omega

section Rearranged

variable (once : params.NamedOnce)
  (perm : other.entries.Perm params.entries)

include once perm

theorem numberedSpecs_perm :
    (numberedSpecs other (sortColumns other)).Perm
      (numberedSpecs params (sortColumns params)) := by
  have columns : (sortColumns other).Perm (sortColumns params) :=
    perm.filterMap _
  simp only [numberedSpecs,
    sortSpec?_eq_of_get? (Params.get?_eq_of_perm once perm)]
  exact columns.filterMap _

theorem orderedSpecs_perm_of_perm :
    (orderedSpecs other).Perm (orderedSpecs params) :=
  (orderedSpecs_perm other).trans
    ((numberedSpecs_perm once perm).trans (orderedSpecs_perm params).symm)

theorem orderedSpecs_eq_of_agree (agree : SortKeysAgree params) :
    orderedSpecs other = orderedSpecs params := by
  apply List.Perm.eq_of_pairwise ?_ (pairwise_orderedSpecs other)
    (pairwise_orderedSpecs params) (orderedSpecs_perm_of_perm once perm)
  rintro ⟨ordinal, first⟩ ⟨number, second⟩ firstListed secondListed le ge
  obtain rfl : ordinal = number := Nat.le_antisymm le ge
  have given {spec : SortSpec}
      (listed : (ordinal, spec) ∈ orderedSpecs params) :
      GivesSortKey params ordinal spec :=
    mem_numberedSpecs_iff.mp ((orderedSpecs_perm params).mem_iff.mp listed)
  have firstGiven := given
    ((orderedSpecs_perm_of_perm once perm).mem_iff.mp firstListed)
  rw [agree ordinal first second firstGiven (given secondListed)]

/-- Where the sort keys are the same, they have the same numbers, as many sort
keys of each number being there in both arrangements. -/
theorem orderedSpecs_eq_of_sortSpecs_eq
    (same : sortSpecs other = sortSpecs params) :
    orderedSpecs other = orderedSpecs params := by
  have numbers : (orderedSpecs other).map Prod.fst =
      (orderedSpecs params).map Prod.fst := by
    apply List.Perm.eq_of_pairwise
      (fun _ _ _ _ => Nat.le_antisymm)
      ((pairwise_orderedSpecs other).map _ fun _ _ le => le)
      ((pairwise_orderedSpecs params).map _ fun _ _ le => le)
    exact (orderedSpecs_perm_of_perm once perm).map _
  rw [sortSpecs_eq_map_orderedSpecs, sortSpecs_eq_map_orderedSpecs] at same
  rw [List.zip_of_prod numbers same, ← List.zip_of_prod rfl rfl]

/-- Requests of two arrangements differ in nothing but the order of the sort
keys. -/
theorem parse_eq_of_perm :
    parse options sections other =
      (parse options sections params).map fun request =>
        { request with
          sortSpecs := if sections.sort then sortSpecs other else [] } := by
  have request : requestWith sections other = fun filters =>
      { requestWith sections params filters with
        sortSpecs := if sections.sort then sortSpecs other else [] } := by
    funext filters
    simp only [requestWith, searchTerm?, skip, take?,
      Params.get?_eq_of_perm once perm]
  rw [parse_eq_map, parse_eq_map, filterSpecs_eq_of_perm once perm, request]
  cases (if sections.filters then filterSpecs options params else .ok []) <;>
    rfl

end Rearranged

/-- Two arrangements that begin with different sort keys of one number have
different sort keys. -/
theorem agree_of_sortSpecs_eq (once : params.NamedOnce)
    (same : ∀ other : Params, other.entries.Perm params.entries →
      sortSpecs other = sortSpecs params) :
    SortKeysAgree params := by
  have leads {ordinal : Nat} {spec : SortSpec}
      (given : GivesSortKey params ordinal spec) :
      ((orderedSpecs params).filter (·.1 = ordinal)).head? =
        some (ordinal, spec) := by
    obtain ⟨entry, listed, numbered, found⟩ := given
    let front : Params := ⟨entry :: params.entries.erase entry⟩
    have perm : front.entries.Perm params.entries :=
      (List.perm_cons_erase listed).symm
    have values := Params.get?_eq_of_perm once perm
    have first : numberedSpecs front (sortColumns front) =
        (ordinal, spec) :: numberedSpecs front
          (sortColumns ⟨params.entries.erase entry⟩) := by
      simp [front, numberedSpecs, sortColumns, numbered,
        sortSpec?_eq_of_get? values, found]
    rw [← orderedSpecs_eq_of_sortSpecs_eq once perm (same front perm),
      filter_orderedSpecs, first]
    simp
  intro ordinal first second firstGiven secondGiven
  have both := (leads firstGiven).symm.trans (leads secondGiven)
  simpa using both

theorem sortSpecs_of_parse_eq_ok {request : RequestSpec}
    (read : parse options sections params = .ok request) :
    request.sortSpecs = if sections.sort then sortSpecs params else [] := by
  rw [parse_eq_map] at read
  cases filters : (if sections.filters then filterSpecs options params
      else .ok []) with
  | error reason =>
      rw [filters] at read
      cases read
  | ok specs =>
      rw [filters] at read
      cases read
      rfl

/-- A request depends on the arrangement of its parameters in the order of its
sort keys alone, and it does not depend on it at all exactly if no number has
two different sort keys. -/
theorem parse_arrangement (once : params.NamedOnce) (options : ParsingOptions)
    (sections : Sections) :
    (∀ other : Params, other.entries.Perm params.entries →
      parse options sections other =
          (parse options sections params).map (fun request =>
            { request with
              sortSpecs := if sections.sort then sortSpecs other else [] }) ∧
        (sortSpecs other).Perm (sortSpecs params)) ∧
    ((∀ other : Params, other.entries.Perm params.entries →
        parse options sections other = parse options sections params) ↔
      (sections.sort = true →
        (∃ request, parse options sections params = .ok request) →
        SortKeysAgree params)) := by
  refine ⟨fun other perm => ⟨parse_eq_of_perm once perm, ?_⟩, ?_, ?_⟩
  · rw [sortSpecs_eq_map_orderedSpecs, sortSpecs_eq_map_orderedSpecs]
    exact (orderedSpecs_perm_of_perm once perm).map _
  · rintro same sorted ⟨request, read⟩
    apply agree_of_sortSpecs_eq once
    intro other perm
    have here := sortSpecs_of_parse_eq_ok read
    have there := sortSpecs_of_parse_eq_ok ((same other perm).trans read)
    rw [if_pos sorted] at here there
    rw [← here, ← there]
  · intro agree other perm
    rw [parse_eq_of_perm once perm]
    cases read : parse options sections params with
    | error reason => rfl
    | ok request =>
        have unmoved : (if sections.sort then sortSpecs other else []) =
            request.sortSpecs := by
          rw [sortSpecs_of_parse_eq_ok read]
          split
          · rename_i sorted
            rw [sortSpecs_eq_map_orderedSpecs, orderedSpecs_eq_of_agree once
              perm (agree sorted ⟨request, read⟩),
              ← sortSpecs_eq_map_orderedSpecs]
          · rfl
        rw [Except.map, unmoved]

/-- Two columns to sort by, the number of the one written with two digits. -/
def zeroTwice : Params :=
  ⟨[("columns[0][data]", "Name"), ("columns[1][data]", "Amount"),
    ("order[0][column]", "0"), ("order[00][column]", "1")]⟩

/-- The number zero has two sort keys, and the arrangement of the parameters
decides which of them comes first. -/
theorem parse_zeroTwice :
    zeroTwice.NamedOnce ∧
    ∃ other : Params, other.entries.Perm zeroTwice.entries ∧
      (parse .default .all zeroTwice).map (·.sortSpecs) =
        .ok [⟨"Name", .ascending⟩, ⟨"Amount", .ascending⟩] ∧
      (parse .default .all other).map (·.sortSpecs) =
        .ok [⟨"Amount", .ascending⟩, ⟨"Name", .ascending⟩] ∧
      parse .default .all other ≠ parse .default .all zeroTwice := by
  have listed : (parse .default .all zeroTwice).map (·.sortSpecs) =
      .ok [⟨"Name", .ascending⟩, ⟨"Amount", .ascending⟩] := by cbv
  have reversed :
      (parse .default .all ⟨zeroTwice.entries.reverse⟩).map (·.sortSpecs) =
        .ok [⟨"Amount", .ascending⟩, ⟨"Name", .ascending⟩] := by cbv
  refine ⟨by decide, ⟨zeroTwice.entries.reverse⟩, List.reverse_perm _, listed,
    reversed, ?_⟩
  intro same
  rw [same, listed] at reversed
  exact absurd reversed (by decide)

/-- Sort keys with the numbers one and zero have one order, however they are
arranged. -/
theorem parse_arrangement_twoNumbers :
    let params := Params.ofList
      [("order[+1][column]", "0"), ("columns[0][data]", "Name"),
        ("order[0][column]", "1"), ("columns[1][data]", "Amount")]
    params.NamedOnce ∧
    ∀ other : Params, other.entries.Perm params.entries →
      parse .default .all other = parse .default .all params := by
  intro params
  have once : params.NamedOnce := Params.namedOnce_ofList _
  have single : ∀ entry ∈ params.entries, ∀ entry' ∈ params.entries,
      (sortOrdinal? entry.1).isSome = true →
      sortOrdinal? entry.1 = sortOrdinal? entry'.1 → entry = entry' := by
    decide +kernel
  refine ⟨once, (parse_arrangement once .default .all).2.mpr ?_⟩
  rintro - - ordinal first second ⟨entry, listed, numbered, found⟩
    ⟨entry', listed', numbered', found'⟩
  obtain rfl := single entry listed entry' listed' (by simp [numbered])
    (numbered.trans numbered'.symm)
  exact Option.some.inj (found.symm.trans found')

end SortKeys

end RequestParser

end GridQuery
