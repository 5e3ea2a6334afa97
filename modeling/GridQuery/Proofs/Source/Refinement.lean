import Mathlib.Data.List.Pairwise
import GridQuery.Proofs.Source.Database
import GridQuery.Proofs.Sql.Truth
import GridQuery.Source.Memory

/-!
# Queries and records in memory

A query stands for a list of records in memory when its answers, converted, are
these records.  Filtering, projecting, ordering and cutting a page keep this
true, each done to the query and to the list.

Before anything is ordered the answers may be arranged in any way, while the
list is in the order of the primary key.  An ordering of the query ends with
the primary key, which leaves one arrangement; sorting the list is stable, so
the list ends up in the same one.
-/

namespace GridQuery

open Sql

variable {μ ρ π : Type}

/-- The order of two rows of a table by its primary key. -/
def Sql.Table.keyOrder (table : Table) (left right : Row) : Ordering :=
  rowOrder left right (table.primaryKey.map (.key table.name))

instance (table : Table) : Std.TransCmp table.keyOrder :=
  transCmp_rowOrder _

/-- The records in memory are those of the table, in the order of its primary
key, which tells them apart. -/
structure Mirrors (table : Table) (row : μ → Row) (stored records : List μ) :
    Prop where
  distinct : stored.Pairwise fun left right =>
    table.keyOrder (row left) (row right) ≠ .eq
  perm : records.Perm stored
  ascending : records.Pairwise fun left right =>
    (table.keyOrder (row left) (row right)).isLE = true

/-- A predicate of converted records selects by its test the records whose rows
it selects by its condition. -/
def Predicate.SelectsAlike (predicate : Predicate ρ)
    (row : μ → Row) (stored : List μ) (convert : μ → ρ) : Prop :=
  ∀ condition, predicate.condition = some condition →
    ∀ record ∈ stored, predicate.test (convert record) = true ↔
      condition.truth (row record) = some true

theorem Sql.Select.keeps_restrict
    (select : Select) (condition : Condition) (row : Row) :
    (select.restrict condition).keeps row =
      (select.keeps row && condition.holds row) := by
  rw [Bool.eq_iff_iff, Bool.and_eq_true]
  unfold Select.restrict Select.keeps
  cases select.condition with
  | none => simp
  | some current => simp [Condition.holds_eq_true_iff]

namespace Mirrors

variable {table : Table} {row : μ → Row} {stored records : List μ}

theorem eq_of_keyOrder_eq (mirrors : Mirrors table row stored records)
    {left right : μ} (leftStored : left ∈ stored)
    (rightStored : right ∈ stored)
    (tied : table.keyOrder (row left) (row right) = .eq) : left = right := by
  have swapped (left right : μ) :
      table.keyOrder (row left) (row right) =
        (table.keyOrder (row right) (row left)).swap :=
    Std.OrientedCmp.eq_swap
  have symmetric : Std.Symm fun left right : μ =>
      table.keyOrder (row left) (row right) ≠ .eq :=
    ⟨fun left right different tied =>
      different (by rw [swapped, tied]; rfl)⟩
  apply Classical.byContradiction
  intro different
  exact mirrors.distinct.forall leftStored rightStored different tied

/-- What a predicate selects of the stored records it selects of those in
memory. -/
theorem selectsAlike (mirrors : Mirrors table row stored records)
    {predicate : Predicate ρ} {convert : μ → ρ}
    (alike : predicate.SelectsAlike row stored convert) :
    predicate.SelectsAlike row records convert := by
  intro condition known record member
  exact alike condition known record (mirrors.perm.mem_iff.mp member)

end Mirrors

/-- What a query and the records in memory have in common while nothing is
ordered. -/
structure Narrows (table : Table) (row : μ → Row) (records : List μ)
    (convert : μ → ρ) (query : QuerySource μ ρ) (memory : MemorySource ρ) :
    Prop where
  table_eq : query.select.table = table
  ordering_eq : query.select.ordering = []
  page_eq : query.select.page = none
  ordered_eq : query.ordered = false
  convert_eq : query.convert = convert
  records_eq : memory.records =
    (records.filter fun record => query.select.keeps (row record)).map convert

/-- What they have in common once they are ordered: every arrangement that the
query allows is that of the records. -/
structure Arranges (row : μ → Row) (stored : List μ)
    (query : QuerySource μ ρ) (memory : MemorySource ρ) : Prop where
  ordered_eq : query.ordered = true
  page_eq : query.select.page = none
  records_eq : ∀ arranged : List μ,
    arranged.Perm
      (stored.filter fun record => query.select.keeps (row record)) →
    arranged.Pairwise (fun earlier later =>
      (rowOrder (row earlier) (row later) query.select.ordering).isLE
        = true) →
    memory.records = arranged.map query.convert

namespace Narrows

variable {table : Table} {row : μ → Row} {stored records : List μ}
  {convert : μ → ρ} {query : QuerySource μ ρ} {memory : MemorySource ρ}

theorem start (table : Table) (row : μ → Row) (records : List μ) :
    Narrows table row records id (.ofSelect (.all table)) ⟨records⟩ where
  table_eq := rfl
  ordering_eq := rfl
  page_eq := rfl
  ordered_eq := rfl
  convert_eq := rfl
  records_eq := by
    rw [List.map_id]
    exact (List.filter_eq_self.mpr fun _ _ => rfl).symm

theorem filter (narrows : Narrows table row records convert query memory)
    {predicate : Predicate ρ}
    (pushable : predicate.condition.isSome = true)
    (alike : predicate.SelectsAlike row records convert) :
    ∃ narrowed, query.filter predicate = .ok narrowed ∧
      Narrows table row records convert narrowed
        (memory.filter predicate) := by
  obtain ⟨condition, known⟩ := Option.isSome_iff_exists.mp pushable
  refine ⟨{ query with select := query.select.restrict condition }, ?_, ?_⟩
  · simp [QuerySource.filter, known]
  · refine ⟨narrows.table_eq, narrows.ordering_eq, narrows.page_eq,
      narrows.ordered_eq, narrows.convert_eq, ?_⟩
    have kept : ∀ record ∈ records,
        (predicate.test (convert record) &&
            query.select.keeps (row record)) =
          (query.select.restrict condition).keeps (row record) := by
      intro record member
      have same : predicate.test (convert record) =
          condition.holds (row record) := by
        rw [Bool.eq_iff_iff, Condition.holds_eq_true_iff]
        exact alike condition known record member
      rw [Select.keeps_restrict, Bool.and_comm, same]
    rw [MemorySource.filter, narrows.records_eq, List.filter_map,
      List.filter_filter]
    exact congrArg (List.map convert) (List.filter_congr kept)

theorem project (narrows : Narrows table row records convert query memory)
    (f : ρ → π) :
    Narrows table row records (f ∘ convert) (query.project f)
      (memory.project f) where
  table_eq := narrows.table_eq
  ordering_eq := narrows.ordering_eq
  page_eq := narrows.page_eq
  ordered_eq := narrows.ordered_eq
  convert_eq := by rw [QuerySource.project, narrows.convert_eq]
  records_eq := by
    rw [MemorySource.project, narrows.records_eq, List.map_map]
    rfl

theorem count_eq (narrows : Narrows table row records convert query memory)
    (mirrors : Mirrors table row stored records) :
    query.select.countOf row stored = memory.count := by
  rw [MemorySource.count, narrows.records_eq, List.length_map]
  exact (mirrors.perm.symm.filter _).length_eq

theorem fetch (narrows : Narrows table row records convert query memory)
    (mirrors : Mirrors table row stored records) {answer : List μ}
    (answers : query.select.Answers row stored answer) :
    (answer.map query.convert).Perm memory.records := by
  obtain ⟨arranged, perm, -, rfl⟩ := answers
  rw [Select.onPage, narrows.page_eq, narrows.records_eq, narrows.convert_eq]
  exact (perm.trans (mirrors.perm.symm.filter _)).map convert

end Narrows

theorem Sql.Select.foldl_orderBy (select : Select) (keys : List SortKey) :
    keys.foldl (fun select key => select.orderBy (Sort.queryTerm key))
        select =
      { select with
        ordering := select.ordering ++ keys.map Sort.queryTerm } := by
  induction keys generalizing select with
  | nil => simp
  | cons key keys induction =>
      rw [List.foldl_cons, induction]
      simp [Select.orderBy]

theorem RecordOrder.sort_nil [Record ρ] (records : List ρ) :
    (RecordOrder.mk []).sort records = records := by
  apply List.mergeSort_of_pairwise
  exact List.pairwise_of_forall fun _ _ => rfl

section Arranging

variable [Record ρ] {table : Table} {row : μ → Row} {stored records : List μ}
  {convert : μ → ρ} {order : RecordOrder}

/-- The keys of an ordering and then the primary key order the rows of a table
as the ordering does the records, and then as the primary key does. -/
theorem rowOrder_keys_primaryKey
    (columns : ∀ key ∈ order.keys, ∀ record ∈ stored,
      row record key.field.column = key.field.read (convert record))
    {left right : μ} (leftStored : left ∈ stored)
    (rightStored : right ∈ stored) :
    rowOrder (row left) (row right)
        (order.keys.map Sort.queryTerm ++
          table.primaryKey.map (.key table.name)) =
      (order.compare (convert left) (convert right)).then
        (table.keyOrder (row left) (row right)) := by
  rw [rowOrder_append, rowOrder_queryTerm
    (fun key member => columns key member left leftStored)
    (fun key member => columns key member right rightStored)]
  rfl

/-- The rows of a table that a query keeps have one arrangement by the keys of
an ordering and the primary key: that of the records in memory, sorted. -/
theorem Mirrors.eq_mergeSort
    (mirrors : Mirrors table row stored records)
    (columns : ∀ key ∈ order.keys, ∀ record ∈ stored,
      row record key.field.column = key.field.read (convert record))
    (keeps : μ → Bool) {arranged : List μ}
    (perm : arranged.Perm (stored.filter keeps))
    (inOrder : arranged.Pairwise fun earlier later =>
      (rowOrder (row earlier) (row later)
        (order.keys.map Sort.queryTerm ++
          table.primaryKey.map (.key table.name))).isLE = true) :
    arranged = (records.filter keeps).mergeSort fun left right =>
      (order.compare (convert left) (convert right)).isLE := by
  have total : Std.TransCmp fun left right : μ =>
      order.compare (convert left) (convert right) :=
    transCmp_on (fun left right => order.compare left right) convert
  have sortedPerm := List.mergeSort_perm (records.filter keeps)
    fun left right => (order.compare (convert left) (convert right)).isLE
  have samePerm := perm.trans (mirrors.perm.symm.filter keeps)
  have inStored {record : μ} (member : record ∈ records.filter keeps) :
      record ∈ stored :=
    mirrors.perm.mem_iff.mp (List.mem_filter.mp member).1
  have sorted := pairwise_mergeSort_then
    (fun left right : μ => order.compare (convert left) (convert right))
    (mirrors.ascending.filter keeps)
  apply List.Perm.eq_of_pairwise ?_ inOrder ?_
    (samePerm.trans sortedPerm.symm)
  · intro left right leftMember rightMember le ge
    have leftStored := inStored (samePerm.mem_iff.mp leftMember)
    have rightStored := inStored (sortedPerm.mem_iff.mp rightMember)
    have tied := rowOrder_eq_of_isLE le ge
    rw [rowOrder_keys_primaryKey columns leftStored rightStored,
      Ordering.then_eq_eq] at tied
    exact mirrors.eq_of_keyOrder_eq leftStored rightStored tied.2
  · apply sorted.imp_of_mem
    intro earlier later earlierMember laterMember le
    rw [rowOrder_keys_primaryKey columns
      (inStored (sortedPerm.mem_iff.mp earlierMember))
      (inStored (sortedPerm.mem_iff.mp laterMember))]
    exact le

end Arranging

namespace Narrows

variable [Record ρ] {table : Table} {row : μ → Row} {stored records : List μ}
  {convert : μ → ρ} {query : QuerySource μ ρ} {memory : MemorySource ρ}

theorem order (narrows : Narrows table row records convert query memory)
    (mirrors : Mirrors table row stored records) {order : RecordOrder}
    (columns : ∀ key ∈ order.keys, ∀ record ∈ stored,
      row record key.field.column = key.field.read (convert record)) :
    Arranges row stored (query.order order) (memory.order order) := by
  have select : (query.order order).select =
      { query.select with
        ordering := order.keys.map Sort.queryTerm ++
          table.primaryKey.map (.key table.name) } := by
    simp [QuerySource.order, QuerySource.orderByKey, Select.orderByKey,
      Sql.Select.foldl_orderBy, narrows.ordering_eq, narrows.table_eq]
  refine ⟨rfl, by rw [select]; exact narrows.page_eq, ?_⟩
  intro arranged perm inOrder
  rw [select] at perm inOrder
  have unique := mirrors.eq_mergeSort columns
    (fun record => query.select.keeps (row record)) perm inOrder
  have converted : (query.order order).convert = convert :=
    narrows.convert_eq
  rw [MemorySource.order, RecordOrder.sort, narrows.records_eq, converted,
    unique]
  symm
  apply List.map_mergeSort
  intros
  rfl

theorem orderByKey (narrows : Narrows table row records convert query memory)
    (mirrors : Mirrors table row stored records) :
    Arranges row stored query.orderByKey memory := by
  have arranges : Arranges row stored (query.order ⟨[]⟩)
      (memory.order ⟨[]⟩) :=
    narrows.order mirrors (by simp)
  rw [MemorySource.order, RecordOrder.sort_nil] at arranges
  exact arranges

end Narrows

namespace Arranges

variable {row : μ → Row} {stored : List μ} {query : QuerySource μ ρ}
  {memory : MemorySource ρ} {answer : List μ}

/-- Once ordered, a query has the records in memory as its only answer. -/
theorem fetch (arranges : Arranges row stored query memory)
    (answers : query.select.Answers row stored answer) :
    answer.map query.convert = memory.records := by
  obtain ⟨arranged, perm, inOrder, rfl⟩ := answers
  rw [Select.onPage, arranges.page_eq,
    arranges.records_eq arranged perm inOrder]

theorem fetch_paginate (arranges : Arranges row stored query memory)
    {skip take : UInt64}
    (answers :
      (query.paginate skip take).select.Answers row stored answer) :
    answer.map (query.paginate skip take).convert =
      (memory.paginate skip take).records := by
  have paginate : query.paginate skip take =
      { query with select := query.select.paginate skip take } := by
    simp [QuerySource.paginate, arranges.ordered_eq]
  rw [paginate] at answers ⊢
  obtain ⟨arranged, perm, inOrder, rfl⟩ := answers
  rw [MemorySource.paginate, arranges.records_eq arranged perm inOrder]
  simp [Select.onPage, Select.paginate, List.map_take, List.map_drop]

end Arranges

end GridQuery
