import GridQuery.Proofs.Ordering
import GridQuery.Source.Memory

/-!
# Sorting records in memory

A source in memory is sorted by any number of keys at once.  The records that
have the same values in all keys keep their order, whatever the directions, and
null goes to the front of an ascending key and to the end of a descending one.
Sorting by more keys is sorting by the last of them first.
-/

namespace GridQuery

/-- A value may stand before another one in a direction as far as null is
concerned. -/
def SortDirection.PlacesNull :
    SortDirection → FieldValue → FieldValue → Prop
  | ascending, earlier, later => later = .null → earlier = .null
  | descending, earlier, later => earlier = .null → later = .null

theorem SortDirection.placesNull_of_isLE {direction : SortDirection}
    {earlier later : FieldValue}
    (le : (direction.apply (earlier.order later)).isLE = true) :
    direction.PlacesNull earlier later := by
  cases direction with
  | ascending =>
      intro laterNull
      rw [laterNull] at le
      exact FieldValue.eq_null_of_order_null_isLE le
  | descending =>
      intro earlierNull
      have swapped : later.order earlier = (earlier.order later).swap :=
        Std.OrientedCmp.eq_swap
      rw [SortDirection.apply, ← swapped, earlierNull] at le
      exact FieldValue.eq_null_of_order_null_isLE le

namespace RecordOrder

variable {ρ : Type} [Record ρ]

/-- Two records have equal values in all of some keys. -/
def TieOn (keys : List SortKey) (left right : ρ) : Prop :=
  ∀ key ∈ keys,
    (key.field.read left).order (key.field.read right) = .eq

instance (keys : List SortKey) (left right : ρ) :
    Decidable (TieOn keys left right) :=
  List.decidableBAll _ keys

theorem compareBy_eq_eq_iff {key : SortKey} {left right : ρ} :
    compareBy key left right = .eq ↔
      (key.field.read left).order (key.field.read right) = .eq := by
  rw [compareBy]
  cases key.direction <;> simp [SortDirection.apply]

theorem compareByKeys_eq_eq_iff {keys : List SortKey} {left right : ρ} :
    compareByKeys keys left right = .eq ↔ TieOn keys left right := by
  induction keys with
  | nil => simp [compareByKeys, TieOn]
  | cons key keys induction =>
      rw [compareByKeys, Ordering.then_eq_eq, compareBy_eq_eq_iff, induction]
      simp [TieOn]

theorem compareByKeys_append
    (first second : List SortKey) (left right : ρ) :
    compareByKeys (first ++ second) left right =
      (compareByKeys first left right).then
        (compareByKeys second left right) := by
  induction first with
  | nil => rfl
  | cons key first induction =>
      rw [List.cons_append, compareByKeys, induction, compareByKeys,
        Ordering.then_assoc]

theorem not_lt_of_isLE {order : RecordOrder} {earlier later : ρ}
    (le : (order.compare earlier later).isLE = true) :
    order.compare later earlier ≠ .lt := by
  have swapped : order.compare later earlier =
      (order.compare earlier later).swap := Std.OrientedCmp.eq_swap
  rw [swapped]
  intro less
  rw [Ordering.swap_eq_lt.mp less] at le
  cases le

/-- Records that tie in the keys before one stand as this key wants them. -/
theorem compareBy_isLE_of_tieOn
    {before after : List SortKey} {key : SortKey} {left right : ρ}
    (le : (compareByKeys (before ++ key :: after) left right).isLE = true)
    (tie : TieOn before left right) :
    (compareBy key left right).isLE = true := by
  rw [compareByKeys_append, compareByKeys_eq_eq_iff.mpr tie] at le
  exact Ordering.isLE_left_of_isLE_then le

theorem filter_sort_of_tied {order : RecordOrder} {kept : ρ → Bool}
    (tied : ∀ left right, kept left = true → kept right = true →
      order.compare left right = .eq)
    (records : List ρ) :
    (order.sort records).filter kept = records.filter kept := by
  apply filter_mergeSort_of_tied (cmp_isLE_trans order.compare)
    (cmp_isLE_total order.compare)
  intro left right leftKept rightKept
  rw [tied left right leftKept rightKept]
  rfl

/-- The records that tie with a given one in the keys, and maybe in others, keep
their order. -/
theorem filter_sort_tieOn (keys : List SortKey) {kept : List SortKey}
    (among : keys ⊆ kept) (record : ρ) (records : List ρ) :
    ((RecordOrder.mk keys).sort records).filter (TieOn kept record ·) =
      records.filter (TieOn kept record ·) := by
  apply filter_sort_of_tied
  intro left right leftTies rightTies
  have leftTie : TieOn keys record left := fun key member =>
    of_decide_eq_true leftTies key (among member)
  have rightTie : TieOn keys record right := fun key member =>
    of_decide_eq_true rightTies key (among member)
  exact Std.TransCmp.eq_trans
    (Std.OrientedCmp.eq_symm (compareByKeys_eq_eq_iff.mpr leftTie))
    (compareByKeys_eq_eq_iff.mpr rightTie)

/-- Sorting by the keys of a list is sorting by the last ones first. -/
theorem sort_append
    (first second : List SortKey) (records : List ρ) :
    (RecordOrder.mk (first ++ second)).sort records =
      (RecordOrder.mk first).sort ((RecordOrder.mk second).sort records) := by
  have whole := (RecordOrder.mk (first ++ second)).sortsStably_sort records
  have last := (RecordOrder.mk second).sortsStably_sort records
  apply eq_of_inOrder
  · exact whole.perm.trans
      ((List.mergeSort_perm _ _).trans last.perm).symm
  · exact whole.inOrder
  · have refined := pairwise_mergeSort_then (compareByKeys first) last.inOrder
    apply refined.imp
    intro left right le
    rw [RecordOrder.compare, compareByKeys_append]
    exact le
  · intro record
    simp only [RecordOrder.compare, compareByKeys_eq_eq_iff]
    rw [filter_sort_tieOn _ (List.Subset.refl _),
      filter_sort_tieOn _ (List.subset_append_left first second),
      filter_sort_tieOn _ (List.subset_append_right first second)]

end RecordOrder

namespace MemorySource

open RecordOrder

variable {ρ : Type} [Record ρ]

/-- Sorting a source leaves its records, in the order of the keys.  Those that
tie in every key stay in the order that they stood in, null stands where the
direction of its key wants it, and sorting by some keys after others is sorting
by all of them. -/
theorem order_sortsByKeys (source : MemorySource ρ) (keys : List SortKey) :
    (source.order ⟨keys⟩).records.Perm source.records ∧
    ((source.order ⟨keys⟩).records.Pairwise fun earlier later =>
      (RecordOrder.mk keys).compare later earlier ≠ .lt) ∧
    (∀ record : ρ,
      (source.order ⟨keys⟩).records.filter (TieOn keys record ·) =
        source.records.filter (TieOn keys record ·)) ∧
    (∀ before key after, keys = before ++ key :: after →
      (source.order ⟨keys⟩).records.Pairwise fun earlier later =>
        TieOn before earlier later →
          key.direction.PlacesNull (key.field.read earlier)
            (key.field.read later)) ∧
    ∀ first second, keys = first ++ second →
      source.order ⟨keys⟩ = (source.order ⟨second⟩).order ⟨first⟩ := by
  have sorts := (RecordOrder.mk keys).sortsStably_sort source.records
  refine ⟨sorts.perm, ?_, ?_, ?_, ?_⟩
  · exact sorts.inOrder.imp not_lt_of_isLE
  · intro record
    exact filter_sort_tieOn keys (List.Subset.refl keys) record source.records
  · intro before key after shape
    subst shape
    apply sorts.inOrder.imp
    intro earlier later le tie
    exact SortDirection.placesNull_of_isLE (compareBy_isLE_of_tieOn le tie)
  · intro first second shape
    subst shape
    exact congrArg MemorySource.mk (sort_append first second source.records)

/-- The points of a team, which may be open. -/
structure Score where
  team : String
  points : FieldValue
deriving DecidableEq

def Score.teamField : FieldDescriptor :=
  ⟨0, "Team", "team", .text, false⟩

def Score.pointsField : FieldDescriptor :=
  ⟨1, "Points", "points", .integer, true⟩

instance : Record Score where
  typeName := "Score"
  descriptors := [Score.teamField, Score.pointsField]
  value score index :=
    match index with
    | 0 => .text score.team
    | 1 => score.points
    | _ => .null

/-- The most points come first and open ones last, and equal points go by the
name of the team. -/
theorem order_sortsByKeys_scores :
    let source : MemorySource Score :=
      ⟨[⟨"Reds", .null⟩, ⟨"Blues", .integer 3⟩, ⟨"Greens", .integer 7⟩,
        ⟨"Ambers", .integer 3⟩]⟩
    let points : SortKey := ⟨Score.pointsField, .descending⟩
    let team : SortKey := ⟨Score.teamField, .ascending⟩
    source.order ⟨[points, team]⟩ =
        (source.order ⟨[team]⟩).order ⟨[points]⟩ ∧
      (source.order ⟨[points, team]⟩).records.Pairwise
        (fun earlier later => earlier.points = .null → later.points = .null) ∧
      (source.order ⟨[points]⟩).records.filter
          (TieOn [points] ⟨"Golds", .integer 3⟩ ·) =
        [⟨"Blues", .integer 3⟩, ⟨"Ambers", .integer 3⟩] := by
  intro source points team
  obtain ⟨-, -, -, placed, composed⟩ :=
    source.order_sortsByKeys [points, team]
  obtain ⟨-, -, stable, -, -⟩ := source.order_sortsByKeys [points]
  refine ⟨composed [points] [team] rfl, ?_, ?_⟩
  · apply (placed [] points [team] rfl).imp
    intro earlier later byPoints
    exact byPoints (by simp [TieOn])
  · rw [stable]
    decide +kernel

end MemorySource

end GridQuery
