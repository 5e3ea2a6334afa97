import Mathlib.Data.List.Induction
import GridQuery.Request.Params

/-!
# Parameters as a map

Setting a parameter changes this one only, so that parameters listed one after
the other have the last values that the list gives them.  Each name is listed
once, and the values do not depend on how the names are arranged.
-/

namespace GridQuery.Params

variable {entries : List (String × String)} {name value other : String}

theorem lookup_cons_eq_ite (entry : String × String)
    (entries : List (String × String)) (name : String) :
    (entry :: entries).lookup name =
      if name = entry.1 then some entry.2 else entries.lookup name := by
  rw [List.lookup_cons]
  split
  · rename_i asked
    rw [if_pos (eq_of_beq asked)]
  · rename_i elsewhere
    rw [if_neg (beq_eq_false_iff_ne.mp elsewhere)]

theorem exists_mem_iff_lookup_isSome :
    (∃ value, (name, value) ∈ entries) ↔
      (entries.lookup name).isSome = true := by
  rw [List.lookup_isSome_iff]
  constructor
  · rintro ⟨value, member⟩
    exact ⟨(name, value), member, beq_self_eq_true name⟩
  · rintro ⟨⟨listed, value⟩, member, same⟩
    rw [eq_of_beq same]
    exact ⟨value, member⟩

theorem any_name_eq_lookup_isSome (entries : List (String × String))
    (name : String) :
    entries.any (·.1 == name) = (entries.lookup name).isSome := by
  have turned : (fun entry : String × String => entry.1 == name) =
      fun entry => name == entry.1 := funext fun _ => BEq.comm
  rw [turned, Bool.eq_iff_iff, List.any_eq_true, List.lookup_isSome_iff]

theorem lookup_replaced (entries : List (String × String))
    (name value other : String) :
    List.lookup other (entries.map fun entry =>
        if entry.1 = name then (name, value) else entry) =
      if other = name then (entries.lookup name).map fun _ => value
      else entries.lookup other := by
  induction entries with
  | nil => simp
  | cons entry entries induction =>
      rw [List.map_cons, lookup_cons_eq_ite, lookup_cons_eq_ite,
        lookup_cons_eq_ite, induction]
      by_cases replaced : entry.1 = name
      · by_cases asked : other = name
        · simp [replaced, asked]
        · simp [replaced, asked]
      · by_cases asked : other = name
        · simp [replaced, asked, Ne.symm replaced]
        · simp [replaced, asked]

theorem get?_set (params : Params) (name value other : String) :
    (params.set name value).get? other =
      if other = name then some value else params.get? other := by
  unfold set get?
  rw [any_name_eq_lookup_isSome]
  split
  · rename_i listed
    obtain ⟨found, lookup⟩ := Option.isSome_iff_exists.mp listed
    rw [lookup_replaced, lookup, Option.map_some]
  · rename_i unlisted
    have absent : params.entries.lookup name = none :=
      Option.not_isSome_iff_eq_none.mp unlisted
    rw [List.lookup_append, lookup_cons_eq_ite]
    split
    · rename_i asked
      rw [asked, absent, Option.none_or]
    · exact Option.or_none

theorem get?_ofList (entries : List (String × String)) (name : String) :
    (ofList entries).get? name = entries.reverse.lookup name := by
  induction entries using List.reverseRecOn with
  | nil => rfl
  | append_singleton entries entry induction =>
      have last : ofList (entries ++ [entry]) =
          (ofList entries).set entry.1 entry.2 := by
        rw [ofList, List.foldl_append]
        rfl
      rw [last, get?_set, induction, List.reverse_concat, lookup_cons_eq_ite]

theorem exists_mem_entries_ofList_iff :
    (∃ value, (name, value) ∈ (ofList entries).entries) ↔
      ∃ value, (name, value) ∈ entries := by
  rw [exists_mem_iff_lookup_isSome, ← get?, get?_ofList,
    ← exists_mem_iff_lookup_isSome]
  simp only [List.mem_reverse]

theorem get?_ofList_of_mem (member : (name, value) ∈ entries)
    (single : ∀ other, (name, other) ∈ entries → other = value) :
    (ofList entries).get? name = some value := by
  have named : (entries.reverse.lookup name).isSome = true :=
    exists_mem_iff_lookup_isSome.mp ⟨value, List.mem_reverse.mpr member⟩
  obtain ⟨found, lookup⟩ := Option.isSome_iff_exists.mp named
  obtain ⟨before, after, shape, -⟩ := List.lookup_eq_some_iff.mp lookup
  have listed : (name, found) ∈ entries := by
    rw [← List.mem_reverse, shape]
    simp
  rw [get?_ofList, lookup, single found listed]

section NamedOnce

variable {params : Params}

/-- No name is listed twice. -/
def NamedOnce (params : Params) : Prop :=
  (params.entries.map Prod.fst).Nodup

instance (params : Params) : Decidable params.NamedOnce :=
  inferInstanceAs (Decidable (List.Nodup _))

theorem namedOnce_set (once : params.NamedOnce) (name value : String) :
    (params.set name value).NamedOnce := by
  unfold set
  split
  · have names : (params.entries.map fun entry =>
        if entry.1 = name then (name, value) else entry).map Prod.fst =
          params.entries.map Prod.fst := by
      rw [List.map_map]
      apply List.map_congr_left
      intro entry _
      by_cases replaced : entry.1 = name <;> simp [replaced]
    rw [NamedOnce, names]
    exact once
  · rename_i unlisted
    rw [NamedOnce, List.map_append, List.nodup_append]
    refine ⟨once, List.pairwise_singleton _ _, ?_⟩
    rintro listed member _ added rfl
    obtain ⟨entry, found, rfl⟩ := List.mem_map.mp member
    apply unlisted
    rw [List.any_eq_true]
    exact ⟨entry, found, by simpa using added⟩

theorem namedOnce_ofList (entries : List (String × String)) :
    (ofList entries).NamedOnce := by
  induction entries using List.reverseRecOn with
  | nil => exact List.nodup_nil
  | append_singleton entries entry induction =>
      rw [ofList, List.foldl_append]
      exact namedOnce_set induction entry.1 entry.2

theorem get?_eq_some_iff (once : params.NamedOnce) :
    params.get? name = some value ↔ (name, value) ∈ params.entries := by
  constructor
  · intro found
    obtain ⟨before, after, shape, -⟩ := List.lookup_eq_some_iff.mp found
    rw [shape]
    exact List.mem_append_right before List.mem_cons_self
  · intro listed
    obtain ⟨before, after, shape⟩ := List.append_of_mem listed
    refine List.lookup_eq_some_iff.mpr ⟨before, after, shape, ?_⟩
    intro entry earlier
    rw [NamedOnce, shape, List.map_append, List.nodup_append] at once
    exact bne_iff_ne.mpr (once.2.2 entry.1 (List.mem_map_of_mem earlier) name
      (by simp)).symm

/-- The values of parameters do not depend on the arrangement. -/
theorem get?_eq_of_perm {arranged : Params} (once : params.NamedOnce)
    (perm : arranged.entries.Perm params.entries) :
    arranged.get? = params.get? := by
  have arrangedOnce : arranged.NamedOnce :=
    (perm.map Prod.fst).nodup_iff.mpr once
  funext name
  apply Option.ext
  intro value
  rw [get?_eq_some_iff arrangedOnce, get?_eq_some_iff once, perm.mem_iff]

end NamedOnce

end GridQuery.Params
