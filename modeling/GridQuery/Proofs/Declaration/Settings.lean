import GridQuery.Declaration.Settings
import GridQuery.Proofs.FirstFailure
import GridQuery.Proofs.Text.Blank
import Mathlib.Data.List.Induction

/-!
# What accepted attributes set

Attributes that are accepted set nothing but what their arguments say, one
setting for each argument, and the name that stands in the end is the last of
those that were set.  None of them is blank.
-/

namespace GridQuery.Declaration

variable {target : Target} {setting : Setting} {name : String}

theorem Argument.not_blank_of_setting_rename {argument : Argument}
    (accepted : argument.setting target = .ok (.rename name)) :
    ¬ Text.Blank name.toList := by
  unfold setting at accepted
  split at accepted
  · cases accepted
  · unfold settingOf at accepted
    split at accepted
    · obtain ⟨⟨value, rest⟩, -, completed⟩ := exists_of_bind_eq_ok accepted
      dsimp only at completed
      split at completed
      · cases completed
      · rename_i written
        unfold complete at completed
        split at completed
        · obtain rfl : value = name := by simpa using completed
          rw [← Text.trim_eq_nil_iff]
          simpa using written
        · cases completed
    split at accepted
    · obtain ⟨⟨column, rest⟩, -, completed⟩ := exists_of_bind_eq_ok accepted
      simp only [complete] at completed
      split at completed <;> cases completed
    split at accepted
    · simp only [complete] at accepted
      split at accepted <;> cases accepted
    · cases accepted
  · cases accepted
  · cases accepted

theorem exists_setting_of_mem_settingsOfArguments
    {arguments : List Argument} {settings : List Setting}
    (accepted : settingsOfArguments target arguments = .ok settings)
    (member : setting ∈ settings) :
    ∃ argument : Argument, argument.setting target = .ok setting := by
  induction arguments generalizing settings with
  | nil =>
      cases accepted
      cases member
  | cons argument arguments induction =>
      obtain ⟨first, set, rest⟩ := exists_of_bind_eq_ok accepted
      obtain ⟨others, acceptedOthers, rfl⟩ := exists_of_map_eq_ok rest
      rcases List.mem_cons.mp member with rfl | later
      · exact ⟨argument, set⟩
      · exact induction acceptedOthers later

theorem exists_setting_of_mem_settingsOfAttributes
    {attributes : List Attribute} {settings : List Setting}
    (accepted : settingsOfAttributes target attributes = .ok settings)
    (member : setting ∈ settings) :
    ∃ argument : Argument, argument.setting target = .ok setting := by
  induction attributes generalizing settings with
  | nil =>
      cases accepted
      cases member
  | cons entry attributes induction =>
      obtain ⟨first, set, rest⟩ := exists_of_bind_eq_ok accepted
      obtain ⟨others, acceptedOthers, rfl⟩ := exists_of_map_eq_ok rest
      rcases List.mem_append.mp member with earlier | later
      · unfold Attribute.settings at set
        split at set
        · split at set
          · cases set
          · cases set
          · exact exists_setting_of_mem_settingsOfArguments set earlier
        · cases set
          cases earlier
      · exact induction acceptedOthers later

/-- What the settings of one kind come to: the name that the last of them
gives, if there is one. -/
def LastOf (make : String → Setting) (list : List Setting) :
    Option String → Prop
  | some name => ∃ before after,
      list = before ++ make name :: after ∧ ∀ other, make other ∉ after
  | none => ∀ name, make name ∉ list

section LastOf

variable {make : String → Setting} {list : List Setting}
  {chosen : Option String}

theorem lastOf_append_self : LastOf make (list ++ [make name]) (some name) :=
  ⟨list, [], rfl, fun _ => List.not_mem_nil⟩

theorem LastOf.append_other (last : LastOf make list chosen)
    (different : ∀ name, make name ≠ setting) :
    LastOf make (list ++ [setting]) chosen := by
  cases chosen with
  | none =>
      intro name member
      rcases List.mem_append.mp member with earlier | added
      · exact last name earlier
      · exact different name (List.mem_singleton.mp added)
  | some name =>
      obtain ⟨before, after, rfl, none⟩ := last
      refine ⟨before, after ++ [setting], by simp, ?_⟩
      intro other member
      rcases List.mem_append.mp member with earlier | added
      · exact none other earlier
      · exact different other (List.mem_singleton.mp added)

end LastOf

namespace Settings

theorem ofList_append_singleton (list : List Setting) (setting : Setting) :
    ofList (list ++ [setting]) = (ofList list).set setting :=
  List.foldl_append

theorem lastOf_rename (list : List Setting) :
    LastOf .rename list (ofList list).rename := by
  induction list using List.reverseRecOn with
  | nil => exact fun _ => List.not_mem_nil
  | append_singleton list setting induction =>
      rw [ofList_append_singleton]
      cases setting with
      | rename name => exact lastOf_append_self
      | column _ | skip => exact induction.append_other (by simp)

theorem lastOf_column (list : List Setting) :
    LastOf .column list (ofList list).column := by
  induction list using List.reverseRecOn with
  | nil => exact fun _ => List.not_mem_nil
  | append_singleton list setting induction =>
      rw [ofList_append_singleton]
      cases setting with
      | column name => exact lastOf_append_self
      | rename _ | skip => exact induction.append_other (by simp)

theorem skip_ofList (list : List Setting) :
    (ofList list).skip = list.contains .skip := by
  induction list using List.reverseRecOn with
  | nil => rfl
  | append_singleton list setting induction =>
      rw [ofList_append_singleton, List.contains_append, ← induction]
      cases setting with
      | skip => simp [set]
      | rename _ | column _ => simp [set]

theorem not_blank_of_rename {attributes : List Attribute}
    {settings : Settings}
    (accepted : ofAttributes target attributes = .ok settings)
    (renamed : settings.rename = some name) : ¬ Text.Blank name.toList := by
  obtain ⟨list, set, rfl⟩ := exists_of_map_eq_ok accepted
  have last := lastOf_rename list
  rw [renamed] at last
  obtain ⟨before, after, rfl, -⟩ := last
  obtain ⟨argument, setting⟩ := exists_setting_of_mem_settingsOfAttributes set
    (List.mem_append_right before List.mem_cons_self)
  exact argument.not_blank_of_setting_rename setting

end Settings

end GridQuery.Declaration
