/-
**Results with errors.**

What `map`, `mapError` and `mapM` do to results that may be errors.
-/

import DeviceMapping.Table
import Mathlib.Data.List.Forall2

namespace DeviceMapping

variable {ε ε' α β : Type}

/-- Two functions of a result give the same if they agree on the value, if there is one. -/
theorem map_eq_map_iff {result : Except ε α} {first second : α → β} :
    result.map first = result.map second ↔
      ∀ value, result = .ok value → first value = second value := by
  cases result with
  | error fault => exact iff_of_true rfl nofun
  | ok value => simp [Except.map]

theorem mapError_eq_ok_iff {result : Except ε α} {change : ε → ε'} {value : α} :
    result.mapError change = .ok value ↔ result = .ok value := by
  cases result with
  | error fault => exact iff_of_false nofun nofun
  | ok found =>
    constructor
    · rintro ⟨⟩
      rfl
    · rintro ⟨⟩
      rfl

/-- Where every item has the value beside it, the list has the list of these values. -/
theorem mapM_eq_ok_of_forall₂ {items : List α} {values : List β} {read : α → Except ε β}
    (each : List.Forall₂ (fun item value => read item = .ok value) items values) :
    items.mapM read = .ok values := by
  induction each with
  | nil => rfl
  | cons here _ ih =>
    rw [List.mapM_cons, here, ih]
    rfl

/-- The list has values exactly if every item has the one beside it. -/
theorem mapM_eq_ok_iff {items : List α} {values : List β} {read : α → Except ε β} :
    items.mapM read = .ok values ↔
      List.Forall₂ (fun item value => read item = .ok value) items values := by
  refine ⟨fun reads => ?_, mapM_eq_ok_of_forall₂⟩
  induction items generalizing values with
  | nil =>
    cases reads
    exact .nil
  | cons head rest ih =>
    rw [List.mapM_cons] at reads
    cases here : read head with
    | error fault =>
      rw [here] at reads
      cases reads
    | ok value =>
      cases later : rest.mapM read with
      | error fault =>
        rw [here, later] at reads
        cases reads
      | ok others =>
        rw [here, later] at reads
        cases reads
        exact .cons here (ih later)

theorem mapM_eq_ok {items : List α} {read : α → Except ε β} {value : α → β}
    (each : ∀ item ∈ items, read item = .ok (value item)) :
    items.mapM read = .ok (items.map value) :=
  mapM_eq_ok_of_forall₂ (List.forall₂_map_right_iff.mpr (List.forall₂_same.mpr each))

/-- The first item without a value decides the error. -/
theorem mapM_eq_error_iff {items : List α} {read : α → Except ε β} {fault : ε} :
    items.mapM read = .error fault ↔ ∃ before item after, items = before ++ item :: after ∧
      (∀ earlier ∈ before, ∃ value, read earlier = .ok value) ∧ read item = .error fault := by
  induction items with
  | nil => exact iff_of_false nofun (by simp)
  | cons head rest ih =>
    rw [List.mapM_cons]
    cases here : read head with
    | error first =>
      constructor
      · rintro ⟨⟩
        exact ⟨[], head, rest, rfl, nofun, here⟩
      · rintro ⟨before, item, after, split, earlier, stops⟩
        cases before with
        | nil =>
          cases split
          rw [← here, stops]
          rfl
        | cons other others =>
          cases split
          obtain ⟨value, reads⟩ := earlier head List.mem_cons_self
          rw [here] at reads
          cases reads
    | ok value =>
      have same : (do let value ← Except.ok value; let values ← rest.mapM read
                      pure (value :: values)) = .error fault ↔ rest.mapM read = .error fault := by
        cases rest.mapM read with
        | error first => exact Iff.rfl
        | ok values => exact iff_of_false nofun nofun
      rw [same, ih]
      constructor
      · rintro ⟨before, item, after, rfl, earlier, stops⟩
        exact ⟨head :: before, item, after, rfl,
          List.forall_mem_cons.mpr ⟨⟨value, here⟩, earlier⟩, stops⟩
      · rintro ⟨before, item, after, split, earlier, stops⟩
        cases before with
        | nil =>
          cases split
          rw [here] at stops
          cases stops
        | cons other others =>
          cases split
          exact ⟨others, item, after, rfl, (List.forall_mem_cons.mp earlier).2, stops⟩

/-- An item without a value leaves the list without one. -/
theorem exists_mapM_eq_error {items : List α} {read : α → Except ε β} {item : α} {fault : ε}
    (member : item ∈ items) (stops : read item = .error fault) :
    ∃ first, items.mapM read = .error first := by
  induction items with
  | nil => cases member
  | cons head rest ih =>
    rw [List.mapM_cons]
    cases here : read head with
    | error first => exact ⟨first, rfl⟩
    | ok value =>
      rcases List.mem_cons.mp member with rfl | later
      · rw [stops] at here
        cases here
      · obtain ⟨first, is⟩ := ih later
        rw [is]
        exact ⟨first, rfl⟩

/-- The list has values exactly if every item has one. -/
theorem exists_mapM_eq_ok_iff {items : List α} {read : α → Except ε β} :
    (∃ values, items.mapM read = .ok values) ↔ ∀ item ∈ items, ∃ value, read item = .ok value := by
  constructor
  · rintro ⟨values, reads⟩ item member
    cases here : read item with
    | ok value => exact ⟨value, rfl⟩
    | error fault =>
      obtain ⟨first, stops⟩ := exists_mapM_eq_error member here
      rw [reads] at stops
      cases stops
  · intro each
    cases result : items.mapM read with
    | ok values => exact ⟨values, rfl⟩
    | error fault =>
      obtain ⟨before, item, after, rfl, -, stops⟩ := mapM_eq_error_iff.mp result
      obtain ⟨value, reads⟩ := each item (by simp)
      rw [stops] at reads
      cases reads

end DeviceMapping
