/-
**Reading the fields of a record that was written.**

A record is written without the fields that have no value. Whatever stands in the other fields,
reading one field gives what was written there: `required_membersOf`, `defaulted_membersOf`, and
`optional_membersOf` or `optional_membersOf_orNull` for a field that may have no value. The only
condition is that the names of the fields are distinct.

Of one member among others only the field of its own name depends on what it holds
(`required_elsewhere`, `defaulted_elsewhere`), and this field only if no other member has its name
(`required_between`).
-/

import DeviceMapping.Document

namespace DeviceMapping.Document

/-- The members of a record with the given fields. -/
def membersOf (fields : List (String × Option Json)) : List (String × Json) :=
  fields.filterMap fun field => field.2.map (field.1, ·)

theorem fields?_record (names : List String) (fields : List (String × Option Json)) :
    fields? names (Json.record fields) = some (membersOf fields) := rfl

section Fields

variable {fields : List (String × Option Json)} {name : String}

theorem name_mem_of_mem_membersOf {member : String × Json} (there : member ∈ membersOf fields) :
    member.1 ∈ fields.map Prod.fst := by
  obtain ⟨field, listed, made⟩ := List.mem_filterMap.mp there
  obtain ⟨value, has, same⟩ := Option.map_eq_some_iff.mp made
  exact List.mem_map.mpr ⟨field, listed, congrArg Prod.fst same⟩

theorem membersOf_cons (field : String × Option Json) (rest : List (String × Option Json)) :
    membersOf (field :: rest) = (field.2.map (field.1, ·)).toList ++ membersOf rest := by
  obtain ⟨name, value⟩ := field
  cases value with
  | none => rfl
  | some value => rfl

/-- Under the name of a field a record has the value of this field, if it has one. -/
theorem filter_membersOf (distinct : (fields.map Prod.fst).Nodup) {value : Option Json}
    (field : (name, value) ∈ fields) :
    (membersOf fields).filter (fun member => member.1 == name) =
      (value.map (name, ·)).toList := by
  induction fields with
  | nil => cases field
  | cons head rest ih =>
    obtain ⟨absent, later⟩ := List.nodup_cons.mp distinct
    rw [membersOf_cons, List.filter_append]
    rcases List.mem_cons.mp field with rfl | inRest
    · have nothing : (membersOf rest).filter (fun member => member.1 == name) = [] := by
        refine List.filter_eq_nil_iff.mpr fun member there same => absent ?_
        exact beq_iff_eq.mp same ▸ name_mem_of_mem_membersOf there
      rw [nothing, List.append_nil]
      cases value with
      | none => rfl
      | some value => simp
    · have other : head.1 ≠ name := by
        intro same
        exact absent (same ▸ List.mem_map.mpr ⟨_, inRest, rfl⟩)
      rw [ih later inRest]
      cases head.2 with
      | none => rfl
      | some value => simp [other]

variable {α : Type} {read : Json → Option α}

theorem required_membersOf (distinct : (fields.map Prod.fst).Nodup) (value : Json)
    (field : (name, some value) ∈ fields) :
    required (membersOf fields) name read = read value := by
  rw [required, filter_membersOf distinct field]
  rfl

theorem defaulted_membersOf (distinct : (fields.map Prod.fst).Nodup) (value : Json)
    (field : (name, some value) ∈ fields) (default : α) :
    defaulted (membersOf fields) name default read = read value := by
  rw [defaulted, filter_membersOf distinct field]
  rfl

/-- A field that is written only where it has a value is read back, value or not. -/
theorem optional_membersOf (distinct : (fields.map Prod.fst).Nodup) (write : α → Json)
    {value : Option α} (field : (name, value.map write) ∈ fields)
    (reads : ∀ present, orNothing? read (write present) = some (some present)) :
    optional (membersOf fields) name read = some value := by
  rw [optional, defaulted, filter_membersOf distinct field]
  cases value with
  | none => rfl
  | some present => exact reads present

/-- A field that is written as `null` where it has no value is read back, value or not. -/
theorem optional_membersOf_orNull (distinct : (fields.map Prod.fst).Nodup) (write : α → Json)
    {value : Option α} (field : (name, some ((value.map write).getD .null)) ∈ fields)
    (reads : ∀ present, orNothing? read (write present) = some (some present)) :
    optional (membersOf fields) name read = some value := by
  rw [optional, defaulted_membersOf distinct _ field]
  cases value with
  | none => rfl
  | some present => exact reads present

end Fields

/-! ### One member among others -/

section Between

variable (before after : List (String × Json)) (name : String) (value : Json)

/-- Which value a member has is of no concern to the fields of other names. -/
theorem filter_between (other : Json) {field : String} (different : field ≠ name) :
    (before ++ (name, value) :: after).filter (fun member => member.1 == field) =
      (before ++ (name, other) :: after).filter fun member => member.1 == field := by
  have elsewhere : (name == field) = false := beq_eq_false_iff_ne.mpr different.symm
  rw [List.filter_append, List.filter_append, List.filter_cons_of_neg (by simp [elsewhere]),
    List.filter_cons_of_neg (by simp [elsewhere])]

section Elsewhere

variable {field : String} {α : Type} (read : Json → Option α)

theorem required_elsewhere (other : Json) (different : field ≠ name) :
    required (before ++ (name, value) :: after) field read =
      required (before ++ (name, other) :: after) field read := by
  rw [required, required, filter_between before after name value other different]

theorem defaulted_elsewhere (other : Json) (different : field ≠ name) (default : α) :
    defaulted (before ++ (name, value) :: after) field default read =
      defaulted (before ++ (name, other) :: after) field default read := by
  rw [defaulted, defaulted, filter_between before after name value other different]

end Elsewhere

/-- A required field is read from its member if there is no other member of its name. -/
theorem required_between {α : Type} (read : Json → Option α) :
    required (before ++ (name, value) :: after) name read =
      if ((before ++ after).filter fun member => member.1 == name).isEmpty then read value
      else none := by
  have here : ((name, value) :: after).filter (fun member => member.1 == name) =
      (name, value) :: after.filter fun member => member.1 == name :=
    List.filter_cons_of_pos (beq_self_eq_true name)
  rw [required, List.filter_append, here, List.filter_append]
  generalize before.filter (fun member => member.1 == name) = first
  generalize after.filter (fun member => member.1 == name) = last
  cases first with
  | nil => cases last <;> rfl
  | cons head rest => cases rest <;> rfl

end Between

end DeviceMapping.Document
