/-
**Which rules share a key.**

A key joins the id of a scope, the name of a type and the id of an element by separators, and the
ids may hold separators of their own. So a key does not tell where its scope ends, nor whether the
scope is a device or a product.

* `keyOf_eq_iff`: two keys are the same if their parts are, or if one scope goes on behind the scope
  and the type of the other (`RunsInto`), and in no other case.
* `key_eq_iff`: two rules share a key if they are for the same target (`SameTarget`), or if they
  collide (`Collides`); `SameTarget.not_collides`: not both.
* `collides_iff_of_plain`: rules of scopes without separators collide only as the rule of a device
  and that of a product of the same id.
-/

import DeviceMapping.Rule.Basic

namespace DeviceMapping

/-! ### Texts with separators -/

section Separated

variable {scope type element scope' type' element' front back : List Char}

/-- A text that begins with a part without separators and then has one goes on behind that part. -/
theorem exists_rest_of_append_eq (plain : ':' ∉ type)
    (same : type ++ ':' :: element = front ++ ':' :: back) :
    ∃ rest, front = type ++ rest ∧ ':' :: element = rest ++ ':' :: back := by
  rcases List.append_eq_append_iff.mp same with ⟨rest, longer, is⟩ | ⟨rest, shorter, is⟩
  · exact ⟨rest, longer, is⟩
  · cases rest with
    | nil => exact ⟨[], by rw [shorter, List.append_nil, List.append_nil], is.symm⟩
    | cons first rest =>
      obtain ⟨rfl, -⟩ := List.cons_eq_cons.mp is
      exact absurd (shorter ▸ List.mem_append_right _ List.mem_cons_self) plain

/-- Two parts without separators, each before its first separator, are the same. -/
theorem append_inj_of_plain (plain : ':' ∉ type) (plain' : ':' ∉ type')
    (same : type ++ ':' :: element = type' ++ ':' :: element') :
    type = type' ∧ element = element' := by
  obtain ⟨rest, longer, is⟩ := exists_rest_of_append_eq plain same
  cases rest with
  | nil => exact ⟨(longer.trans (List.append_nil _)).symm, (List.cons_eq_cons.mp is).2⟩
  | cons first rest =>
    obtain ⟨rfl, -⟩ := List.cons_eq_cons.mp is
    exact absurd (longer ▸ List.mem_append_right _ List.mem_cons_self) plain'

/-- Where the first scope is not the longer one, the parts are the same or the second scope goes on
behind the first scope and type. -/
theorem parts_of_scope_append (plain : ':' ∉ type) (plain' : ':' ∉ type') {more : List Char}
    (same : ':' :: (type ++ ':' :: element) = more ++ ':' :: (type' ++ ':' :: element')) :
    more = [] ∧ type = type' ∧ element = element' ∨
      ∃ rest, more = ':' :: (type ++ rest) ∧
        ':' :: element = rest ++ ':' :: (type' ++ ':' :: element') := by
  cases more with
  | nil => exact .inl ⟨rfl, append_inj_of_plain plain plain' (List.cons_eq_cons.mp same).2⟩
  | cons first more =>
    obtain ⟨rfl, behind⟩ := List.cons_eq_cons.mp same
    obtain ⟨rest, longer, is⟩ := exists_rest_of_append_eq plain behind
    exact .inr ⟨rest, congrArg _ longer, is⟩

end Separated

namespace MetadataType

theorem separator_not_mem_name (type : MetadataType) : ':' ∉ type.name.toList := by
  cases type <;> decide

theorem name_injective : Function.Injective name := by
  intro first second same
  cases first <;> cases second <;> first | rfl | exact absurd same (by decide)

end MetadataType

namespace Rule

/-! ### Keys -/

theorem toList_keyOf (scope : String) (type : MetadataType) (element : String) :
    (keyOf scope type element).toList =
      scope.toList ++ ':' :: (type.name.toList ++ ':' :: element.toList) := by
  simp only [keyOf, String.toList_append, List.append_assoc]
  rfl

/-- The second scope goes on behind the first scope and its type, and what it goes on with stands
before the second type in the first element. -/
def KeyRunsInto (scope : String) (type : MetadataType) (element : String) (scope' : String)
    (type' : MetadataType) (element' : String) : Prop :=
  ∃ rest : String, scope' = scope ++ ":" ++ type.name ++ rest ∧
    ":" ++ element = rest ++ ":" ++ type'.name ++ ":" ++ element'

section Keys

variable {scope scope' element element' : String} {type type' : MetadataType}

theorem KeyRunsInto.keyOf_eq (runs : KeyRunsInto scope type element scope' type' element') :
    keyOf scope type element = keyOf scope' type' element' := by
  obtain ⟨rest, longer, is⟩ := runs
  calc keyOf scope type element = scope ++ ":" ++ type.name ++ (":" ++ element) := by
        simp only [keyOf, String.append_assoc]
    _ = scope ++ ":" ++ type.name ++ (rest ++ ":" ++ type'.name ++ ":" ++ element') := by rw [is]
    _ = keyOf scope' type' element' := by simp only [longer, keyOf, String.append_assoc]

theorem KeyRunsInto.length_lt (runs : KeyRunsInto scope type element scope' type' element') :
    scope.length < scope'.length := by
  obtain ⟨rest, longer, -⟩ := runs
  rw [longer]
  simp only [String.length_append]
  have one : (":" : String).length = 1 := rfl
  omega

/-- What the lists of characters say about the second scope, said of the texts. -/
theorem parts_of_toList {more : List Char} (longer : scope'.toList = scope.toList ++ more)
    (same : ':' :: (type.name.toList ++ ':' :: element.toList) =
      more ++ ':' :: (type'.name.toList ++ ':' :: element'.toList)) :
    scope = scope' ∧ type = type' ∧ element = element' ∨
      KeyRunsInto scope type element scope' type' element' := by
  rcases parts_of_scope_append type.separator_not_mem_name type'.separator_not_mem_name same with
    ⟨rfl, sameType, sameElement⟩ | ⟨rest, rfl, is⟩
  · refine .inl ⟨?_, ?_, String.toList_inj.mp sameElement⟩
    · exact String.toList_inj.mp (longer.trans (List.append_nil _)).symm
    · exact MetadataType.name_injective (String.toList_inj.mp sameType)
  · refine .inr ⟨String.ofList rest, ?_, ?_⟩
    · rw [← String.toList_inj, longer]
      simp
    · rw [← String.toList_inj]
      simpa using is

/-- Two keys are the same if their parts are, or if one scope runs into the other. -/
theorem keyOf_eq_iff : keyOf scope type element = keyOf scope' type' element' ↔
    (scope = scope' ∧ type = type' ∧ element = element') ∨
      KeyRunsInto scope type element scope' type' element' ∨
        KeyRunsInto scope' type' element' scope type element := by
  constructor
  · intro same
    rw [← String.toList_inj, toList_keyOf, toList_keyOf] at same
    rcases List.append_eq_append_iff.mp same with ⟨more, longer, is⟩ | ⟨more, longer, is⟩
    · exact (parts_of_toList longer is).imp_right .inl
    · rcases parts_of_toList longer is with ⟨rfl, rfl, rfl⟩ | runs
      · exact .inl ⟨rfl, rfl, rfl⟩
      · exact .inr (.inr runs)
  · rintro (⟨rfl, rfl, rfl⟩ | runs | runs)
    · rfl
    · exact runs.keyOf_eq
    · exact runs.keyOf_eq.symm

end Keys

/-! ### Rules -/

/-- The rules are both of devices or both of products, of the same scope and for the same
element. -/
structure SameTarget (first second : Rule) : Prop where
  kind : first.isDeviceScoped = second.isDeviceScoped
  scope : first.scopeId = second.scopeId
  type : first.metadataType = second.metadataType
  element : first.metadataId = second.metadataId

/-- The scope of the second rule runs into that of the first. -/
def RunsInto (first second : Rule) : Prop :=
  KeyRunsInto first.scopeId first.metadataType first.metadataId
    second.scopeId second.metadataType second.metadataId

/-- The rules share a key without being for the same target: one is of a device and the other of a
product with the id of that device, or one scope runs into the other. -/
inductive Collides (first second : Rule) : Prop
  | kinds (different : first.isDeviceScoped ≠ second.isDeviceScoped)
      (scope : first.scopeId = second.scopeId) (type : first.metadataType = second.metadataType)
      (element : first.metadataId = second.metadataId)
  | into (runs : first.RunsInto second)
  | onto (runs : second.RunsInto first)

section Rules

variable {first second : Rule}

/-- Two rules share a key if they are for the same target, or if they collide. -/
theorem key_eq_iff : first.key = second.key ↔ first.SameTarget second ∨ first.Collides second := by
  unfold key
  rw [keyOf_eq_iff]
  constructor
  · rintro (⟨scope, type, element⟩ | runs | runs)
    · by_cases kind : first.isDeviceScoped = second.isDeviceScoped
      · exact .inl ⟨kind, scope, type, element⟩
      · exact .inr (.kinds kind scope type element)
    · exact .inr (.into runs)
    · exact .inr (.onto runs)
  · rintro (target | ⟨-, scope, type, element⟩ | runs | runs)
    · exact .inl ⟨target.scope, target.type, target.element⟩
    · exact .inl ⟨scope, type, element⟩
    · exact .inr (.inl runs)
    · exact .inr (.inr runs)

/-- Rules for the same target do not collide. -/
theorem SameTarget.not_collides (target : first.SameTarget second) : ¬ first.Collides second := by
  rintro (⟨different⟩ | runs | runs)
  · exact different target.kind
  · exact absurd target.scope (fun same => Nat.ne_of_lt runs.length_lt (congrArg _ same))
  · exact absurd target.scope (fun same => Nat.ne_of_gt runs.length_lt (congrArg _ same))

/-- A scope without separators does not go on behind another scope. -/
theorem not_runsInto_of_plain (plain : ':' ∉ second.scopeId.toList) : ¬ first.RunsInto second := by
  rintro ⟨rest, longer, -⟩
  refine plain ?_
  rw [longer]
  simp

/-- Rules of scopes without separators collide only as the rule of a device and that of a product of
the same id. -/
theorem collides_iff_of_plain (plain : ':' ∉ first.scopeId.toList)
    (plain' : ':' ∉ second.scopeId.toList) :
    first.Collides second ↔ first.isDeviceScoped ≠ second.isDeviceScoped ∧
      first.scopeId = second.scopeId ∧ first.metadataType = second.metadataType ∧
        first.metadataId = second.metadataId := by
  constructor
  · rintro (⟨different, scope, type, element⟩ | runs | runs)
    · exact ⟨different, scope, type, element⟩
    · exact absurd runs (not_runsInto_of_plain plain')
    · exact absurd runs (not_runsInto_of_plain plain)
  · rintro ⟨different, scope, type, element⟩
    exact .kinds different scope type element

end Rules

end Rule

end DeviceMapping
