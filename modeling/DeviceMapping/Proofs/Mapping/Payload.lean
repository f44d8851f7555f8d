/-
**What two passes make of a payload.**

A payload is mapped in two passes over tables that list their entries in no particular order: every
custom detail puts a value under its property, then every raw key puts a value under itself. A key
that is written twice keeps the second value.

* `get?_customDetails`: of the custom details of one property the last one counts.
* `get?_properties_map`: what lies under each key of the result; `Merged` says the same case by case.
* `mapInOrder_eq_map`: the two passes come to this in whatever order the tables list their entries,
  since no key is listed twice within one pass.
* `mapped_key_by_key`: all of it, and that the order of the details of different properties does not
  matter.
-/

import DeviceMapping.Mapping.Payload
import DeviceMapping.Table.Lookup
import Mathlib.Data.List.Nodup

namespace DeviceMapping.Payload

/-! ### The details that count -/

/-- The detail is a custom one of a property. -/
def feeds (property : String) (detail : Detail) : Bool :=
  detail.isCustom && detail.metadataId == property

/-- The detail that counts for a property: the last custom one. -/
def lastCustom? (details : List Detail) (property : String) : Option Detail :=
  details.reverse.find? (feeds property)

section Details

variable {details others : List Detail}

theorem get?_customDetails (details : List Detail) (property : String) :
    (customDetails details).get? property = lastCustom? details property := by
  rw [customDetails, Table.get?_ofList, ← List.map_reverse, ← List.filter_reverse,
    Table.lookup_map_key, List.find?_filter]
  simp only [Bool.decide_and, Bool.decide_eq_true]
  rfl

/-- Nothing is mapped exactly where no detail is custom. -/
theorem isEmpty_customDetails_iff :
    (customDetails details).isEmpty = true ↔ ∀ detail ∈ details, detail.isCustom = false := by
  constructor
  · intro empty detail member
    have absent : lastCustom? details detail.metadataId = none := by
      rw [← get?_customDetails, Table.get?, List.isEmpty_iff.mp empty]
      rfl
    have fails := List.find?_eq_none.mp absent detail (List.mem_reverse.mpr member)
    simpa [feeds] using fails
  · intro plain
    have none : details.filter Detail.isCustom = [] :=
      List.filter_eq_nil_iff.mpr fun detail member => by simp [plain detail member]
    rw [customDetails, none]
    rfl

/-- Only the order of the details of one property counts. -/
theorem customDetails_congr
    (same : ∀ property, others.filter (feeds property) = details.filter (feeds property)) :
    customDetails others = customDetails details := by
  refine Table.ext_get? fun property => ?_
  rw [get?_customDetails, get?_customDetails, lastCustom?, lastCustom?, ← List.head?_filter,
    ← List.head?_filter, List.filter_reverse, List.filter_reverse, same]

/-- A property that no two custom details share has the same ones in every order of the list. -/
theorem filter_feeds_of_perm (perm : others.Perm details)
    (nodup : ((details.filter Detail.isCustom).map Detail.metadataId).Nodup) (property : String) :
    others.filter (feeds property) = details.filter (feeds property) := by
  have single : (details.filter (feeds property)).length ≤ 1 := by
    calc (details.filter (feeds property)).length
        = ((details.filter Detail.isCustom).map Detail.metadataId).count property := by
          rw [List.count_eq_countP, List.countP_map, List.countP_filter,
            ← List.countP_eq_length_filter]
          exact List.countP_congr fun detail _ => by simp [feeds, and_comm]
      _ ≤ 1 := List.nodup_iff_count_le_one.mp nodup property
  have kept := perm.filter (feeds property)
  cases own : details.filter (feeds property) with
  | nil => exact (own ▸ kept).eq_nil
  | cons detail rest =>
    rw [own, List.length_cons] at single
    have alone : rest = [] := List.eq_nil_of_length_eq_zero (by omega)
    rw [own, alone] at kept
    rw [alone]
    exact List.perm_singleton.mp kept

end Details

/-! ### Key by key -/

section Keys

variable {raw : Table Json} {details : List Detail} {key : String}

/-- What lies under a key of the result: what comes of its raw value, else what its detail feeds. -/
theorem get?_properties_map (custom : (customDetails details).isEmpty = false) (key : String) :
    (map raw details).properties.get? key =
      ((raw.get? key).map fun value => (fromKey (customDetails details) key value).value).or
        ((lastCustom? details key).map fun detail => (fromSource raw detail).value) := by
  let fed := (customDetails details).map fun _ detail => (fromSource raw detail).value
  let carried := raw.map fun key value => (fromKey (customDetails details) key value).value
  have entries : (map raw details).properties = .ofList (fed.entries ++ carried.entries) := by
    simp only [map, custom, Bool.false_eq_true, if_false, List.map_append, List.map_map]
    rfl
  rw [entries, Table.get?_ofList, List.reverse_append, List.lookup_append,
    Table.lookup_reverse key carried.sorted, Table.lookup_reverse key fed.sorted]
  show (carried.get? key).or (fed.get? key) = _
  rw [Table.get?_map, Table.get?_map, get?_customDetails]

/-- The result of mapping a raw payload by the custom details of some properties, case by case. -/
structure Merged (raw : Table Json) (custom : String → Option Detail) (mapped : Table Json) :
    Prop where
  contains_iff : ∀ key, mapped.contains key = true ↔
    raw.contains key = true ∨ (custom key).isSome = true
  refined : ∀ key value detail transformation, raw.get? key = some value →
    custom key = some detail → detail.transformation = some transformation →
      mapped.get? key = some (transformation.apply value).value
  carried : ∀ key value, raw.get? key = some value →
    (∀ detail, custom key = some detail → detail.transformation = none) →
      mapped.get? key = some value
  fed : ∀ key detail source value, raw.get? key = none → custom key = some detail →
    detail.rawKey = some source → raw.get? source = some value → value ≠ .null →
      mapped.get? key = some (match detail.transformation with
        | some transformation => (transformation.apply value).value
        | none => value)
  unfed : ∀ key detail, raw.get? key = none → custom key = some detail →
    (∀ source value, detail.rawKey = some source → raw.get? source = some value →
      value = .null) → mapped.get? key = some .null

theorem isNull_eq_false_iff {value : Json} : value.isNull = false ↔ value ≠ .null := by
  cases value <;> simp [Json.isNull]

/-- A detail is fed by the value of its raw key, unless this is `null`. -/
theorem sourceValue_eq_some_iff {detail : Detail} {value : Json} :
    sourceValue raw detail = some value ↔
      (∃ key, detail.rawKey = some key ∧ raw.get? key = some value) ∧ value ≠ .null := by
  rw [sourceValue, Option.filter_eq_some_iff, Option.bind_eq_some_iff, Bool.not_eq_true',
    isNull_eq_false_iff]

theorem merged_map (custom : (customDetails details).isEmpty = false) :
    Merged raw (lastCustom? details) (map raw details).properties where
  contains_iff key := by
    rw [Table.contains, get?_properties_map custom, Option.isSome_or, Option.isSome_map,
      Option.isSome_map, Bool.or_eq_true]
    rfl
  refined key value detail transformation given is transforms := by
    rw [get?_properties_map custom, given]
    simp only [Option.map_some, Option.some_or, fromKey, get?_customDetails, is, transformed,
      transforms]
  carried key value given plain := by
    rw [get?_properties_map custom, given]
    cases is : lastCustom? details key with
    | none => simp only [Option.map_some, Option.some_or, fromKey, get?_customDetails, is]
    | some detail =>
      simp only [Option.map_some, Option.some_or, fromKey, get?_customDetails, is, transformed,
        plain detail is]
  fed key detail source value absent is takes given notNull := by
    have feeds : sourceValue raw detail = some value :=
      sourceValue_eq_some_iff.mpr ⟨⟨source, takes, given⟩, notNull⟩
    rw [get?_properties_map custom, absent, is]
    simp only [Option.map_none, Option.none_or, Option.map_some, fromSource, feeds, transformed]
    cases detail.transformation <;> rfl
  unfed key detail absent is nothing := by
    have feeds : sourceValue raw detail = none := by
      refine Option.eq_none_iff_forall_ne_some.mpr fun value found => ?_
      obtain ⟨⟨source, takes, given⟩, notNull⟩ := sourceValue_eq_some_iff.mp found
      exact notNull (nothing source value takes given)
    rw [get?_properties_map custom, absent, is]
    simp only [Option.map_none, Option.none_or, Option.map_some, fromSource, feeds]

end Keys

/-! ### In any order -/

/-- The result once a pass has put a value under a key. -/
def Mapped.put (mapped : Mapped) (key : String) (applied : Transformation.Applied) : Mapped where
  properties := mapped.properties.insert key applied.value
  failures := mapped.failures + if applied.failed then 1 else 0

/-- The two passes, of which the first comes upon the custom details and the second upon the raw
values in the orders given. -/
def mapInOrder (raw : Table Json) (custom : Table Detail) (details : List (String × Detail))
    (values : List (String × Json)) : Mapped :=
  if custom.isEmpty then ⟨raw, 0⟩
  else
    let fed := details.foldl (fun mapped entry => mapped.put entry.1 (fromSource raw entry.2))
      ⟨.empty, 0⟩
    values.foldl (fun mapped entry => mapped.put entry.1 (fromKey custom entry.1 entry.2)) fed

/-- Values of different keys may be put in either order. -/
theorem Mapped.put_comm (mapped : Mapped) {first second : String} (different : first ≠ second)
    (value other : Transformation.Applied) :
    (mapped.put first value).put second other = (mapped.put second other).put first value :=
  congrArg₂ Mapped.mk (Table.insert_comm mapped.properties different _ _)
    (Nat.add_right_comm _ _ _)

section Pass

variable {α : Type} {entries others : List (String × α)} (applied : String → α → Transformation.Applied)

/-- A pass comes to the same whatever the order of the entries, of which no two have one key. -/
theorem foldl_put_of_perm (perm : entries.Perm others) (nodup : (entries.map (·.1)).Nodup)
    (mapped : Mapped) :
    entries.foldl (fun mapped entry => mapped.put entry.1 (applied entry.1 entry.2)) mapped =
      others.foldl (fun mapped entry => mapped.put entry.1 (applied entry.1 entry.2)) mapped := by
  refine perm.foldl_eq' (fun first member second member' mapped => ?_) mapped
  by_cases same : first.1 = second.1
  · rw [List.inj_on_of_nodup_map nodup member member' same]
  · exact mapped.put_comm same _ _

/-- What a pass puts, and how often it counts a fallback. -/
theorem foldl_put_eq (entries : List (String × α)) (mapped : Mapped) :
    entries.foldl (fun mapped entry => mapped.put entry.1 (applied entry.1 entry.2)) mapped =
      ⟨(entries.map fun entry => (entry.1, (applied entry.1 entry.2).value)).foldl
          (fun table entry => table.insert entry.1 entry.2) mapped.properties,
        mapped.failures + entries.countP fun entry => (applied entry.1 entry.2).failed⟩ := by
  induction entries generalizing mapped with
  | nil => rfl
  | cons entry rest ih =>
    rw [List.foldl_cons, ih, List.map_cons, List.foldl_cons, List.countP_cons]
    simp only [Mapped.put, Nat.add_assoc, Nat.add_comm]

end Pass

/-- The order in which the tables list their entries does not matter. -/
theorem mapInOrder_eq_map {raw : Table Json} {details : List Detail}
    {listed : List (String × Detail)} {values : List (String × Json)}
    (perm : listed.Perm (customDetails details).entries) (perm' : values.Perm raw.entries) :
    mapInOrder raw (customDetails details) listed values = map raw details := by
  have nodup := (perm.symm.map (·.1)).nodup (Table.nodup_of_sorted (customDetails details).sorted)
  have nodup' := (perm'.symm.map (·.1)).nodup (Table.nodup_of_sorted raw.sorted)
  cases empty : (customDetails details).isEmpty with
  | true => simp only [mapInOrder, map, empty, if_true]
  | false =>
    simp only [mapInOrder, map, empty, Bool.false_eq_true, if_false]
    rw [foldl_put_of_perm (fun _ detail => fromSource raw detail) perm nodup,
      foldl_put_of_perm (fromKey (customDetails details)) perm' nodup',
      foldl_put_eq (fromKey (customDetails details)),
      foldl_put_eq (fun _ detail => fromSource raw detail)]
    simp only [Table.ofList, List.map_append, List.map_map, List.foldl_append, List.countP_append,
      List.countP_map, Nat.zero_add]
    rfl

/-! ### The whole -/

/-- **A payload is mapped key by key.** Without custom details it stays as it is. Otherwise the keys
of the result are the raw keys and the properties of the custom details, of which the last one of a
property counts: a raw key keeps its own value, transformed if its detail transforms; any other
property has the value of its detail's raw key, transformed if the detail transforms, or `null` where
that value is missing or `null`. In which order the tables are listed in the two passes does not
matter, nor does the order of the details, but for that of the custom details of one property. -/
theorem mapped_key_by_key (raw : Table Json) (details : List Detail) :
    ((∀ detail ∈ details, detail.isCustom = false) → (map raw details).properties = raw) ∧
    ((∃ detail ∈ details, detail.isCustom = true) →
      Merged raw (lastCustom? details) (map raw details).properties) ∧
    (∀ listed values, listed.Perm (customDetails details).entries → values.Perm raw.entries →
      mapInOrder raw (customDetails details) listed values = map raw details) ∧
    (∀ others, (∀ property, others.filter (feeds property) = details.filter (feeds property)) →
      map raw others = map raw details) ∧
    (∀ others, others.Perm details →
      ((details.filter Detail.isCustom).map Detail.metadataId).Nodup →
        map raw others = map raw details) := by
  have congr : ∀ others, (∀ property, others.filter (feeds property) =
      details.filter (feeds property)) → map raw others = map raw details := by
    intro others same
    rw [map, map, customDetails_congr same]
  refine ⟨fun plain => ?_, fun ⟨detail, member, isCustom⟩ => ?_, ?_, congr, ?_⟩
  · simp only [map, isEmpty_customDetails_iff.mpr plain, if_true]
  · refine merged_map (Bool.eq_false_iff.mpr fun empty => ?_)
    rw [isEmpty_customDetails_iff.mp empty detail member] at isCustom
    cases isCustom
  · intro listed values perm perm'
    exact mapInOrder_eq_map perm perm'
  · intro others perm nodup
    exact congr others (filter_feeds_of_perm perm nodup)

/-- A custom detail of a lamp. -/
def lampDetail (property rawKey : String) (transformation : Option Transformation) : Detail :=
  { Detail.ofDevice "lamps" "lamp" with
    metadataId := property
    rawKey := some rawKey
    transformation := transformation
    isCustom := true }

/-- Two raw keys feed each other's properties and stay what they are but for the transformation, a
property has the last of its two details, and one whose raw value is `null` is `null`. -/
theorem mapped_key_by_key_crossed :
    let raw : Table Json :=
      .ofList [("level", .string "7"), ("power", .string "on"), ("mode", .null)]
    let switched : Transformation := .enumeration [⟨"on", .string "off"⟩, ⟨"7", .string "seven"⟩]
    let details := [lampDetail "power" "level" (some switched), lampDetail "level" "power" none,
      lampDetail "state" "level" none, lampDetail "state" "power" (some switched),
      lampDetail "kind" "mode" none]
    (∃ detail ∈ details, detail.isCustom = true) ∧
      (map raw details).properties.get? "power" = some (.string "off") ∧
        (map raw details).properties.get? "level" = some (.string "7") ∧
          (map raw details).properties.get? "state" = some (.string "off") ∧
            (map raw details).properties.get? "kind" = some .null ∧
              mapInOrder raw (customDetails details) (customDetails details).entries.reverse
                raw.entries.reverse = map raw details := by
  intro raw switched details
  obtain ⟨-, merges, ordered, -, -⟩ := mapped_key_by_key raw details
  have custom : ∃ detail ∈ details, detail.isCustom = true := ⟨_, List.mem_cons_self, rfl⟩
  have merged := merges custom
  refine ⟨custom, merged.refined "power" _ _ _ rfl rfl rfl, merged.carried "level" _ rfl ?_,
    merged.fed "state" _ "power" _ rfl rfl rfl rfl nofun, merged.unfed "kind" _ rfl rfl ?_, ?_⟩
  · rintro detail ⟨⟩
    rfl
  · rintro source value ⟨⟩ ⟨⟩
    rfl
  · exact ordered _ _ (List.reverse_perm _) (List.reverse_perm _)

end DeviceMapping.Payload
