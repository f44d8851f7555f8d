/-
**How many properties fall back to a raw value.**

A transformation that fails is counted wherever it is applied. The first pass applies the one of a
detail to the value of its raw key; the second pass applies it to the value that is named like the
property, if there is one, and what the first pass made of the property is lost. So the failures are
as many as the properties that keep a raw value only if no failure is lost.

* `FellBack`: the value of a property is a raw value that its transformation failed on.
* `LostFailure`: the transformation of a property failed in the first pass, and what the second pass
  makes of the raw value that is named like the property takes its place.
* `failures_map`: the failures counted are as many as the properties that fell back and those with
  a lost failure together; a property may be both.
* `failures_count_fallbacks_iff`: so the count is right exactly if no failure is lost.
* `fallback_counted_twice`: a case where it is not.
-/

import DeviceMapping.Proofs.Mapping.Payload
import DeviceMapping.Table.Count

namespace DeviceMapping

namespace Transformation

variable {transformation : Transformation} {raw : Json}

theorem failed_apply_iff :
    (transformation.apply raw).failed = true ↔
      ∃ fault, transformation.tryApply raw = .error fault := by
  unfold apply
  cases transformation.tryApply raw with
  | ok value => simp
  | error fault => simp

/-- A transformation that fails keeps the raw value. -/
theorem value_apply_of_error {fault : CalculationError}
    (fails : transformation.tryApply raw = .error fault) :
    (transformation.apply raw).value = raw := by
  rw [apply, fails]

/-- No transformation fails on `null`. -/
theorem ne_null_of_error {fault : CalculationError}
    (fails : transformation.tryApply raw = .error fault) : raw ≠ .null := by
  rintro rfl
  cases fails

end Transformation

namespace Payload

/-! ### Properties that keep a raw value, and failures that are lost -/

/-- The transformation of a detail fails on a raw value. -/
def FailsOn (detail : Detail) (value : Json) : Prop :=
  ∃ transformation fault, detail.transformation = some transformation ∧
    transformation.tryApply value = .error fault

/-- The raw value that the value of a property comes from: the one that is named like the property,
else the one of its detail's raw key. -/
inductive ComesFrom (raw : Table Json) (property : String) (detail : Detail) (value : Json) : Prop
  | ownName (given : raw.get? property = some value)
  | rawKey {key : String} (absent : raw.get? property = none) (takes : detail.rawKey = some key)
      (given : raw.get? key = some value)

/-- The value of a custom property is a raw value, kept because its transformation failed. -/
def FellBack (raw : Table Json) (details : List Detail) (property : String) (value : Json) : Prop :=
  ∃ detail, lastCustom? details property = some detail ∧ ComesFrom raw property detail value ∧
    FailsOn detail value

/-- The transformation of a custom property failed on the value of its raw key, but the value of the
property comes from the raw value that is named like it. -/
def LostFailure (raw : Table Json) (details : List Detail) (property : String) : Prop :=
  ∃ detail key value, lastCustom? details property = some detail ∧
    raw.contains property = true ∧ detail.rawKey = some key ∧ raw.get? key = some value ∧
      FailsOn detail value

/-- The transformation of a detail fails on the raw value that is named like its property. -/
def failsByName (raw : Table Json) (property : String) (detail : Detail) : Bool :=
  (raw.get? property).any fun value => (transformed detail value).failed

/-- The value of a property falls back to a raw value. -/
def fallsBack (raw : Table Json) (property : String) (detail : Detail) : Bool :=
  if raw.contains property then failsByName raw property detail else (fromSource raw detail).failed

/-- The failure of a property in the first pass is lost. -/
def losesFailure (raw : Table Json) (property : String) (detail : Detail) : Bool :=
  raw.contains property && (fromSource raw detail).failed

/-- The custom properties whose values fell back. -/
def fallenBack (raw : Table Json) (details : List Detail) : List String :=
  ((customDetails details).filter (fallsBack raw)).keys

/-- The custom properties whose failures in the first pass are lost. -/
def lostFailures (raw : Table Json) (details : List Detail) : List String :=
  ((customDetails details).filter (losesFailure raw)).keys

section Failing

variable {raw : Table Json} {details : List Detail} {property : String} {detail : Detail}
  {value : Json}

theorem failed_transformed_iff : (transformed detail value).failed = true ↔ FailsOn detail value := by
  unfold transformed FailsOn
  cases detail.transformation with
  | none => simp
  | some transformation => simp [Transformation.failed_apply_iff]

theorem FailsOn.ne_null (fails : FailsOn detail value) : value ≠ .null := by
  obtain ⟨transformation, fault, -, error⟩ := fails
  exact Transformation.ne_null_of_error error

theorem failed_fromSource_iff : (fromSource raw detail).failed = true ↔
    ∃ key value, detail.rawKey = some key ∧ raw.get? key = some value ∧ FailsOn detail value := by
  have ofSource : (fromSource raw detail).failed = true ↔
      ∃ value, sourceValue raw detail = some value ∧ FailsOn detail value := by
    unfold fromSource
    cases sourceValue raw detail with
    | none => simp
    | some value => simp [failed_transformed_iff]
  rw [ofSource]
  constructor
  · rintro ⟨value, source, fails⟩
    obtain ⟨⟨key, takes, given⟩, -⟩ := sourceValue_eq_some_iff.mp source
    exact ⟨key, value, takes, given, fails⟩
  · rintro ⟨key, value, takes, given, fails⟩
    exact ⟨value, sourceValue_eq_some_iff.mpr ⟨⟨key, takes, given⟩, fails.ne_null⟩, fails⟩

theorem failsByName_iff : failsByName raw property detail = true ↔
    ∃ value, raw.get? property = some value ∧ FailsOn detail value := by
  simp only [failsByName, Option.any_eq_true, failed_transformed_iff]

theorem fallsBack_iff : fallsBack raw property detail = true ↔
    ∃ value, ComesFrom raw property detail value ∧ FailsOn detail value := by
  unfold fallsBack
  cases named : raw.get? property with
  | some own =>
    rw [if_pos (by rw [Table.contains, named]; rfl), failsByName_iff]
    constructor
    · rintro ⟨value, given, fails⟩
      exact ⟨value, .ownName given, fails⟩
    · rintro ⟨value, ⟨given⟩ | ⟨absent, -, -⟩, fails⟩
      · exact ⟨value, given, fails⟩
      · rw [named] at absent
        cases absent
  | none =>
    rw [if_neg (by rw [Table.contains, named]; exact Bool.false_ne_true), failed_fromSource_iff]
    constructor
    · rintro ⟨key, value, takes, given, fails⟩
      exact ⟨value, .rawKey named takes given, fails⟩
    · rintro ⟨value, ⟨given⟩ | ⟨-, takes, given⟩, fails⟩
      · rw [named] at given
        cases given
      · exact ⟨_, value, takes, given, fails⟩

theorem losesFailure_iff : losesFailure raw property detail = true ↔
    raw.contains property = true ∧ ∃ key value, detail.rawKey = some key ∧
      raw.get? key = some value ∧ FailsOn detail value := by
  rw [losesFailure, Bool.and_eq_true, failed_fromSource_iff]

/-- A property is listed with the custom details that pass a test if the one that counts does. -/
theorem mem_keys_filter_iff (test : String → Detail → Bool) :
    property ∈ ((customDetails details).filter test).keys ↔
      ∃ detail, lastCustom? details property = some detail ∧ test property detail = true := by
  rw [← Table.contains_iff_mem_keys, Table.contains_filter_iff, get?_customDetails]

theorem mem_fallenBack_iff :
    property ∈ fallenBack raw details ↔ ∃ value, FellBack raw details property value := by
  rw [fallenBack, mem_keys_filter_iff]
  simp only [fallsBack_iff]
  constructor
  · rintro ⟨detail, counts, value, comes, fails⟩
    exact ⟨value, detail, counts, comes, fails⟩
  · rintro ⟨value, detail, counts, comes, fails⟩
    exact ⟨detail, counts, value, comes, fails⟩

theorem mem_lostFailures_iff :
    property ∈ lostFailures raw details ↔ LostFailure raw details property := by
  rw [lostFailures, mem_keys_filter_iff]
  simp only [losesFailure_iff]
  constructor
  · rintro ⟨detail, counts, named, key, value, takes, given, fails⟩
    exact ⟨detail, key, value, counts, named, takes, given, fails⟩
  · rintro ⟨detail, key, value, counts, named, takes, given, fails⟩
    exact ⟨detail, counts, named, key, value, takes, given, fails⟩

theorem isEmpty_customDetails_of_some (counts : lastCustom? details property = some detail) :
    (customDetails details).isEmpty = false := by
  rw [← get?_customDetails] at counts
  cases empty : (customDetails details).isEmpty with
  | false => rfl
  | true =>
    rw [Table.get?, List.isEmpty_iff.mp empty] at counts
    cases counts

/-- What fell back is the raw value as it was. -/
theorem FellBack.get?_properties (fell : FellBack raw details property value) :
    (map raw details).properties.get? property = some value := by
  obtain ⟨detail, counts, comes, transformation, fault, transforms, fails⟩ := fell
  have merged : Merged raw (lastCustom? details) (map raw details).properties :=
    merged_map (isEmpty_customDetails_of_some counts)
  have kept := Transformation.value_apply_of_error fails
  cases comes with
  | ownName given =>
    rw [merged.refined property value detail transformation given counts transforms, kept]
  | rawKey absent takes given =>
    rw [merged.fed property detail _ value absent counts takes given
      (Transformation.ne_null_of_error fails), transforms]
    exact congrArg some kept

end Failing

/-! ### Counting -/

/-- Two tests pass as often as two others, if they do so on every item. -/
theorem countP_add_countP {α : Type} {first second third fourth : α → Bool}
    (each : ∀ item, (if first item then 1 else 0) + (if second item then 1 else 0) =
      (if third item then 1 else 0) + if fourth item then 1 else 0) (items : List α) :
    items.countP first + items.countP second = items.countP third + items.countP fourth := by
  induction items with
  | nil => rfl
  | cons item rest ih =>
    have here := each item
    rw [List.countP_cons, List.countP_cons, List.countP_cons, List.countP_cons]
    omega

section Counting

variable (raw : Table Json) (details : List Detail)

/-- The second pass fails on the raw values that are named like a property and not transformed. -/
theorem countP_fromKey :
    (raw.entries.countP fun entry =>
        (fromKey (customDetails details) entry.1 entry.2).failed) =
      (customDetails details).entries.countP fun entry => failsByName raw entry.1 entry.2 := by
  rw [← raw.size_filter fun key value => (fromKey (customDetails details) key value).failed,
    ← (customDetails details).size_filter (failsByName raw)]
  apply Table.size_eq_of_contains_iff
  intro key
  rw [Table.contains_filter_iff, Table.contains_filter_iff]
  simp only [failsByName, Option.any_eq_true, fromKey]
  cases (customDetails details).get? key with
  | none => simp
  | some detail => simp

/-- Whether or not a property is named like a raw value, the failures of its two attempts are the one
that its value falls back in and the one that is lost. -/
theorem attempts_eq (property : String) (detail : Detail) :
    (if (fromSource raw detail).failed then 1 else 0) +
        (if failsByName raw property detail then 1 else 0) =
      (if fallsBack raw property detail then 1 else 0) +
        if losesFailure raw property detail then 1 else 0 := by
  unfold fallsBack losesFailure
  cases named : raw.contains property with
  | true => simp [Nat.add_comm]
  | false =>
    -- the second pass does not come upon the property
    have absent : raw.get? property = none := by
      simpa [Table.contains] using named
    simp [failsByName, absent]

/-- Every failure counted is one of the attempts that the two passes make for a custom property. -/
theorem failures_eq_attempts : (map raw details).failures =
    ((customDetails details).entries.countP fun entry => (fromSource raw entry.2).failed) +
      (customDetails details).entries.countP fun entry => failsByName raw entry.1 entry.2 := by
  cases empty : (customDetails details).isEmpty with
  | true =>
    -- the payload is passed on as it is, and neither pass takes place
    rw [List.isEmpty_iff.mp empty, map, if_pos empty]
    rfl
  | false =>
    rw [← countP_fromKey]
    simp only [map, empty, Bool.false_eq_true, if_false, List.countP_append, List.countP_map]
    rfl

/-- The failures counted are those that properties fell back in and the lost ones. -/
theorem failures_map : (map raw details).failures =
    (fallenBack raw details).length + (lostFailures raw details).length := by
  have length_keys : ∀ test : String → Detail → Bool,
      ((customDetails details).filter test).keys.length =
        (customDetails details).entries.countP fun entry => test entry.1 entry.2 := by
    intro test
    rw [← Table.size_filter]
    exact List.length_map _
  rw [failures_eq_attempts, fallenBack, lostFailures, length_keys, length_keys]
  exact countP_add_countP (fun entry => attempts_eq raw entry.1 entry.2) _

end Counting

/-- **When the failures counted are the properties that fell back.** Mapping a raw payload counts a
failure for each custom property whose value is a raw value, kept because its transformation failed
on it, and one more for each custom property whose transformation failed on the value of its raw key
while its value comes from the raw value that is named like the property. So the count is that of the
properties that fell back exactly if no failure is lost in this way. -/
theorem failures_count_fallbacks_iff (raw : Table Json) (details : List Detail) :
    (∀ property value, FellBack raw details property value →
      (map raw details).properties.get? property = some value) ∧
    ((fallenBack raw details).Nodup ∧ ∀ property, property ∈ fallenBack raw details ↔
      ∃ value, FellBack raw details property value) ∧
    ((lostFailures raw details).Nodup ∧ ∀ property, property ∈ lostFailures raw details ↔
      LostFailure raw details property) ∧
    (map raw details).failures =
      (fallenBack raw details).length + (lostFailures raw details).length ∧
    ((map raw details).failures = (fallenBack raw details).length ↔
      ∀ property, ¬ LostFailure raw details property) := by
  refine ⟨fun property value fell => fell.get?_properties,
    ⟨Table.nodup_keys _, fun property => mem_fallenBack_iff⟩,
    ⟨Table.nodup_keys _, fun property => mem_lostFailures_iff⟩, failures_map raw details, ?_⟩
  rw [failures_map, Nat.add_eq_left, List.length_eq_zero_iff, List.eq_nil_iff_forall_not_mem]
  simp only [mem_lostFailures_iff]

/-- A formula, which fails on a truth value. -/
def doubled : Transformation := .math (Formula.compile "x * 2")

/-- A level that is taken from another raw key falls back once and is counted once. -/
theorem failures_count_fallbacks_iff_renamed :
    let raw : Table Json := .ofList [("raw", .bool true)]
    let details := [lampDetail "level" "raw" (some doubled)]
    FellBack raw details "level" (.bool true) ∧
      (map raw details).properties.get? "level" = some (.bool true) ∧
        (map raw details).failures = (fallenBack raw details).length ∧
          (fallenBack raw details).length = 1 := by
  intro raw details
  obtain ⟨kept, -, ⟨-, lost_iff⟩, -, counted_iff⟩ := failures_count_fallbacks_iff raw details
  have fell : FellBack raw details "level" (.bool true) :=
    ⟨_, rfl, .rawKey rfl rfl rfl, doubled, _, rfl, rfl⟩
  have noneLost : ∀ property, ¬ LostFailure raw details property := by
    intro property lost
    have listed : property ∈ ([] : List String) := (lost_iff property).mpr lost
    exact List.not_mem_nil listed
  exact ⟨fell, kept "level" _ fell, counted_iff.mpr noneLost, rfl⟩

/-- A level that keeps its raw key falls back once and is counted twice; a mode that is `null` under
its own name has not fallen back and is counted for the raw key that it is not taken from. -/
theorem fallback_counted_twice :
    let raw : Table Json := .ofList [("level", .bool true), ("mode", .null), ("raw", .bool true)]
    let details := [lampDetail "level" "level" (some doubled), lampDetail "mode" "raw" (some doubled)]
    (map raw details).failures = 3 ∧ fallenBack raw details = ["level"] ∧
      lostFailures raw details = ["level", "mode"] ∧
        (map raw details).properties.get? "mode" = some .null :=
  ⟨rfl, rfl, rfl, rfl⟩

end Payload

end DeviceMapping
