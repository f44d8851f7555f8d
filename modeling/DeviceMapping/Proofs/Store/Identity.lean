/-
**Which stored rules a write concerns.**

Saving a rule replaces, and unbinding it removes, what lies under its key. That is the rule for the
same target, but it can also be a rule that collides with it: one of another scope, of another type
or for another element.

* `write_hits_iff`: the stored rules that a write concerns, in memory and in a database.
* `write_hits_other_target`: rules that a write should not concern and does.
-/

import DeviceMapping.Proofs.Rule.Key
import DeviceMapping.Store.Memory
import DeviceMapping.Store.Rows
import DeviceMapping.Table.Lookup

namespace DeviceMapping

section OneKey

variable {α : Type} (table : Table α) (value : α) {key other : String}

/-- Setting and erasing a key concern what lies under this key. -/
theorem Table.get?_written (same : key = other) :
    (table.insert key value).get? other = some value ∧
      ([key].foldl erase table).get? other = none := by
  rw [get?_insert, get?_eraseAll, if_pos same.symm, if_pos (List.mem_singleton.mpr same.symm)]
  exact ⟨rfl, rfl⟩

/-- Setting and erasing a key leave what lies under another key. -/
theorem Table.get?_unwritten (different : key ≠ other) :
    (table.insert key value).get? other = table.get? other ∧
      ([key].foldl erase table).get? other = table.get? other := by
  rw [get?_insert, get?_eraseAll, if_neg different.symm,
    if_neg (mt List.mem_singleton.mp different.symm)]
  exact ⟨rfl, rfl⟩

end OneKey

namespace Rule

/-- **Which stored rules a write concerns.** Two rules share a key if they are for the same target
or collide, and never both. In either case saving the first one puts it in the place of the second
and unbinding the first one removes the second; in no other case does the first concern the
second. -/
theorem write_hits_iff (first second : Rule) :
    (first.key = second.key ↔ first.SameTarget second ∨ first.Collides second) ∧
    ¬ (first.SameTarget second ∧ first.Collides second) ∧
    (first.SameTarget second ∨ first.Collides second →
      (∀ store : MemoryStore,
        (RuleStore.save store [first]).1.rules.get? second.key = some first.keyed ∧
          (RuleStore.deleteByIds store [first.key]).1.rules.get? second.key = none) ∧
      (∀ store : RowStore,
        (RuleStore.save store [first]).1.rows.get? second.key = some (.ofRule first) ∧
          (RuleStore.deleteByIds store [first.key]).1.rows.get? second.key = none)) ∧
    (¬ (first.SameTarget second ∨ first.Collides second) →
      (∀ store : MemoryStore,
        (RuleStore.save store [first]).1.rules.get? second.key = store.rules.get? second.key ∧
          (RuleStore.deleteByIds store [first.key]).1.rules.get? second.key =
            store.rules.get? second.key) ∧
      (∀ store : RowStore,
        (RuleStore.save store [first]).1.rows.get? second.key = store.rows.get? second.key ∧
          (RuleStore.deleteByIds store [first.key]).1.rows.get? second.key =
            store.rows.get? second.key)) := by
  refine ⟨key_eq_iff, fun both => both.1.not_collides both.2, fun related => ?_,
    fun unrelated => ?_⟩
  · have same : first.key = second.key := key_eq_iff.mpr related
    exact ⟨fun store => store.rules.get?_written first.keyed same,
      fun store => store.rows.get?_written (.ofRule first) same⟩
  · have different : first.key ≠ second.key := fun same => unrelated (key_eq_iff.mp same)
    exact ⟨fun store => store.rules.get?_unwritten first.keyed different,
      fun store => store.rows.get?_unwritten (.ofRule first) different⟩

/-- A rule of a device is replaced by the next one for the same element, and a rule for another
element of the device is left alone. -/
theorem write_hits_own_target :
    let first : Rule := .forDevice "lamps" "lamp" "power" "switch"
    let next : Rule := .forDevice "lamps" "lamp" "power" "on"
    let other : Rule := .forDevice "lamps" "lamp" "color" "rgb"
    let store : MemoryStore := (MemoryStore.empty.save [first, other]).1
    next.SameTarget first ∧
      (RuleStore.save store [next]).1.rules.get? "lamp:property:power" = some next.keyed ∧
        ¬ (next.SameTarget other ∨ next.Collides other) ∧
          (RuleStore.save store [next]).1.rules.get? "lamp:property:color" = some other.keyed :=
  have hits := write_hits_iff (.forDevice "lamps" "lamp" "power" "on")
    (.forDevice "lamps" "lamp" "power" "switch")
  have spares := write_hits_iff (.forDevice "lamps" "lamp" "power" "on")
    (.forDevice "lamps" "lamp" "color" "rgb")
  have apart := fun related => absurd (spares.1.mpr related) (by decide)
  ⟨⟨rfl, rfl, rfl, rfl⟩, ((hits.2.2.1 (.inl ⟨rfl, rfl, rfl, rfl⟩)).1 _).1, apart,
    ((spares.2.2.2 apart).1 _).1⟩

/-- Two rules of different products, types and elements share a key, and the second one saved takes
the place of the first; so do a rule of a product and one of its device of the same id. -/
theorem write_hits_other_target :
    let plain : Rule := .forProduct "hub" "tag:level" "raw"
    let tagged : Rule := { Rule.forProduct "hub:property" "level" "other" with metadataType := .tag }
    let shared : Rule := .forProduct "hub" "level" "raw"
    let own : Rule := .forDevice "hub" "hub" "level" "other"
    plain.key = tagged.key ∧ plain.scopeId ≠ tagged.scopeId ∧
      plain.metadataType ≠ tagged.metadataType ∧ plain.metadataId ≠ tagged.metadataId ∧
        (MemoryStore.empty.save [plain, tagged]).1.rules.values = [tagged.keyed] ∧
          shared.key = own.key ∧ shared.isDeviceScoped ≠ own.isDeviceScoped ∧
            (MemoryStore.empty.save [shared, own]).1.rules.values = [own.keyed] :=
  ⟨rfl, by decide, by decide, by decide, rfl, rfl, by decide, rfl⟩

end Rule

end DeviceMapping
