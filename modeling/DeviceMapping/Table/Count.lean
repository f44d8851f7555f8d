/-
**The number of entries of a table.**

A table has as many entries as it has keys (`card_keySet`), so tables are compared in size by what
they contain: `size_le_of_contains`, `size_eq_of_contains_iff`, `size_erase_of_contains`,
`size_eraseAll`.
-/

import DeviceMapping.Table.Lookup
import Mathlib.Data.Finset.Card
import Mathlib.Data.Finset.Dedup

namespace DeviceMapping.Table

variable {α β : Type}

theorem contains_iff_mem_keys {table : Table α} {key : String} :
    table.contains key = true ↔ key ∈ table.keys := by
  rw [contains, Option.isSome_iff_exists]
  simp only [get?_eq_some_iff, keys, List.mem_map, Prod.exists, exists_and_right, exists_eq_right]

theorem nodup_keys (table : Table α) : table.keys.Nodup :=
  nodup_of_sorted table.sorted

/-- The keys of a table, without their order. -/
def keySet (table : Table α) : Finset String :=
  table.keys.toFinset

theorem mem_keySet {table : Table α} {key : String} :
    key ∈ table.keySet ↔ table.contains key = true := by
  rw [keySet, List.mem_toFinset, contains_iff_mem_keys]

theorem card_keySet (table : Table α) : table.keySet.card = table.size := by
  rw [keySet, List.toFinset_card_of_nodup table.nodup_keys]
  exact List.length_map _

theorem keySet_eraseAll (table : Table α) (keys : List String) :
    (keys.foldl erase table).keySet = table.keySet \ keys.toFinset := by
  ext key
  rw [Finset.mem_sdiff, mem_keySet, mem_keySet, List.mem_toFinset, contains, contains,
    get?_eraseAll]
  by_cases erased : key ∈ keys
  · simp [erased]
  · simp [erased]

/-- As many entries go as there are different keys of the table among those erased. -/
theorem size_eraseAll (table : Table α) (keys : List String) :
    table.size - (keys.foldl erase table).size =
      (keys.toFinset.filter fun key => table.contains key = true).card := by
  have there : (keys.toFinset.filter fun key => table.contains key = true) =
      keys.toFinset ∩ table.keySet := by
    ext key
    rw [Finset.mem_filter, Finset.mem_inter, mem_keySet]
  have split := Finset.card_sdiff_add_card_inter table.keySet keys.toFinset
  rw [← card_keySet, ← card_keySet, keySet_eraseAll, there, Finset.inter_comm]
  omega

/-- A table whose keys are all in another one is not larger. -/
theorem size_le_of_contains {first : Table α} {second : Table β}
    (within : ∀ key, first.contains key = true → second.contains key = true) :
    first.size ≤ second.size := by
  rw [← card_keySet, ← card_keySet]
  exact Finset.card_le_card fun key member => mem_keySet.mpr (within key (mem_keySet.mp member))

/-- Tables with the same keys are of the same size. -/
theorem size_eq_of_contains_iff {first : Table α} {second : Table β}
    (same : ∀ key, first.contains key = true ↔ second.contains key = true) :
    first.size = second.size :=
  Nat.le_antisymm (size_le_of_contains fun key => (same key).mp)
    (size_le_of_contains fun key => (same key).mpr)

/-- A table that lies within another of the same size is that table. -/
theorem eq_of_size_eq {first second : Table α}
    (within : ∀ key value, first.get? key = some value → second.get? key = some value)
    (size : first.size = second.size) : first = second := by
  have subset : first.keySet ⊆ second.keySet := by
    intro key member
    obtain ⟨value, found⟩ := Option.isSome_iff_exists.mp (mem_keySet.mp member)
    exact mem_keySet.mpr (Option.isSome_iff_exists.mpr ⟨value, within key value found⟩)
  have sameKeys : first.keySet = second.keySet := by
    apply Finset.eq_of_subset_of_card_le subset
    rw [card_keySet, card_keySet, size]
  apply ext_get?
  intro key
  cases found : first.get? key with
  | some value => exact (within key value found).symm
  | none =>
    have absent : key ∉ second.keySet := by
      rw [← sameKeys, mem_keySet, contains, found]
      exact Bool.false_ne_true
    rw [mem_keySet, contains, Bool.not_eq_true, Option.isSome_eq_false_iff,
      Option.isNone_iff_eq_none] at absent
    exact absent.symm

theorem contains_filter_iff {table : Table α} {keep : String → α → Bool} {key : String} :
    (table.filter keep).contains key = true ↔
      ∃ value, table.get? key = some value ∧ keep key value = true := by
  rw [contains, get?_filter, Option.isSome_iff_exists]
  simp only [Option.filter_eq_some_iff]

theorem size_filter (table : Table α) (keep : String → α → Bool) :
    (table.filter keep).size = table.entries.countP fun entry => keep entry.1 entry.2 :=
  List.countP_eq_length_filter.symm

/-- The entries that pass a test and those that fail it are all there are. -/
theorem size_filter_add (table : Table α) (test : String → α → Bool) :
    (table.filter test).size + (table.filter fun key value => !test key value).size = table.size :=
  (List.length_eq_length_filter_add _).symm

/-- As many entries go as pass the test. -/
theorem size_sub_size_filter_not (table : Table α) (test : String → α → Bool) :
    table.size - (table.filter fun key value => !test key value).size =
      (table.filter test).size :=
  Nat.sub_eq_of_eq_add (table.size_filter_add test).symm

theorem size_erase_of_contains {table : Table α} {key : String}
    (there : table.contains key = true) : (table.erase key).size + 1 = table.size := by
  have erased : (table.erase key).keySet = table.keySet.erase key :=
    (keySet_eraseAll table [key]).trans (Finset.sdiff_singleton_eq_erase key table.keySet)
  rw [← card_keySet, ← card_keySet, erased]
  exact Finset.card_erase_add_one (mem_keySet.mpr there)

/-- The entry of a key counts among those that pass a test if it passes. -/
theorem size_filter_erase_add (table : Table α) (keep : String → α → Bool) (key : String) :
    ((table.erase key).filter keep).size + ((table.get? key).any (keep key)).toNat =
      (table.filter keep).size := by
  have commutes : (table.erase key).filter keep = (table.filter keep).erase key := by
    refine ext_get? fun other => ?_
    rw [get?_filter, get?_erase, get?_erase, get?_filter]
    split <;> rfl
  have kept : (table.filter keep).contains key = (table.get? key).any (keep key) := by
    rw [contains, get?_filter, Option.isSome_filter]
  rw [commutes, ← kept]
  cases there : (table.filter keep).contains key with
  | false => rw [erase_of_absent there, Bool.toNat_false, Nat.add_zero]
  | true => exact size_erase_of_contains there

/-- The entry set for a key counts in place of the one it had. -/
theorem size_filter_insert_add (table : Table α) (keep : String → α → Bool) (key : String)
    (value : α) :
    ((table.insert key value).filter keep).size + ((table.get? key).any (keep key)).toNat =
      (table.filter keep).size + (keep key value).toNat := by
  have others : (table.insert key value).erase key = table.erase key := by
    refine ext_get? fun other => ?_
    rw [get?_erase, get?_insert, get?_erase]
    split <;> rfl
  have before := table.size_filter_erase_add keep key
  have after := (table.insert key value).size_filter_erase_add keep key
  rw [others, get?_insert, if_pos rfl, Option.any_some] at after
  omega

theorem size_pos_of_contains {table : Table α} {key : String}
    (there : table.contains key = true) : 0 < table.size :=
  Nat.lt_of_lt_of_eq (Nat.succ_pos _) (size_erase_of_contains there)

end DeviceMapping.Table
