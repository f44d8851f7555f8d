/-
**Rules lie under their keys.**

* `get?_insert`, `get?_deleteByIds`: what a write does to one key.
* `Keyed`: every rule of the store in memory lies under its own key and has this key for its id.
  Every write keeps this (`keyed_applyTo`), so it holds of every store that writes can make
  (`keyed_applyAll`).
-/

import DeviceMapping.Store.Memory
import DeviceMapping.Table.Lookup

namespace DeviceMapping

namespace Rule

/-- The key of a rule does not depend on the id that it has. -/
@[simp] theorem key_keyed (rule : Rule) : rule.keyed.key = rule.key := rfl

@[simp] theorem keyed_keyed (rule : Rule) : rule.keyed.keyed = rule.keyed := rfl

end Rule

namespace MemoryStore

theorem get?_insert (store : MemoryStore) (rule : Rule) (key : String) :
    (store.insert rule).rules.get? key =
      if key = rule.key then some rule.keyed else store.rules.get? key :=
  Table.get?_insert store.rules rule.key key rule.keyed

theorem get?_deleteByIds (store : MemoryStore) (ids : List String) (key : String) :
    (store.deleteByIds ids).1.rules.get? key = if key ∈ ids then none else store.rules.get? key :=
  Table.get?_eraseAll store.rules ids key

/-- Two stores with the same rule under every key are the same. -/
theorem ext_get? {first second : MemoryStore}
    (same : ∀ key, first.rules.get? key = second.rules.get? key) : first = second :=
  congrArg mk (Table.ext_get? same)

/-- Every rule lies under its key, which is its id. -/
def Keyed (store : MemoryStore) : Prop :=
  ∀ key rule, store.rules.get? key = some rule → rule.key = key ∧ rule.id = some key

theorem keyed_empty : empty.Keyed := nofun

theorem keyed_insert {store : MemoryStore} (keyed : store.Keyed) (rule : Rule) :
    (store.insert rule).Keyed := by
  intro key stored found
  rw [get?_insert] at found
  split at found
  · rename_i same
    cases found
    exact ⟨same.symm, congrArg some same.symm⟩
  · exact keyed key stored found

theorem keyed_insertAll {store : MemoryStore} (keyed : store.Keyed) (rules : List Rule) :
    (rules.foldl insert store).Keyed := by
  induction rules generalizing store with
  | nil => exact keyed
  | cons rule rest ih => exact ih (keyed_insert keyed rule)

/-- Taking rules away leaves the others under their keys. -/
theorem Keyed.of_fewer {store fewer : MemoryStore} (keyed : store.Keyed)
    (stored : ∀ key rule, fewer.rules.get? key = some rule → store.rules.get? key = some rule) :
    fewer.Keyed :=
  fun key rule found => keyed key rule (stored key rule found)

theorem keyed_applyTo {store : MemoryStore} (keyed : store.Keyed) (write : RuleWrite) :
    (write.applyTo store).1.Keyed := by
  cases write with
  | save rules => exact keyed_insertAll keyed rules
  | deleteByIds ids =>
    refine keyed.of_fewer fun key rule found => ?_
    rw [show (RuleWrite.deleteByIds ids).applyTo store = store.deleteByIds ids from rfl,
      get?_deleteByIds] at found
    split at found
    · cases found
    · exact found
  | deleteByScope productId deviceId =>
    refine keyed.of_fewer fun key rule found => ?_
    have kept : (store.rules.filter fun _ rule =>
      !belongsTo productId deviceId rule).get? key = some rule := found
    rw [Table.get?_filter] at kept
    exact (Option.filter_eq_some_iff.mp kept).1

theorem keyed_applyAll {store : MemoryStore} (keyed : store.Keyed) (writes : List RuleWrite) :
    (RuleWrite.applyAll store writes).Keyed := by
  induction writes generalizing store with
  | nil => exact keyed
  | cons write rest ih => exact ih (keyed_applyTo keyed write)

end MemoryStore

end DeviceMapping
