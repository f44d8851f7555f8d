/-
**What binding and unbinding leave in the store.**

* `boundRules`, `removedKeys`: what a list of rules saves in a scope, and which keys it removes.
* `saveIn_of_valid`: where all bound rules are valid the list is saved, first the bound rules and
  then the removals; `saveIn_of_invalid`: one that is not stops the whole list.
* `get?_saveIn`: what lies under each key once a list is saved in a scope; `get?_saveDevice`: once
  it is saved for a device.
-/

import DeviceMapping.Mapping.Binding
import DeviceMapping.Proofs.Results
import DeviceMapping.Proofs.Store.Keyed

namespace DeviceMapping

/-- What lies under a key after rules were saved in order: the last of them with this key, or what
was there. -/
theorem MemoryStore.get?_insertAll (store : MemoryStore) (rules : List Rule) (key : String) :
    (rules.foldl insert store).rules.get? key =
      ((rules.reverse.find? fun rule => rule.key == key).map Rule.keyed).or
        (store.rules.get? key) := by
  induction rules generalizing store with
  | nil => rfl
  | cons rule rest ih =>
    rw [List.foldl_cons, ih, get?_insert, List.reverse_cons, List.find?_append]
    cases rest.reverse.find? fun rule => rule.key == key with
    | some last => rfl
    | none =>
      by_cases same : key = rule.key
      · simp [same]
      · simp [same, Ne.symm same]

namespace Binding

/-- The rules of a list that are bound in a scope, as they are saved. -/
def boundRules (scope : Scope) (rules : List Rule) : List Rule :=
  (rules.filter Rule.hasRawKey).map fun rule => (scope.assign rule).keyed

/-- The keys at which a list of rules removes what is there. -/
def removedKeys (scope : Scope) (rules : List Rule) : List String :=
  (rules.filter fun rule => !rule.hasRawKey).map scope.unbindKey

/-- A rule that is valid in a scope can be bound there. -/
theorem bindable_of_valid {scope : Scope} {rule : Rule}
    (valid : (scope.assign rule).validate = .ok ()) :
    bindable scope rule = .ok (scope.assign rule).keyed := by
  have keyed : (scope.assign rule).keyed.validate = .ok () := valid
  simp only [bindable, keyed]

theorem bindable_of_invalid {scope : Scope} {rule : Rule} {fault : RuleFault}
    (invalid : (scope.assign rule).validate = .error fault) :
    bindable scope rule = .error (.invalidRule fault) := by
  have keyed : (scope.assign rule).keyed.validate = .error fault := invalid
  simp only [bindable, keyed]

section Memory

variable (store : MemoryStore)

/-- Saving no rules changes nothing, so it does not matter that it is left out. -/
theorem store_saveSome (rules : List Rule) :
    (saveSome store rules).1 = rules.foldl MemoryStore.insert store := by
  cases rules <;> rfl

theorem count_saveSome (rules : List Rule) : (saveSome store rules).2.count = rules.length := by
  cases rules <;> rfl

theorem store_deleteSome (keys : List String) :
    (deleteSome store keys).1 = (store.deleteByIds keys).1 := by
  cases keys <;> rfl

theorem count_deleteSome (keys : List String) :
    (deleteSome store keys).2.count = (store.deleteByIds keys).2.count := by
  cases keys with
  | nil => exact (Nat.sub_self _).symm
  | cons key rest => rfl

/-- Where the bound rules are valid, the list is saved. -/
theorem saveIn_of_valid {scope : Scope} {rules : List Rule}
    (valid : ∀ rule ∈ rules, rule.hasRawKey → (scope.assign rule).validate = .ok ()) :
    ∃ saved, saveIn scope store rules = .ok saved ∧
      saved.store = (((boundRules scope rules).foldl MemoryStore.insert store).deleteByIds
        (removedKeys scope rules)).1 ∧
      saved.summary = ⟨(boundRules scope rules).length,
        (((boundRules scope rules).foldl MemoryStore.insert store).deleteByIds
          (removedKeys scope rules)).2.count⟩ := by
  have bound : (rules.filter Rule.hasRawKey).mapM (bindable scope) =
      .ok (boundRules scope rules) :=
    mapM_eq_ok fun rule member =>
      bindable_of_valid (valid rule (List.mem_filter.mp member).1 (List.mem_filter.mp member).2)
  unfold saveIn
  rw [bound]
  refine ⟨_, rfl, ?_, ?_⟩
  · rw [← store_saveSome, ← store_deleteSome]
    rfl
  · rw [← store_saveSome, ← count_saveSome store, ← count_deleteSome]
    rfl

/-- A bound rule that is not valid stops the list before anything is written. -/
theorem saveIn_of_invalid {scope : Scope} {rules : List Rule} {rule : Rule} {fault : RuleFault}
    (member : rule ∈ rules) (binds : rule.hasRawKey = true)
    (invalid : (scope.assign rule).validate = .error fault) :
    ∃ error, saveIn scope store rules = .error error := by
  obtain ⟨error, stops⟩ := exists_mapM_eq_error
    (List.mem_filter.mpr ⟨member, binds⟩) (bindable_of_invalid invalid)
  refine ⟨error, ?_⟩
  unfold saveIn
  rw [stops]
  rfl

/-- What lies under a key after a list of rules is saved in a scope: nothing where a rule was
unbound, else the last rule bound under it, else what was there. -/
theorem get?_saveIn {scope : Scope} {rules : List Rule} {saved : Saved MemoryStore}
    (after : saved.store = (((boundRules scope rules).foldl MemoryStore.insert store).deleteByIds
      (removedKeys scope rules)).1) (key : String) :
    saved.store.rules.get? key =
      if key ∈ removedKeys scope rules then none
      else
        (((boundRules scope rules).reverse.find? fun rule => rule.key == key).map Rule.keyed).or
          (store.rules.get? key) := by
  rw [after, MemoryStore.get?_deleteByIds, MemoryStore.get?_insertAll]

/-- What lies under a key after a list of rules is saved for a device: nothing where a rule was
unbound, else the last rule bound under it, else what was there. -/
theorem get?_saveDevice {registry : Registry} {deviceId : String} {device : Device}
    (registered : registry.findDevice deviceId = some device) {rules : List Rule}
    (valid : ∀ rule ∈ rules, rule.hasRawKey →
      ((Scope.device device.productId deviceId).assign rule).validate = .ok ()) :
    ∃ saved, saveDevice registry store deviceId rules = .ok saved ∧
      ∀ key, saved.store.rules.get? key =
        if key ∈ removedKeys (.device device.productId deviceId) rules then none
        else
          (((boundRules (.device device.productId deviceId) rules).reverse.find?
            fun rule => rule.key == key).map Rule.keyed).or (store.rules.get? key) := by
  obtain ⟨saved, is, after, -⟩ := saveIn_of_valid store valid
  refine ⟨saved, ?_, get?_saveIn store after⟩
  unfold saveDevice
  rw [registered]
  exact is

end Memory

end Binding

end DeviceMapping
