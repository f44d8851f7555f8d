/-
**When unbinding a rule of a device undoes binding it.**

A rule is bound under the key that it derives from its scope, an empty device id standing for the
product; it is unbound at the key made of the device id as it is.

* `get?_bindThenUnbind`: what lies under each key once a rule was bound and its element unbound.
* `restored_iff_of_named`, `restored_iff_of_unnamed`: when that is the store from before, for a
  device whose id is not empty and for one whose id is.
* `undo_restores_iff`: both, where the device has no rule of its own for the element.
-/

import DeviceMapping.Proofs.Mapping.Binding
import DeviceMapping.Proofs.Rule.Key

namespace DeviceMapping

namespace Rule

/-- The device of a device rule is its scope. -/
theorem deviceId_of_isDeviceScoped {rule : Rule} (own : rule.isDeviceScoped = true) :
    rule.deviceId = some rule.scopeId := by
  unfold isDeviceScoped at own
  unfold scopeId
  cases device : rule.deviceId with
  | none =>
    rw [device] at own
    cases own
  | some id =>
    rw [device] at own
    exact congrArg some (if_neg (bne_iff_ne.mp own)).symm

theorem hasRawKey_of_valid {rule : Rule} (valid : rule.validate = .ok ()) :
    rule.hasRawKey = true := by
  unfold validate at valid
  split at valid
  · cases valid
  · split at valid
    · cases valid
    · split at valid
      · cases valid
      · rename_i has
        simpa using has

/-- A valid rule has a product. -/
theorem productId_ne_of_valid {rule : Rule} (valid : rule.validate = .ok ()) :
    rule.productId ≠ "" := by
  intro empty
  rw [validate, if_pos (by rw [empty]; rfl)] at valid
  cases valid

/-- Keys for one element tell their scopes apart. -/
theorem scope_eq_of_keyOf_eq {scope scope' : String} {type : MetadataType} {element : String}
    (same : keyOf scope type element = keyOf scope' type element) : scope = scope' := by
  rw [← String.toList_inj, toList_keyOf, toList_keyOf] at same
  exact String.toList_inj.mp (List.append_cancel_right same)

end Rule

namespace Binding

variable {σ : Type} [RuleStore σ]

/-- The store after a rule of a device is bound and then another one, without a raw key, unbound. -/
def bindThenUnbind (registry : Registry) (store : σ) (deviceId : String) (rule blank : Rule) :
    Except MappingError σ := do
  let saved ← saveDevice registry store deviceId [rule]
  let undone ← saveDevice registry saved.store deviceId [blank]
  .ok undone.store

section Undo

variable {registry : Registry} {deviceId : String} {device : Device} {rule blank : Rule}

/-- A rule that is bound alone lies under its key. -/
theorem get?_bindOne (store : MemoryStore)
    (registered : registry.findDevice deviceId = some device)
    (valid : ((Scope.device device.productId deviceId).assign rule).validate = .ok ()) :
    ∃ saved, saveDevice registry store deviceId [rule] = .ok saved ∧
      ∀ key, saved.store.rules.get? key =
        if key = ((Scope.device device.productId deviceId).assign rule).key then
          some ((Scope.device device.productId deviceId).assign rule).keyed
        else store.rules.get? key := by
  have bound : ((Scope.device device.productId deviceId).assign rule).hasRawKey = true :=
    Rule.hasRawKey_of_valid valid
  have binds : rule.hasRawKey = true := bound
  obtain ⟨saved, is, found⟩ := get?_saveDevice store registered (List.forall_mem_singleton.mpr
    fun _ => valid)
  refine ⟨saved, is, fun key => ?_⟩
  rw [found]
  by_cases same : key = ((Scope.device device.productId deviceId).assign rule).key
  · subst same
    simp [boundRules, removedKeys, binds, Rule.keyed_keyed]
  · simp [boundRules, removedKeys, binds, same, Ne.symm same]

/-- Unbinding an element alone leaves nothing at its key. -/
theorem get?_unbindOne (store : MemoryStore)
    (registered : registry.findDevice deviceId = some device) (unbinds : blank.hasRawKey = false) :
    ∃ saved, saveDevice registry store deviceId [blank] = .ok saved ∧
      ∀ key, saved.store.rules.get? key =
        if key = Rule.keyOf deviceId blank.metadataType blank.metadataId then none
        else store.rules.get? key := by
  obtain ⟨saved, is, found⟩ := get?_saveDevice store registered (List.forall_mem_singleton.mpr
    fun has => absurd (unbinds.symm.trans has) Bool.false_ne_true)
  refine ⟨saved, is, fun key => ?_⟩
  rw [found]
  simp [boundRules, removedKeys, unbinds, Scope.unbindKey, Scope.id]

/-- Nothing lies at the key of the device and the element, and the rule as it was bound lies under
its own key unless that is the same. -/
theorem get?_bindThenUnbind (store : MemoryStore)
    (registered : registry.findDevice deviceId = some device)
    (valid : ((Scope.device device.productId deviceId).assign rule).validate = .ok ())
    (unbinds : blank.hasRawKey = false) (type : blank.metadataType = rule.metadataType)
    (element : blank.metadataId = rule.metadataId) :
    ∃ after, bindThenUnbind registry store deviceId rule blank = .ok after ∧
      ∀ key, after.rules.get? key =
        if key = Rule.keyOf deviceId rule.metadataType rule.metadataId then none
        else if key = ((Scope.device device.productId deviceId).assign rule).key then
          some ((Scope.device device.productId deviceId).assign rule).keyed
        else store.rules.get? key := by
  obtain ⟨saved, is, found⟩ := get?_bindOne store registered valid
  obtain ⟨undone, is', found'⟩ := get?_unbindOne saved.store registered unbinds
  refine ⟨undone.store, ?_, fun key => ?_⟩
  · simp only [bindThenUnbind, is, is', bind, Except.bind]
  · rw [found', found, type, element]

/-- A store that lost what lay at one key and has a rule under another is the store from before if
there was nothing at the one and the rule under the other. -/
theorem eq_iff_of_get? {store after : MemoryStore} {removed kept : String} {stored : Rule}
    (found : ∀ key, after.rules.get? key =
      if key = removed then none else if key = kept then some stored else store.rules.get? key) :
    after = store ↔ store.rules.get? removed = none ∧
      (kept ≠ removed → store.rules.get? kept = some stored) := by
  constructor
  · rintro rfl
    refine ⟨(found removed).trans (if_pos rfl), fun different => ?_⟩
    rw [found, if_neg different, if_pos rfl]
  · rintro ⟨nothing, there⟩
    refine MemoryStore.ext_get? fun key => ?_
    rw [found]
    split
    · rename_i atRemoved
      rw [atRemoved, nothing]
    · rename_i notRemoved
      split
      · rename_i atKept
        subst atKept
        exact (there notRemoved).symm
      · rfl

/-- The key of a rule bound for a device is that of the device, unless the device has no name. -/
theorem key_assign_device (productId : String) (named : deviceId ≠ "") (rule : Rule) :
    ((Scope.device productId deviceId).assign rule).key =
      Rule.keyOf deviceId rule.metadataType rule.metadataId := by
  simp only [Scope.assign, Rule.key, Rule.scopeId, if_neg named]

/-- Where the device has no rule of its own for the element, nothing lies under the key of a rule
bound for it if no stored rule collides with this rule. -/
theorem nothing_iff_not_collides {store : MemoryStore} (keyed : store.Keyed) (productId : String)
    (named : deviceId ≠ "")
    (free : ∀ key other, store.rules.get? key = some other → other.isDeviceScoped = true →
      other.deviceId = some deviceId → other.metadataType = rule.metadataType →
        other.metadataId ≠ rule.metadataId) :
    store.rules.get? ((Scope.device productId deviceId).assign rule).keyed.key = none ↔
      ∀ key other, store.rules.get? key = some other →
        ¬ other.Collides ((Scope.device productId deviceId).assign rule).keyed := by
  constructor
  · intro nothing key other found collides
    rw [← Rule.key_eq_iff.mpr (.inr collides), (keyed key other found).1, found] at nothing
    cases nothing
  · intro apart
    refine Option.eq_none_iff_forall_ne_some.mpr fun other found => ?_
    rcases Rule.key_eq_iff.mp (keyed _ other found).1 with target | collides
    · have own : other.isDeviceScoped = true := target.kind.trans (bne_iff_ne.mpr named)
      have scope : other.scopeId = deviceId := target.scope.trans (if_neg named)
      exact free _ other found own (scope ▸ Rule.deviceId_of_isDeviceScoped own) target.type
        target.element
    · exact apart _ other found collides

end Undo

/-- **When unbinding a rule of a device undoes binding it.** Let a device have no rule of its own
for an element, in a store that any writes have made. Binding a valid rule and then unbinding the
element succeeds. For a device with a name this gives back the store from before exactly if no
stored rule collides with the rule that was bound. For a device without a name the rule is bound for
the whole product and stays, so the store is the one from before only if this rule was there and
nothing lay at the key that is unbound. -/
theorem undo_restores_iff (registry : Registry) (writes : List RuleWrite) (deviceId : String)
    (device : Device) (rule blank : Rule) (registered : registry.findDevice deviceId = some device)
    (valid : ((Scope.device device.productId deviceId).assign rule).validate = .ok ())
    (unbinds : blank.hasRawKey = false) (type : blank.metadataType = rule.metadataType)
    (element : blank.metadataId = rule.metadataId)
    (free : ∀ key other, (RuleWrite.applyAll MemoryStore.empty writes).rules.get? key = some other →
      other.isDeviceScoped = true → other.deviceId = some deviceId →
        other.metadataType = rule.metadataType → other.metadataId ≠ rule.metadataId) :
    let store := RuleWrite.applyAll MemoryStore.empty writes
    let bound := ((Scope.device device.productId deviceId).assign rule).keyed
    let removed := Rule.keyOf deviceId rule.metadataType rule.metadataId
    ∃ after, bindThenUnbind registry store deviceId rule blank = .ok after ∧
      (∀ key, after.rules.get? key =
        if key = removed then none else if key = bound.key then some bound
        else store.rules.get? key) ∧
      (deviceId ≠ "" → (after = store ↔
        ∀ key other, store.rules.get? key = some other → ¬ other.Collides bound)) ∧
      (deviceId = "" → (after = store ↔
        store.rules.get? bound.key = some bound ∧ store.rules.get? removed = none)) := by
  intro store bound removed
  have keyed : store.Keyed := MemoryStore.keyed_applyAll MemoryStore.keyed_empty writes
  obtain ⟨after, is, found⟩ := get?_bindThenUnbind store registered valid unbinds type element
  refine ⟨after, is, found, fun named => ?_, fun unnamed => ?_⟩
  · have same : bound.key = removed := key_assign_device device.productId named rule
    have apart := nothing_iff_not_collides keyed device.productId named free
    have there : store.rules.get? bound.key = store.rules.get? removed := by rw [same]
    rw [eq_iff_of_get? found, ← apart, ← there]
    exact ⟨And.left, fun nothing => ⟨nothing, absurd same⟩⟩
  · have different : bound.key ≠ removed := by
      intro same
      subst unnamed
      exact Rule.productId_ne_of_valid valid (Rule.scope_eq_of_keyOf_eq same)
    rw [eq_iff_of_get? found]
    exact ⟨fun both => ⟨both.2 different, both.1⟩, fun both => ⟨both.2, fun _ => both.1⟩⟩

/-- What lies in a store to which one rule was saved. -/
theorem eq_of_get?_saved {saved other : Rule} {key : String}
    (found : (RuleWrite.applyAll MemoryStore.empty [.save [saved]]).rules.get? key = some other) :
    other = saved.keyed := by
  have found : (MemoryStore.empty.insert saved).rules.get? key = some other := found
  rw [MemoryStore.get?_insert] at found
  split at found
  · exact (Option.some.inj found).symm
  · cases found

/-- A rule of a lamp is undone, and the rule of its product for the same element is there again. -/
theorem undo_restores_product_rule :
    let registry : Registry := .ofLists [] [.ofId "lamp" "lamps"]
    let store := RuleWrite.applyAll MemoryStore.empty [.save [.forProduct "lamps" "power" "switch"]]
    let rule : Rule := .forProduct "" "power" "button"
    ∃ after, bindThenUnbind registry store "lamp" rule { rule with rawKey := none } = .ok after ∧
      after = store := by
  have undo := undo_restores_iff (.ofLists [] [.ofId "lamp" "lamps"])
    [.save [.forProduct "lamps" "power" "switch"]] "lamp" (.ofId "lamp" "lamps")
    (.forProduct "" "power" "button") { Rule.forProduct "" "power" "button" with rawKey := none }
    rfl rfl rfl rfl rfl fun key other found own => by
      rw [eq_of_get?_saved found] at own
      cases own
  obtain ⟨after, is, -, named, -⟩ := undo
  refine ⟨after, is, (named (by decide)).mpr fun key other found collides => ?_⟩
  rw [eq_of_get?_saved found] at collides
  exact absurd (Rule.key_eq_iff.mpr (.inr collides)) (by decide)

/-- Unbinding the rule of a hub removes the rule of its product, which has the same id; and a rule
bound for a device without a name is not unbound. -/
theorem undo_loses_product_rule :
    let registry : Registry := .ofLists [] [.ofId "hub" "hub", .ofId "" "hub"]
    let rule : Rule := .forProduct "" "level" "own"
    let shared : Rule := (Rule.forProduct "hub" "level" "raw").keyed
    let store := RuleWrite.applyAll MemoryStore.empty [.save [shared]]
    store.rules.values = [shared] ∧
      (bindThenUnbind registry store "hub" rule { rule with rawKey := none }).map
        (fun after => after.rules.values) = .ok [] ∧
        (bindThenUnbind registry store "" rule { rule with rawKey := none }).map
          (fun after => after.rules.values) =
            .ok [{ shared with deviceId := some "", rawKey := some "own" }] :=
  ⟨rfl, rfl, rfl⟩

end Binding

end DeviceMapping
