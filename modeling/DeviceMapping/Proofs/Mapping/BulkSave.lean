/-
**Saving a list of rules is all or nothing.**

* `saveIn_of_invalid`: a rule that is not valid in the scope stops the list before anything is
  written; `saveIn_of_valid` says what is written where there is none.
* `find?_boundRules`: the last rule bound under a key is what lies there.
* `save_all_or_nothing`: both for the devices and the products of a service.
-/

import DeviceMapping.Proofs.Mapping.Binding
import DeviceMapping.Service.Basic
import DeviceMapping.Table.Count

namespace DeviceMapping

namespace Binding

/-! ### What is left under a key -/

/-- The last rule of a list that is bound under a key. -/
def lastBound? (scope : Scope) (rules : List Rule) (key : String) : Option Rule :=
  rules.reverse.find? fun rule => rule.hasRawKey && (scope.assign rule).key == key

/-- The last rule bound under a key is saved with this key for its id. -/
theorem find?_boundRules (scope : Scope) (rules : List Rule) (key : String) :
    ((boundRules scope rules).reverse.find? fun rule => rule.key == key).map Rule.keyed =
      (lastBound? scope rules key).map fun rule => { scope.assign rule with id := some key } := by
  rw [boundRules, ← List.map_reverse, ← List.filter_reverse, List.find?_map, List.find?_filter,
    Option.map_map]
  simp only [Bool.decide_and, Bool.decide_eq_true]
  refine Option.map_congr fun rule found => ?_
  have passes := List.find?_some found
  have under : (scope.assign rule).key = key := beq_iff_eq.mp (Bool.and_eq_true_iff.mp passes).2
  rw [← under]
  rfl

/-! ### All or nothing -/

/-- What comes of saving a list of rules in a scope, or for a device or a product that is not known
and gives no scope. Either nothing is done, or all that the list says and nothing else. -/
structure AllOrNothing (scope : Option Scope) (rules : List Rule) (before : Service MemoryStore)
    (outcome : Service MemoryStore × Except MappingError Summary) : Prop where
  refused : (scope = none ∨ ∃ known ∈ scope, ∃ rule ∈ rules, rule.hasRawKey = true ∧
      ∃ fault, (known.assign rule).validate = .error fault) →
    ∃ error, outcome = (before, .error error)
  saved : ∀ known ∈ scope,
    (∀ rule ∈ rules, rule.hasRawKey = true → (known.assign rule).validate = .ok ()) →
      ∃ summary, outcome.2 = .ok summary ∧
        (∀ key, outcome.1.store.rules.get? key =
          if key ∈ removedKeys known rules then none
          else match lastBound? known rules key with
            | some rule => some { known.assign rule with id := some key }
            | none => before.store.rules.get? key) ∧
        summary.bound = rules.countP Rule.hasRawKey ∧
        summary.unbound = ((removedKeys known rules).toFinset.filter fun key =>
          (before.store.save (boundRules known rules)).1.rules.contains key = true).card

/-- A call is all or nothing if it does what saving in its scope comes to. -/
theorem allOrNothing_of_saveIn {scope : Scope} {rules : List Rule} {before : Service MemoryStore}
    {outcome : Service MemoryStore × Except MappingError Summary}
    (fails : ∀ error, saveIn scope before.store rules = .error error →
      outcome = (before, .error error))
    (saves : ∀ saved, saveIn scope before.store rules = .ok saved →
      outcome = (before.wrote saved.store saved.signals, .ok saved.summary)) :
    AllOrNothing (some scope) rules before outcome := by
  constructor
  · rintro (unknown | ⟨known, is, rule, member, binds, fault, invalid⟩)
    · cases unknown
    · cases is
      obtain ⟨error, stops⟩ := saveIn_of_invalid before.store member binds invalid
      exact ⟨error, fails error stops⟩
  · rintro known ⟨⟩ valid
    obtain ⟨saved, is, after, summary⟩ := saveIn_of_valid before.store valid
    rw [saves saved is]
    refine ⟨saved.summary, rfl, fun key => ?_, ?_, ?_⟩
    · have found := get?_saveIn before.store after key
      rw [find?_boundRules] at found
      refine found.trans ?_
      cases lastBound? scope rules key with
      | none => rfl
      | some rule => rfl
    · rw [summary, List.countP_eq_length_filter]
      exact List.length_map _
    · rw [summary]
      exact Table.size_eraseAll _ _

/-- **Saving a list of rules is all or nothing.** If the device or product is not known, or a rule
with a raw key is not valid once it has taken on the scope, the call fails and the service is as
before. Otherwise nothing lies at the keys that are unbound, the last rule bound under any other key
lies there, in its scope and with this key for its id, and every other key is as before. -/
theorem save_all_or_nothing (service : Service MemoryStore) (rules : List Rule) :
    (∀ deviceId, AllOrNothing
      ((service.registry.findDevice deviceId).map fun device => .device device.productId deviceId)
      rules service (service.saveDevice deviceId rules)) ∧
    (∀ productId, AllOrNothing
      ((service.registry.findProduct productId).map fun _ => .product productId)
      rules service (service.saveProduct productId rules)) := by
  refine ⟨fun deviceId => ?_, fun productId => ?_⟩
  · unfold Service.saveDevice saveDevice
    cases service.registry.findDevice deviceId with
    | none => exact ⟨fun _ => ⟨.deviceNotFound deviceId, rfl⟩, nofun⟩
    | some device =>
      refine allOrNothing_of_saveIn (fun error is => ?_) fun saved is => ?_
      · simp only [is]
      · simp only [is]
  · unfold Service.saveProduct saveProduct
    cases service.registry.findProduct productId with
    | none => exact ⟨fun _ => ⟨.productNotFound productId, rfl⟩, nofun⟩
    | some product =>
      refine allOrNothing_of_saveIn (fun error is => ?_) fun saved is => ?_
      · simp only [is]
      · simp only [is]

/-- A lamp's list binds one element twice and unbinds another that it binds as well, beside one that
was stored; with a rule that has no element after them nothing is done. -/
theorem save_all_or_nothing_mixed :
    let registry : Registry := .ofLists [] [.ofId "lamp" "lamps"]
    let store := MemoryStore.empty.insert (.forDevice "lamps" "lamp" "mode" "m")
    let service := Service.new registry store .usual true
    let rules : List Rule := [.forProduct "" "power" "first",
      { Rule.forProduct "" "level" "" with rawKey := none }, .forProduct "" "level" "raw",
      .forDevice "" "other" "power" "last", { Rule.forProduct "" "mode" "" with rawKey := none }]
    let saved := service.saveDevice "lamp" rules
    (∃ summary, saved.2 = .ok summary ∧ summary = ⟨3, 2⟩) ∧
      saved.1.store.rules.get? "lamp:property:power" =
        some (Rule.forDevice "lamps" "lamp" "power" "last").keyed ∧
      saved.1.store.rules.get? "lamp:property:level" = none ∧
      ∃ error, service.saveDevice "lamp" (rules ++ [.forProduct "lamps" " " "raw"]) =
        (service, .error error) := by
  intro registry store service rules saved
  have valid : ∀ rule ∈ rules, rule.hasRawKey = true →
      ((Scope.device "lamps" "lamp").assign rule).validate = .ok () := by
    intro rule member binds
    simp only [rules, List.mem_cons, List.not_mem_nil, or_false] at member
    rcases member with rfl | rfl | rfl | rfl | rfl
    · rfl
    · cases binds
    · rfl
    · rfl
    · cases binds
  obtain ⟨summary, is, found, bound, unbound⟩ :=
    ((save_all_or_nothing service rules).1 "lamp").saved (.device "lamps" "lamp") rfl valid
  refine ⟨⟨summary, is, ?_⟩, found _, found _, ?_⟩
  · cases summary
    cases bound
    cases unbound
    rfl
  · refine ((save_all_or_nothing service _).1 "lamp").refused (.inr ⟨.device "lamps" "lamp", rfl,
      .forProduct "lamps" " " "raw", List.mem_append_right _ List.mem_cons_self, rfl,
      .emptyMetadata, rfl⟩)

end Binding

end DeviceMapping
