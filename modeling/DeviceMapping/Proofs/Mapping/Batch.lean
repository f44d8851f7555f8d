/-
**Saving a list of rules at once and rule by rule.**

Saved at once, the rules of a list that are bound come first and then those that are unbound; saved
one call each, they come in the order of the list. A key tells the two apart if the list binds a rule
under it after it unbinds what is there and does not unbind it again (`RebindsAt`).

* `get?_written`, `get?_inTurn`: what lies under a key after either; rule by rule it is the last rule
  for the key that decides.
* `rebindsAt_iff`: whether a key tells them apart, by this last rule.
* `get?_written_eq`, `get?_written_of_rebinds`: the keys at which both agree, and what is there at the
  others.
* `batch_in_order_iff`: both for the devices and the products of a service.
-/

import DeviceMapping.Proofs.Mapping.BulkSave

namespace DeviceMapping

namespace Binding

/-! ### One list, saved at once or rule by rule -/

/-- The key under which a rule is bound in a scope, or at which it is unbound. -/
def Scope.target (scope : Scope) (rule : Rule) : String :=
  if rule.hasRawKey then (scope.assign rule).key else scope.unbindKey rule

/-- The store once a list of rules was saved in a scope, the bound ones first. -/
def written (scope : Scope) (store : MemoryStore) (rules : List Rule) : MemoryStore :=
  (((boundRules scope rules).foldl MemoryStore.insert store).deleteByIds
    (removedKeys scope rules)).1

/-- The store once every rule of a list was saved in a scope by itself. -/
def inTurn (scope : Scope) (store : MemoryStore) (rules : List Rule) : MemoryStore :=
  rules.foldl (fun store rule => written scope store [rule]) store

/-- The last rule of a list for a key, be it bound or unbound. -/
def lastFor? (scope : Scope) (rules : List Rule) (key : String) : Option Rule :=
  rules.reverse.find? fun rule => scope.target rule == key

/-- The list binds a rule under the key after it has unbound what is there, and does not unbind it
again. -/
def RebindsAt (scope : Scope) (rules : List Rule) (key : String) : Prop :=
  ∃ before rule after, rules = before ++ rule :: after ∧ rule.hasRawKey = true ∧
    (scope.assign rule).key = key ∧ key ∈ removedKeys scope before ∧
      key ∉ removedKeys scope after

section Lists

variable {scope : Scope} {rules : List Rule} {rule : Rule} {key : String}

theorem target_of_binds (binds : rule.hasRawKey = true) :
    scope.target rule = (scope.assign rule).key :=
  if_pos binds

theorem target_of_unbinds (unbinds : rule.hasRawKey = false) :
    scope.target rule = scope.unbindKey rule :=
  if_neg (by rw [unbinds]; exact Bool.false_ne_true)

theorem mem_removedKeys_iff : key ∈ removedKeys scope rules ↔
    ∃ rule ∈ rules, rule.hasRawKey = false ∧ scope.target rule = key := by
  simp only [removedKeys, List.mem_map, List.mem_filter, Bool.not_eq_true', and_assoc]
  refine exists_congr fun rule => and_congr_right fun _ => and_congr_right fun unbinds => ?_
  rw [target_of_unbinds unbinds]

/-- Where the list does not unbind, its rules for the key are bound. -/
theorem binds_of_not_mem (kept : key ∉ removedKeys scope rules) (member : rule ∈ rules)
    (same : scope.target rule = key) : rule.hasRawKey = true := by
  cases kind : rule.hasRawKey with
  | true => rfl
  | false => exact absurd (mem_removedKeys_iff.mpr ⟨rule, member, kind, same⟩) kept

/-- The last rule for a key is one of the list for this key. -/
theorem mem_of_lastFor? (last : lastFor? scope rules key = some rule) :
    rule ∈ rules ∧ scope.target rule = key := by
  have found : (rules.reverse.find? fun rule => scope.target rule == key) = some rule := last
  have here := List.find?_some found
  exact ⟨List.mem_reverse.mp (List.mem_of_find?_eq_some found), beq_iff_eq.mp here⟩

/-- A list that unbinds has a last rule for the key. -/
theorem exists_lastFor? (removed : key ∈ removedKeys scope rules) :
    ∃ rule, lastFor? scope rules key = some rule := by
  obtain ⟨rule, member, -, same⟩ := mem_removedKeys_iff.mp removed
  refine Option.isSome_iff_exists.mp (List.find?_isSome.mpr ⟨rule, ?_, beq_iff_eq.mpr same⟩)
  exact List.mem_reverse.mpr member

/-- Nothing is left where the list unbinds; elsewhere the last bound rule counts. -/
theorem get?_written (scope : Scope) (store : MemoryStore) (rules : List Rule) (key : String) :
    (written scope store rules).rules.get? key =
      if key ∈ removedKeys scope rules then none
      else ((lastBound? scope rules key).map fun rule =>
        { scope.assign rule with id := some key }).or (store.rules.get? key) := by
  rw [written, MemoryStore.get?_deleteByIds, MemoryStore.get?_insertAll, find?_boundRules]

/-- A rule saved by itself decides what lies under its own key. -/
theorem get?_written_singleton (scope : Scope) (store : MemoryStore) (rule : Rule) (key : String) :
    (written scope store [rule]).rules.get? key =
      if scope.target rule == key then
        if rule.hasRawKey then some { scope.assign rule with id := some key } else none
      else store.rules.get? key := by
  rw [get?_written]
  cases kind : rule.hasRawKey with
  | true =>
    rw [target_of_binds kind]
    by_cases same : (scope.assign rule).key = key
    · simp [removedKeys, lastBound?, kind, same]
    · simp [removedKeys, lastBound?, kind, same]
  | false =>
    rw [target_of_unbinds kind]
    by_cases same : scope.unbindKey rule = key
    · simp [removedKeys, kind, same]
    · simp [removedKeys, lastBound?, kind, same, Ne.symm same]

/-- Rule by rule, the last rule for a key decides what lies there. -/
theorem get?_inTurn (scope : Scope) (store : MemoryStore) (rules : List Rule) (key : String) :
    (inTurn scope store rules).rules.get? key =
      match lastFor? scope rules key with
      | some rule =>
        if rule.hasRawKey then some { scope.assign rule with id := some key } else none
      | none => store.rules.get? key := by
  induction rules generalizing store with
  | nil => rfl
  | cons rule rest ih =>
    rw [inTurn, List.foldl_cons, ← inTurn, ih, get?_written_singleton, lastFor?, lastFor?,
      List.reverse_cons, List.find?_append]
    cases rest.reverse.find? fun rule => scope.target rule == key with
    | some last => rfl
    | none =>
      by_cases same : scope.target rule = key
      · simp [same]
      · simp [same]

/-- The last rule for a key in a list that goes on with a rule for it. -/
theorem lastFor?_append_cons (same : scope.target rule = key) (before after : List Rule) :
    lastFor? scope (before ++ rule :: after) key = (lastFor? scope after key).or (some rule) := by
  rw [lastFor?, lastFor?, List.reverse_append, List.reverse_cons, List.append_assoc,
    List.find?_append]
  simp [same]

/-- A list rebinds at a key if it unbinds what is there and the last rule for the key is bound. -/
theorem rebindsAt_iff : RebindsAt scope rules key ↔
    key ∈ removedKeys scope rules ∧
      ∃ rule, lastFor? scope rules key = some rule ∧ rule.hasRawKey = true := by
  constructor
  · rintro ⟨before, rule, after, rfl, binds, same, earlier, later⟩
    obtain ⟨first, member, unbinds, here⟩ := mem_removedKeys_iff.mp earlier
    refine ⟨mem_removedKeys_iff.mpr ⟨first, List.mem_append_left _ member, unbinds, here⟩, ?_⟩
    rw [lastFor?_append_cons ((target_of_binds binds).trans same)]
    cases found : lastFor? scope after key with
    | none => exact ⟨rule, rfl, binds⟩
    | some last =>
      obtain ⟨member, here⟩ := mem_of_lastFor? found
      exact ⟨last, rfl, binds_of_not_mem later member here⟩
  · rintro ⟨removed, rule, last, binds⟩
    obtain ⟨-, after, before, split, none⟩ := List.find?_eq_some_iff_append.mp last
    have rules_eq : rules = before.reverse ++ rule :: after.reverse := by
      rw [← List.reverse_reverse rules, split]
      simp
    have same : (scope.assign rule).key = key :=
      (target_of_binds binds).symm.trans (mem_of_lastFor? last).2
    have none : ∀ other ∈ after.reverse, scope.target other ≠ key := fun other member => by
      simpa using none other (List.mem_reverse.mp member)
    refine ⟨before.reverse, rule, after.reverse, rules_eq, binds, same, ?_, fun again => ?_⟩
    · obtain ⟨first, member, unbinds, here⟩ := mem_removedKeys_iff.mp removed
      refine mem_removedKeys_iff.mpr ⟨first, ?_, unbinds, here⟩
      rw [rules_eq, List.mem_append, List.mem_cons] at member
      rcases member with earlier | rfl | later
      · exact earlier
      · rw [binds] at unbinds
        cases unbinds
      · exact absurd here (none first later)
    · obtain ⟨other, member, -, here⟩ := mem_removedKeys_iff.mp again
      exact none other member here

/-- Where the list does not unbind, the last rule for the key is the last one bound under it. -/
theorem lastBound?_eq_lastFor? (kept : key ∉ removedKeys scope rules) :
    lastBound? scope rules key = lastFor? scope rules key := by
  rw [lastBound?, lastFor?, ← List.head?_filter, ← List.head?_filter]
  congr 1
  refine List.filter_congr fun rule member => ?_
  cases kind : rule.hasRawKey with
  | true => rw [target_of_binds kind, Bool.true_and]
  | false =>
    have other : scope.target rule ≠ key := fun same => by
      rw [binds_of_not_mem kept (List.mem_reverse.mp member) same] at kind
      cases kind
    rw [beq_eq_false_iff_ne.mpr other, Bool.false_and]

/-- At once and rule by rule, the same lies under a key at which the list does not rebind. -/
theorem get?_written_eq (store : MemoryStore) (agree : ¬ RebindsAt scope rules key) :
    (written scope store rules).rules.get? key = (inTurn scope store rules).rules.get? key := by
  rw [get?_written, get?_inTurn]
  by_cases removed : key ∈ removedKeys scope rules
  · obtain ⟨rule, last⟩ := exists_lastFor? removed
    rw [if_pos removed, last]
    exact (if_neg fun binds => agree (rebindsAt_iff.mpr ⟨removed, rule, last, binds⟩)).symm
  · rw [if_neg removed, lastBound?_eq_lastFor? removed]
    cases last : lastFor? scope rules key with
    | none => rfl
    | some rule =>
      obtain ⟨member, same⟩ := mem_of_lastFor? last
      exact (if_pos (binds_of_not_mem removed member same)).symm

/-- Where the list rebinds, nothing is left at once and the last bound rule is rule by rule. -/
theorem get?_written_of_rebinds (store : MemoryStore) (rebinds : RebindsAt scope rules key) :
    (written scope store rules).rules.get? key = none ∧
      ∃ rule ∈ rules, rule.hasRawKey = true ∧ (inTurn scope store rules).rules.get? key =
        some { scope.assign rule with id := some key } := by
  obtain ⟨removed, rule, last, binds⟩ := rebindsAt_iff.mp rebinds
  refine ⟨by rw [get?_written, if_pos removed], rule, (mem_of_lastFor? last).1, binds, ?_⟩
  rw [get?_inTurn, last]
  exact if_pos binds

theorem written_eq_inTurn_iff (store : MemoryStore) :
    written scope store rules = inTurn scope store rules ↔ ∀ key, ¬ RebindsAt scope rules key := by
  constructor
  · intro same key rebinds
    obtain ⟨nothing, rule, -, -, left⟩ := get?_written_of_rebinds store rebinds
    rw [same, left] at nothing
    cases nothing
  · intro agree
    exact MemoryStore.ext_get? fun key => get?_written_eq store (agree key)

end Lists

end Binding

/-! ### The calls of a service -/

namespace Service

open Binding

/-- A way of saving lists of rules in a service. -/
abbrev Saves : Type :=
  Service MemoryStore → List Rule → Service MemoryStore × Except MappingError Summary

/-- Saves a list of rules in a scope. -/
def saving (scope : Scope) : Saves := fun service rules =>
  match saveIn scope service.store rules with
  | .ok saved => (service.wrote saved.store saved.signals, .ok saved.summary)
  | .error error => (service, .error error)

/-- The service once each rule of a list was saved by a call of its own. -/
def eachInTurn (save : Saves) (service : Service MemoryStore) (rules : List Rule) :
    Service MemoryStore :=
  rules.foldl (fun service rule => (save service [rule]).1) service

section Calls

variable {scope : Scope} {service : Service MemoryStore} {rules : List Rule}

theorem registry_saving (service : Service MemoryStore) (rules : List Rule) :
    (saving scope service rules).1.registry = service.registry := by
  unfold saving
  split
  · rfl
  · rfl

/-- A list whose bound rules are valid is saved. -/
theorem saving_of_valid
    (valid : ∀ rule ∈ rules, rule.hasRawKey = true → (scope.assign rule).validate = .ok ()) :
    (∃ summary, (saving scope service rules).2 = .ok summary) ∧
      (saving scope service rules).1.store = written scope service.store rules := by
  obtain ⟨saved, is, after, -⟩ := saveIn_of_valid service.store valid
  unfold saving
  rw [is]
  exact ⟨⟨saved.summary, rfl⟩, after⟩

/-- A rule that is saved by itself is valid if it is bound. -/
theorem valid_of_saving {rule : Rule}
    (accepted : ∃ summary, (saving scope service [rule]).2 = .ok summary)
    (binds : rule.hasRawKey = true) : (scope.assign rule).validate = .ok () := by
  cases invalid : (scope.assign rule).validate with
  | ok => rfl
  | error fault =>
    obtain ⟨error, stops⟩ : ∃ error, saveIn scope service.store [rule] = .error error :=
      saveIn_of_invalid service.store List.mem_cons_self binds invalid
    obtain ⟨summary, is⟩ := accepted
    unfold saving at is
    rw [stops] at is
    cases is

/-- Rule by rule, the calls leave what saving the rules by themselves comes to. -/
theorem store_eachInTurn
    (valid : ∀ rule ∈ rules, rule.hasRawKey = true → (scope.assign rule).validate = .ok ()) :
    (eachInTurn (saving scope) service rules).store = inTurn scope service.store rules := by
  induction rules generalizing service with
  | nil => rfl
  | cons rule rest ih =>
    have alone : (saving scope service [rule]).1.store = written scope service.store [rule] :=
      (saving_of_valid fun other member =>
        valid other (List.mem_singleton.mp member ▸ List.mem_cons_self)).2
    rw [eachInTurn, List.foldl_cons, ← eachInTurn, inTurn, List.foldl_cons, ← inTurn, ← alone]
    exact ih fun other member => valid other (List.mem_cons_of_mem rule member)

/-- Calls that save in a scope as long as the registry is the same do so one after the other. -/
theorem eachInTurn_eq {save : Saves}
    (saves : ∀ other : Service MemoryStore, other.registry = service.registry →
      ∀ rules, save other rules = saving scope other rules) (rules : List Rule) :
    eachInTurn save service rules = eachInTurn (saving scope) service rules ∧
      (eachInTurn save service rules).registry = service.registry := by
  induction rules generalizing service with
  | nil => exact ⟨rfl, rfl⟩
  | cons rule rest ih =>
    have same : (saving scope service [rule]).1.registry = service.registry :=
      registry_saving service [rule]
    obtain ⟨rest_eq, registry⟩ := @ih (saving scope service [rule]).1
      fun other is => saves other (is.trans same)
    show eachInTurn save (save service [rule]).1 rest = _ ∧
      (eachInTurn save (save service [rule]).1 rest).registry = _
    rw [saves service rfl [rule]]
    exact ⟨rest_eq, registry.trans same⟩

/-- How saving a list of rules at once compares with a call for each of them, in a scope or for a
device or product that is not known and gives no scope. The call for a list that is not empty
succeeds; an empty list is refused where there is no scope. -/
structure ComparesInTurn (scope : Option Scope) (save : Saves) (service : Service MemoryStore)
    (rules : List Rule) : Prop where
  accepted : rules ≠ [] → ∃ summary, (save service rules).2 = .ok summary
  each_accepted : ∀ before rule after, rules = before ++ rule :: after →
    ∃ summary, (save (eachInTurn save service before) [rule]).2 = .ok summary
  same_iff : (save service rules).1.store = (eachInTurn save service rules).store ↔
    ∀ known ∈ scope, ∀ key, ¬ RebindsAt known rules key
  agrees : ∀ known ∈ scope, ∀ key, ¬ RebindsAt known rules key →
    (save service rules).1.store.rules.get? key =
      (eachInTurn save service rules).store.rules.get? key
  rebound : ∀ known ∈ scope, ∀ key, RebindsAt known rules key →
    (save service rules).1.store.rules.get? key = none ∧
      ∃ rule ∈ rules, rule.hasRawKey = true ∧
        (eachInTurn save service rules).store.rules.get? key =
          some { known.assign rule with id := some key }

/-- Calls that save in a scope compare in turn as the lists of rules do. -/
theorem comparesInTurn_of_saves {save : Saves}
    (saves : ∀ other : Service MemoryStore, other.registry = service.registry →
      ∀ rules, save other rules = saving scope other rules)
    (acceptable : ∀ rule ∈ rules, ∃ summary, (save service [rule]).2 = .ok summary) :
    ComparesInTurn (some scope) save service rules := by
  have valid : ∀ rule ∈ rules, rule.hasRawKey = true →
      (scope.assign rule).validate = .ok () := fun rule member => by
    have accepted := acceptable rule member
    rw [saves service rfl] at accepted
    exact valid_of_saving accepted
  have atOnce : (save service rules).1.store = written scope service.store rules := by
    rw [saves service rfl]
    exact (saving_of_valid valid).2
  have ruleByRule : (eachInTurn save service rules).store = inTurn scope service.store rules := by
    rw [(eachInTurn_eq saves rules).1]
    exact store_eachInTurn valid
  constructor
  · intro _
    rw [saves service rfl]
    exact (saving_of_valid valid).1
  · rintro before rule after rfl
    rw [saves _ (eachInTurn_eq saves before).2]
    refine (saving_of_valid fun other member => ?_).1
    rw [List.mem_singleton.mp member]
    exact valid rule (List.mem_append_right _ List.mem_cons_self)
  · rw [atOnce, ruleByRule, written_eq_inTurn_iff]
    simp
  · rintro known ⟨⟩ key agree
    rw [atOnce, ruleByRule]
    exact get?_written_eq service.store agree
  · rintro known ⟨⟩ key rebinds
    rw [atOnce, ruleByRule]
    exact get?_written_of_rebinds service.store rebinds

/-- Where nothing is known to save for, only the empty list is acceptable, and nothing is done. -/
theorem comparesInTurn_of_unknown {save : Saves}
    (refuses : ∀ rules, (save service rules).1 = service ∧
      ∃ error, (save service rules).2 = .error error)
    (acceptable : ∀ rule ∈ rules, ∃ summary, (save service [rule]).2 = .ok summary) :
    ComparesInTurn none save service rules := by
  have none : rules = [] := List.eq_nil_iff_forall_not_mem.mpr fun rule member => by
    obtain ⟨summary, accepted⟩ := acceptable rule member
    obtain ⟨-, error, refused⟩ := refuses [rule]
    rw [refused] at accepted
    cases accepted
  subst none
  refine ⟨absurd rfl, by simp, ?_, nofun, nofun⟩
  rw [(refuses []).1]
  exact iff_of_true rfl nofun

end Calls

/-- **A list of rules that are acceptable each on their own is saved as one call each would save
them, but for rules bound after their element is unbound.** The call for the list, if it is not
empty, and the calls for its rules succeed. They leave the same rules under every key at which the
list does not bind a rule after it unbinds what is there; where it does, and does not unbind it
again, the list leaves nothing and the calls leave the last rule bound. So both leave the same store
exactly if the list rebinds at no key. -/
theorem batch_in_order_iff (service : Service MemoryStore) (rules : List Rule) :
    (∀ deviceId,
      (∀ rule ∈ rules, ∃ summary, (service.saveDevice deviceId [rule]).2 = .ok summary) →
        ComparesInTurn
          ((service.registry.findDevice deviceId).map fun device =>
            .device device.productId deviceId)
          (fun service => service.saveDevice deviceId) service rules) ∧
    (∀ productId,
      (∀ rule ∈ rules, ∃ summary, (service.saveProduct productId [rule]).2 = .ok summary) →
        ComparesInTurn ((service.registry.findProduct productId).map fun _ => .product productId)
          (fun service => service.saveProduct productId) service rules) := by
  refine ⟨fun deviceId acceptable => ?_, fun productId acceptable => ?_⟩
  · cases found : service.registry.findDevice deviceId with
    | none =>
      refine comparesInTurn_of_unknown (fun rules => ?_) acceptable
      simp only [saveDevice, Binding.saveDevice, found]
      exact ⟨trivial, _, rfl⟩
    | some device =>
      refine comparesInTurn_of_saves (fun other same rules => ?_) acceptable
      simp only [saveDevice, Binding.saveDevice, same, found, saving]
      cases saveIn (Scope.device device.productId deviceId) other.store rules with
      | ok saved => rfl
      | error error => rfl
  · cases found : service.registry.findProduct productId with
    | none =>
      refine comparesInTurn_of_unknown (fun rules => ?_) acceptable
      simp only [saveProduct, Binding.saveProduct, found]
      exact ⟨trivial, _, rfl⟩
    | some product =>
      refine comparesInTurn_of_saves (fun other same rules => ?_) acceptable
      simp only [saveProduct, Binding.saveProduct, same, found, saving]
      cases saveIn (Scope.product productId) other.store rules with
      | ok saved => rfl
      | error error => rfl

/-- The rule that unbinds an element. -/
def unbinding (metadataId : String) : Rule :=
  { Rule.forProduct "" metadataId "" with rawKey := none }

/-- A list for a lamp binds one element and unbinds it again, so at once and rule by rule nothing is
left of it; another element is bound again after it is unbound, which counts only rule by rule. -/
theorem batch_in_order_iff_mixed :
    let service := Service.new (.ofLists [] [.ofId "lamp" "lamps"])
      (MemoryStore.empty.insert (.forDevice "lamps" "lamp" "mode" "m")) .usual true
    let rules : List Rule := [.forProduct "" "power" "first", .forProduct "" "mode" "again",
      unbinding "mode", unbinding "power", .forProduct "other" "power" "last"]
    let atOnce := (service.saveDevice "lamp" rules).1.store
    let ruleByRule :=
      (eachInTurn (fun service => service.saveDevice "lamp") service rules).store
    (∀ rule ∈ rules, ∃ summary, (service.saveDevice "lamp" [rule]).2 = .ok summary) ∧
      atOnce.rules.get? "lamp:property:mode" = ruleByRule.rules.get? "lamp:property:mode" ∧
      atOnce.rules.get? "lamp:property:power" = none ∧
      (∃ rule ∈ rules, rule.hasRawKey = true ∧ ruleByRule.rules.get? "lamp:property:power" =
        some { (Scope.device "lamps" "lamp").assign rule with
          id := some "lamp:property:power" }) ∧
      atOnce ≠ ruleByRule := by
  intro service rules atOnce ruleByRule
  have acceptable : ∀ rule ∈ rules, ∃ summary,
      (service.saveDevice "lamp" [rule]).2 = .ok summary := by
    simp only [rules, List.forall_mem_cons, List.not_mem_nil, false_implies, implies_true, and_true]
    exact ⟨⟨_, rfl⟩, ⟨_, rfl⟩, ⟨_, rfl⟩, ⟨_, rfl⟩, ⟨_, rfl⟩⟩
  have compares := (batch_in_order_iff service rules).1 "lamp" acceptable
  have agree : ¬ RebindsAt (.device "lamps" "lamp") rules "lamp:property:mode" := fun rebinds => by
    obtain ⟨-, rule, ⟨⟩, binds⟩ := rebindsAt_iff.mp rebinds
    cases binds
  have rebinds : RebindsAt (.device "lamps" "lamp") rules "lamp:property:power" :=
    rebindsAt_iff.mpr ⟨by decide, _, rfl, rfl⟩
  obtain ⟨nothing, left⟩ := compares.rebound _ rfl _ rebinds
  refine ⟨acceptable, compares.agrees _ rfl _ agree, nothing, left, fun same => ?_⟩
  exact compares.same_iff.mp same _ rfl _ rebinds

/-- The rule of a lamp is unbound and bound anew in one list: saved at once the list leaves no rule,
saved rule by rule the new one. -/
theorem batch_loses_rebound_rule :
    let service := Service.new (.ofLists [] [.ofId "lamp" "lamps"])
      (MemoryStore.empty.insert (.forDevice "lamps" "lamp" "power" "old")) .usual false
    let rules : List Rule := [unbinding "power", .forProduct "" "power" "switch"]
    (∀ rule ∈ rules, ∃ summary, (service.saveDevice "lamp" [rule]).2 = .ok summary) ∧
      (service.saveDevice "lamp" rules).1.store.rules.values = [] ∧
      (eachInTurn (fun service => service.saveDevice "lamp") service rules).store.rules.values =
        [(Rule.forDevice "lamps" "lamp" "power" "switch").keyed] := by
  refine ⟨?_, rfl, rfl⟩
  simp only [List.forall_mem_cons, List.not_mem_nil, false_implies, implies_true, and_true]
  exact ⟨⟨_, rfl⟩, ⟨_, rfl⟩⟩

end Service

end DeviceMapping
