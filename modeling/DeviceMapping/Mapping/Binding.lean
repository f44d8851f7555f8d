/-
**Binding and unbinding.**

A list of rules is saved for one device or one product. Rules with a raw key are bound: they take on
the scope and must be valid, all of them before anything is written. Rules without one are unbound:
the rule of their element is removed from the scope, after the others are saved.
-/

import DeviceMapping.Mapping.Error
import DeviceMapping.Store.Registry

namespace DeviceMapping.Binding

/-- The scope that rules are bound in. -/
inductive Scope where
  | product (productId : String)
  | device (productId deviceId : String)

namespace Scope

/-- A rule moved into the scope. -/
def assign (scope : Scope) (rule : Rule) : Rule :=
  match scope with
  | product productId => { rule with productId := productId, deviceId := none }
  | device productId deviceId => { rule with productId := productId, deviceId := some deviceId }

/-- The scope's part of a key. -/
def id : Scope → String
  | product productId => productId
  | device _ deviceId => deviceId

/-- The key at which the element of a rule is unbound. -/
def unbindKey (scope : Scope) (rule : Rule) : String :=
  Rule.keyOf scope.id rule.metadataType rule.metadataId

end Scope

/-- How many rules were bound and how many removed. -/
structure Summary where
  bound : Nat
  unbound : Nat
  deriving DecidableEq

namespace Summary

def toJson (summary : Summary) : Json :=
  .record [("bound", some (.integer summary.bound)), ("unbound", some (.integer summary.unbound))]

end Summary

/-- What saving a list of rules came to: the store, the signals published, and the summary. -/
structure Saved (σ : Type) where
  store : σ
  signals : List RuleChange
  summary : Summary

/-- A rule as it is bound in a scope, if it is valid there. -/
def bindable (scope : Scope) (rule : Rule) : Except MappingError Rule :=
  let bound := (scope.assign rule).keyed
  match bound.validate with
  | .ok _ => .ok bound
  | .error fault => .error (.invalidRule fault)

variable {σ : Type} [RuleStore σ]

/-- Saves rules, if there are any. -/
def saveSome (store : σ) (rules : List Rule) : σ × Written :=
  if rules.isEmpty then (store, ⟨0, none⟩) else RuleStore.save store rules

/-- Removes the rules of keys, if there are any. -/
def deleteSome (store : σ) (keys : List String) : σ × Written :=
  if keys.isEmpty then (store, ⟨0, none⟩) else RuleStore.deleteByIds store keys

/-- Binds and unbinds rules in a scope. -/
def saveIn (scope : Scope) (store : σ) (rules : List Rule) : Except MappingError (Saved σ) := do
  let bound ← (rules.filter Rule.hasRawKey).mapM (bindable scope)
  let removed := (rules.filter fun rule => !rule.hasRawKey).map scope.unbindKey
  let saving := saveSome store bound
  let deleting := deleteSome saving.1 removed
  .ok ⟨deleting.1, saving.2.signal.toList ++ deleting.2.signal.toList,
    ⟨saving.2.count, deleting.2.count⟩⟩

/-- Binds and unbinds rules of one device. -/
def saveDevice (registry : Registry) (store : σ) (deviceId : String) (rules : List Rule) :
    Except MappingError (Saved σ) :=
  match registry.findDevice deviceId with
  | none => .error (.deviceNotFound deviceId)
  | some device => saveIn (.device device.productId deviceId) store rules

/-- Binds and unbinds rules of one product. -/
def saveProduct (registry : Registry) (store : σ) (productId : String) (rules : List Rule) :
    Except MappingError (Saved σ) :=
  match registry.findProduct productId with
  | none => .error (.productNotFound productId)
  | some _ => saveIn (.product productId) store rules

end DeviceMapping.Binding
