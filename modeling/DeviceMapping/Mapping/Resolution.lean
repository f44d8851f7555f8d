/-
**Resolution of mappings.**

The rules in scope are reduced to one per canonical element, the first of a device before the first
of the product. A resolved mapping has one detail per property of the schema, in its order: that of
the device if it has a schema of its own, else that of its product.
-/

import DeviceMapping.Mapping.Error
import DeviceMapping.Rule.Detail
import DeviceMapping.Store.Registry

namespace DeviceMapping.Resolution

/-- One more rule: it is taken if its element has none yet, or only one of the product while the
new one is of a device. -/
def addRule (chosen : Table Rule) (rule : Rule) : Table Rule :=
  match chosen.get? rule.metadataId with
  | none => chosen.insert rule.metadataId rule
  | some other =>
    if rule.isDeviceScoped && !other.isDeviceScoped then chosen.insert rule.metadataId rule
    else chosen

/-- One rule per canonical element. -/
def reduceRules (rules : List Rule) : Table Rule :=
  rules.foldl addRule .empty

/-- The transformation of a rule; one that is configured wrongly counts as none. -/
def usableTransformation (rule : Rule) : Option Transformation :=
  match rule.transformation with
  | .ok transformation => transformation
  | .error _ => none

/-- One detail per property of a schema, made from an empty one. -/
def details (schema : Schema) (chosen : Table Rule) (empty : Detail) : List Detail :=
  schema.properties.map fun property =>
    let rule := chosen.get? property.id
    (empty.withProperty property).withRule rule (rule.bind usableTransformation)

variable {σ : Type} [RuleStore σ]

/-- The rules of a store for a scope. -/
def rulesFor (store : σ) (productId : String) (deviceId : Option String) :
    Except MappingError (List Rule) :=
  (RuleStore.query store productId deviceId).mapError .ofStore

/-- The resolved mapping of a device. -/
def resolve (registry : Registry) (store : σ) (deviceId : String) :
    Except MappingError (List Detail) := do
  match registry.findDevice deviceId with
  | none => .error (.deviceNotFound deviceId)
  | some device =>
    let schema ← match device.ownSchema with
      | some schema => .ok schema
      | none => (registry.productSchema device.productId).mapError .ofStore
    let rules ← rulesFor store device.productId (some deviceId)
    .ok (details schema (reduceRules rules) (.ofDevice device.productId deviceId))

/-- The mapping of a product, as its devices without rules of their own have it. -/
def resolveProduct (registry : Registry) (store : σ) (productId : String) :
    Except MappingError (List Detail) := do
  let schema ← (registry.productSchema productId).mapError .ofStore
  let rules ← rulesFor store productId none
  .ok (details schema (reduceRules rules) (.ofProduct productId))

end DeviceMapping.Resolution
