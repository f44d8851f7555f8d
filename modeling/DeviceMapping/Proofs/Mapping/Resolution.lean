/-
**What rules of other types do to the mapping of properties.**

The mapping of a device or a product takes from the rules in scope only what the winner of each
property of the schema feeds it with. Rules are reduced by the id of their element alone, so the
winner may be a rule for an event, a function or a tag.

* `details_eq_iff`: two lists of rules give the same details if they feed each property alike.
* `feed?_filter_eq_iff`: leaving rules out changes what feeds a property only where the winner is
  left out and another rule, or none, feeds it differently.
* `only_properties_agree_iff`: when the rules for properties alone give the same mapping.
* `event_rule_maps_property`: a case where they do not.
-/

import DeviceMapping.Proofs.Mapping.Reduction
import DeviceMapping.Proofs.Results
import DeviceMapping.Store.Memory

namespace DeviceMapping

namespace MemoryStore

/-- The rules for properties alone. -/
def onlyProperties (store : MemoryStore) : MemoryStore :=
  ⟨store.rules.filter fun _ rule => rule.metadataType == .property⟩

/-- Leaving rules out of the store leaves them out of the answers. -/
theorem query_onlyProperties (store : MemoryStore) (productId : String)
    (deviceId : Option String) :
    store.onlyProperties.query productId deviceId =
      (store.query productId deviceId).filter fun rule => rule.metadataType == .property := by
  unfold query onlyProperties Table.values Table.filter
  rw [List.filter_filter, List.filter_map, List.filter_map, List.filter_filter]
  refine congrArg _ (List.filter_congr fun entry _ => ?_)
  exact Bool.and_comm _ _

end MemoryStore

namespace Resolution

/-! ### What feeds a property -/

/-- The raw key of a rule and its transformation, if it has a raw key. -/
def source? (rule : Rule) : Option (String × Option Transformation) :=
  if rule.hasRawKey then rule.rawKey.map fun key => (key, usableTransformation rule) else none

/-- What a list of rules feeds an element with: the source of the winner. -/
def feed? (rules : List Rule) (element : String) : Option (String × Option Transformation) :=
  (winner? rules element).bind source?

/-- The detail of a property that is fed by a source. -/
def fedDetail (empty : Detail) (property : Property)
    (source : Option (String × Option Transformation)) : Detail :=
  { empty.withProperty property with
    rawKey := source.map Prod.fst
    transformation := source.bind Prod.snd
    isCustom := source.isSome }

theorem fedDetail_injective (empty : Detail) (property : Property) :
    Function.Injective (fedDetail empty property) := by
  intro first second same
  unfold fedDetail at same
  injection same with _ _ _ _ _ sameKey sameTransformation _
  cases first <;> cases second <;> simp_all [Prod.ext_iff]

theorem withRule_eq_fedDetail (empty : Detail) (property : Property) (rule : Option Rule) :
    (empty.withProperty property).withRule rule (rule.bind usableTransformation) =
      fedDetail empty property (rule.bind source?) := by
  cases rule with
  | none => rfl
  | some rule =>
    unfold Detail.withRule fedDetail
    rw [Option.bind_some, Option.bind_some, source?]
    cases has : rule.hasRawKey with
    | false => simp [has]
    | true =>
      cases key : rule.rawKey with
      | none => simp [Rule.hasRawKey, key] at has
      | some key => simp [has, key]

theorem details_reduceRules (schema : Schema) (rules : List Rule) (empty : Detail) :
    details schema (reduceRules rules) empty =
      schema.properties.map fun property =>
        fedDetail empty property (feed? rules property.id) := by
  refine List.map_congr_left fun property _ => ?_
  rw [get?_reduceRules]
  exact withRule_eq_fedDetail empty property (winner? rules property.id)

/-- Two lists of rules give the same details if they feed each property of the schema alike. -/
theorem details_eq_iff (schema : Schema) (first second : List Rule) (empty : Detail) :
    details schema (reduceRules first) empty = details schema (reduceRules second) empty ↔
      ∀ property ∈ schema.properties, feed? first property.id = feed? second property.id := by
  rw [details_reduceRules, details_reduceRules, List.map_inj_left]
  exact forall₂_congr fun property _ => (fedDetail_injective empty property).eq_iff

/-- Leaving rules out changes what feeds an element only where the winner is left out. -/
theorem feed?_filter_eq_iff (keep : Rule → Bool) (rules : List Rule) (element : String) :
    feed? (rules.filter keep) element = feed? rules element ↔
      ∀ winner, winner? rules element = some winner → keep winner = false →
        feed? (rules.filter keep) element = source? winner := by
  unfold feed?
  cases wins : winner? rules element with
  | none =>
    rw [winner?_filter_of_none wins]
    exact iff_of_true rfl nofun
  | some winner =>
    rw [Option.bind_some]
    constructor
    · rintro same _ ⟨⟩ _
      exact same
    · intro leftOut
      cases kept : keep winner with
      | true => rw [winner?_filter wins kept, Option.bind_some]
      | false => exact leftOut winner rfl kept

/-! ### Resolving from the store in memory -/

/-- The schema of a device: its own or that of its product. -/
def schemaOf (registry : Registry) (device : Device) : Except MappingError Schema :=
  match device.ownSchema with
  | some schema => .ok schema
  | none => (registry.productSchema device.productId).mapError .ofStore

theorem resolve_eq (registry : Registry) (store : MemoryStore) (deviceId : String) :
    resolve registry store deviceId =
      match registry.findDevice deviceId with
      | none => .error (.deviceNotFound deviceId)
      | some device => (schemaOf registry device).map fun schema =>
          details schema (reduceRules (store.query device.productId (some deviceId)))
            (.ofDevice device.productId deviceId) := by
  unfold resolve schemaOf
  cases registry.findDevice deviceId with
  | none => rfl
  | some device =>
    dsimp only
    cases device.ownSchema with
    | some schema => rfl
    | none => cases registry.productSchema device.productId <;> rfl

theorem resolveProduct_eq (registry : Registry) (store : MemoryStore) (productId : String) :
    resolveProduct registry store productId =
      ((registry.productSchema productId).mapError .ofStore).map fun schema =>
        details schema (reduceRules (store.query productId none)) (.ofProduct productId) := by
  unfold resolveProduct
  cases registry.productSchema productId <;> rfl

/-- Wherever the winner of a property is a rule of another type, the rules for properties alone feed
the property just like it. -/
def FedAlike (schema : Schema) (rules : List Rule) : Prop :=
  ∀ property ∈ schema.properties, ∀ winner, winner? rules property.id = some winner →
    winner.metadataType ≠ .property →
      feed? (rules.filter fun rule => rule.metadataType == .property) property.id = source? winner

theorem details_onlyProperties_iff (schema : Schema) (store : MemoryStore) (productId : String)
    (deviceId : Option String) (empty : Detail) :
    details schema (reduceRules (store.onlyProperties.query productId deviceId)) empty =
        details schema (reduceRules (store.query productId deviceId)) empty ↔
      FedAlike schema (store.query productId deviceId) := by
  rw [details_eq_iff, store.query_onlyProperties]
  refine forall₂_congr fun property _ => ?_
  rw [feed?_filter_eq_iff]
  refine forall₂_congr fun winner _ => ?_
  rw [beq_eq_false_iff_ne]

theorem mem_of_winner? {rules : List Rule} {element : String} {winner : Rule}
    (wins : winner? rules element = some winner) :
    winner ∈ rules ∧ winner.metadataId = element := by
  unfold winner? at wins
  rcases Option.or_eq_some_iff.mp wins with own | ⟨-, any⟩
  · exact ⟨List.mem_of_find?_eq_some own, (isOwnFor_iff.mp (List.find?_some own)).1⟩
  · exact ⟨List.mem_of_find?_eq_some any, isFor_iff.mp (List.find?_some any)⟩

/-- Rules of other types do nothing as long as none of them has the id of a property. -/
theorem fedAlike_of_apart {schema : Schema} {rules : List Rule}
    (apart : ∀ rule ∈ rules, rule.metadataType ≠ .property →
      ∀ property ∈ schema.properties, rule.metadataId ≠ property.id) : FedAlike schema rules := by
  intro property listed winner wins other
  obtain ⟨member, named⟩ := mem_of_winner? wins
  exact absurd named (apart winner member other property listed)

/-- **When the rules for properties alone give the same mapping.** The mapping of a device, or of a
product, is the one that its rules for properties alone give exactly if they feed alike every
property of its schema that a rule of another type wins. -/
theorem only_properties_agree_iff (registry : Registry) (store : MemoryStore) :
    (∀ deviceId,
      resolve registry store.onlyProperties deviceId = resolve registry store deviceId ↔
        ∀ device schema, registry.findDevice deviceId = some device →
          schemaOf registry device = .ok schema →
            FedAlike schema (store.query device.productId (some deviceId))) ∧
    (∀ productId,
      resolveProduct registry store.onlyProperties productId =
          resolveProduct registry store productId ↔
        ∀ schema, registry.productSchema productId = .ok schema →
          FedAlike schema (store.query productId none)) := by
  refine ⟨fun deviceId => ?_, fun productId => ?_⟩
  · rw [resolve_eq, resolve_eq]
    cases registry.findDevice deviceId with
    | none => exact iff_of_true rfl nofun
    | some device =>
      dsimp only
      rw [map_eq_map_iff]
      simp only [details_onlyProperties_iff, Option.some.injEq]
      constructor
      · rintro alike other schema rfl known
        exact alike schema known
      · intro alike schema known
        exact alike device schema rfl known
  · rw [resolveProduct_eq, resolveProduct_eq, map_eq_map_iff]
    simp only [details_onlyProperties_iff, mapError_eq_ok_iff]

/-- A rule for an event that no property is named after leaves the mapping as it is. -/
theorem only_properties_agree_apart :
    let registry : Registry := .ofLists [.ofId "lamps" (.ofIds ["power"])] [.ofId "lamp" "lamps"]
    let alarm : Rule := { Rule.forProduct "lamps" "alarm" "a" with metadataType := .event }
    let store : MemoryStore :=
      (MemoryStore.empty.save [.forProduct "lamps" "power" "switch", alarm]).1
    store.onlyProperties.rules.size = 1 ∧
      resolve registry store.onlyProperties "lamp" = resolve registry store "lamp" :=
  have agree := (only_properties_agree_iff
    (.ofLists [.ofId "lamps" (.ofIds ["power"])] [.ofId "lamp" "lamps"])
    (MemoryStore.empty.save [.forProduct "lamps" "power" "switch",
      { Rule.forProduct "lamps" "alarm" "a" with metadataType := .event }]).1).1 "lamp"
  ⟨rfl, agree.mpr fun device schema registered known => by
    have isLamp : Device.ofId "lamp" "lamps" = device := Option.some.inj registered
    subst isLamp
    have isSchema : Schema.ofIds ["power"] = schema := Except.ok.inj known
    subst isSchema
    exact fedAlike_of_apart (by decide)⟩

/-- A rule for an event gives the property of the same id a raw key. -/
theorem event_rule_maps_property :
    let registry : Registry := .ofLists [.ofId "lamps" (.ofIds ["power"])] [.ofId "lamp" "lamps"]
    let store : MemoryStore := (MemoryStore.empty.save
      [{ Rule.forProduct "lamps" "power" "pressed" with metadataType := .event }]).1
    let plain : Detail := ⟨"lamps", some "lamp", .property, "power", none, none, none, false⟩
    resolve registry store.onlyProperties "lamp" = .ok [plain] ∧
      resolve registry store "lamp" =
        .ok [{ plain with rawKey := some "pressed", isCustom := true }] ∧
        resolveProduct registry store.onlyProperties "lamps" =
          .ok [{ plain with deviceId := none }] ∧
          resolveProduct registry store "lamps" = .ok
            [{ plain with deviceId := none, rawKey := some "pressed", isCustom := true }] :=
  ⟨rfl, rfl, rfl, rfl⟩

end Resolution

end DeviceMapping
