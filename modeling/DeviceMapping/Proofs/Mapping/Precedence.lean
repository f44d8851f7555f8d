/-
**What the resolved mapping of a device says.**

* `Prevails`: of the stored rules for an element the one of the device with the least id, or else
  the one of the product with the least id. A query lists rules by id, so this is the one that wins
  the reduction (`prevails_iff`).
* `Describes`: what the detail of a property says, given the rule that prevails for it
  (`describes_iff`).
* `resolve_exact`: when a device has a mapping, and that the mapping is then the one list of details
  that describe the properties of its schema in order.
-/

import DeviceMapping.Proofs.Mapping.Resolution
import DeviceMapping.Proofs.Store.Keyed
import DeviceMapping.Proofs.Store.ScopeDeletion
import Mathlib.Data.List.Forall2

namespace DeviceMapping

/-! ### The first value of a table -/

namespace Table

variable {α : Type}

theorem find?_map_snd_iff {test : α → Bool} {value : α} {entries : List (String × α)}
    (sorted : Sorted entries) :
    (entries.map (·.2)).find? test = some value ↔
      ∃ key, (key, value) ∈ entries ∧ test value = true ∧
        ∀ other kept, (other, kept) ∈ entries → test kept = true → key ≤ other := by
  induction entries with
  | nil => simp
  | cons head rest ih =>
    obtain ⟨first, later⟩ := List.pairwise_cons.mp sorted
    rw [List.map_cons, List.find?_cons]
    cases passes : test head.2 with
    | true =>
      constructor
      · rintro ⟨⟩
        refine ⟨head.1, List.mem_cons_self, passes, fun other kept member _ => ?_⟩
        rcases List.mem_cons.mp member with same | inRest
        · cases same
          exact String.le_refl _
        · exact String.not_lt.mp (String.lt_asymm (first _ inRest))
      · rintro ⟨key, member, -, least⟩
        rcases List.mem_cons.mp member with same | inRest
        · rw [← same]
        · exact absurd (first _ inRest) (String.not_lt.mpr (least _ _ List.mem_cons_self passes))
    | false =>
      dsimp only
      rw [ih later]
      constructor
      · rintro ⟨key, member, isValue, least⟩
        refine ⟨key, List.mem_cons_of_mem _ member, isValue, fun other kept listed isKept => ?_⟩
        rcases List.mem_cons.mp listed with same | inRest
        · rw [← same] at passes
          exact absurd isKept (by simp [passes])
        · exact least other kept inRest isKept
      · rintro ⟨key, member, isValue, least⟩
        rcases List.mem_cons.mp member with same | inRest
        · rw [← same] at passes
          exact absurd isValue (by simp [passes])
        · exact ⟨key, inRest, isValue, fun other kept listed =>
            least other kept (List.mem_cons_of_mem _ listed)⟩

/-- The first value that passes a test is the one that has the least key of all that pass it. -/
theorem find?_values_iff {table : Table α} {test : α → Bool} {value : α} :
    table.values.find? test = some value ↔
      ∃ key, table.get? key = some value ∧ test value = true ∧
        ∀ other kept, table.get? other = some kept → test kept = true → key ≤ other := by
  simp only [get?_eq_some_iff]
  exact find?_map_snd_iff table.sorted

end Table

/-! ### The rule that prevails -/

namespace Resolution

section Prevailing

variable (store : MemoryStore) (productId : String) (deviceId : Option String) (element : String)

/-- A stored rule of a scope for an element, under its id. -/
structure Stored (id : String) (rule : Rule) : Prop where
  found : store.rules.get? id = some rule
  isOf : rule.isOf productId deviceId = true
  isFor : rule.metadataId = element

/-- The stored rule of a scope for an element that has the least id. -/
structure Least (id : String) (rule : Rule) : Prop extends
    Stored store productId deviceId element id rule where
  le : ∀ other kept, Stored store productId deviceId element other kept → id ≤ other

end Prevailing

/-- The rule that prevails for an element of a device: the device's own one with the least id, or
else the one of the product with the least id, or else none. -/
inductive Prevails (store : MemoryStore) (productId device element : String) : Option Rule → Prop
  | own {id : String} {rule : Rule} (least : Least store productId (some device) element id rule) :
      Prevails store productId device element (some rule)
  | shared {id : String} {rule : Rule}
      (noOwn : ∀ id rule, ¬ Stored store productId (some device) element id rule)
      (least : Least store productId none element id rule) :
      Prevails store productId device element (some rule)
  | unmapped (noOwn : ∀ id rule, ¬ Stored store productId (some device) element id rule)
      (noShared : ∀ id rule, ¬ Stored store productId none element id rule) :
      Prevails store productId device element none

section Winner

variable {store : MemoryStore} {productId device element : String}

/-- The first rule of a scope that a query lists for an element is the one with the least id. -/
theorem find?_values_isOf_iff {deviceId : Option String} {rule : Rule} :
    store.rules.values.find? (fun rule => rule.isOf productId deviceId && isFor element rule) =
        some rule ↔ ∃ id, Least store productId deviceId element id rule := by
  rw [Table.find?_values_iff]
  simp only [isFor, Bool.and_eq_true, beq_iff_eq]
  constructor
  · rintro ⟨id, found, ⟨belongs, named⟩, least⟩
    exact ⟨id, ⟨found, belongs, named⟩, fun other kept stored =>
      least other kept stored.found ⟨stored.isOf, stored.isFor⟩⟩
  · rintro ⟨id, least⟩
    exact ⟨id, least.found, ⟨least.isOf, least.isFor⟩, fun other kept found tests =>
      least.le other kept ⟨found, tests.1, tests.2⟩⟩

theorem find?_values_isOf_eq_none_iff {deviceId : Option String} :
    store.rules.values.find? (fun rule => rule.isOf productId deviceId && isFor element rule) =
        none ↔ ∀ id rule, ¬ Stored store productId deviceId element id rule := by
  rw [List.find?_eq_none]
  constructor
  · intro none id rule stored
    have listed : rule ∈ store.rules.values :=
      List.mem_map.mpr ⟨(id, rule), Table.get?_eq_some_iff.mp stored.found, rfl⟩
    exact none rule listed (by simp [isFor, stored.isOf, stored.isFor])
  · intro none rule listed tests
    obtain ⟨⟨id, _⟩, entry, rfl⟩ := List.mem_map.mp listed
    simp only [isFor, Bool.and_eq_true, beq_iff_eq] at tests
    exact none id _ ⟨Table.get?_eq_some_iff.mpr entry, tests.1, tests.2⟩

/-- In a query for a device the device's own rules are those of its scope. -/
theorem find?_query_isOwnFor (store : MemoryStore) (productId device element : String) :
    (store.query productId (some device)).find? (isOwnFor element) =
      store.rules.values.find? fun rule =>
        rule.isOf productId (some device) && isFor element rule := by
  rw [MemoryStore.query, List.find?_filter]
  congr 1
  funext rule
  rw [Bool.eq_iff_iff]
  simp only [isOwnFor, Bool.and_eq_true, decide_eq_true_eq, MemoryStore.inScope_iff,
    Rule.isOf_none_iff, Rule.isOf_some_iff]
  constructor
  · rintro ⟨⟨-, shared⟩ | own, isFor, ofDevice⟩
    · rw [shared] at ofDevice
      cases ofDevice
    · exact ⟨own, isFor⟩
  · rintro ⟨own, isFor⟩
    exact ⟨.inr own, isFor, own.2.1⟩

/-- Where a device has no rule of its own for an element, a query lists those of the product. -/
theorem find?_query_isFor (noOwn : ∀ id rule, ¬ Stored store productId (some device) element id rule) :
    (store.query productId (some device)).find? (isFor element) =
      store.rules.values.find? fun rule => rule.isOf productId none && isFor element rule := by
  rw [MemoryStore.query, ← List.head?_filter, ← List.head?_filter, List.filter_filter]
  refine congrArg List.head? (List.filter_congr fun rule listed => ?_)
  obtain ⟨⟨id, _⟩, entry, rfl⟩ := List.mem_map.mp listed
  rw [Bool.eq_iff_iff]
  simp only [isFor, Bool.and_eq_true, beq_iff_eq, MemoryStore.inScope_iff]
  constructor
  · rintro ⟨isFor, shared | own⟩
    · exact ⟨shared, isFor⟩
    · exact absurd ⟨Table.get?_eq_some_iff.mpr entry, own, isFor⟩ (noOwn id _)
  · rintro ⟨shared, isFor⟩
    exact ⟨isFor, .inl shared⟩

/-- The rule that prevails is the one that wins among the rules in scope. -/
theorem prevails_iff {rule : Option Rule} :
    Prevails store productId device element rule ↔
      winner? (store.query productId (some device)) element = rule := by
  rw [winner?, find?_query_isOwnFor]
  cases own : store.rules.values.find? fun rule =>
      rule.isOf productId (some device) && isFor element rule with
  | some first =>
    obtain ⟨id, least⟩ := find?_values_isOf_iff.mp own
    rw [Option.some_or]
    constructor
    · intro prevails
      cases prevails with
      | own other => rw [← own, find?_values_isOf_iff.mpr ⟨_, other⟩]
      | shared noOwn | unmapped noOwn => exact absurd least.toStored (noOwn id first)
    · rintro rfl
      exact .own least
  | none =>
    have noOwn := find?_values_isOf_eq_none_iff.mp own
    rw [Option.none_or, find?_query_isFor noOwn]
    constructor
    · intro prevails
      cases prevails with
      | own least => exact absurd least.toStored (noOwn _ _)
      | shared _ least => exact find?_values_isOf_iff.mpr ⟨_, least⟩
      | unmapped _ noShared => exact find?_values_isOf_eq_none_iff.mpr noShared
    · rintro rfl
      cases shared : store.rules.values.find? fun rule =>
          rule.isOf productId none && isFor element rule with
      | some first =>
        obtain ⟨id, least⟩ := find?_values_isOf_iff.mp shared
        exact .shared noOwn least
      | none => exact .unmapped noOwn (find?_values_isOf_eq_none_iff.mp shared)

end Winner

/-! ### What a detail says -/

/-- The configuration of a rule's transformation, if it has one. -/
def configured? (rule : Rule) : Option Json :=
  rule.others.bind fun others => others.get? Transformation.configKey

/-- What the detail of a property of a device says, given the rule that prevails for it. -/
structure Describes (productId device : String) (property : Property) (rule : Option Rule)
    (detail : Detail) : Prop where
  productId_eq : detail.productId = productId
  deviceId_eq : detail.deviceId = some device
  metadataType_eq : detail.metadataType = .property
  metadataId_eq : detail.metadataId = property.id
  metadataName_eq : detail.metadataName = property.name
  rawKey_iff : ∀ key, detail.rawKey = some key ↔
    ∃ winner, rule = some winner ∧ winner.rawKey = some key ∧ Text.isBlankText key = false
  isCustom_iff : detail.isCustom = true ↔ ∃ key, detail.rawKey = some key
  transformation_iff : ∀ transformation, detail.transformation = some transformation ↔
    detail.isCustom = true ∧ ∃ winner config, rule = some winner ∧
      configured? winner = some config ∧ Transformation.ofConfig config = .ok (some transformation)

/-- A configuration that is absent, of unknown type or malformed makes no transformation. -/
theorem usableTransformation_eq_some_iff {rule : Rule} {transformation : Transformation} :
    usableTransformation rule = some transformation ↔
      ∃ config, configured? rule = some config ∧
        Transformation.ofConfig config = .ok (some transformation) := by
  unfold usableTransformation Rule.transformation configured? Transformation.ofOthers
  cases rule.others with
  | none => simp
  | some others =>
    cases found : others.get? Transformation.configKey with
    | none => simp [found]
    | some config =>
      have null : Transformation.ofConfig .null = .error .notAnObject := rfl
      cases config with
      | null => simp [found, null]
      | bool | integer | double | string | array | object =>
        simp only [found, Option.bind_some, Option.some.injEq, exists_eq_left']
        split
        · rename_i same
          rw [same, Except.ok.injEq]
        · rename_i same
          simp [same]

theorem source?_eq_some_iff {rule : Rule} {source : String × Option Transformation} :
    source? rule = some source ↔ rule.rawKey = some source.1 ∧ Text.isBlankText source.1 = false ∧
      usableTransformation rule = source.2 := by
  unfold source? Rule.hasRawKey
  cases rule.rawKey with
  | none => simp
  | some key =>
    by_cases blank : Text.isBlankText key = true
    · simp only [Option.any_some, blank]
      refine iff_of_false nofun fun ⟨same, filled, _⟩ => ?_
      rw [← Option.some.inj same, blank] at filled
      cases filled
    · have filled := Bool.eq_false_iff.mpr blank
      simp only [Option.any_some, filled, Prod.ext_iff, Option.map_some, Bool.not_false, if_true,
        Option.some.injEq]
      constructor
      · rintro ⟨rfl, usable⟩
        exact ⟨rfl, filled, usable⟩
      · rintro ⟨same, -, usable⟩
        exact ⟨same, usable⟩

section Details

variable {productId device : String} {property : Property} {rule : Option Rule} {detail : Detail}

theorem rawKey_fedDetail_iff (empty : Detail) {key : String} :
    (fedDetail empty property (rule.bind source?)).rawKey = some key ↔
      ∃ winner, rule = some winner ∧ winner.rawKey = some key ∧ Text.isBlankText key = false := by
  show (rule.bind source?).map Prod.fst = some key ↔ _
  simp only [Option.map_eq_some_iff, Option.bind_eq_some_iff, source?_eq_some_iff]
  constructor
  · rintro ⟨source, ⟨winner, is, raw, filled, -⟩, rfl⟩
    exact ⟨winner, is, raw, filled⟩
  · rintro ⟨winner, is, raw, filled⟩
    exact ⟨(key, usableTransformation winner), ⟨winner, is, raw, filled, rfl⟩, rfl⟩

/-- A property is fed by a source with a transformation exactly if the rule has a raw key and a
usable configuration. -/
theorem transformation_fedDetail_iff (empty : Detail) {transformation : Transformation} :
    (fedDetail empty property (rule.bind source?)).transformation = some transformation ↔
      (rule.bind source?).isSome = true ∧ ∃ winner config, rule = some winner ∧
        configured? winner = some config ∧
          Transformation.ofConfig config = .ok (some transformation) := by
  show (rule.bind source?).bind Prod.snd = some transformation ↔ _
  rw [Option.bind_eq_some_iff, Option.isSome_iff_exists]
  constructor
  · rintro ⟨source, fed, is⟩
    obtain ⟨winner, wins, from'⟩ := Option.bind_eq_some_iff.mp fed
    have usable := (source?_eq_some_iff.mp from').2.2.trans is
    obtain ⟨config, configured, read⟩ := usableTransformation_eq_some_iff.mp usable
    exact ⟨⟨source, fed⟩, winner, config, wins, configured, read⟩
  · rintro ⟨⟨source, fed⟩, winner, config, rfl, configured, read⟩
    have usable := usableTransformation_eq_some_iff.mpr ⟨config, configured, read⟩
    exact ⟨source, fed, (source?_eq_some_iff.mp fed).2.2.symm.trans usable⟩

/-- The detail of a property is determined by the rule that prevails for it. -/
theorem describes_iff : Describes productId device property rule detail ↔
    fedDetail (.ofDevice productId device) property (rule.bind source?) = detail := by
  have custom : (rule.bind source?).isSome = true ↔ ∃ key,
      (fedDetail (.ofDevice productId device) property (rule.bind source?)).rawKey = some key := by
    show _ ↔ ∃ key, (rule.bind source?).map Prod.fst = some key
    rw [← Option.isSome_iff_exists, Option.isSome_map]
  constructor
  · intro describes
    have rawKey : detail.rawKey =
        (fedDetail (.ofDevice productId device) property (rule.bind source?)).rawKey := by
      ext key
      rw [describes.rawKey_iff, rawKey_fedDetail_iff]
    have isCustom : detail.isCustom = (rule.bind source?).isSome := by
      rw [Bool.eq_iff_iff, describes.isCustom_iff, custom, rawKey]
    have transformation : detail.transformation =
        (fedDetail (.ofDevice productId device) property (rule.bind source?)).transformation := by
      ext transformation
      rw [describes.transformation_iff, transformation_fedDetail_iff, isCustom]
    obtain ⟨sameProduct, sameDevice, type, id, name, -, -, -⟩ := describes
    cases detail
    dsimp only at *
    subst sameProduct sameDevice type id name rawKey isCustom transformation
    rfl
  · rintro rfl
    exact ⟨rfl, rfl, rfl, rfl, rfl, fun key => rawKey_fedDetail_iff _, custom,
      fun transformation => transformation_fedDetail_iff _⟩

end Details

/-! ### The mapping of a device -/

/-- The schema of a device is its own one or else that of its product. -/
def HasSchema (registry : Registry) (device : Device) (schema : Schema) : Prop :=
  device.ownSchema = some schema ∨ device.ownSchema = none ∧
    ∃ product, registry.findProduct device.productId = some product ∧ product.schema = schema

/-- The device is unknown, or it has no schema of its own and its product is unknown. -/
def IsUnknown (registry : Registry) (deviceId : String) : Prop :=
  registry.findDevice deviceId = none ∨
    ∃ device, registry.findDevice deviceId = some device ∧ device.ownSchema = none ∧
      registry.findProduct device.productId = none

section Mapping

variable {registry : Registry} {store other : MemoryStore} {deviceId : String} {device : Device}
  {schema : Schema}

theorem schemaOf_eq_ok_iff : schemaOf registry device = .ok schema ↔
    HasSchema registry device schema := by
  unfold schemaOf HasSchema Registry.productSchema
  cases device.ownSchema with
  | some own => simp
  | none =>
    cases registry.findProduct device.productId with
    | none => simp [Except.mapError]
    | some product => simp [Except.mapError]

/-- A device without a schema is one of an unknown product. -/
theorem schemaOf_eq_error_iff {fault : MappingError} : schemaOf registry device = .error fault ↔
    device.ownSchema = none ∧ registry.findProduct device.productId = none ∧
      fault = .productNotFound device.productId := by
  unfold schemaOf Registry.productSchema
  cases device.ownSchema with
  | some own => simp
  | none =>
    cases registry.findProduct device.productId with
    | none => simp [Except.mapError, MappingError.ofStore, eq_comm]
    | some product => simp [Except.mapError]

theorem resolve_eq_error_iff {fault : MappingError} :
    resolve registry store deviceId = .error fault ↔
      registry.findDevice deviceId = none ∧ fault = .deviceNotFound deviceId ∨
        ∃ device, registry.findDevice deviceId = some device ∧
          schemaOf registry device = .error fault := by
  rw [resolve_eq]
  cases registry.findDevice deviceId with
  | none => simp [eq_comm]
  | some device =>
    simp only [reduceCtorEq, false_and, Option.some.injEq, exists_eq_left', false_or]
    cases schemaOf registry device with
    | error other => simp [Except.map]
    | ok schema => simp [Except.map]

/-- The details of a device are those that describe its properties in order. -/
theorem resolve_eq_ok_iff (registered : registry.findDevice deviceId = some device)
    (known : schemaOf registry device = .ok schema) (details : List Detail) :
    resolve registry store deviceId = .ok details ↔
      List.Forall₂ (fun property detail => ∃ rule,
        Prevails store device.productId deviceId property.id rule ∧
          Describes device.productId deviceId property rule detail) schema.properties details := by
  have each : ∀ property detail,
      (∃ rule, Prevails store device.productId deviceId property.id rule ∧
        Describes device.productId deviceId property rule detail) ↔
      fedDetail (.ofDevice device.productId deviceId) property
        (feed? (store.query device.productId (some deviceId)) property.id) = detail := by
    intro property detail
    simp only [prevails_iff, describes_iff, exists_eq_left']
    rfl
  simp only [each]
  rw [resolve_eq, registered]
  dsimp only
  rw [known, ← List.forall₂_map_left_iff, List.forall₂_eq_eq_eq, ← details_reduceRules, Except.map,
    Except.ok.injEq]

/-- A query depends only on the rules of the two scopes in force. -/
theorem query_congr {productId : String} (same : ∀ id rule,
    rule.isOf productId none = true ∨ rule.isOf productId (some deviceId) = true →
      (store.rules.get? id = some rule ↔ other.rules.get? id = some rule)) :
    other.query productId (some deviceId) = store.query productId (some deviceId) := by
  have listed : ∀ asked : MemoryStore, asked.query productId (some deviceId) =
      (asked.rules.filter fun _ => MemoryStore.inScope productId (some deviceId)).values := by
    intro asked
    exact List.filter_map
  rw [listed, listed]
  congr 1
  apply Table.ext_get?
  intro id
  ext rule
  rw [Table.get?_filter, Table.get?_filter, Option.filter_eq_some_iff, Option.filter_eq_some_iff,
    MemoryStore.inScope_iff]
  exact and_congr_left fun inForce => (same id rule inForce).symm

/-- A device that is unknown, or whose elements are, is the one reason for a fault. -/
theorem exists_error_iff : (∃ fault, resolve registry store deviceId = .error fault) ↔
    IsUnknown registry deviceId := by
  simp only [resolve_eq_error_iff, schemaOf_eq_error_iff, IsUnknown]
  constructor
  · rintro ⟨fault, ⟨missing, -⟩ | ⟨device, registered, noSchema, noProduct, -⟩⟩
    · exact .inl missing
    · exact .inr ⟨device, registered, noSchema, noProduct⟩
  · rintro (missing | ⟨device, registered, noSchema, noProduct⟩)
    · exact ⟨_, .inl ⟨missing, rfl⟩⟩
    · exact ⟨_, .inr ⟨device, registered, noSchema, noProduct, rfl⟩⟩

/-- A known device has details. -/
theorem exists_ok_of_known (known : ¬ IsUnknown registry deviceId) : ∃ device schema,
    registry.findDevice deviceId = some device ∧ HasSchema registry device schema ∧
      ∃ details, resolve registry store deviceId = .ok details := by
  cases answer : resolve registry store deviceId with
  | error fault => exact absurd (exists_error_iff.mp ⟨fault, answer⟩) known
  | ok details =>
    cases registered : registry.findDevice deviceId with
    | none => exact absurd (.inl registered) known
    | some device =>
      cases hasSchema : schemaOf registry device with
      | error fault =>
        obtain ⟨noSchema, noProduct, -⟩ := schemaOf_eq_error_iff.mp hasSchema
        exact absurd (.inr ⟨device, registered, noSchema, noProduct⟩) known
      | ok schema => exact ⟨device, schema, rfl, schemaOf_eq_ok_iff.mp hasSchema, details, rfl⟩

end Mapping

/-- **What the resolved mapping of a device says.** For every registry, every store in memory that
any writes have made and every device: there is no mapping exactly if the device is unknown, or it
has no schema of its own and its product is unknown, and then something was not found. Otherwise the
mapping is the one list of details that describe the properties of its schema in order, each by the
rule that prevails for it; rules of other products and of other devices have no influence. -/
theorem resolve_exact (registry : Registry) (writes : List RuleWrite) (deviceId : String) :
    let store := RuleWrite.applyAll MemoryStore.empty writes
    (∀ id rule, store.rules.get? id = some rule → rule.id = some id) ∧
    ((∃ fault, resolve registry store deviceId = .error fault) ↔ IsUnknown registry deviceId) ∧
    (∀ fault, resolve registry store deviceId = .error fault → fault.isNotFound = true) ∧
    (¬ IsUnknown registry deviceId → ∃ device schema, registry.findDevice deviceId = some device ∧
      HasSchema registry device schema ∧ ∃ details, resolve registry store deviceId = .ok details) ∧
    (∀ device schema, registry.findDevice deviceId = some device →
      HasSchema registry device schema →
        (∀ details, resolve registry store deviceId = .ok details ↔
          List.Forall₂ (fun property detail => ∃ rule,
            Prevails store device.productId deviceId property.id rule ∧
              Describes device.productId deviceId property rule detail)
            schema.properties details) ∧
        ∀ other : MemoryStore, (∀ id rule, rule.isOf device.productId none = true ∨
            rule.isOf device.productId (some deviceId) = true →
              (store.rules.get? id = some rule ↔ other.rules.get? id = some rule)) →
          resolve registry other deviceId = resolve registry store deviceId) := by
  intro store
  refine ⟨fun id rule found => ?_, exists_error_iff, fun fault failed => ?_, exists_ok_of_known,
    fun device schema registered known => ⟨fun details => ?_, fun other same => ?_⟩⟩
  · have keyed : store.Keyed := MemoryStore.keyed_applyAll MemoryStore.keyed_empty writes
    exact (keyed id rule found).2
  · rcases resolve_eq_error_iff.mp failed with ⟨-, rfl⟩ | ⟨device, -, noSchema⟩
    · rfl
    · rw [(schemaOf_eq_error_iff.mp noSchema).2.2]
      rfl
  · exact resolve_eq_ok_iff registered (schemaOf_eq_ok_iff.mpr known) details
  · rw [resolve_eq, resolve_eq, registered]
    dsimp only
    rw [query_congr same]

/-- The device's own rule prevails although it has no raw key, so the property maps nothing; the
other property has the rule of the product. A device that nobody registered has no mapping. -/
theorem resolve_exact_blank :
    let registry : Registry :=
      .ofLists [.ofId "lamps" (.ofIds ["power", "level"])] [.ofId "lamp" "lamps"]
    let writes : List RuleWrite := [.save [.forProduct "lamps" "power" "switch",
      .forDevice "lamps" "lamp" "power" " ", .forProduct "lamps" "level" "dim"]]
    let store := RuleWrite.applyAll MemoryStore.empty writes
    let power : Detail := ⟨"lamps", some "lamp", .property, "power", none, none, none, false⟩
    let level : Detail := ⟨"lamps", some "lamp", .property, "level", none, some "dim", none, true⟩
    (∃ fault, resolve registry store "plug" = .error fault ∧ fault.isNotFound = true) ∧
      HasSchema registry (.ofId "lamp" "lamps") (.ofIds ["power", "level"]) ∧
      resolve registry store "lamp" = .ok [power, level] ∧
      List.Forall₂ (fun property detail => ∃ rule, Prevails store "lamps" "lamp" property.id rule ∧
        Describes "lamps" "lamp" property rule detail) [.ofId "power", .ofId "level"]
        [power, level] := by
  intro registry writes store power level
  obtain ⟨-, unknown_iff, notFound, -, -⟩ := resolve_exact registry writes "plug"
  obtain ⟨fault, failed⟩ := unknown_iff.mpr (.inl rfl)
  have known : HasSchema registry (.ofId "lamp" "lamps") (.ofIds ["power", "level"]) :=
    .inr ⟨rfl, _, rfl, rfl⟩
  have mapping : resolve registry store "lamp" = .ok [power, level] := rfl
  have described := (resolve_exact registry writes "lamp").2.2.2.2 _ _ rfl known
  exact ⟨⟨fault, failed, notFound fault failed⟩, known, mapping, (described.1 _).mp mapping⟩

end Resolution

end DeviceMapping
