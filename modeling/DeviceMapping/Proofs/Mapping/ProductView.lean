/-
**A device has the mapping of its product, but for its own rules.**

A query for a device lists the rules of the product among its own ones, in the order in which a query
for the product alone lists them. So an element that no rule of the device is for has the same
winner in both lists (`winner?_query_eq`), and the detail of its property is the same but for the
device that it names (`fedDetail_ofDevice`).

* `resolve_eq_of_plain`, `resolveProduct_eq_fed`: both mappings, made from one schema.
* `device_view_extends_product_view`: they are there together, and agree wherever the device has no
  rule of its own.
-/

import DeviceMapping.Proofs.Mapping.Precedence

namespace DeviceMapping.Resolution

section Winner

variable {store : MemoryStore} {productId device element : String}

/-- A query for the product alone lists no rule of a device. -/
theorem find?_query_none_isOwnFor (store : MemoryStore) (productId element : String) :
    (store.query productId none).find? (isOwnFor element) = none := by
  rw [List.find?_eq_none]
  intro rule listed tests
  have inScope := (List.mem_filter.mp listed).2
  rw [MemoryStore.inScope_iff, or_self, Rule.isOf_none_iff] at inScope
  rw [isOwnFor_iff, inScope.2] at tests
  exact Bool.false_ne_true tests.2

/-- A query for the product alone lists the rules of its scope. -/
theorem find?_query_none_isFor (store : MemoryStore) (productId element : String) :
    (store.query productId none).find? (isFor element) =
      store.rules.values.find? fun rule => rule.isOf productId none && isFor element rule := by
  rw [MemoryStore.query, List.find?_filter]
  congr 1
  funext rule
  rw [Bool.eq_iff_iff]
  simp only [Bool.and_eq_true, decide_eq_true_eq, MemoryStore.inScope_iff, or_self]

/-- An element that no rule of the device is for is left with the rule that the product has. -/
theorem winner?_query_eq
    (noOwn : ∀ id rule, ¬ Stored store productId (some device) element id rule) :
    winner? (store.query productId (some device)) element =
      winner? (store.query productId none) element := by
  have own : (store.query productId (some device)).find? (isOwnFor element) = none := by
    rw [find?_query_isOwnFor]
    exact find?_values_isOf_eq_none_iff.mpr noOwn
  rw [winner?, winner?, own, find?_query_none_isOwnFor, Option.none_or, Option.none_or,
    find?_query_isFor noOwn, find?_query_none_isFor]

end Winner

/-- The detail of a device is that of its product, except that it names the device. -/
theorem fedDetail_ofDevice (productId device : String) (property : Property)
    (source : Option (String × Option Transformation)) :
    fedDetail (.ofDevice productId device) property source =
      { fedDetail (.ofProduct productId) property source with deviceId := some device } := rfl

section Views

variable {registry : Registry} {store : MemoryStore} {deviceId : String} {device : Device}

/-- The mapping of a device without a schema of its own, made from the schema of its product. -/
theorem resolve_eq_of_plain (registered : registry.findDevice deviceId = some device)
    (plain : device.ownSchema = none) :
    resolve registry store deviceId =
      ((registry.productSchema device.productId).mapError .ofStore).map fun schema =>
        schema.properties.map fun property =>
          fedDetail (.ofDevice device.productId deviceId) property
            (feed? (store.query device.productId (some deviceId)) property.id) := by
  rw [resolve_eq, registered]
  simp only [schemaOf, plain, details_reduceRules]

theorem resolveProduct_eq_fed (registry : Registry) (store : MemoryStore) (productId : String) :
    resolveProduct registry store productId =
      ((registry.productSchema productId).mapError .ofStore).map fun schema =>
        schema.properties.map fun property =>
          fedDetail (.ofProduct productId) property
            (feed? (store.query productId none) property.id) := by
  rw [resolveProduct_eq]
  simp only [details_reduceRules]

/-- Both mappings of an unknown product fail, and for the same reason. -/
theorem not_found_of_plain (registered : registry.findDevice deviceId = some device)
    (plain : device.ownSchema = none) (unknown : registry.findProduct device.productId = none) :
    resolve registry store deviceId = .error (.productNotFound device.productId) ∧
      resolveProduct registry store device.productId =
        .error (.productNotFound device.productId) := by
  have noSchema : registry.productSchema device.productId =
      .error (.productNotFound device.productId) := by
    rw [Registry.productSchema, unknown]
  rw [resolve_eq_of_plain registered plain, resolveProduct_eq_fed, noSchema]
  exact ⟨rfl, rfl⟩

end Views

/-- **A device has the mapping of its product, but for its own rules.** A registered device without a
schema of its own has a mapping exactly if its product has one; otherwise neither is found. The two
mappings are equally long, one detail for each property of the product; and wherever the device has
no rule of its own for the property, the device's detail is the product's one, except that it names
the device. -/
theorem device_view_extends_product_view (registry : Registry) (store : MemoryStore)
    {deviceId : String} {device : Device} (registered : registry.findDevice deviceId = some device)
    (plain : device.ownSchema = none) :
    (registry.findProduct device.productId = none →
      ∃ fault, fault.isNotFound = true ∧ resolve registry store deviceId = .error fault ∧
        resolveProduct registry store device.productId = .error fault) ∧
    ∀ product, registry.findProduct device.productId = some product →
      ∃ own shared, resolve registry store deviceId = .ok own ∧
        resolveProduct registry store device.productId = .ok shared ∧
        own.length = product.schema.properties.length ∧ shared.length = own.length ∧
        ∀ (position : Nat) (property : Property),
          product.schema.properties[position]? = some property →
          (∀ id rule, ¬ Stored store device.productId (some deviceId) property.id id rule) →
            ∃ detail, shared[position]? = some detail ∧ detail.deviceId = none ∧
              own[position]? = some { detail with deviceId := some deviceId } := by
  constructor
  · intro unknown
    exact ⟨_, rfl, not_found_of_plain registered plain unknown⟩
  · intro product known
    have schema : registry.productSchema device.productId = .ok product.schema := by
      rw [Registry.productSchema, known]
    rw [resolve_eq_of_plain registered plain, resolveProduct_eq_fed, schema]
    refine ⟨_, _, rfl, rfl, List.length_map _, ?_, ?_⟩
    · rw [List.length_map, List.length_map]
    · intro position property listed noOwn
      rw [List.getElem?_map, List.getElem?_map, listed]
      refine ⟨_, rfl, rfl, ?_⟩
      have same : feed? (store.query device.productId (some deviceId)) property.id =
          feed? (store.query device.productId none) property.id := by
        rw [feed?, feed?, winner?_query_eq noOwn]
      rw [Option.map_some, same, fedDetail_ofDevice]

/-- A lamp with a rule of its own for its power has the level of its product, whatever rule another
lamp has for that; for a lamp of an unknown product there is no mapping, and neither for the product. -/
theorem device_view_extends_product_view_lamp :
    let registry : Registry := .ofLists [.ofId "lamps" (.ofIds ["power", "level"])]
      [.ofId "lamp" "lamps", .ofId "spot" "spots"]
    let store := (MemoryStore.empty.save [.forProduct "lamps" "level" "dim",
      .forDevice "lamps" "lamp" "power" "button", .forDevice "lamps" "other" "level" "own"]).1
    let power : Detail := ⟨"lamps", none, .property, "power", none, none, none, false⟩
    let level : Detail := ⟨"lamps", none, .property, "level", none, some "dim", none, true⟩
    resolveProduct registry store "lamps" = .ok [power, level] ∧
      (∀ id rule, ¬ Stored store "lamps" (some "lamp") "level" id rule) ∧
      (∃ own, resolve registry store "lamp" = .ok own ∧ own.length = 2 ∧
        own[1]? = some { level with deviceId := some "lamp" }) ∧
      ∃ fault, fault.isNotFound = true ∧ resolve registry store "spot" = .error fault ∧
        resolveProduct registry store "spots" = .error fault := by
  intro registry store power level
  have lamp : registry.findDevice "lamp" = some (.ofId "lamp" "lamps") := rfl
  have spot : registry.findDevice "spot" = some (.ofId "spot" "spots") := rfl
  have mapping : resolveProduct registry store "lamps" = .ok [power, level] := rfl
  have noOwn : ∀ id rule, ¬ Stored store "lamps" (some "lamp") "level" id rule :=
    find?_values_isOf_eq_none_iff.mp rfl
  obtain ⟨own, shared, resolved, resolved', length, -, agree⟩ :=
    (device_view_extends_product_view registry store lamp rfl).2 _ rfl
  obtain ⟨detail, ofProduct, -, ofDevice⟩ := agree 1 (.ofId "level") rfl noOwn
  have isShared : [power, level] = shared := Except.ok.inj (mapping.symm.trans resolved')
  rw [← isShared] at ofProduct
  have isLevel : level = detail := Option.some.inj ofProduct
  rw [← isLevel] at ofDevice
  exact ⟨mapping, noOwn, ⟨own, resolved, length, ofDevice⟩,
    (device_view_extends_product_view registry store spot rfl).1 rfl⟩

end DeviceMapping.Resolution
