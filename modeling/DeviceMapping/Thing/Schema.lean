/-
**Products, devices and their schemas.**

A schema lists the canonical properties of a product, or of one device that differs from its
product. Each record is written as an object without its absent fields and read back from one.
-/

import DeviceMapping.Document

namespace DeviceMapping

/-- One canonical property. -/
structure Property where
  id : String
  name : Option String
  valueType : Option String
  deriving DecidableEq, Inhabited

/-- The canonical properties in their declared order. -/
structure Schema where
  properties : List Property
  deriving DecidableEq, Inhabited

/-- A product and the schema of its devices. -/
structure Product where
  id : String
  name : String
  schema : Schema
  deriving DecidableEq, Inhabited

/-- A device of a product, with a schema of its own if it differs from the product. -/
structure Device where
  id : String
  productId : String
  name : String
  ownSchema : Option Schema
  deriving DecidableEq, Inhabited

namespace Property

/-- A property with nothing but its id. -/
def ofId (id : String) : Property :=
  ⟨id, none, none⟩

def toJson (property : Property) : Json :=
  .record [("id", some (.string property.id)), ("name", property.name.map .string),
    ("value_type", property.valueType.map .string)]

/-- The fields in order. -/
def fieldNames : List String :=
  ["id", "name", "value_type"]

def read? {δ : Type} [Document δ] (node : δ) : Option Property := do
  let members ← Document.fields? fieldNames node
  let id ← Document.required members "id" Document.text?
  let name ← Document.optional members "name" Document.text?
  let valueType ← Document.optional members "value_type" Document.text?
  some ⟨id, name, valueType⟩

end Property

namespace Schema

/-- A schema of properties with nothing but their ids. -/
def ofIds (ids : List String) : Schema :=
  ⟨ids.map Property.ofId⟩

def toJson (schema : Schema) : Json :=
  .record [("properties", some (.array (schema.properties.map Property.toJson)))]

/-- The fields in order. -/
def fieldNames : List String :=
  ["properties"]

def read? {δ : Type} [Document δ] (node : δ) : Option Schema := do
  let members ← Document.fields? fieldNames node
  let properties ← Document.defaulted members "properties" [] (Document.list? Property.read?)
  some ⟨properties⟩

end Schema

namespace Product

/-- A product named by its id. -/
def ofId (id : String) (schema : Schema) : Product :=
  ⟨id, id, schema⟩

def toJson (product : Product) : Json :=
  .record [("id", some (.string product.id)), ("metadata", some product.schema.toJson),
    ("name", some (.string product.name))]

/-- The fields in order. -/
def fieldNames : List String :=
  ["id", "name", "metadata"]

def read? {δ : Type} [Document δ] (node : δ) : Option Product := do
  let members ← Document.fields? fieldNames node
  let id ← Document.required members "id" Document.text?
  let name ← Document.defaulted members "name" "" Document.text?
  let schema ← Document.defaulted members "metadata" ⟨[]⟩ Schema.read?
  some ⟨id, name, schema⟩

end Product

namespace Device

/-- A device named by its id, with the schema of its product. -/
def ofId (id productId : String) : Device :=
  ⟨id, productId, id, none⟩

def toJson (device : Device) : Json :=
  .record [("derive_metadata", device.ownSchema.map Schema.toJson),
    ("id", some (.string device.id)), ("name", some (.string device.name)),
    ("product_id", some (.string device.productId))]

/-- The fields in order. -/
def fieldNames : List String :=
  ["id", "product_id", "name", "derive_metadata"]

def read? {δ : Type} [Document δ] (node : δ) : Option Device := do
  let members ← Document.fields? fieldNames node
  let id ← Document.required members "id" Document.text?
  let productId ← Document.required members "product_id" Document.text?
  let name ← Document.defaulted members "name" "" Document.text?
  let ownSchema ← Document.optional members "derive_metadata" Schema.read?
  some ⟨id, productId, name, ownSchema⟩

end Device

end DeviceMapping
