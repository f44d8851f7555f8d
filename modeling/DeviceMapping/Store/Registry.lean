/-
**The registry of products and devices.**

Products and devices are found by id; inserting one replaces the one of its id.
-/

import DeviceMapping.Thing.Schema
import DeviceMapping.Store.Basic

namespace DeviceMapping

/-- The known products and devices by id. -/
structure Registry where
  products : Table Product
  devices : Table Device

namespace Registry

def empty : Registry := ⟨.empty, .empty⟩

def insertProduct (registry : Registry) (product : Product) : Registry :=
  { registry with products := registry.products.insert product.id product }

def insertDevice (registry : Registry) (device : Device) : Registry :=
  { registry with devices := registry.devices.insert device.id device }

def removeDevice (registry : Registry) (id : String) : Registry :=
  { registry with devices := registry.devices.erase id }

/-- The registry of lists of products and devices, of which the last of an id counts. -/
def ofLists (products : List Product) (devices : List Device) : Registry :=
  devices.foldl insertDevice (products.foldl insertProduct empty)

def findProduct (registry : Registry) (id : String) : Option Product :=
  registry.products.get? id

def findDevice (registry : Registry) (id : String) : Option Device :=
  registry.devices.get? id

/-- The schema of a product. -/
def productSchema (registry : Registry) (id : String) : Except StoreError Schema :=
  match registry.findProduct id with
  | some product => .ok product.schema
  | none => .error (.productNotFound id)

/-- The schema of a device's own, if it has one. -/
def ownSchema (registry : Registry) (id : String) : Except StoreError (Option Schema) :=
  match registry.findDevice id with
  | some device => .ok device.ownSchema
  | none => .error (.deviceNotFound id)

end Registry

end DeviceMapping
