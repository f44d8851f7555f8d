/-
**Fixtures and rule files.**

Fixtures are a YAML document with lists of products, devices and rules, each of them empty where it
is absent. A rule file is a list of rules: JSON where its extension says so, else YAML.
-/

import DeviceMapping.Files
import DeviceMapping.Json.Reader
import DeviceMapping.Store.Registry
import DeviceMapping.Yaml.Reader

namespace DeviceMapping

/-- The products and devices that are known, and the rules to begin with. -/
structure Fixtures where
  products : List Product
  devices : List Device
  rules : List Rule

namespace Fixtures

def empty : Fixtures := ⟨[], [], []⟩

def read? {δ : Type} [Document δ] (node : δ) : Option Fixtures := do
  let members ← Document.fields? ["products", "devices", "rules"] node
  let products ← Document.defaulted members "products" [] (Document.list? Product.read?)
  let devices ← Document.defaulted members "devices" [] (Document.list? Device.read?)
  let rules ← Document.defaulted members "rules" [] (Document.list? Rule.read?)
  some ⟨products, devices, rules⟩

/-- The fixtures of a text. -/
def ofText? (text : String) : Option Fixtures :=
  (Yaml.readLimited? text).bind read?

def registry (fixtures : Fixtures) : Registry :=
  .ofLists fixtures.products fixtures.devices

def toJson (fixtures : Fixtures) : Json :=
  .object [("devices", .array (fixtures.devices.map Device.toJson)),
    ("products", .array (fixtures.products.map Product.toJson)),
    ("rules", .array (fixtures.rules.map Rule.toJson))]

end Fixtures

/-- The rules of the text of a file with a given path. -/
def Rule.listOfText? (path text : String) : Option (List Rule) :=
  if Files.extension path == some "json" then
    (Json.readWritten? text).bind fun written =>
      Document.list? Rule.read? (Limited.mk written Json.nestingLimit)
  else (Yaml.readLimited? text).bind (Document.list? Rule.read?)

end DeviceMapping
