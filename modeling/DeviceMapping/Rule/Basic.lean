/-
**Mapping rules.**

A rule binds a canonical element of a product, or of one of its devices, to the raw key whose value
it takes. Where a rule is kept is decided by its scope: `Rule.key` is made of the scope, the type of
the element and its id, so that a rule saved twice replaces itself and can be removed knowing only
these. An empty device id means no device.
-/

import DeviceMapping.Thing.Schema
import DeviceMapping.Transformation.Basic
import DeviceMapping.Text.Blank

namespace DeviceMapping

/-- The kinds of canonical elements. -/
inductive MetadataType where
  | property
  | event
  | function
  | tag
  deriving DecidableEq, Inhabited

namespace MetadataType

def name : MetadataType → String
  | property => "property"
  | event => "event"
  | function => "function"
  | tag => "tag"

def ofName? (text : String) : Option MetadataType :=
  [property, event, function, tag].find? fun type => type.name == text

theorem ofName?_name (type : MetadataType) : ofName? type.name = some type := by
  cases type <;> rfl

def read? {δ : Type} [Document δ] (node : δ) : Option MetadataType :=
  (Document.choice? node).bind ofName?

end MetadataType

/-- A mapping rule. -/
structure Rule where
  id : Option String
  productId : String
  deviceId : Option String
  metadataType : MetadataType
  metadataId : String
  rawKey : Option String
  others : Option (Table Json)

/-- Why a rule cannot be bound. -/
inductive RuleFault where
  | emptyProduct
  | emptyMetadata
  | emptyRawKey (metadataId : String)
  | unknownMetadataType (name : String)

namespace RuleFault

/-- The fault by itself. -/
def reason : RuleFault → String
  | emptyProduct => "product_id must not be empty"
  | emptyMetadata => "metadata_id must not be empty"
  | emptyRawKey metadataId => "original_id must not be empty for " ++ metadataId
  | unknownMetadataType name => "unknown metadata_type '" ++ name ++ "'"

def message (fault : RuleFault) : String :=
  "Validation error: " ++ fault.reason

end RuleFault

namespace Rule

/-- A rule of a product. -/
def forProduct (productId metadataId rawKey : String) : Rule :=
  ⟨none, productId, none, .property, metadataId, some rawKey, none⟩

/-- A rule of a device. -/
def forDevice (productId deviceId metadataId rawKey : String) : Rule :=
  { forProduct productId metadataId rawKey with deviceId := some deviceId }

/-- The rule with a transformation among its other fields. -/
def withTransformation (rule : Rule) (transformation : Transformation) : Rule :=
  let others := rule.others.getD Table.empty
  { rule with others := some (others.insert Transformation.configKey transformation.toConfig) }

/-- The rule belongs to one device. -/
def isDeviceScoped (rule : Rule) : Bool :=
  rule.deviceId.any fun device => device != ""

/-- The rule takes its value from a raw key. -/
def hasRawKey (rule : Rule) : Bool :=
  rule.rawKey.any fun key => !Text.isBlankText key

/-- The device of a device rule, the product of any other. -/
def scopeId (rule : Rule) : String :=
  match rule.deviceId with
  | some device => if device = "" then rule.productId else device
  | none => rule.productId

/-- The key of a scope, a type of element and its id. -/
def keyOf (scope : String) (type : MetadataType) (metadataId : String) : String :=
  scope ++ ":" ++ type.name ++ ":" ++ metadataId

/-- The key under which a rule is kept. -/
def key (rule : Rule) : String :=
  keyOf rule.scopeId rule.metadataType rule.metadataId

/-- The rule with its key filled in. -/
def keyed (rule : Rule) : Rule :=
  { rule with id := some rule.key }

/-- The transformation among the other fields of the rule. -/
def transformation (rule : Rule) : Except ConfigurationFault (Option Transformation) :=
  match rule.others with
  | some others => Transformation.ofOthers others
  | none => .ok none

/-- What must hold before a rule is bound; the first fault counts. -/
def validate (rule : Rule) : Except RuleFault Unit :=
  if Text.isBlankText rule.productId then .error .emptyProduct
  else if Text.isBlankText rule.metadataId then .error .emptyMetadata
  else if !rule.hasRawKey then .error (.emptyRawKey rule.metadataId)
  else .ok ()

def toJson (rule : Rule) : Json :=
  .record [("device_id", rule.deviceId.map .string), ("id", rule.id.map .string),
    ("metadata_id", some (.string rule.metadataId)),
    ("metadata_type", some (.string rule.metadataType.name)),
    ("original_id", rule.rawKey.map .string), ("others", rule.others.map .ofTable),
    ("product_id", some (.string rule.productId))]

/-- The fields in order. -/
def fieldNames : List String :=
  ["id", "product_id", "device_id", "metadata_type", "metadata_id", "original_id", "others"]

def read? {δ : Type} [Document δ] (node : δ) : Option Rule := do
  let members ← Document.fields? fieldNames node
  let id ← Document.optional members "id" Document.text?
  let productId ← Document.defaulted members "product_id" "" Document.text?
  let deviceId ← Document.optional members "device_id" Document.text?
  let metadataType ← Document.defaulted members "metadata_type" .property MetadataType.read?
  let metadataId ← Document.required members "metadata_id" Document.text?
  let rawKey ← Document.optional members "original_id" Document.text?
  let others ← Document.optional members "others" Document.object?
  some ⟨id, productId, deviceId, metadataType, metadataId, rawKey, others⟩

end Rule

end DeviceMapping
