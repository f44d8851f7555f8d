/-
**Resolved details.**

A detail says, for one canonical property of a device or product, which raw key feeds it and how the
value is transformed on the way. Only a rule with a raw key makes the mapping of a property custom.
-/

import DeviceMapping.Rule.Basic

namespace DeviceMapping

/-- The resolved mapping of one canonical property. -/
structure Detail where
  productId : String
  deviceId : Option String
  metadataType : MetadataType
  metadataId : String
  metadataName : Option String
  rawKey : Option String
  transformation : Option Transformation
  isCustom : Bool

namespace Detail

/-- A detail of a product that maps nothing yet. -/
def ofProduct (productId : String) : Detail :=
  ⟨productId, none, .property, "", none, none, none, false⟩

/-- A detail of a device that maps nothing yet. -/
def ofDevice (productId deviceId : String) : Detail :=
  { ofProduct productId with deviceId := some deviceId }

/-- The detail of a given property. -/
def withProperty (detail : Detail) (property : Property) : Detail :=
  { detail with
    metadataType := .property
    metadataId := property.id
    metadataName := property.name }

/-- The detail with a rule and its transformation, if there is a rule with a raw key. -/
def withRule (detail : Detail) (rule : Option Rule) (transformation : Option Transformation) :
    Detail :=
  match rule with
  | some rule =>
    if rule.hasRawKey then
      { detail with
        rawKey := rule.rawKey
        transformation := transformation
        isCustom := true }
    else { detail with rawKey := none, transformation := none, isCustom := false }
  | none => { detail with rawKey := none, transformation := none, isCustom := false }

/-- A value, or `null` where there is none. -/
def orNull (value : Option Json) : Json :=
  value.getD .null

def toJson (detail : Detail) : Json :=
  .record [("custom_mapping", some (.bool detail.isCustom)),
    ("device_id", detail.deviceId.map .string),
    ("metadata_id", some (.string detail.metadataId)),
    ("metadata_name", detail.metadataName.map .string),
    ("metadata_type", some (.string detail.metadataType.name)),
    ("original_id", some (orNull (detail.rawKey.map .string))),
    ("product_id", some (.string detail.productId)),
    ("transformation", some (orNull (detail.transformation.map Transformation.toConfig)))]

end Detail

end DeviceMapping
