/-
**Mapping payloads.**

A raw payload is turned into a canonical one by the custom details, of which the last one of each
property counts. Each of them puts the value of its raw key under its property; then every raw key
keeps its value, transformed if a detail of that name transforms. A key that is both thus comes from
its own raw value.
-/

import DeviceMapping.Rule.Detail
import DeviceMapping.Transformation.Application

namespace DeviceMapping.Payload

/-- A canonical payload and the number of transformations that fell back to the raw value. -/
structure Mapped where
  properties : Table Json
  failures : Nat

/-- The custom details by property. -/
def customDetails (details : List Detail) : Table Detail :=
  .ofList ((details.filter Detail.isCustom).map fun detail => (detail.metadataId, detail))

/-- A raw value on its way through a detail. -/
def transformed (detail : Detail) (value : Json) : Transformation.Applied :=
  match detail.transformation with
  | some transformation => transformation.apply value
  | none => ⟨value, false⟩

/-- The raw value that feeds a detail; `null` feeds nothing. -/
def sourceValue (raw : Table Json) (detail : Detail) : Option Json :=
  (detail.rawKey.bind raw.get?).filter fun value => !value.isNull

/-- The value of a detail's property, taken from its raw key. -/
def fromSource (raw : Table Json) (detail : Detail) : Transformation.Applied :=
  match sourceValue raw detail with
  | some value => transformed detail value
  | none => ⟨.null, false⟩

/-- The value of a raw key. -/
def fromKey (custom : Table Detail) (key : String) (value : Json) : Transformation.Applied :=
  match custom.get? key with
  | some detail => transformed detail value
  | none => ⟨value, false⟩

/-- Maps a raw payload by the details of its device. -/
def map (raw : Table Json) (details : List Detail) : Mapped :=
  let custom := customDetails details
  if custom.isEmpty then ⟨raw, 0⟩
  else
    let applied :=
      custom.entries.map (fun entry => (entry.1, fromSource raw entry.2)) ++
        raw.entries.map fun entry => (entry.1, fromKey custom entry.1 entry.2)
    ⟨.ofList (applied.map fun entry => (entry.1, entry.2.value)),
      applied.countP fun entry => entry.2.failed⟩

end DeviceMapping.Payload
