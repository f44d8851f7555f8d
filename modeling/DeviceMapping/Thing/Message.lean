/-
**Device messages.**

A message carries the properties a device reported. Only property reports and replies to property
reads carry properties that are mapped; a type of message nobody knows reads as `other`.
-/

import DeviceMapping.Document

namespace DeviceMapping

/-- The kinds of device messages. -/
inductive MessageType where
  | reportProperty
  | readPropertyReply
  | writePropertyReply
  | event
  | online
  | offline
  | other
  deriving DecidableEq, Inhabited

namespace MessageType

def name : MessageType → String
  | reportProperty => "REPORT_PROPERTY"
  | readPropertyReply => "READ_PROPERTY_REPLY"
  | writePropertyReply => "WRITE_PROPERTY_REPLY"
  | event => "EVENT"
  | online => "ONLINE"
  | offline => "OFFLINE"
  | other => "OTHER"

/-- The type of a name; every unknown name is that of another message. -/
def ofName (text : String) : MessageType :=
  ([reportProperty, readPropertyReply, writePropertyReply, event, online, offline].find?
    fun type => type.name == text).getD other

theorem ofName_name (type : MessageType) : ofName type.name = type := by
  cases type <;> rfl

/-- The properties of such messages are mapped. -/
def carriesMappedProperties : MessageType → Bool
  | reportProperty | readPropertyReply => true
  | _ => false

end MessageType

/-- A message of a device; its time is in milliseconds and fits 64 bits. -/
structure Message where
  type : MessageType
  deviceId : String
  messageId : Option String
  timestamp : Int64
  properties : Table Json

namespace Message

def toJson (message : Message) : Json :=
  .record [("device_id", some (.string message.deviceId)),
    ("message_id", message.messageId.map .string),
    ("message_type", some (.string message.type.name)),
    ("properties", some (.ofTable message.properties)),
    ("timestamp", some (.integer message.timestamp.toInt))]

/-- The fields in order. -/
def fieldNames : List String :=
  ["message_type", "device_id", "message_id", "timestamp", "properties"]

def read? {δ : Type} [Document δ] (node : δ) : Option Message := do
  let members ← Document.fields? fieldNames node
  let type ← Document.required members "message_type" Document.choice?
  let deviceId ← Document.required members "device_id" Document.text?
  let messageId ← Document.optional members "message_id" Document.text?
  let timestamp ← Document.defaulted members "timestamp" 0
    (Document.bounded? (-0x8000000000000000) 0x7FFFFFFFFFFFFFFF)
  let properties ← Document.defaulted members "properties" Table.empty Document.object?
  some ⟨.ofName type, deviceId, messageId, Int64.ofInt timestamp, properties⟩

end Message

end DeviceMapping
