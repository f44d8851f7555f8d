/-
**Records read back as they were written.**

* `list?_map`, `object?_ofTable`, `word?_integer`, `bounded?_integer`: the values of the fields.
* `read?_toJson` of every record: the fields are written under distinct names, so each is read by
  itself, and a record inside another one by the lemma of its own.
* `Message.read?_between`: in a message one name of a type can stand for another; what is read
  differs in the type alone.
* `records_read_back`: all of it, and that a message of an unknown type keeps the type `other`.
-/

import DeviceMapping.Proofs.Document.Fields
import DeviceMapping.Rule.Basic
import DeviceMapping.Settings.Basic
import DeviceMapping.Table.Lookup
import DeviceMapping.Thing.Message

namespace DeviceMapping

open Document

/-! ### Values -/

theorem Document.list?_map {α : Type} {write : α → Json} {read : Json → Option α}
    (reads : ∀ item, read (write item) = some item) (items : List α) :
    list? read (.array (items.map write)) = some items := by
  show (items.map write).mapM read = some items
  induction items with
  | nil => rfl
  | cons item rest ih =>
    rw [List.map_cons, List.mapM_cons, reads item, ih]
    rfl

theorem Document.object?_ofTable (table : Table Json) :
    object? (Json.ofTable table) = some table := by
  have values : (table.entries.mapM fun member =>
      (value? member.2).map (member.1, ·)) = some table.entries := by
    induction table.entries with
    | nil => rfl
    | cons member rest ih =>
      rw [List.mapM_cons, ih]
      rfl
  have members : members? (Json.ofTable table) = some table.entries := rfl
  rw [object?, members]
  simp [values, Table.ofList_entries]

theorem Document.word?_integer (word : UInt64) :
    word? (Json.integer word.toNat) = some word := by
  have bound : word.toNat < 2 ^ 64 := word.toNat_lt
  have within : (0 : Int) ≤ word.toNat ∧ (word.toNat : Int) ≤ 0xFFFFFFFFFFFFFFFF := by omega
  show ((if _ then _ else _ : Option Int)).map _ = _
  rw [if_pos within]
  simp

theorem Document.bounded?_integer {least greatest value : Int} (above : least ≤ value)
    (below : value ≤ greatest) : bounded? least greatest (Json.integer value) = some value :=
  if_pos ⟨above, below⟩

/-! ### Records -/

theorem Property.read?_toJson (property : Property) : read? property.toJson = some property := by
  let fields : List (String × Option Json) :=
    [("id", some (.string property.id)), ("name", property.name.map .string),
      ("value_type", property.valueType.map .string)]
  have distinct : (fields.map Prod.fst).Nodup := by
    show ["id", "name", "value_type"].Nodup
    decide
  have id : required (membersOf fields) "id" text? = some property.id :=
    required_membersOf distinct (.string property.id) (by simp [fields])
  have name : optional (membersOf fields) "name" text? = some property.name :=
    optional_membersOf distinct .string (by simp [fields]) fun _ => rfl
  have valueType : optional (membersOf fields) "value_type" text? = some property.valueType :=
    optional_membersOf distinct .string (by simp [fields]) fun _ => rfl
  rw [read?, toJson, fields?_record]
  simp [id, name, valueType, fields]

theorem Schema.read?_toJson (schema : Schema) : read? schema.toJson = some schema := by
  let fields : List (String × Option Json) :=
    [("properties", some (.array (schema.properties.map Property.toJson)))]
  have properties : defaulted (membersOf fields) "properties" [] (list? Property.read?) =
      some schema.properties :=
    (defaulted_membersOf (by simp) _ List.mem_cons_self []).trans
      (list?_map Property.read?_toJson schema.properties)
  rw [read?, toJson, fields?_record]
  simp [properties, fields]

theorem Product.read?_toJson (product : Product) : read? product.toJson = some product := by
  let fields : List (String × Option Json) :=
    [("id", some (.string product.id)), ("metadata", some product.schema.toJson),
      ("name", some (.string product.name))]
  have distinct : (fields.map Prod.fst).Nodup := by
    show ["id", "metadata", "name"].Nodup
    decide
  have id : required (membersOf fields) "id" text? = some product.id :=
    required_membersOf distinct (.string product.id) (by simp [fields])
  have name : defaulted (membersOf fields) "name" "" text? = some product.name :=
    defaulted_membersOf distinct (.string product.name) (by simp [fields]) ""
  have schema : defaulted (membersOf fields) "metadata" ⟨[]⟩ Schema.read? = some product.schema :=
    (defaulted_membersOf distinct product.schema.toJson (by simp [fields]) ⟨[]⟩).trans
      product.schema.read?_toJson
  rw [read?, toJson, fields?_record]
  simp [id, name, schema, fields]

theorem Device.read?_toJson (device : Device) : read? device.toJson = some device := by
  let fields : List (String × Option Json) :=
    [("derive_metadata", device.ownSchema.map Schema.toJson), ("id", some (.string device.id)),
      ("name", some (.string device.name)), ("product_id", some (.string device.productId))]
  have distinct : (fields.map Prod.fst).Nodup := by
    show ["derive_metadata", "id", "name", "product_id"].Nodup
    decide
  have id : required (membersOf fields) "id" text? = some device.id :=
    required_membersOf distinct (.string device.id) (by simp [fields])
  have productId : required (membersOf fields) "product_id" text? = some device.productId :=
    required_membersOf distinct (.string device.productId) (by simp [fields])
  have name : defaulted (membersOf fields) "name" "" text? = some device.name :=
    defaulted_membersOf distinct (.string device.name) (by simp [fields]) ""
  have ownSchema : optional (membersOf fields) "derive_metadata" Schema.read? =
      some device.ownSchema :=
    optional_membersOf distinct Schema.toJson (by simp [fields]) fun schema =>
      congrArg (Option.map some) schema.read?_toJson
  rw [read?, toJson, fields?_record]
  simp [id, productId, name, ownSchema, fields]

theorem Rule.read?_toJson (rule : Rule) : read? rule.toJson = some rule := by
  let fields : List (String × Option Json) :=
    [("device_id", rule.deviceId.map .string), ("id", rule.id.map .string),
      ("metadata_id", some (.string rule.metadataId)),
      ("metadata_type", some (.string rule.metadataType.name)),
      ("original_id", rule.rawKey.map .string), ("others", rule.others.map .ofTable),
      ("product_id", some (.string rule.productId))]
  have distinct : (fields.map Prod.fst).Nodup := by
    show ["device_id", "id", "metadata_id", "metadata_type", "original_id", "others",
      "product_id"].Nodup
    decide
  have id : optional (membersOf fields) "id" text? = some rule.id :=
    optional_membersOf distinct .string (by simp [fields]) fun _ => rfl
  have productId : defaulted (membersOf fields) "product_id" "" text? = some rule.productId :=
    defaulted_membersOf distinct (.string rule.productId) (by simp [fields]) ""
  have deviceId : optional (membersOf fields) "device_id" text? = some rule.deviceId :=
    optional_membersOf distinct .string (by simp [fields]) fun _ => rfl
  have metadataType : defaulted (membersOf fields) "metadata_type" .property MetadataType.read? =
      some rule.metadataType :=
    (defaulted_membersOf distinct (.string rule.metadataType.name) (by simp [fields]) _).trans
      rule.metadataType.ofName?_name
  have metadataId : required (membersOf fields) "metadata_id" text? = some rule.metadataId :=
    required_membersOf distinct (.string rule.metadataId) (by simp [fields])
  have rawKey : optional (membersOf fields) "original_id" text? = some rule.rawKey :=
    optional_membersOf distinct .string (by simp [fields]) fun _ => rfl
  have others : optional (membersOf fields) "others" object? = some rule.others :=
    optional_membersOf distinct Json.ofTable (by simp [fields]) fun table =>
      congrArg (Option.map some) (object?_ofTable table)
  rw [read?, toJson, fields?_record]
  simp [id, productId, deviceId, metadataType, metadataId, rawKey, others, fields]

theorem Message.read?_toJson (message : Message) : read? message.toJson = some message := by
  let fields : List (String × Option Json) :=
    [("device_id", some (.string message.deviceId)), ("message_id", message.messageId.map .string),
      ("message_type", some (.string message.type.name)),
      ("properties", some (.ofTable message.properties)),
      ("timestamp", some (.integer message.timestamp.toInt))]
  have distinct : (fields.map Prod.fst).Nodup := by
    show ["device_id", "message_id", "message_type", "properties", "timestamp"].Nodup
    decide
  have type : required (membersOf fields) "message_type" choice? = some message.type.name :=
    required_membersOf distinct (.string message.type.name) (by simp [fields])
  have deviceId : required (membersOf fields) "device_id" text? = some message.deviceId :=
    required_membersOf distinct (.string message.deviceId) (by simp [fields])
  have messageId : optional (membersOf fields) "message_id" text? = some message.messageId :=
    optional_membersOf distinct .string (by simp [fields]) fun _ => rfl
  have timestamp : defaulted (membersOf fields) "timestamp" 0
      (bounded? (-0x8000000000000000) 0x7FFFFFFFFFFFFFFF) = some message.timestamp.toInt :=
    (defaulted_membersOf distinct (.integer message.timestamp.toInt) (by simp [fields]) 0).trans
      (bounded?_integer message.timestamp.minValue_le_toInt message.timestamp.toInt_le)
  have properties : defaulted (membersOf fields) "properties" Table.empty object? =
      some message.properties :=
    (defaulted_membersOf distinct (.ofTable message.properties) (by simp [fields]) _).trans
      (object?_ofTable message.properties)
  rw [read?, toJson, fields?_record]
  simp [type, deviceId, messageId, timestamp, properties, fields, MessageType.ofName_name]

namespace MessageType

/-- The name is that of no type of messages but `other`. -/
def IsUnknown (name : String) : Prop :=
  ∀ type : MessageType, type ≠ other → type.name ≠ name

theorem ofName_of_isUnknown {name : String} (unknown : IsUnknown name) : ofName name = other := by
  have none : ([reportProperty, readPropertyReply, writePropertyReply, event, online,
      offline].find? fun type => type.name == name) = none := by
    refine List.find?_eq_none.mpr fun type listed same => ?_
    have known : type ≠ other := by
      rintro rfl
      simp at listed
    exact unknown type known (beq_iff_eq.mp same)
  rw [ofName, none]
  rfl

end MessageType

/-- Whatever else a message says, one name of a type is read as any other one, the type apart. -/
theorem Message.read?_between (before after : List (String × Json)) (name : String)
    (type : MessageType) :
    read? (Json.object (before ++ ("message_type", .string name) :: after)) =
      (read? (Json.object (before ++ ("message_type", .string type.name) :: after))).map
        fun message => { message with type := .ofName name } := by
  let said (value : Json) := before ++ ("message_type", value) :: after
  have members (value : Json) : fields? fieldNames (Json.object (said value)) = some (said value) :=
    rfl
  have deviceId := required_elsewhere before after "message_type" (.string name)
    (text? : Json → Option String) (.string type.name) (show "device_id" ≠ _ by decide)
  have messageId := defaulted_elsewhere before after "message_type" (.string name)
    (orNothing? (text? : Json → Option String)) (.string type.name)
    (show "message_id" ≠ _ by decide) none
  have timestamp := defaulted_elsewhere before after "message_type" (.string name)
    (bounded? (-0x8000000000000000) 0x7FFFFFFFFFFFFFFF : Json → Option Int) (.string type.name)
    (show "timestamp" ≠ _ by decide) 0
  have properties := defaulted_elsewhere before after "message_type" (.string name)
    (object? : Json → Option (Table Json)) (.string type.name)
    (show "properties" ≠ _ by decide) Table.empty
  have typed (name : String) := required_between before after "message_type" (.string name)
    (choice? : Json → Option String)
  rw [read?, read?, members, members]
  simp only [said, Document.optional, deviceId, messageId, timestamp, properties, typed,
    Option.bind_eq_bind, Option.bind_some]
  split
  · have chosen (name : String) : choice? (Json.string name) = some name := rfl
    simp only [chosen, Option.bind_some, Option.map_bind, Function.comp_def, Option.map_some]
  · rfl

/-! ### Settings -/

theorem CacheSettings.read?_toJson (settings : CacheSettings) :
    read? settings.toJson = some settings := by
  let fields : List (String × Option Json) :=
    [("expire_after_access_secs",
        some ((settings.accessExpirySeconds.map fun seconds => Json.integer seconds.toNat).getD
          .null)),
      ("expire_after_write_secs", some (.integer settings.writeExpirySeconds.toNat)),
      ("max_capacity", some (.integer settings.maxCapacity.toNat)),
      ("max_concurrent_loads", some (.integer settings.maxConcurrentLoads.toNat))]
  have distinct : (fields.map Prod.fst).Nodup := by
    show ["expire_after_access_secs", "expire_after_write_secs", "max_capacity",
      "max_concurrent_loads"].Nodup
    decide
  have maxCapacity : defaulted (membersOf fields) "max_capacity" usual.maxCapacity word? =
      some settings.maxCapacity :=
    (defaulted_membersOf distinct (.integer settings.maxCapacity.toNat) (by simp [fields]) _).trans
      (word?_integer settings.maxCapacity)
  have writeExpiry : defaulted (membersOf fields) "expire_after_write_secs"
      usual.writeExpirySeconds word? = some settings.writeExpirySeconds :=
    (defaulted_membersOf distinct (.integer settings.writeExpirySeconds.toNat) (by simp [fields])
      _).trans (word?_integer settings.writeExpirySeconds)
  have accessExpiry : optional (membersOf fields) "expire_after_access_secs" word? =
      some settings.accessExpirySeconds :=
    optional_membersOf_orNull distinct (fun seconds : UInt64 => .integer seconds.toNat)
      (by simp [fields]) fun seconds => congrArg (Option.map some) (word?_integer seconds)
  have maxConcurrentLoads : defaulted (membersOf fields) "max_concurrent_loads"
      usual.maxConcurrentLoads word? = some settings.maxConcurrentLoads :=
    (defaulted_membersOf distinct (.integer settings.maxConcurrentLoads.toNat) (by simp [fields])
      _).trans (word?_integer settings.maxConcurrentLoads)
  have members : fields? fieldNames settings.toJson = some (membersOf fields) := rfl
  rw [read?, members]
  simp [maxCapacity, writeExpiry, accessExpiry, maxConcurrentLoads]

theorem LoggingSettings.read?_toJson (settings : LoggingSettings) :
    read? settings.toJson = some settings := by
  let fields : List (String × Option Json) :=
    [("json", some (.bool settings.json)), ("level", some (.string settings.level)),
      ("with_target", some (.bool settings.withTarget))]
  have distinct : (fields.map Prod.fst).Nodup := by
    show ["json", "level", "with_target"].Nodup
    decide
  have level : defaulted (membersOf fields) "level" usual.level text? = some settings.level :=
    defaulted_membersOf distinct (.string settings.level) (by simp [fields]) usual.level
  have json : defaulted (membersOf fields) "json" usual.json boolean? = some settings.json :=
    defaulted_membersOf distinct (.bool settings.json) (by simp [fields]) usual.json
  have withTarget : defaulted (membersOf fields) "with_target" usual.withTarget boolean? =
      some settings.withTarget :=
    defaulted_membersOf distinct (.bool settings.withTarget) (by simp [fields]) usual.withTarget
  have members : fields? fieldNames settings.toJson = some (membersOf fields) := rfl
  rw [read?, members]
  simp [level, json, withTarget]

theorem Settings.read?_toJson (settings : Settings) : read? settings.toJson = some settings := by
  let store : List (String × Option Json) :=
    [("database_url", some ((settings.database.map Json.string).getD .null))]
  let fields : List (String × Option Json) :=
    [("cache", some settings.cache.toJson), ("logging", some settings.logging.toJson),
      ("store", some (.record store))]
  have distinct : (fields.map Prod.fst).Nodup := by
    show ["cache", "logging", "store"].Nodup
    decide
  have cache : defaulted (membersOf fields) "cache" .usual CacheSettings.read? =
      some settings.cache :=
    (defaulted_membersOf distinct settings.cache.toJson (by simp [fields]) _).trans
      settings.cache.read?_toJson
  have logging : defaulted (membersOf fields) "logging" .usual LoggingSettings.read? =
      some settings.logging :=
    (defaulted_membersOf distinct settings.logging.toJson (by simp [fields]) _).trans
      settings.logging.read?_toJson
  have url : readDatabase? (Json.record store) = some settings.database := by
    show optional (membersOf store) "database_url" text? = some settings.database
    exact optional_membersOf_orNull (by simp [store]) .string (by simp [store]) fun _ => rfl
  have database : defaulted (membersOf fields) "store" none readDatabase? =
      some settings.database :=
    (defaulted_membersOf distinct (.record store) (by simp [fields]) none).trans url
  have members : members? settings.toJson = some (membersOf fields) := rfl
  rw [read?, members]
  simp [cache, logging, database]

/-! ### All records -/

/-- **Records read back as they were written.** Every rule, property, schema, product, device and
message and all settings are what is read from the JSON value they are written as. A name of a type
of messages that is not known is read wherever a known one is, as the type `other`; a message that
was read from it is written and read as it is from then on. -/
theorem records_read_back :
    (∀ rule : Rule, Rule.read? rule.toJson = some rule) ∧
    (∀ property : Property, Property.read? property.toJson = some property) ∧
    (∀ schema : Schema, Schema.read? schema.toJson = some schema) ∧
    (∀ product : Product, Product.read? product.toJson = some product) ∧
    (∀ device : Device, Device.read? device.toJson = some device) ∧
    (∀ message : Message, Message.read? message.toJson = some message) ∧
    (∀ settings : Settings, Settings.read? settings.toJson = some settings) ∧
    (∀ name, MessageType.IsUnknown name → ∀ (before after : List (String × Json)),
      let said (name : String) : Json := .object (before ++ ("message_type", .string name) :: after)
      (∀ type : MessageType, Message.read? (said name) =
        (Message.read? (said type.name)).map fun message => { message with type := .other }) ∧
      ∀ message, Message.read? (said name) = some message →
        message.type = .other ∧ Message.read? message.toJson = some message) := by
  refine ⟨Rule.read?_toJson, Property.read?_toJson, Schema.read?_toJson, Product.read?_toJson,
    Device.read?_toJson, Message.read?_toJson, Settings.read?_toJson,
    fun name unknown before after => ?_⟩
  intro said
  have asOther (type : MessageType) : Message.read? (said name) =
      (Message.read? (said type.name)).map fun message => { message with type := .other } := by
    rw [← MessageType.ofName_of_isUnknown unknown]
    exact Message.read?_between before after name type
  refine ⟨asOther, fun message read => ⟨?_, message.read?_toJson⟩⟩
  rw [asOther .event] at read
  obtain ⟨known, -, same⟩ := Option.map_eq_some_iff.mp read
  rw [← same]

/-- A message of a child device, of a type that is not known. -/
theorem records_read_back_child_device :
    let said (name : String) : Json := .object [("device_id", .string "lamp"),
      ("message_type", .string name), ("properties", .object [("on", .bool true)])]
    let message : Message := ⟨.other, "lamp", none, 0, .ofList [("on", .bool true)]⟩
    MessageType.IsUnknown "CHILD_DEVICE" ∧ Message.read? (said "CHILD_DEVICE") = some message ∧
      message.toJson.member? "message_type" = some (.string "OTHER") ∧
        Message.read? message.toJson = some message := by
  intro said message
  have unknown : MessageType.IsUnknown "CHILD_DEVICE" := fun type _ => by cases type <;> decide
  have read := records_read_back.2.2.2.2.2.2.2 "CHILD_DEVICE" unknown
    [("device_id", .string "lamp")] [("properties", .object [("on", .bool true)])]
  have here : Message.read? (said "CHILD_DEVICE") = some message := (read.1 .event).trans rfl
  exact ⟨unknown, here, rfl, (read.2 message here).2⟩

end DeviceMapping
