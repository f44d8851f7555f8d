/-
**Settings.**

The settings of the cache, the log and the rule store. As a document they have one section each; in
merged layers a section may also be the list of its first fields in order, and more.
-/

import DeviceMapping.Settings.Cache
import DeviceMapping.Settings.Logging

namespace DeviceMapping

/-- All settings; without a database the rules are kept in memory. -/
structure Settings where
  cache : CacheSettings
  logging : LoggingSettings
  database : Option String
  deriving DecidableEq

namespace Settings

/-- The settings where nothing else is said. -/
def usual : Settings := ⟨.usual, .usual, none⟩

/-- Refuses a limit of the cache that is zero. -/
def validate (settings : Settings) : Except SettingsError Unit :=
  settings.cache.validate

def toJson (settings : Settings) : Json :=
  .object [("cache", settings.cache.toJson), ("logging", settings.logging.toJson),
    ("store", .object [("database_url", (settings.database.map Json.string).getD .null)])]

/-- The location of a database, read from the section of the store. -/
def readDatabase? {δ : Type} [Document δ] (node : δ) : Option (Option String) := do
  let members ← Document.fields? ["database_url"] node
  Document.optional members "database_url" Document.text?

def read? {δ : Type} [Document δ] (node : δ) : Option Settings := do
  let members ← Document.members? node
  let cache ← Document.defaulted members "cache" .usual CacheSettings.read?
  let logging ← Document.defaulted members "logging" .usual LoggingSettings.read?
  let database ← Document.defaulted members "store" none readDatabase?
  some ⟨cache, logging, database⟩

/-- The sections and the fields of each in order. -/
def sections : List (String × List String) :=
  [("cache", CacheSettings.fieldNames), ("logging", LoggingSettings.fieldNames),
    ("store", ["database_url"])]

/-- A section with its fields by name, where it is written as their list. -/
def namedFields (name : String) (value : Json) : Json :=
  match sections.lookup name, value with
  | some fields, .array items => .object (fields.zip items)
  | _, _ => value

/-- The settings of merged layers. -/
def ofMembers? (members : List (String × Json)) : Option Settings :=
  read? (Json.object (members.map fun member => (member.1, namedFields member.1 member.2)))

end Settings

end DeviceMapping
