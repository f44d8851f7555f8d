/-
**Settings of the mapping cache.**

How many devices are cached, how long an entry lives after it was written and, if wanted, after it
was last read, and how many loads run at once. Every limit must be positive; the first that is not
is reported.
-/

import DeviceMapping.Document
import DeviceMapping.Settings.Error

namespace DeviceMapping

/-- The limits of a mapping cache; times are in whole seconds. -/
structure CacheSettings where
  maxCapacity : UInt64
  writeExpirySeconds : UInt64
  accessExpirySeconds : Option UInt64
  maxConcurrentLoads : UInt64
  deriving DecidableEq

namespace CacheSettings

/-- The limits where nothing else is said. -/
def usual : CacheSettings := ⟨10000, 300, none, 16⟩

/-- The milliseconds an entry lives after it was written. -/
def writeExpiry (settings : CacheSettings) : Nat :=
  settings.writeExpirySeconds.toNat * 1000

/-- The milliseconds an entry lives after it was last read. -/
def accessExpiry (settings : CacheSettings) : Option Nat :=
  settings.accessExpirySeconds.map fun seconds => seconds.toNat * 1000

/-- The number of loads that may run at once; at least one. -/
def permits (settings : CacheSettings) : Nat :=
  max 1 settings.maxConcurrentLoads.toNat

/-- Refuses a limit of zero. -/
def validate (settings : CacheSettings) : Except SettingsError Unit := do
  if settings.maxCapacity = 0 then throw (.notPositive "cache.max_capacity")
  if settings.writeExpirySeconds = 0 then throw (.notPositive "cache.expire_after_write_secs")
  if settings.accessExpirySeconds = some 0 then
    throw (.notPositive "cache.expire_after_access_secs")
  if settings.maxConcurrentLoads = 0 then throw (.notPositive "cache.max_concurrent_loads")

def toJson (settings : CacheSettings) : Json :=
  .object [("expire_after_access_secs",
      (settings.accessExpirySeconds.map fun seconds => Json.integer seconds.toNat).getD .null),
    ("expire_after_write_secs", .integer settings.writeExpirySeconds.toNat),
    ("max_capacity", .integer settings.maxCapacity.toNat),
    ("max_concurrent_loads", .integer settings.maxConcurrentLoads.toNat)]

/-- The fields in order. -/
def fieldNames : List String :=
  ["max_capacity", "expire_after_write_secs", "expire_after_access_secs",
    "max_concurrent_loads"]

def read? {δ : Type} [Document δ] (node : δ) : Option CacheSettings := do
  let members ← Document.fields? fieldNames node
  let maxCapacity ← Document.defaulted members "max_capacity" usual.maxCapacity Document.word?
  let writeExpiry ← Document.defaulted members "expire_after_write_secs" usual.writeExpirySeconds
    Document.word?
  let accessExpiry ← Document.optional members "expire_after_access_secs" Document.word?
  let maxConcurrentLoads ← Document.defaulted members "max_concurrent_loads"
    usual.maxConcurrentLoads Document.word?
  some ⟨maxCapacity, writeExpiry, accessExpiry, maxConcurrentLoads⟩

end CacheSettings

end DeviceMapping
