/-
**The mapping service.**

The registry, a rule store with its feed of changes, and a cache of resolved mappings with its
listener on the feed. A payload is mapped by the details that the cache has for its device; where
they cannot be had it stays as it is. Resolving a mapping takes no time on the clock, so a call of
the cache is answered at the moment it begins.
-/

import DeviceMapping.Cache.Listener
import DeviceMapping.Cache.Timeline
import DeviceMapping.Mapping.Binding
import DeviceMapping.Mapping.Payload
import DeviceMapping.Mapping.Resolution
import DeviceMapping.Thing.Message

namespace DeviceMapping

/-- A service, with the number of transformations that fell back to the raw value so far. -/
structure Service (σ : Type) where
  registry : Registry
  store : σ
  feed : Feed
  listener : Option Subscriber
  timeline : Timeline Unit (List Detail)
  failures : Nat

namespace Service

variable {σ : Type} [RuleStore σ]

/-- A service whose cache listens to the feed if wanted. -/
def new (registry : Registry) (store : σ) (settings : CacheSettings) (listening : Bool) :
    Service σ :=
  let feed := Feed.new Feed.usualCapacity
  ⟨registry, store, feed, if listening then some feed.subscribe else none,
    Timeline.new settings () 0, 0⟩

/-- The loader of the cache resolves the mapping of a device. -/
def loader (registry : Registry) (store : σ) (_ : Unit) (device : String) :
    Unit × LoadPlan (List Detail) :=
  ((), ⟨0, some (Resolution.resolve registry store device)⟩)

/-- Changes the cache. -/
def onCache (service : Service σ) (change : Cache (List Detail) → Cache (List Detail)) :
    Service σ :=
  { service with timeline := service.timeline.onCache change }

/-- Lets all loads and calls of the cache go on that can. -/
def settle (service : Service σ) : Service σ :=
  { service with
    timeline := service.timeline.settle (loader service.registry service.store) }

/-- Puts the store after a write in place and publishes its signals. -/
def wrote (service : Service σ) (store : σ) (signals : List RuleChange) : Service σ :=
  { service with store := store, feed := service.feed.publishAll signals }

/-- The listener receives all there is. -/
def listen (service : Service σ) : Service σ :=
  match service.listener with
  | none => service
  | some listener =>
    let (cache, listener) := service.timeline.cache.listenAll service.feed listener
    { service.onCache fun _ => cache with listener := some listener }

/-- The details of a device, from the cache. -/
def details (service : Service σ) (device : String) :
    Service σ × Except MappingError (List Detail) :=
  let call := service.timeline.cache.calls.length
  let called := (service.onCache (·.get device)).settle
  (called, match called.timeline.answerTo call with
    | some (_, result) => result
    | none => .error .loadCrashed)

/-- Maps a payload by details, if there are any, and counts the fallbacks. -/
def mapBy (service : Service σ) (details : Option (List Detail)) (raw : Table Json) :
    Service σ × Table Json :=
  match details with
  | some details =>
    let mapped := Payload.map raw details
    ({ service with failures := service.failures + mapped.failures }, mapped.properties)
  | none => (service, raw)

/-- Maps a payload of a device. -/
def transform (service : Service σ) (device : String) (raw : Table Json) :
    Service σ × Table Json :=
  let (called, details) := service.details device
  called.mapBy details.toOption raw

/-- Maps the properties of a message, if it is of a type whose properties are mapped. -/
def transformMessage (service : Service σ) (message : Message) : Service σ × Message :=
  if message.type.carriesMappedProperties then
    let (after, properties) := service.transform message.deviceId message.properties
    (after, { message with properties := properties })
  else (service, message)

/-- Saves the rules of a device. -/
def saveDevice (service : Service σ) (device : String) (rules : List Rule) :
    Service σ × Except MappingError Binding.Summary :=
  match Binding.saveDevice service.registry service.store device rules with
  | .ok saved => (service.wrote saved.store saved.signals, .ok saved.summary)
  | .error error => (service, .error error)

/-- Saves the rules of a product. -/
def saveProduct (service : Service σ) (product : String) (rules : List Rule) :
    Service σ × Except MappingError Binding.Summary :=
  match Binding.saveProduct service.registry service.store product rules with
  | .ok saved => (service.wrote saved.store saved.signals, .ok saved.summary)
  | .error error => (service, .error error)

end Service

end DeviceMapping
