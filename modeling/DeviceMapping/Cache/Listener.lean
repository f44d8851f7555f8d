/-
**The listener of a cache.**

A listener subscribes to the feed of rule changes. The signals name no rule, so every signal, and
every notice that signals were missed, drops all that the cache holds.
-/

import DeviceMapping.Cache.Basic
import DeviceMapping.Store.Feed

namespace DeviceMapping.Cache

variable {α : Type}

/-- One step of the listener: it receives a signal or a notice, if there is one. -/
def listen (cache : Cache α) (feed : Feed) (subscriber : Subscriber) : Cache α × Subscriber :=
  match feed.receive subscriber with
  | some (_, subscriber) => (cache.invalidateAll, subscriber)
  | none => (cache, subscriber)

/-- The listener receives all there is. -/
def listenAll (cache : Cache α) (feed : Feed) (subscriber : Subscriber) : Cache α × Subscriber :=
  let (received, subscriber) := feed.drain subscriber
  (received.foldl (fun cache _ => cache.invalidateAll) cache, subscriber)

end DeviceMapping.Cache
