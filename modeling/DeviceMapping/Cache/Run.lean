/-
**Runs of the cache.**

Whatever happens to a cache is an event; a run is what a list of events makes of it. An event that
cannot happen changes nothing: a load ends only while it runs, and a call takes a result only once
there is one.
-/

import DeviceMapping.Cache.Basic

namespace DeviceMapping.Cache

variable {α : Type}

/-- What happens to a cache; loads and calls are named by their place. -/
inductive Event (α : Type) where
  | get (device : String)
  | peek (device : String)
  | invalidateAll
  | purge
  | advance (milliseconds : Nat)
  | grant (load : Nat)
  | finish (load : Nat) (result : Except MappingError α)
  | crash (load : Nat)
  | take (call : Nat)
  | abandon (call : Nat)

/-- What an event tells at once. -/
inductive Reply (α : Type) where
  | nothing
  | began (call : Nat)
  | found (entry : Option (Entry α))
  | purged (count : Nat)

/-- The cache after an event, and what the event tells. -/
def step (cache : Cache α) : Event α → Cache α × Reply α
  | .get device => (cache.get device, .began cache.calls.length)
  | .peek device =>
    let (next, entry) := cache.peek device
    (next, .found entry)
  | .invalidateAll => (cache.invalidateAll, .nothing)
  | .purge => (cache.purgeExpired, .purged cache.staleCount)
  | .advance milliseconds => (cache.advance milliseconds, .nothing)
  | .grant load => (cache.grant load, .nothing)
  | .finish load result => (cache.finish load result, .nothing)
  | .crash load => (cache.crash load, .nothing)
  | .take call => (cache.take call, .nothing)
  | .abandon call => (cache.abandon call, .nothing)

/-- The cache after a list of events. -/
def run (cache : Cache α) (events : List (Event α)) : Cache α :=
  events.foldl (fun state event => (state.step event).1) cache

end DeviceMapping.Cache
