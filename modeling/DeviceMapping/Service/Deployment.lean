/-
**A service whose parts go on beside each other.**

Rules are written, the listener of the cache receives their signals, and every load reads the rules
at one moment and ends at a later one. An event is one step of one part, a run is any list of
events; an event that cannot happen changes nothing. The registry stays as it is.

A write is one event, from its first rule to the signal behind its last, and no other part has its
turn in between; so no load reads rules of which only some are written. The steps of a write, between
which others can look at the rules, are in `Store/Course`.
-/

import DeviceMapping.Cache.Listener
import DeviceMapping.Cache.Run
import DeviceMapping.Mapping.Resolution
import DeviceMapping.Store.Memory

namespace DeviceMapping

/-- A registry, a rule store with its feed, a cache with its listener, and what each load has
resolved from the rules it read. -/
structure Deployment where
  registry : Registry
  store : MemoryStore
  feed : Feed
  listener : Subscriber
  cache : Cache (List Detail)
  resolved : List (Nat × Except MappingError (List Detail))

namespace Deployment

/-- A deployment without rules, whose listener is subscribed before the first write. -/
def new (registry : Registry) (capacity : Nat) (settings : CacheSettings) : Deployment :=
  ⟨registry, .empty, .new capacity, (Feed.new capacity).subscribe, .new settings, []⟩

/-- What happens to a deployment. -/
inductive Event where
  | write (write : RuleWrite)
  | listen
  | get (device : String)
  | peek (device : String)
  | purge
  | advance (milliseconds : Nat)
  | grant (load : Nat)
  | resolve (load : Nat)
  | finish (load : Nat)
  | take (call : Nat)
  | abandon (call : Nat)

/-- Changes the cache by what happens to it. -/
def onCache (deployment : Deployment) (event : Cache.Event (List Detail)) : Deployment :=
  { deployment with cache := (deployment.cache.step event).1 }

/-- Writes to the store, then publishes the signal. -/
def write (deployment : Deployment) (write : RuleWrite) : Deployment :=
  let (store, written) := write.applyTo deployment.store
  { deployment with
    store := store
    feed := deployment.feed.publishAll written.signal.toList }

/-- The listener receives a signal or a notice, if there is one. -/
def listen (deployment : Deployment) : Deployment :=
  let (cache, listener) := deployment.cache.listen deployment.feed deployment.listener
  { deployment with cache := cache, listener := listener }

/-- A running load that has resolved nothing yet resolves its device from the rules now stored. -/
def resolve (deployment : Deployment) (load : Nat) : Deployment :=
  match deployment.cache.loads[load]?, deployment.resolved.lookup load with
  | some ⟨device, .running⟩, none =>
    let result := Resolution.resolve deployment.registry deployment.store device
    { deployment with resolved := deployment.resolved ++ [(load, result)] }
  | _, _ => deployment

/-- A load ends with what it resolved. -/
def finish (deployment : Deployment) (load : Nat) : Deployment :=
  match deployment.resolved.lookup load with
  | some result => deployment.onCache (.finish load result)
  | none => deployment

def step (deployment : Deployment) : Event → Deployment
  | .write write => deployment.write write
  | .listen => deployment.listen
  | .get device => deployment.onCache (.get device)
  | .peek device => deployment.onCache (.peek device)
  | .purge => deployment.onCache .purge
  | .advance milliseconds => deployment.onCache (.advance milliseconds)
  | .grant load => deployment.onCache (.grant load)
  | .resolve load => deployment.resolve load
  | .finish load => deployment.finish load
  | .take call => deployment.onCache (.take call)
  | .abandon call => deployment.onCache (.abandon call)

/-- The deployment after a list of events. -/
def run (deployment : Deployment) (events : List Event) : Deployment :=
  events.foldl step deployment

/-- The listener has received every signal. -/
def isQuiet (deployment : Deployment) : Bool :=
  (deployment.feed.receive deployment.listener).isNone

end Deployment

end DeviceMapping
