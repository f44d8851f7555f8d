/-
**The mapping cache.**

A device has at most one slot: it is loading, or it holds an entry. A `get` finds a fresh entry and
answers with it, joins the load its slot waits for, or starts a load; so one load serves all calls
that come while it is under way. Loads queue for permits, run, and end with an answer or with a
crash. An answer is stored only while its own load still holds the slot, a failure frees the slot,
and a crash comes to light when the first call takes the result. Dropping everything empties the
slots and leaves the loads under way; nothing holds a slot for them any more.

Entries expire some time after they were written, and if wanted some time after they were last
read. Past the capacity the expired entries go first, then those that were read longest ago.
-/

import DeviceMapping.Mapping.Error
import DeviceMapping.Settings.Cache
import DeviceMapping.Table

namespace DeviceMapping

/-- A value in the cache: the load it comes from and the times it was written and last read. -/
structure Entry (α : Type) where
  value : α
  load : Nat
  writtenAt : Nat
  accessedAt : Nat

/-- The slot of a device: a load holds it, or an entry fills it. -/
inductive Slot (α : Type) where
  | loading (load : Nat)
  | ready (entry : Entry α)

namespace Slot

def content? {α : Type} : Slot α → Option (Entry α)
  | ready entry => some entry
  | loading _ => none

end Slot

/-- Where a load stands; a crash is noticed by the first call that takes its result. -/
inductive Phase (α : Type) where
  | queued
  | running
  | answered (result : Except MappingError α)
  | crashed (noticed : Bool)

namespace Phase

variable {α : Type}

/-- What the calls that wait for a load get once it has ended. -/
def result? : Phase α → Option (Except MappingError α)
  | answered result => some result
  | crashed _ => some (.error .loadCrashed)
  | queued | running => none

def isQueued : Phase α → Bool
  | queued => true
  | _ => false

def isRunning : Phase α → Bool
  | running => true
  | _ => false

end Phase

/-- A load of the mapping of a device. -/
structure Load (α : Type) where
  device : String
  phase : Phase α

/-- Where a call of `get` stands; every call but an abandoned one is answered by one load. -/
inductive Call (α : Type) where
  | hit (load : Nat) (value : α)
  | waiting (load : Nat)
  | answered (load : Nat) (result : Except MappingError α)
  | abandoned (load : Nat)

namespace Call

variable {α : Type}

/-- The load that a call depends on. -/
def load : Call α → Nat
  | hit load _ | waiting load | answered load _ | abandoned load => load

/-- The load of an answered call and its answer. -/
def answer? : Call α → Option (Nat × Except MappingError α)
  | hit load value => some (load, .ok value)
  | answered load result => some (load, result)
  | waiting _ | abandoned _ => none

end Call

/-- What the cache has counted. -/
structure Counters where
  hits : Nat
  misses : Nat
  loads : Nat
  failures : Nat
  invalidations : Nat
  evictions : Nat
  deriving DecidableEq

/-- The cache at one moment, in milliseconds. Loads and calls are known by their place in the lists
of all there ever were. -/
structure Cache (α : Type) where
  settings : CacheSettings
  now : Nat
  slots : Table (Slot α)
  loads : List (Load α)
  calls : List (Call α)
  freePermits : Nat
  counters : Counters

namespace Cache

variable {α : Type}

/-- A cache that has done nothing. -/
def new (settings : CacheSettings) : Cache α :=
  ⟨settings, 0, .empty, [], [], settings.permits, ⟨0, 0, 0, 0, 0, 0⟩⟩

/-! ### Expiry -/

/-- The entry has outlived its write, or its last read. -/
def isExpired (cache : Cache α) (entry : Entry α) : Bool :=
  decide (cache.settings.writeExpiry ≤ cache.now - entry.writtenAt) ||
    match cache.settings.accessExpiry with
    | some idle => decide (idle ≤ cache.now - entry.accessedAt)
    | none => false

/-- The slot holds an entry that has expired. -/
def isStale (cache : Cache α) (slot : Slot α) : Bool :=
  match slot with
  | .ready entry => cache.isExpired entry
  | .loading _ => false

/-- The entry of a device that has not expired. -/
def fresh? (cache : Cache α) (device : String) : Option (Entry α) :=
  ((cache.slots.get? device).bind Slot.content?).filter fun entry => !cache.isExpired entry

/-- The cache after an entry was read. -/
def touch (cache : Cache α) (device : String) (entry : Entry α) : Cache α :=
  { cache with
    slots := cache.slots.insert device (.ready { entry with accessedAt := cache.now }) }

/-- Removes the expired entries. -/
def purgeExpired (cache : Cache α) : Cache α :=
  { cache with slots := cache.slots.filter fun _ slot => !cache.isStale slot }

/-! ### Capacity -/

/-- The devices that have an entry, with its last read, in the order of the reads. -/
def byLastRead (cache : Cache α) : List (String × Nat) :=
  (cache.slots.entries.filterMap fun slot =>
    slot.2.content?.map fun entry => (slot.1, entry.accessedAt)).mergeSort
      fun first second => decide (first.2 ≤ second.2)

/-- Removes the entries that were read longest ago, as many as there are slots too many. -/
def evictOldest (cache : Cache α) : Cache α :=
  let excess := cache.slots.size - cache.settings.maxCapacity.toNat
  let victims := cache.byLastRead.take excess
  { cache with
    slots := victims.foldl (fun slots victim => slots.erase victim.1) cache.slots
    counters := { cache.counters with
      evictions := cache.counters.evictions + victims.length } }

/-- Makes room where there are more slots than the capacity. -/
def enforceCapacity (cache : Cache α) : Cache α :=
  if cache.slots.size ≤ cache.settings.maxCapacity.toNat then cache
  else cache.purgeExpired.evictOldest

/-! ### Calls -/

/-- Answers a call with an entry and notes the read. -/
def hit (cache : Cache α) (device : String) (entry : Entry α) : Cache α :=
  let touched := cache.touch device entry
  { touched with
    calls := cache.calls ++ [.hit entry.load entry.value]
    counters := { cache.counters with hits := cache.counters.hits + 1 } }

/-- Lets a call wait for a load. -/
def join (cache : Cache α) (load : Nat) : Cache α :=
  { cache with
    calls := cache.calls ++ [.waiting load]
    counters := { cache.counters with misses := cache.counters.misses + 1 } }

/-- Starts a load that holds the slot of its device. -/
def startLoad (cache : Cache α) (device : String) : Cache α :=
  { cache with
    slots := cache.slots.insert device (.loading cache.loads.length)
    loads := cache.loads ++ [⟨device, .queued⟩]
    counters := { cache.counters with loads := cache.counters.loads + 1 } }

/-- Begins a call; it becomes the last of the calls. -/
def get (cache : Cache α) (device : String) : Cache α :=
  match cache.slots.get? device with
  | some (.loading load) => cache.join load
  | some (.ready entry) =>
    if cache.isExpired entry then (cache.startLoad device).join cache.loads.length
    else cache.hit device entry
  | none => (cache.startLoad device).join cache.loads.length

/-- The entry of a device, without a load; finding it counts as a read. -/
def peek (cache : Cache α) (device : String) : Cache α × Option (Entry α) :=
  match cache.fresh? device with
  | some entry => (cache.touch device entry, some entry)
  | none => (cache, none)

/-- Drops everything. -/
def invalidateAll (cache : Cache α) : Cache α :=
  { cache with
    slots := .empty
    counters := { cache.counters with invalidations := cache.counters.invalidations + 1 } }

/-- Lets time pass. -/
def advance (cache : Cache α) (milliseconds : Nat) : Cache α :=
  { cache with now := cache.now + milliseconds }

/-- The number of expired entries. -/
def staleCount (cache : Cache α) : Nat :=
  cache.slots.entries.countP fun slot => cache.isStale slot.2

/-! ### Loads -/

/-- The load that holds the slot of a device. -/
def isHeldBy (cache : Cache α) (device : String) (load : Nat) : Bool :=
  match cache.slots.get? device with
  | some (.loading holder) => holder == load
  | _ => false

/-- The cache with a load in another phase. -/
def setPhase (cache : Cache α) (load : Nat) (phase : Phase α) : Cache α :=
  { cache with loads := cache.loads.modify load fun other => { other with phase := phase } }

/-- Stores the value of a load that still holds the slot of its device. -/
def store (cache : Cache α) (device : String) (load : Nat) (value : α) : Cache α :=
  if cache.isHeldBy device load then
    enforceCapacity
      { cache with
        slots := cache.slots.insert device (.ready ⟨value, load, cache.now, cache.now⟩) }
  else cache

/-- Counts a failure and frees the slot if the load still holds it. -/
def fail (cache : Cache α) (device : String) (load : Nat) : Cache α :=
  { cache with
    slots := if cache.isHeldBy device load then cache.slots.erase device else cache.slots
    counters := { cache.counters with failures := cache.counters.failures + 1 } }

/-- Gives a queued load one of the free permits. -/
def grant (cache : Cache α) (load : Nat) : Cache α :=
  match cache.loads[load]? with
  | some ⟨_, .queued⟩ =>
    if 0 < cache.freePermits then
      { cache.setPhase load .running with freePermits := cache.freePermits - 1 }
    else cache
  | _ => cache

/-- Ends a running load with an answer; its permit is free again. -/
def finish (cache : Cache α) (load : Nat) (result : Except MappingError α) : Cache α :=
  match cache.loads[load]? with
  | some ⟨device, .running⟩ =>
    let ended :=
      { cache.setPhase load (.answered result) with freePermits := cache.freePermits + 1 }
    match result with
    | .ok value => ended.store device load value
    | .error _ => ended.fail device load
  | _ => cache

/-- Ends a running load without an answer; its permit is free again. -/
def crash (cache : Cache α) (load : Nat) : Cache α :=
  match cache.loads[load]? with
  | some ⟨_, .running⟩ =>
    { cache.setPhase load (.crashed false) with freePermits := cache.freePermits + 1 }
  | _ => cache

/-- Brings the crash of a load to light; later calls find nothing new. -/
def notice (cache : Cache α) (load : Nat) : Cache α :=
  match cache.loads[load]? with
  | some ⟨device, .crashed false⟩ => (cache.setPhase load (.crashed true)).fail device load
  | _ => cache

/-- What the load of a waiting call has ended with. -/
def resultOf (cache : Cache α) (load : Nat) : Option (Except MappingError α) :=
  (cache.loads[load]?).bind fun other => other.phase.result?

/-- Lets a waiting call take the result of its load, once the load has ended. -/
def take (cache : Cache α) (call : Nat) : Cache α :=
  match cache.calls[call]? with
  | some (.waiting load) =>
    match cache.resultOf load with
    | some result =>
      { cache.notice load with calls := cache.calls.set call (.answered load result) }
    | none => cache
  | _ => cache

/-- Lets a waiting call give up; its load goes on. -/
def abandon (cache : Cache α) (call : Nat) : Cache α :=
  match cache.calls[call]? with
  | some (.waiting load) => { cache with calls := cache.calls.set call (.abandoned load) }
  | _ => cache

end Cache

end DeviceMapping
