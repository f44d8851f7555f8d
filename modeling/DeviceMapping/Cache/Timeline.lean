/-
**The cache on a clock.**

A loader with a state of its own says of every load how long it takes and how it ends. At one moment
everything goes on until nothing can: queued loads get the free permits in the order they came and
call the loader, loads that take no time end at once, and the calls that wait take their results.
Then time moves on to the next load that is due. A call is awaited until it is answered, or until a
deadline, at which it gives up; a deadline that has come already leaves it no time for a load, only
for what is there.
-/

import DeviceMapping.Cache.Basic

namespace DeviceMapping

/-- How long a load takes, in milliseconds, and its result; none where it crashes. -/
structure LoadPlan (α : Type) where
  delay : Nat
  result : Option (Except MappingError α)

/-- A load under way: its place, the time it is due and its result. -/
structure DueLoad (α : Type) where
  load : Nat
  due : Nat
  result : Option (Except MappingError α)

/-- A cache, the state of its loader and the loads under way in the order they began. -/
structure Timeline (σ α : Type) where
  cache : Cache α
  loader : σ
  underWay : List (DueLoad α)

namespace Timeline

variable {σ α : Type}

/-- A cache with nothing under way, at a given time. -/
def new (settings : CacheSettings) (loader : σ) (now : Nat) : Timeline σ α :=
  ⟨{ Cache.new settings with now := now }, loader, []⟩

/-- The time of the clock. -/
def now (timeline : Timeline σ α) : Nat :=
  timeline.cache.now

/-- Moves the clock on to a time. -/
def moveTo (timeline : Timeline σ α) (time : Nat) : Timeline σ α :=
  { timeline with cache := timeline.cache.advance (time - timeline.now) }

/-- Changes the cache. -/
def onCache (timeline : Timeline σ α) (change : Cache α → Cache α) : Timeline σ α :=
  { timeline with cache := change timeline.cache }

/-- Ends a load with its result, or by its crash. -/
def endLoad (timeline : Timeline σ α) (load : Nat) (result : Option (Except MappingError α)) :
    Timeline σ α :=
  timeline.onCache fun cache =>
    match result with
    | some result => cache.finish load result
    | none => cache.crash load

/-- The first load that waits for a permit, with its device, if a permit is free. -/
def nextGrant? (cache : Cache α) : Option (Nat × String) :=
  if cache.freePermits = 0 then none
  else
    (cache.loads.findIdx? fun load => load.phase.isQueued).bind fun load =>
      (cache.loads[load]?).map fun other => (load, other.device)

/-- Grants a permit to a load and calls the loader for its device. -/
def begin (loader : σ → String → σ × LoadPlan α) (timeline : Timeline σ α) (load : Nat)
    (device : String) : Timeline σ α :=
  let (state, plan) := loader timeline.loader device
  let begun := { timeline.onCache (·.grant load) with loader := state }
  if plan.delay = 0 then begun.endLoad load plan.result
  else
    { begun with
      underWay := begun.underWay ++ [⟨load, timeline.now + plan.delay, plan.result⟩] }

/-- Begins queued loads while permits are free, a given number at most. -/
def beginQueued (loader : σ → String → σ × LoadPlan α) : Nat → Timeline σ α → Timeline σ α
  | 0, timeline => timeline
  | limit + 1, timeline =>
    match nextGrant? timeline.cache with
    | some (load, device) => beginQueued loader limit (timeline.begin loader load device)
    | none => timeline

/-- Lets every call that waits take its result, in the order the calls came. -/
def answerCalls (timeline : Timeline σ α) : Timeline σ α :=
  timeline.onCache fun cache => (List.range cache.calls.length).foldl Cache.take cache

/-- Lets everything happen that can happen now. -/
def settle (loader : σ → String → σ × LoadPlan α) (timeline : Timeline σ α) : Timeline σ α :=
  (beginQueued loader timeline.cache.loads.length timeline).answerCalls

/-- Ends the loads that are due. -/
def endDue (timeline : Timeline σ α) : Timeline σ α :=
  let (due, later) := timeline.underWay.partition fun load => decide (load.due ≤ timeline.now)
  due.foldl (fun state load => state.endLoad load.load load.result)
    { timeline with underWay := later }

/-- The time the next load is due. -/
def nextDue? (timeline : Timeline σ α) : Option Nat :=
  (timeline.underWay.map (·.due)).min?

/-- Moves on to a time at which loads are due, and lets happen what follows. -/
def passDue (loader : σ → String → σ × LoadPlan α) (timeline : Timeline σ α) (due : Nat) :
    Timeline σ α :=
  (timeline.moveTo due).endDue.settle loader

/-- Passes the loads due up to a time, at a given number of moments at most, then reaches it. -/
def passUpTo (loader : σ → String → σ × LoadPlan α) (time : Nat) :
    Nat → Timeline σ α → Timeline σ α
  | 0, timeline => timeline.moveTo time
  | moments + 1, timeline =>
    match timeline.nextDue? with
    | some due =>
      if due ≤ time then passUpTo loader time moments (timeline.passDue loader due)
      else timeline.moveTo time
    | none => timeline.moveTo time

/-- Moves on to a time; every load ends at the moment it is due. -/
def advanceTo (loader : σ → String → σ × LoadPlan α) (timeline : Timeline σ α) (time : Nat) :
    Timeline σ α :=
  passUpTo loader time (time - timeline.now + 1) timeline

/-- The answer to a call. -/
def answerTo (timeline : Timeline σ α) (call : Nat) : Option (Nat × Except MappingError α) :=
  (timeline.cache.calls[call]?).bind Call.answer?

/-- Moves on from one due load to the next until a call is answered, a given number of moments at
most; at its deadline the call gives up. -/
def awaitCall (loader : σ → String → σ × LoadPlan α) (deadline : Option Nat) (call : Nat) :
    Nat → Timeline σ α → Timeline σ α
  | 0, timeline => timeline
  | moments + 1, timeline =>
    match timeline.answerTo call, timeline.nextDue?, deadline with
    | some _, _, _ => timeline
    | none, some due, none => awaitCall loader deadline call moments (timeline.passDue loader due)
    | none, none, none => timeline
    | none, some due, some time =>
      if due < time then awaitCall loader deadline call moments (timeline.passDue loader due)
      else (timeline.moveTo time).onCache (·.abandon call)
    | none, none, some time => (timeline.moveTo time).onCache (·.abandon call)

/-- Lets time pass until a call is answered or gives up. -/
def await (loader : σ → String → σ × LoadPlan α) (timeline : Timeline σ α)
    (deadline : Option Nat) (call : Nat) : Timeline σ α :=
  awaitCall loader deadline call (timeline.cache.loads.length + 1) timeline

/-- Begins a call and lets happen what can happen now; the call is the last one. -/
def get (loader : σ → String → σ × LoadPlan α) (timeline : Timeline σ α) (device : String) :
    Timeline σ α :=
  (timeline.onCache (·.get device)).settle loader

/-- Begins a call, the last one, and awaits its answer until a deadline. -/
def getUntil (loader : σ → String → σ × LoadPlan α) (timeline : Timeline σ α) (deadline : Nat)
    (device : String) : Timeline σ α :=
  let call := timeline.cache.calls.length
  let begun := timeline.onCache fun cache => (cache.get device).take call
  if timeline.now < deadline then (begun.settle loader).await loader (some deadline) call
  else begun.onCache (·.abandon call)

end Timeline

end DeviceMapping
