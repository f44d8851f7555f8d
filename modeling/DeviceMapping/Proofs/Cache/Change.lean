/-
**What one event can do to a cache.**

`Change before event after` lists the ways an event can turn out, each with what must hold for it;
an event that cannot happen leaves the cache as it is. Every event turns out in one of these ways
(`change_step`), so what holds in all of them holds after every step.
-/

import DeviceMapping.Proofs.Cache.Slots

namespace DeviceMapping.Cache

variable {α : Type}

/-- The cache once a load has its answer and its permit is free again. -/
def withAnswer (cache : Cache α) (load : Nat) (result : Except MappingError α) : Cache α :=
  { cache.setPhase load (.answered result) with freePermits := cache.freePermits + 1 }

/-- The cache before and after an event. -/
inductive Change (before : Cache α) : Event α → Cache α → Prop
  | joined (device : String) (load : Nat)
      (held : before.slots.get? device = some (.loading load)) :
      Change before (.get device) (before.join load)
  | hit (device : String) (entry : Entry α)
      (ready : before.slots.get? device = some (.ready entry))
      (fresh : before.isExpired entry = false) :
      Change before (.get device) (before.hit device entry)
  | began (device : String) (free : ∀ load, before.slots.get? device ≠ some (.loading load))
      (expired : ∀ entry, before.slots.get? device = some (.ready entry) →
        before.isExpired entry = true) :
      Change before (.get device) ((before.startLoad device).join before.loads.length)
  | found (device : String) (entry : Entry α)
      (ready : before.slots.get? device = some (.ready entry))
      (fresh : before.isExpired entry = false) :
      Change before (.peek device) (before.touch device entry)
  | missed (device : String) (absent : before.fresh? device = none) :
      Change before (.peek device) before
  | dropped : Change before .invalidateAll before.invalidateAll
  | purged : Change before .purge before.purgeExpired
  | advanced (milliseconds : Nat) :
      Change before (.advance milliseconds) (before.advance milliseconds)
  | granted (load : Nat) (device : String)
      (queued : before.loads[load]? = some ⟨device, .queued⟩) (free : 0 < before.freePermits) :
      Change before (.grant load)
        { before.setPhase load .running with freePermits := before.freePermits - 1 }
  | refused (load : Nat)
      (notFree : ∀ device : String, before.loads[load]? = some ⟨device, .queued⟩ →
        before.freePermits = 0) :
      Change before (.grant load) before
  | stored (load : Nat) (device : String) (value : α)
      (running : before.loads[load]? = some ⟨device, .running⟩) :
      Change before (.finish load (.ok value))
        ((before.withAnswer load (.ok value)).store device load value)
  | failed (load : Nat) (device : String) (fault : MappingError)
      (running : before.loads[load]? = some ⟨device, .running⟩) :
      Change before (.finish load (.error fault))
        ((before.withAnswer load (.error fault)).fail device load)
  | unfinished (load : Nat) (result : Except MappingError α)
      (notRunning : ∀ device : String, before.loads[load]? ≠ some ⟨device, .running⟩) :
      Change before (.finish load result) before
  | crashed (load : Nat) (device : String)
      (running : before.loads[load]? = some ⟨device, .running⟩) :
      Change before (.crash load)
        { before.setPhase load (.crashed false) with freePermits := before.freePermits + 1 }
  | uncrashed (load : Nat)
      (notRunning : ∀ device : String, before.loads[load]? ≠ some ⟨device, .running⟩) :
      Change before (.crash load) before
  | taken (call load : Nat) (result : Except MappingError α)
      (waiting : before.calls[call]? = some (.waiting load))
      (ended : before.resultOf load = some result)
      (known : ∀ device : String, before.loads[load]? ≠ some ⟨device, .crashed false⟩) :
      Change before (.take call)
        { before with calls := before.calls.set call (.answered load result) }
  | noticed (call load : Nat) (device : String)
      (waiting : before.calls[call]? = some (.waiting load))
      (unknown : before.loads[load]? = some ⟨device, .crashed false⟩) :
      Change before (.take call)
        { (before.setPhase load (.crashed true)).fail device load with
          calls := before.calls.set call (.answered load (.error .loadCrashed)) }
  | untaken (call : Nat)
      (notEnded : ∀ load, before.calls[call]? = some (.waiting load) →
        before.resultOf load = none) :
      Change before (.take call) before
  | abandoned (call load : Nat) (waiting : before.calls[call]? = some (.waiting load)) :
      Change before (.abandon call)
        { before with calls := before.calls.set call (.abandoned load) }
  | unabandoned (call : Nat)
      (notWaiting : ∀ load, before.calls[call]? ≠ some (.waiting load)) :
      Change before (.abandon call) before

section Operations

variable (cache : Cache α)

/-- A call joins the load that holds the slot, is answered by a fresh entry, or starts a load. -/
theorem change_get (device : String) : Change cache (.get device) (cache.get device) := by
  unfold get
  split
  · rename_i load held
    exact .joined device load held
  · rename_i entry ready
    split
    · rename_i expired
      refine .began device (fun load held => ?_) fun other same => ?_
      · rw [ready] at held
        cases held
      · rw [ready] at same
        cases same
        exact expired
    · rename_i fresh
      exact .hit device entry ready (Bool.eq_false_iff.mpr fresh)
  · rename_i empty
    refine .began device (fun load held => ?_) fun other same => ?_
    · rw [empty] at held
      cases held
    · rw [empty] at same
      cases same

theorem change_peek (device : String) : Change cache (.peek device) (cache.peek device).1 := by
  unfold peek
  split
  · rename_i entry fresh
    obtain ⟨ready, notExpired⟩ := fresh?_eq_some fresh
    exact .found device entry ready notExpired
  · rename_i absent
    exact .missed device absent

theorem change_grant (load : Nat) : Change cache (.grant load) (cache.grant load) := by
  unfold grant
  split
  · rename_i device queued
    split
    · rename_i free
      exact .granted load device queued free
    · rename_i notFree
      exact .refused load fun _ _ => Nat.eq_zero_of_not_pos notFree
  · rename_i notQueued
    exact .refused load fun device queued => (notQueued device queued).elim

theorem change_finish (load : Nat) (result : Except MappingError α) :
    Change cache (.finish load result) (cache.finish load result) := by
  unfold finish
  split
  · rename_i device running
    cases result with
    | ok value => exact .stored load device value running
    | error fault => exact .failed load device fault running
  · rename_i notRunning
    exact .unfinished load result notRunning

theorem change_crash (load : Nat) : Change cache (.crash load) (cache.crash load) := by
  unfold crash
  split
  · rename_i device running
    exact .crashed load device running
  · rename_i notRunning
    exact .uncrashed load notRunning

/-- A call whose load has ended takes the result and notices the crash, if it was one. -/
theorem change_take (call : Nat) : Change cache (.take call) (cache.take call) := by
  unfold take
  split
  · rename_i load waiting
    split
    · rename_i result ended
      unfold notice
      split
      · rename_i device unknown
        rw [resultOf_of_getElem? unknown] at ended
        cases ended
        exact .noticed call load device waiting unknown
      · rename_i known
        exact .taken call load result waiting ended known
    · rename_i notEnded
      refine .untaken call fun other waiting' => ?_
      rw [waiting] at waiting'
      cases waiting'
      exact notEnded
  · rename_i notWaiting
    exact .untaken call fun load waiting => (notWaiting load waiting).elim

theorem change_abandon (call : Nat) : Change cache (.abandon call) (cache.abandon call) := by
  unfold abandon
  split
  · rename_i load waiting
    exact .abandoned call load waiting
  · rename_i notWaiting
    exact .unabandoned call notWaiting

/-- Every event turns out in one of the ways listed. -/
theorem change_step (event : Event α) : Change cache event (cache.step event).1 := by
  cases event with
  | get device => exact change_get cache device
  | peek device => exact change_peek cache device
  | invalidateAll => exact .dropped
  | purge => exact .purged
  | advance milliseconds => exact .advanced milliseconds
  | grant load => exact change_grant cache load
  | finish load result => exact change_finish cache load result
  | crash load => exact change_crash cache load
  | take call => exact change_take cache call
  | abandon call => exact change_abandon cache call

end Operations

end DeviceMapping.Cache
