/-
**Caches that differ by expired entries.**

Two caches are alike (`Alike`) if they agree in everything but the expired entries that their slots
still hold; what counts of a slot is whether a load holds it or an entry that has not expired
(`live?`).

* `alike_purgeExpired`: removing the expired entries leaves a cache like the one before.
* `purgeExpired_enforceCapacity`: it makes no difference to the room made for a new entry whether
  the expired entries went before.
* `Alike.step`: alike caches answer every event alike, and they are alike after it. Time only adds
  to what has expired (`isExpired_advance`), and every other event reads live slots alone.
-/

import DeviceMapping.Proofs.Cache.Capacity

namespace DeviceMapping.Cache

variable {α : Type}

/-! ### Live slots -/

/-- The slot of a device, unless it holds an expired entry. -/
def live? (cache : Cache α) (device : String) : Option (Slot α) :=
  (cache.slots.get? device).filter fun slot => !cache.isStale slot

section Live

variable {cache : Cache α} {device : String}

theorem get?_purgeExpired (cache : Cache α) (device : String) :
    cache.purgeExpired.slots.get? device = cache.live? device :=
  Table.get?_filter cache.slots _ device

@[simp] theorem live?_purgeExpired (cache : Cache α) (device : String) :
    cache.purgeExpired.live? device = cache.live? device := by
  have stale : cache.purgeExpired.isStale = cache.isStale := rfl
  rw [live?, get?_purgeExpired, stale, live?, Option.filter_filter]
  simp

theorem live?_eq_loading_iff {load : Nat} :
    cache.live? device = some (.loading load) ↔
      cache.slots.get? device = some (.loading load) := by
  rw [live?, Option.filter_eq_some_iff]
  exact and_iff_left rfl

theorem live?_eq_ready_iff {entry : Entry α} :
    cache.live? device = some (.ready entry) ↔
      cache.slots.get? device = some (.ready entry) ∧ cache.isExpired entry = false := by
  rw [live?, Option.filter_eq_some_iff]
  simp [isStale]

theorem fresh?_eq_live? (cache : Cache α) (device : String) :
    cache.fresh? device = (cache.live? device).bind Slot.content? := by
  unfold fresh? live?
  cases cache.slots.get? device with
  | none => rfl
  | some slot =>
    cases slot with
    | loading load => rfl
    | ready entry =>
      by_cases expired : cache.isExpired entry = true
      · simp [isStale, Slot.content?, Option.filter, expired]
      · simp [isStale, Slot.content?, Option.filter, expired]

theorem isHeldBy_eq_of_live? {second : Cache α}
    (same : second.live? device = cache.live? device) (load : Nat) :
    second.isHeldBy device load = cache.isHeldBy device load := by
  rw [Bool.eq_iff_iff, isHeldBy_iff, isHeldBy_iff, ← live?_eq_loading_iff, same,
    live?_eq_loading_iff]

theorem live?_insert (cache : Cache α) (device other : String) (slot : Slot α) :
    ({ cache with slots := cache.slots.insert device slot }).live? other =
      if other = device then (some slot).filter fun slot => !cache.isStale slot
      else cache.live? other := by
  show ((cache.slots.insert device slot).get? other).filter (fun slot => !cache.isStale slot) = _
  rw [Table.get?_insert]
  split <;> rfl

theorem live?_erase (cache : Cache α) (device other : String) :
    ({ cache with slots := cache.slots.erase device }).live? other =
      if other = device then none else cache.live? other := by
  show ((cache.slots.erase device).get? other).filter (fun slot => !cache.isStale slot) = _
  rw [Table.get?_erase]
  split <;> rfl

theorem live?_invalidateAll (cache : Cache α) (device : String) :
    cache.invalidateAll.live? device = none := rfl

/-- An entry that has expired stays so. -/
theorem isExpired_advance {entry : Entry α} (expired : cache.isExpired entry = true)
    (milliseconds : Nat) : (cache.advance milliseconds).isExpired entry = true := by
  have settings : (cache.advance milliseconds).settings = cache.settings := rfl
  have now : (cache.advance milliseconds).now = cache.now + milliseconds := rfl
  unfold isExpired at *
  rw [settings, now]
  cases idle : cache.settings.accessExpiry with
  | none =>
    simp [idle] at *
    omega
  | some idle =>
    simp [idle] at *
    omega

theorem live?_advance (cache : Cache α) (milliseconds : Nat) (device : String) :
    (cache.advance milliseconds).live? device =
      (cache.live? device).filter fun slot => !(cache.advance milliseconds).isStale slot := by
  have slots : (cache.advance milliseconds).slots = cache.slots := rfl
  rw [live?, live?, slots, Option.filter_filter]
  congr 1
  funext slot
  cases slot with
  | loading load => rfl
  | ready entry =>
    cases expired : cache.isExpired entry with
    | false => simp [isStale, expired]
    | true => simp [isStale, expired, isExpired_advance expired]

end Live

/-! ### Alike caches -/

attribute [ext] Cache

/-- The caches agree in everything but the expired entries that their slots may hold. -/
structure Alike (first second : Cache α) : Prop where
  settings_eq : second.settings = first.settings
  now_eq : second.now = first.now
  loads_eq : second.loads = first.loads
  calls_eq : second.calls = first.calls
  freePermits_eq : second.freePermits = first.freePermits
  counters_eq : second.counters = first.counters
  live?_eq : ∀ device, second.live? device = first.live? device

theorem Alike.refl (cache : Cache α) : Alike cache cache :=
  ⟨rfl, rfl, rfl, rfl, rfl, rfl, fun _ => rfl⟩

theorem Alike.symm {first second : Cache α} (alike : Alike first second) : Alike second first :=
  ⟨alike.settings_eq.symm, alike.now_eq.symm, alike.loads_eq.symm, alike.calls_eq.symm,
    alike.freePermits_eq.symm, alike.counters_eq.symm, fun device => (alike.live?_eq device).symm⟩

theorem Alike.trans {first second third : Cache α} (before : Alike first second)
    (after : Alike second third) : Alike first third :=
  ⟨after.settings_eq.trans before.settings_eq, after.now_eq.trans before.now_eq,
    after.loads_eq.trans before.loads_eq, after.calls_eq.trans before.calls_eq,
    after.freePermits_eq.trans before.freePermits_eq, after.counters_eq.trans before.counters_eq,
    fun device => (after.live?_eq device).trans (before.live?_eq device)⟩

theorem alike_purgeExpired (cache : Cache α) : Alike cache cache.purgeExpired :=
  ⟨rfl, rfl, rfl, rfl, rfl, rfl, live?_purgeExpired cache⟩

/-- Alike caches become the same once the expired entries are removed. -/
theorem Alike.purgeExpired_eq {first second : Cache α} (alike : Alike first second) :
    second.purgeExpired = first.purgeExpired := by
  have slots : second.purgeExpired.slots = first.purgeExpired.slots :=
    Table.ext_get? fun device => by
      rw [get?_purgeExpired, get?_purgeExpired, alike.live?_eq]
  exact Cache.ext alike.settings_eq alike.now_eq slots alike.loads_eq alike.calls_eq
    alike.freePermits_eq alike.counters_eq

/-- Caches are alike exactly if removing the expired entries makes them the same. -/
theorem alike_iff {first second : Cache α} :
    Alike first second ↔ second.purgeExpired = first.purgeExpired := by
  constructor
  · exact Alike.purgeExpired_eq
  · intro same
    have purged := alike_purgeExpired first
    rw [← same] at purged
    exact purged.trans (alike_purgeExpired second).symm

/-! ### What alike caches do -/

theorem get_eq_live? (cache : Cache α) (device : String) :
    cache.get device = match cache.live? device with
      | some (.loading load) => cache.join load
      | some (.ready entry) => cache.hit device entry
      | none => (cache.startLoad device).join cache.loads.length := by
  unfold get live?
  cases cache.slots.get? device with
  | none => rfl
  | some slot =>
    cases slot with
    | loading load => rfl
    | ready entry =>
      by_cases expired : cache.isExpired entry = true
      · simp [isStale, Option.filter, expired]
      · simp [isStale, Option.filter, expired]

namespace Alike

variable {first second : Cache α}

theorem isStale_eq (alike : Alike first second) : second.isStale = first.isStale := by
  funext slot
  unfold isStale isExpired
  rw [alike.settings_eq, alike.now_eq]

theorem insert (alike : Alike first second) (device : String) (slot : Slot α) :
    Alike { first with slots := first.slots.insert device slot }
      { second with slots := second.slots.insert device slot } where
  __ := alike
  live?_eq other := by
    rw [live?_insert, live?_insert, alike.isStale_eq, alike.live?_eq]

theorem erase (alike : Alike first second) (device : String) :
    Alike { first with slots := first.slots.erase device }
      { second with slots := second.slots.erase device } where
  __ := alike
  live?_eq other := by
    rw [live?_erase, live?_erase, alike.live?_eq]

/-- Filling a slot with what depends on the time alone. -/
theorem fill (alike : Alike first second) (device : String) (slot : Nat → Slot α) :
    Alike { first with slots := first.slots.insert device (slot first.now) }
      { second with slots := second.slots.insert device (slot second.now) } := by
  have same : slot second.now = slot first.now := congrArg slot alike.now_eq
  rw [same]
  exact alike.insert device (slot first.now)

theorem touch (alike : Alike first second) (device : String) (entry : Entry α) :
    Alike (first.touch device entry) (second.touch device entry) :=
  alike.fill device fun now => .ready { entry with accessedAt := now }

theorem hit (alike : Alike first second) (device : String) (entry : Entry α) :
    Alike (first.hit device entry) (second.hit device entry) where
  __ := alike.touch device entry
  calls_eq := congrArg (· ++ [Call.hit entry.load entry.value]) alike.calls_eq
  counters_eq := congrArg (fun counters : Counters =>
    { counters with hits := counters.hits + 1 }) alike.counters_eq

theorem join (alike : Alike first second) (load : Nat) :
    Alike (first.join load) (second.join load) where
  __ := alike
  calls_eq := congrArg (· ++ [Call.waiting load]) alike.calls_eq
  counters_eq := congrArg (fun counters : Counters =>
    { counters with misses := counters.misses + 1 }) alike.counters_eq

theorem startLoad (alike : Alike first second) (device : String) :
    Alike (first.startLoad device) (second.startLoad device) := by
  unfold Cache.startLoad
  rw [alike.loads_eq, alike.counters_eq]
  exact { alike.insert device (.loading first.loads.length) with loads_eq := rfl, counters_eq := rfl }

theorem get (alike : Alike first second) (device : String) :
    Alike (first.get device) (second.get device) := by
  rw [get_eq_live?, get_eq_live?, alike.live?_eq, alike.loads_eq]
  split
  · exact alike.join _
  · exact alike.hit device _
  · exact (alike.startLoad device).join _

theorem peek (alike : Alike first second) (device : String) :
    Alike (first.peek device).1 (second.peek device).1 ∧
      (second.peek device).2 = (first.peek device).2 := by
  unfold Cache.peek
  rw [fresh?_eq_live?, fresh?_eq_live?, alike.live?_eq]
  split
  · exact ⟨alike.touch device _, rfl⟩
  · exact ⟨alike, rfl⟩

theorem invalidateAll (alike : Alike first second) :
    Alike first.invalidateAll second.invalidateAll where
  __ := alike
  counters_eq := congrArg (fun counters : Counters =>
    { counters with invalidations := counters.invalidations + 1 }) alike.counters_eq
  live?_eq device := by rw [live?_invalidateAll, live?_invalidateAll]

theorem advance (alike : Alike first second) (milliseconds : Nat) :
    Alike (first.advance milliseconds) (second.advance milliseconds) := by
  have later : (second.advance milliseconds).isStale = (first.advance milliseconds).isStale := by
    funext slot
    unfold Cache.advance isStale isExpired
    rw [alike.settings_eq, alike.now_eq]
  refine { alike with now_eq := congrArg (· + milliseconds) alike.now_eq, live?_eq := ?_ }
  intro device
  rw [live?_advance, live?_advance, alike.live?_eq, later]

theorem setPhase (alike : Alike first second) (load : Nat) (phase : Phase α) :
    Alike (first.setPhase load phase) (second.setPhase load phase) where
  __ := alike
  loads_eq := congrArg (·.modify load fun other => { other with phase := phase }) alike.loads_eq

theorem withPermits (alike : Alike first second) (permits : Nat) :
    Alike { first with freePermits := permits } { second with freePermits := permits } where
  __ := alike
  freePermits_eq := rfl

theorem withCalls (alike : Alike first second) (calls : List (Call α)) :
    Alike { first with calls := calls } { second with calls := calls } where
  __ := alike
  calls_eq := rfl

theorem fail (alike : Alike first second) (device : String) (load : Nat) :
    Alike (first.fail device load) (second.fail device load) := by
  unfold Cache.fail
  rw [isHeldBy_eq_of_live? (alike.live?_eq device), alike.counters_eq]
  split
  · exact { alike.erase device with counters_eq := rfl }
  · exact { alike with counters_eq := rfl }

theorem grant (alike : Alike first second) (load : Nat) :
    Alike (first.grant load) (second.grant load) := by
  unfold Cache.grant
  rw [alike.loads_eq, alike.freePermits_eq]
  split
  · split
    · exact (alike.setPhase load .running).withPermits _
    · exact alike
  · exact alike

theorem crash (alike : Alike first second) (load : Nat) :
    Alike (first.crash load) (second.crash load) := by
  unfold Cache.crash
  rw [alike.loads_eq, alike.freePermits_eq]
  split
  · exact (alike.setPhase load (.crashed false)).withPermits _
  · exact alike

theorem notice (alike : Alike first second) (load : Nat) :
    Alike (first.notice load) (second.notice load) := by
  unfold Cache.notice
  rw [alike.loads_eq]
  split
  · exact (alike.setPhase load (.crashed true)).fail _ load
  · exact alike

theorem take (alike : Alike first second) (call : Nat) :
    Alike (first.take call) (second.take call) := by
  unfold Cache.take resultOf
  rw [alike.calls_eq, alike.loads_eq]
  split
  · split
    · exact (alike.notice _).withCalls _
    · exact alike
  · exact alike

theorem abandon (alike : Alike first second) (call : Nat) :
    Alike (first.abandon call) (second.abandon call) := by
  unfold Cache.abandon
  rw [alike.calls_eq]
  split
  · exact alike.withCalls _
  · exact alike

end Alike

/-! ### Making room -/

theorem purgeExpired_purgeExpired (cache : Cache α) :
    cache.purgeExpired.purgeExpired = cache.purgeExpired :=
  (alike_purgeExpired cache).purgeExpired_eq

theorem size_purgeExpired_le (cache : Cache α) :
    cache.purgeExpired.slots.size ≤ cache.slots.size :=
  List.length_filter_le _ _

theorem evictOldest_of_fits {cache : Cache α}
    (fits : cache.slots.size ≤ cache.settings.maxCapacity.toNat) : cache.evictOldest = cache := by
  unfold evictOldest
  rw [Nat.sub_eq_zero_of_le fits]
  rfl

/-- Whether the expired entries went before makes no difference to the room that is made. -/
theorem alike_enforceCapacity (cache : Cache α) :
    Alike cache.enforceCapacity cache.purgeExpired.enforceCapacity := by
  by_cases fits : cache.slots.size ≤ cache.settings.maxCapacity.toNat
  · have purgedFits : cache.purgeExpired.slots.size ≤ cache.settings.maxCapacity.toNat :=
      Nat.le_trans (size_purgeExpired_le cache) fits
    have first : cache.enforceCapacity = cache := if_pos fits
    have second : cache.purgeExpired.enforceCapacity = cache.purgeExpired := if_pos purgedFits
    rw [first, second]
    exact alike_purgeExpired cache
  · have first : cache.enforceCapacity = cache.purgeExpired.evictOldest := if_neg fits
    have second : cache.purgeExpired.enforceCapacity = cache.purgeExpired.evictOldest := by
      unfold enforceCapacity
      split
      · rename_i purgedFits
        rw [evictOldest_of_fits purgedFits]
      · rw [purgeExpired_purgeExpired]
    rw [first, second]
    exact .refl _

/-- The cache once the slot of a device holds an answer, before room is made. -/
def withEntry (cache : Cache α) (load : Nat) (device : String) (value : α) : Cache α :=
  { cache.withAnswer load (.ok value) with
    slots := cache.slots.insert device (.ready ⟨value, load, cache.now, cache.now⟩) }

namespace Alike

variable {first second : Cache α}

theorem enforceCapacity (alike : Alike first second) :
    Alike first.enforceCapacity second.enforceCapacity := by
  have before := alike_enforceCapacity first
  rw [← alike.purgeExpired_eq] at before
  exact before.trans (alike_enforceCapacity second).symm

theorem withAnswer (alike : Alike first second) (load : Nat) (result : Except MappingError α) :
    Alike (first.withAnswer load result) (second.withAnswer load result) := by
  unfold Cache.withAnswer
  rw [alike.freePermits_eq]
  exact (alike.setPhase load (.answered result)).withPermits _

theorem withEntry (alike : Alike first second) (load : Nat) (device : String) (value : α) :
    Alike (first.withEntry load device value) (second.withEntry load device value) :=
  (alike.withAnswer load (.ok value)).fill device fun now => .ready ⟨value, load, now, now⟩

theorem store (alike : Alike first second) (device : String) (load : Nat) (value : α) :
    Alike (first.store device load value) (second.store device load value) := by
  unfold Cache.store
  rw [isHeldBy_eq_of_live? (alike.live?_eq device)]
  split
  · exact (alike.fill device fun now => .ready ⟨value, load, now, now⟩).enforceCapacity
  · exact alike

theorem finish (alike : Alike first second) (load : Nat) (result : Except MappingError α) :
    Alike (first.finish load result) (second.finish load result) := by
  unfold Cache.finish
  rw [alike.loads_eq]
  split
  · rename_i device running
    cases result with
    | ok value => exact (alike.withAnswer load (.ok value)).store device load value
    | error fault => exact (alike.withAnswer load (.error fault)).fail device load
  · exact alike

/-- Every event but a purge is answered alike by alike caches, and they stay alike. -/
theorem step (alike : Alike first second) {event : Event α} (other : event ≠ .purge) :
    Alike (first.step event).1 (second.step event).1 ∧
      (second.step event).2 = (first.step event).2 := by
  cases event with
  | get device =>
    refine ⟨alike.get device, ?_⟩
    show Reply.began second.calls.length = .began first.calls.length
    rw [alike.calls_eq]
  | peek device =>
    obtain ⟨after, found⟩ := alike.peek device
    exact ⟨after, congrArg Reply.found found⟩
  | invalidateAll => exact ⟨alike.invalidateAll, rfl⟩
  | purge => exact absurd rfl other
  | advance milliseconds => exact ⟨alike.advance milliseconds, rfl⟩
  | grant load => exact ⟨alike.grant load, rfl⟩
  | finish load result => exact ⟨alike.finish load result, rfl⟩
  | crash load => exact ⟨alike.crash load, rfl⟩
  | take call => exact ⟨alike.take call, rfl⟩
  | abandon call => exact ⟨alike.abandon call, rfl⟩

end Alike

end DeviceMapping.Cache
