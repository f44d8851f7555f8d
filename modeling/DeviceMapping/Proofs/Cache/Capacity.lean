/-
**The capacity of the cache.**

* `Turn`, `Reaches`: the events of a run, whichever of several entries read at the same moment are
  evicted; the runs of `Cache.run` are among these (`reaches_run`).
* `within_turn`: only the end of a load that holds its slot adds an entry, and then room is made; so
  no event leads beyond the capacity.
* `Evictions.spares_fresh`: what making room evicts has not expired and was read before all that is
  left, and no load loses its slot.
* `capacity_kept`: all of this for every run.
-/

import DeviceMapping.Proofs.Cache.Change
import DeviceMapping.Proofs.Cache.Eviction

namespace DeviceMapping.Cache

variable {α : Type}

/-! ### Runs with any choice among entries read at the same moment -/

/-- The cache before and after an event. Where an entry is stored, room may be made in any way. -/
inductive Turn (before : Cache α) : Event α → Cache α → Prop
  | step (event : Event α) : Turn before event (before.step event).1
  | stored (load : Nat) (device : String) (value : α) {after : Cache α}
      (running : before.loads[load]? = some ⟨device, .running⟩)
      (held : before.slots.get? device = some (.loading load))
      (room : MakesRoom { before.withAnswer load (.ok value) with
        slots := before.slots.insert device (.ready ⟨value, load, before.now, before.now⟩) } after) :
      Turn before (.finish load (.ok value)) after

/-- The cache before and after several events. -/
inductive Reaches : Cache α → List (Event α) → Cache α → Prop
  | stays (cache : Cache α) : Reaches cache [] cache
  | turns {before middle after : Cache α} {event : Event α} {events : List (Event α)}
      (turn : Turn before event middle) (later : Reaches middle events after) :
      Reaches before (event :: events) after

theorem reaches_run (cache : Cache α) (events : List (Event α)) :
    Reaches cache events (cache.run events) := by
  induction events generalizing cache with
  | nil => exact .stays cache
  | cons event rest ih => exact .turns (.step event) (ih _)

/-! ### No event leads beyond the capacity -/

/-- The cache has these settings and no more entries than they allow. -/
structure Within (settings : CacheSettings) (cache : Cache α) : Prop where
  settings_eq : cache.settings = settings
  entryCount_le : cache.entryCount ≤ settings.maxCapacity.toNat

section Within

variable {settings : CacheSettings} {cache after : Cache α}

/-- A change keeps within the capacity if it adds no entry. -/
theorem Within.of_ready (within : Within settings cache) (same : after.settings = cache.settings)
    (old : ∀ device entry, after.slots.get? device = some (.ready entry) →
      ∃ old, cache.slots.get? device = some (.ready old)) : Within settings after :=
  ⟨same.trans within.settings_eq,
    Nat.le_trans (entryCount_le_of_ready old) within.entryCount_le⟩

theorem Within.frame (within : Within settings cache) (same : after.settings = cache.settings)
    (slots : after.slots = cache.slots) : Within settings after :=
  within.of_ready same fun _ entry ready => ⟨entry, slots ▸ ready⟩

theorem within_touch (within : Within settings cache) {device : String} {entry : Entry α}
    (ready : cache.slots.get? device = some (.ready entry)) :
    Within settings (cache.touch device entry) := by
  refine within.of_ready rfl fun other kept found => ?_
  have found : (cache.slots.insert device _).get? other = some (.ready kept) := found
  rw [Table.get?_insert] at found
  split at found
  · rename_i here
    exact ⟨entry, here ▸ ready⟩
  · exact ⟨kept, found⟩

theorem within_startLoad (within : Within settings cache) (device : String) :
    Within settings (cache.startLoad device) := by
  refine within.of_ready rfl fun other kept found => ?_
  have found : (cache.slots.insert device _).get? other = some (.ready kept) := found
  rw [Table.get?_insert] at found
  split at found
  · cases found
  · exact ⟨kept, found⟩

theorem within_fail (within : Within settings cache) (device : String) (load : Nat) :
    Within settings (cache.fail device load) := by
  by_cases held : cache.slots.get? device = some (.loading load)
  · refine within.of_ready rfl fun other kept found => ⟨kept, ?_⟩
    rw [slots_fail_of_held held, Table.get?_erase] at found
    split at found
    · cases found
    · exact found
  · exact within.frame rfl (slots_fail_of_not_held held)

theorem within_room {filled : Cache α} (same : filled.settings = settings)
    (room : MakesRoom filled after) : Within settings after :=
  ⟨room.settings_eq.trans same, same ▸ room.entryCount_le⟩

/-- A stored answer adds an entry, and then room is made. -/
theorem within_store (within : Within settings cache) (device : String) (load : Nat) (value : α) :
    Within settings (cache.store device load value) := by
  unfold store
  split
  · refine within_room ?_ (makesRoom_enforceCapacity _)
    exact within.settings_eq
  · exact within

theorem within_change {event : Event α} (within : Within settings cache)
    (change : Change cache event after) : Within settings after := by
  cases change with
  | joined | advanced | granted | crashed | taken | abandoned => exact within.frame rfl rfl
  | hit device entry ready fresh => exact (within_touch within ready).frame rfl rfl
  | began device free expired => exact (within_startLoad within device).frame rfl rfl
  | found device entry ready fresh => exact within_touch within ready
  | dropped => exact within.of_ready rfl nofun
  | purged =>
    exact within.of_ready rfl fun _ entry left =>
      ⟨entry, (thinned_purgeExpired cache).get?_of_some left⟩
  | stored load device value running =>
    have answered : Within settings (cache.withAnswer load (.ok value)) := within.frame rfl rfl
    exact within_store answered device load value
  | failed load device fault running =>
    have answered : Within settings (cache.withAnswer load (.error fault)) := within.frame rfl rfl
    exact within_fail answered device load
  | noticed call load device waiting unknown =>
    have told : Within settings (cache.setPhase load (.crashed true)) := within.frame rfl rfl
    exact (within_fail told device load).frame rfl rfl
  | missed | refused | unfinished | uncrashed | untaken | unabandoned => exact within

theorem within_turn {event : Event α} (within : Within settings cache)
    (turn : Turn cache event after) : Within settings after := by
  cases turn with
  | step => exact within_change within (change_step cache event)
  | stored load device value running held room =>
    refine within_room ?_ room
    exact within.settings_eq

theorem within_reaches {events : List (Event α)} (within : Within settings cache)
    (reaches : Reaches cache events after) : Within settings after := by
  induction reaches with
  | stays => exact within
  | turns turn later ih => exact ih (within_turn within turn)

end Within

/-! ### What is evicted and what is left -/

/-- Once the expired entries are removed, every entry that is left is fresh. -/
theorem fresh_of_purgeExpired {cache : Cache α} {device : String} {entry : Entry α}
    (left : cache.purgeExpired.slots.get? device = some (.ready entry)) :
    cache.slots.get? device = some (.ready entry) ∧ cache.isExpired entry = false := by
  have left : (cache.slots.filter _).get? device = some (.ready entry) := left
  rw [Table.get?_filter, Option.filter_eq_some_iff] at left
  exact ⟨left.1, by simpa [isStale] using left.2⟩

theorem Thinned.loading_iff {before after : Table (Slot α)} (thinned : Thinned before after)
    (device : String) (load : Nat) :
    after.get? device = some (.loading load) ↔ before.get? device = some (.loading load) := by
  rcases thinned device with same | ⟨gone, entry, ready⟩
  · rw [same]
  · rw [gone, ready]
    exact iff_of_false nofun nofun

theorem Evictions.thinned {cache after : Cache α} {victims : List String}
    (evictions : Evictions cache victims after) : Thinned cache.slots after.slots := by
  intro device
  rw [evictions.get?_slots]
  split
  · rename_i evicted
    obtain ⟨entry, ready, -⟩ := evictions.read_before evicted
    exact .inr ⟨rfl, entry, ready⟩
  · exact .inl rfl

/-- Where the expired entries went first, the others go in the order of their reads. -/
theorem Evictions.spares_fresh {cache after : Cache α} {victims : List String}
    (evictions : Evictions cache.purgeExpired victims after) {device : String}
    (evicted : device ∈ victims) :
    ∃ entry, cache.slots.get? device = some (.ready entry) ∧ cache.isExpired entry = false ∧
      ∀ other kept, after.slots.get? other = some (.ready kept) →
        entry.accessedAt ≤ kept.accessedAt ∧ cache.isExpired kept = false := by
  obtain ⟨entry, ready, oldest⟩ := evictions.read_before evicted
  obtain ⟨found, fresh⟩ := fresh_of_purgeExpired ready
  refine ⟨entry, found, fresh, fun other kept left => ⟨oldest other kept left, ?_⟩⟩
  exact (fresh_of_purgeExpired (evictions.get?_of_some left)).2

/-- **The capacity is kept.** In every state of every run, whichever of several entries read at the
same moment are evicted, there are no more entries than the capacity. The room an answer needs is
made by evictions after the expired entries went. Evicting ends: it can always be brought to an end,
no evictions are more than there are entries, and they stop only where there are no more slots than
the capacity or only loads hold slots. What is evicted once the expired entries went has not expired
and was read no later than any entry that is left, none of which has expired; and every load keeps
its slot. -/
theorem capacity_kept (settings : CacheSettings) :
    (∀ events : List (Event α),
      Reaches (Cache.new settings) events ((Cache.new settings).run events)) ∧
    (∀ (events : List (Event α)) (cache : Cache α), Reaches (Cache.new settings) events cache →
      cache.entryCount ≤ settings.maxCapacity.toNat) ∧
    (∀ cache : Cache α, MakesRoom cache cache.enforceCapacity ∧
      (∃ victims after, Evictions cache victims after ∧ after.Settled) ∧
      (∀ victims after, Evictions cache victims after → victims.length ≤ cache.entryCount) ∧
      (cache.Settled ↔
        cache.slots.size ≤ cache.settings.maxCapacity.toNat ∨ cache.entryCount = 0)) ∧
    (∀ (cache after : Cache α) (victims : List String),
      Evictions cache.purgeExpired victims after →
        (∀ device ∈ victims, ∃ entry, cache.slots.get? device = some (.ready entry) ∧
          cache.isExpired entry = false ∧
          ∀ other kept, after.slots.get? other = some (.ready kept) →
            entry.accessedAt ≤ kept.accessedAt ∧ cache.isExpired kept = false) ∧
        ∀ device load, after.slots.get? device = some (.loading load) ↔
          cache.slots.get? device = some (.loading load)) := by
  refine ⟨reaches_run _, fun events cache reaches => ?_,
    fun cache => ⟨makesRoom_enforceCapacity cache, ?_, ?_, settled_iff⟩,
    fun cache after victims evictions => ⟨fun device evicted => evictions.spares_fresh evicted, ?_⟩⟩
  · have new : Within settings (Cache.new settings : Cache α) := ⟨rfl, Nat.zero_le _⟩
    exact (within_reaches new reaches).entryCount_le
  · obtain ⟨victims, evictions, settled⟩ := evictions_evictOldest cache
    exact ⟨victims, _, evictions, settled⟩
  · intro victims after evictions
    exact Nat.le.intro ((Nat.add_comm _ _).trans evictions.entryCount_add)
  · exact ((thinned_purgeExpired cache).trans evictions.thinned).loading_iff

/-- Room for two devices, and what happens until a third one's load is about to end. -/
def narrow : CacheSettings := ⟨2, 300, none, 16⟩

def crowding : List (Event Nat) :=
  [.get "lamp", .grant 0, .finish 0 (.ok 1), .advance 1000, .get "plug", .get "spot", .grant 2]

/-- The slots once the answer of the third device is stored and before room is made. -/
def crowded : Cache Nat :=
  let cache := ((Cache.new narrow).run crowding).withAnswer 2 (.ok 2)
  { cache with slots := cache.slots.insert "spot" (.ready ⟨2, 2, cache.now, cache.now⟩) }

/-- Of the three slots the older entry is evicted, while the load that holds one keeps it. -/
theorem capacity_kept_beside_load :
    crowded.slots.size = 3 ∧
      (∃ entry, crowded.slots.get? "lamp" = some (.ready entry) ∧
        crowded.isExpired entry = false ∧
        ∀ other kept, (crowded.purgeExpired.evict "lamp").slots.get? other = some (.ready kept) →
          entry.accessedAt ≤ kept.accessedAt ∧ crowded.isExpired kept = false) ∧
      (crowded.purgeExpired.evict "lamp").slots.get? "plug" = some (.loading 1) ∧
      ((Cache.new narrow).run (crowding ++ [.finish 2 (.ok 2)])).entryCount ≤ 2 := by
  obtain ⟨runs, bounded, -, spares⟩ := @capacity_kept Nat narrow
  have lamp : crowded.purgeExpired.Evictable "lamp" ⟨1, 0, 0, 0⟩ :=
    ⟨by decide, rfl, fun _ _ _ => Nat.zero_le _⟩
  obtain ⟨older, loads⟩ := spares crowded _ ["lamp"] (.next lamp (.done _))
  have kept := bounded _ _ (runs (crowding ++ [.finish 2 (.ok 2)]))
  exact ⟨rfl, older "lamp" List.mem_cons_self, (loads "plug" 1).mpr rfl, kept⟩

end DeviceMapping.Cache
