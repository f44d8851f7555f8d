/-
**When room is made at the cost of fresh entries.**

Room is made where there are more slots than the capacity, and a slot that a load holds is a slot
like any other. Only entries can be evicted, though; so every load under way takes the place of an
entry, and a cache whose entries would all have room can lose some of them.

* `size_purgeExpired_eq`: the slots that count are those of the fresh entries and those of the loads.
* `Evictions.capacity_le`: an eviction never leaves fewer slots than the capacity.
* `MakesRoom.freshCount_eq`: the fresh entries keep the room that the loads leave them.
* `fresh_kept_iff`: so an answer is stored without the loss of a fresh entry exactly if the fresh
  entries and the loads together are within the capacity.
* `fresh_lost_beside_load`: an entry that has room is lost to a load of another device.
-/

import DeviceMapping.Proofs.Cache.LazyExpiry

namespace DeviceMapping

/-- Limits that pass the check let an entry live for some time. -/
theorem CacheSettings.expiry_pos_of_valid {settings : CacheSettings}
    (valid : settings.validate = .ok ()) :
    0 < settings.writeExpiry ∧ ∀ idle, settings.accessExpiry = some idle → 0 < idle := by
  unfold validate at valid
  by_cases capacity : settings.maxCapacity = 0
  · rw [if_pos capacity] at valid
    cases valid
  by_cases write : settings.writeExpirySeconds = 0
  · rw [if_neg capacity, if_pos write] at valid
    cases valid
  by_cases access : settings.accessExpirySeconds = some 0
  · rw [if_neg capacity, if_neg write, if_pos access] at valid
    cases valid
  have positive : ∀ seconds : UInt64, seconds ≠ 0 → 0 < seconds.toNat * 1000 := by
    intro seconds nonzero
    have := UInt64.toNat_inj.not.mpr nonzero
    simp at this
    omega
  refine ⟨positive _ write, fun idle limit => ?_⟩
  obtain ⟨seconds, given, rfl⟩ := Option.map_eq_some_iff.mp limit
  exact positive _ fun zero => access (zero ▸ given)

namespace Cache

variable {α : Type}

/-! ### Fresh entries and held slots -/

/-- The slots with an entry that has not expired. -/
def freshEntries (cache : Cache α) : Table (Slot α) :=
  cache.slots.filter fun _ slot => slot.content?.any fun entry => !cache.isExpired entry

/-- The number of entries that have not expired. -/
def freshCount (cache : Cache α) : Nat :=
  cache.freshEntries.size

/-- The number of slots that loads hold. -/
def heldCount (cache : Cache α) : Nat :=
  (cache.slots.filter fun _ slot => slot.content?.isNone).size

theorem get?_freshEntries (cache : Cache α) (device : String) :
    cache.freshEntries.get? device = (cache.fresh? device).map .ready := by
  rw [freshEntries, Table.get?_filter, fresh?]
  cases cache.slots.get? device with
  | none => rfl
  | some slot =>
    cases slot with
    | loading load => rfl
    | ready entry =>
      by_cases expired : cache.isExpired entry = true
      · simp [Slot.content?, Option.filter, expired]
      · simp [Slot.content?, Option.filter, expired]

theorem fresh?_eq_some_iff {cache : Cache α} {device : String} {entry : Entry α} :
    cache.fresh? device = some entry ↔
      cache.slots.get? device = some (.ready entry) ∧ cache.isExpired entry = false := by
  refine ⟨fresh?_eq_some, fun ⟨ready, fresh⟩ => ?_⟩
  rw [fresh?, ready]
  exact Option.filter_some_pos (by rw [fresh]; rfl)

theorem filled_purgeExpired (cache : Cache α) : cache.purgeExpired.filled = cache.freshEntries := by
  rw [filled, purgeExpired, Table.filter_filter]
  apply Table.filter_congr
  intro device slot _
  cases slot with
  | loading load => rfl
  | ready entry => simp [Slot.content?, isStale]

theorem heldCount_purgeExpired (cache : Cache α) :
    cache.purgeExpired.heldCount = cache.heldCount := by
  rw [heldCount, purgeExpired, Table.filter_filter]
  apply congrArg Table.size
  apply Table.filter_congr
  intro device slot _
  cases slot with
  | loading load => rfl
  | ready entry => simp [Slot.content?]

/-- Every slot holds an entry or is held by a load. -/
theorem size_eq (cache : Cache α) : cache.slots.size = cache.entryCount + cache.heldCount := by
  have split := cache.slots.size_filter_add fun _ slot => slot.content?.isSome
  simp only [Option.not_isSome] at split
  exact split.symm

/-- Once the expired entries are removed, the fresh ones and the loads are what there is. -/
theorem size_purgeExpired_eq (cache : Cache α) :
    cache.purgeExpired.slots.size = cache.freshCount + cache.heldCount := by
  rw [size_eq, entryCount, filled_purgeExpired, heldCount_purgeExpired, freshCount]

/-! ### What room costs -/

/-- Evictions stop before there are fewer slots than the capacity. -/
theorem Evictions.capacity_le {cache after : Cache α} {victims : List String}
    (evictions : Evictions cache victims after) :
    victims = [] ∨ cache.settings.maxCapacity.toNat ≤ after.slots.size := by
  induction evictions with
  | done => exact .inl rfl
  | @next cache after device entry rest first others ih =>
    refine .inr ?_
    rcases ih with rfl | enough
    · cases others
      have smaller := size_evict first.ready
      have tooMany := first.tooMany
      omega
    · exact enough

theorem Evictions.now_eq {cache after : Cache α} {victims : List String}
    (evictions : Evictions cache victims after) : after.now = cache.now := by
  induction evictions with
  | done => rfl
  | next first others ih => exact ih

namespace MakesRoom

variable {before after : Cache α}

theorem isExpired_eq (room : MakesRoom before after) : after.isExpired = before.isExpired := by
  cases room with
  | enough => rfl
  | evicted tooMany evictions settled =>
    funext entry
    rw [isExpired, isExpired, evictions.settings_eq, evictions.now_eq]
    rfl

theorem thinned (room : MakesRoom before after) : Thinned before.slots after.slots := by
  cases room with
  | enough => exact .refl _
  | evicted tooMany evictions settled => exact (thinned_purgeExpired before).trans evictions.thinned

/-- A fresh entry that is left was there before. -/
theorem fresh?_of_some (room : MakesRoom before after) {device : String} {entry : Entry α}
    (left : after.fresh? device = some entry) : before.fresh? device = some entry := by
  rw [fresh?_eq_some_iff] at left ⊢
  rw [← room.isExpired_eq]
  exact ⟨room.thinned.get?_of_some left.1, left.2⟩

/-- The fresh entries keep the room that the loads leave them. -/
theorem freshCount_eq (room : MakesRoom before after) :
    after.freshCount =
      min before.freshCount (before.settings.maxCapacity.toNat - before.heldCount) := by
  have parts := size_purgeExpired_eq before
  cases room with
  | enough fits =>
    have smaller := size_purgeExpired_le before
    omega
  | @evicted victims _ tooMany evictions settled =>
    have expiry := (MakesRoom.evicted tooMany evictions settled).isExpired_eq
    -- nothing that is left has expired, so every entry counts
    have allFresh : after.freshEntries = after.filled := by
      apply Table.filter_congr
      intro device slot left
      cases slot with
      | loading load => rfl
      | ready entry =>
        have fresh := (fresh_of_purgeExpired (evictions.get?_of_some left)).2
        simp [Slot.content?, expiry, fresh]
    have count : after.freshCount + victims.length = before.freshCount := by
      rw [freshCount, freshCount, allFresh, ← filled_purgeExpired]
      exact evictions.entryCount_add
    have size : after.slots.size + victims.length = before.freshCount + before.heldCount := by
      rw [← parts]
      exact evictions.size_add
    have settings : after.settings = before.settings := evictions.settings_eq
    have ended := settled_iff.mp settled
    rw [settings, entryCount, ← allFresh, ← freshCount] at ended
    have needed : victims.length = 0 ∨ before.settings.maxCapacity.toNat ≤ after.slots.size :=
      evictions.capacity_le.imp_left List.length_eq_zero_iff.mpr
    omega

/-- No fresh entry is lost exactly if there are as many as before. -/
theorem kept_iff (room : MakesRoom before after) :
    (∀ device entry, before.fresh? device = some entry → after.fresh? device = some entry) ↔
      after.freshCount = before.freshCount := by
  constructor
  · intro kept
    apply congrArg Table.size
    apply Table.ext_get?
    intro device
    rw [get?_freshEntries, get?_freshEntries]
    cases found : before.fresh? device with
    | some entry => rw [kept device entry found]
    | none =>
      cases left : after.fresh? device with
      | none => rfl
      | some entry => exact absurd (room.fresh?_of_some left) (by simp [found])
  · intro count device entry found
    have same : after.freshEntries = before.freshEntries := by
      apply Table.eq_of_size_eq ?_ count
      intro key slot left
      rw [get?_freshEntries] at left ⊢
      obtain ⟨entry, fresh, rfl⟩ := Option.map_eq_some_iff.mp left
      rw [room.fresh?_of_some fresh]
      rfl
    have left : after.freshEntries.get? device = some (.ready entry) := by
      rw [same, get?_freshEntries, found]
      rfl
    rw [get?_freshEntries] at left
    obtain ⟨_, fresh, equal⟩ := Option.map_eq_some_iff.mp left
    cases equal
    exact fresh

end MakesRoom

/-! ### Answers that are stored -/

section Stored

variable {cache after : Cache α} {load : Nat} {device : String} {value : α}

/-- Where the load of an answer holds its slot, room is made for the entry. -/
theorem Turn.makesRoom (turn : Turn cache (.finish load (.ok value)) after)
    (running : cache.loads[load]? = some ⟨device, .running⟩)
    (held : cache.slots.get? device = some (.loading load)) :
    MakesRoom (cache.withEntry load device value) after := by
  cases turn with
  | step =>
    rw [step_of_filled? (filled?_of_held value running held)]
    exact makesRoom_enforceCapacity _
  | stored _ other _ running' held' room =>
    rw [running] at running'
    cases running'
    exact room

/-- Under limits that pass the check the new entry is fresh. -/
theorem fresh?_withEntry (valid : cache.settings.validate = .ok ()) :
    (cache.withEntry load device value).fresh? device =
      some ⟨value, load, cache.now, cache.now⟩ := by
  obtain ⟨write, access⟩ := CacheSettings.expiry_pos_of_valid valid
  refine fresh?_eq_some_iff.mpr ⟨(Table.get?_insert _ _ _ _).trans (if_pos rfl), ?_⟩
  have settings : (cache.withEntry load device value).settings = cache.settings := rfl
  have now : (cache.withEntry load device value).now = cache.now := rfl
  unfold isExpired
  rw [settings, now]
  cases limit : cache.settings.accessExpiry with
  | none =>
    simp
    omega
  | some idle =>
    have positive := access idle limit
    simp
    omega

theorem freshCount_pos {entry : Entry α} (fresh : cache.fresh? device = some entry) :
    0 < cache.freshCount := by
  apply Table.size_pos_of_contains
  rw [Table.contains, get?_freshEntries, fresh]
  rfl

end Stored

/-- **Which answers cost a fresh entry.** In every state of every run take a load that ends with an
answer and still holds its slot, and whichever of several entries read at the same moment are
evicted. No fresh entry is lost exactly if there is none, or the fresh entries, the new one included,
and the slots that other loads hold are together within the capacity. In every case as many fresh
entries are left as there were, up to the room beside the loads. Under limits that pass the check the
new entry is itself fresh, and then the sum alone decides. -/
theorem fresh_kept_iff (settings : CacheSettings) (events : List (Event α)) {cache after : Cache α}
    {load : Nat} {device : String} {value : α} (reaches : Reaches (Cache.new settings) events cache)
    (running : cache.loads[load]? = some ⟨device, .running⟩)
    (held : cache.slots.get? device = some (.loading load))
    (turn : Turn cache (.finish load (.ok value)) after) :
    let stored := cache.withEntry load device value
    ((∀ other entry, stored.fresh? other = some entry → after.fresh? other = some entry) ↔
      stored.freshCount = 0 ∨
        stored.freshCount + stored.heldCount ≤ settings.maxCapacity.toNat) ∧
    after.freshCount =
      min stored.freshCount (settings.maxCapacity.toNat - stored.heldCount) ∧
    (settings.validate = .ok () →
      stored.fresh? device = some ⟨value, load, cache.now, cache.now⟩ ∧ 0 < stored.freshCount) := by
  intro stored
  have new : Within settings (Cache.new settings : Cache α) := ⟨rfl, Nat.zero_le _⟩
  have same : cache.settings = settings := (within_reaches new reaches).settings_eq
  have room : MakesRoom stored after := turn.makesRoom running held
  have left : after.freshCount =
      min stored.freshCount (settings.maxCapacity.toNat - stored.heldCount) := by
    rw [← same]
    exact room.freshCount_eq
  refine ⟨?_, left, fun valid => ?_⟩
  · rw [room.kept_iff, left]
    omega
  · have fresh : stored.fresh? device = some ⟨value, load, cache.now, cache.now⟩ :=
      fresh?_withEntry (same ▸ valid)
    exact ⟨fresh, freshCount_pos fresh⟩

/-- Two fresh entries and a load are one too many for a capacity of two. -/
theorem fresh_kept_iff_crowding :
    let cache := (Cache.new narrow).run crowding
    let stored := cache.withEntry 2 "spot" 2
    let after := (cache.step (.finish 2 (.ok 2))).1
    stored.freshCount = 2 ∧ stored.heldCount = 1 ∧ after.freshCount = 1 ∧
      stored.fresh? "spot" = some ⟨2, 2, 1000, 1000⟩ := by
  intro cache stored after
  obtain ⟨-, left, valid⟩ := fresh_kept_iff narrow crowding (reaches_run _ crowding)
    (show cache.loads[2]? = some ⟨"spot", .running⟩ from rfl) rfl (.step (.finish 2 (.ok 2)))
  have fresh : stored.freshCount = 2 := by decide
  have loads : stored.heldCount = 1 := rfl
  rw [fresh, loads] at left
  exact ⟨fresh, loads, left, (valid rfl).1⟩

/-- There is room for two entries, and none of the two has expired; the older one is lost because
the load of a third device is under way. -/
theorem fresh_lost_beside_load :
    let cache := (Cache.new narrow).run crowding
    let stored := cache.withEntry 2 "spot" 2
    let after := (cache.step (.finish 2 (.ok 2))).1
    narrow.validate = .ok () ∧ cache.loads[2]? = some ⟨"spot", .running⟩ ∧
      cache.slots.get? "spot" = some (.loading 2) ∧
      stored.freshCount ≤ narrow.maxCapacity.toNat ∧
      stored.fresh? "lamp" = some ⟨1, 0, 0, 0⟩ ∧ after.fresh? "lamp" = none := by
  intro cache stored after
  have listed : (stored.purgeExpired.slots.entries.filterMap fun slot =>
      slot.2.content?.map fun entry => (slot.1, entry.accessedAt)) =
        [("lamp", 0), ("spot", 1000)] := by
    decide
  have reads : stored.purgeExpired.byLastRead = [("lamp", 0), ("spot", 1000)] := by
    rw [byLastRead, listed]
    exact List.mergeSort_of_pairwise (by decide)
  have room : after = stored.purgeExpired.evictOldest :=
    (step_of_filled? (filled?_of_held 2 rfl rfl)).trans (if_neg (by decide))
  have size : stored.purgeExpired.slots.size = 3 := by decide
  have evicted : after.slots = stored.purgeExpired.slots.erase "lamp" := by
    rw [room, slots_evictOldest, reads, size]
    rfl
  refine ⟨rfl, rfl, rfl, by decide, fresh?_eq_some_iff.mpr ⟨rfl, by decide⟩, ?_⟩
  rw [fresh?, evicted, Table.get?_erase, if_pos rfl]
  rfl

end Cache

end DeviceMapping
