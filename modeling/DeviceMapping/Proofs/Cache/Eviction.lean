/-
**Evicting entries one after the other.**

Past the capacity an entry is evicted that no other entry was read before, and then another one, as
long as there are too many slots and an entry is left. Which of several entries read at the same
moment goes first is left open (`Evictable`, `Evictions`).

* `Evictions.entryCount_add`: every eviction takes one entry away, so they come to an end.
* `Settled.entryCount_le`: where none is possible any more, no more entries are left than the
  capacity allows, whatever slots are held by loads.
* `Evictions.get?_slots`, `Evictions.read_before`: evictions touch no other slot, and nothing that
  is left was read before what went.
* `evictions_evictOldest`: removing the entries that were read longest ago, as many as there are
  slots too many, is such a sequence of evictions, and none is possible after it.
-/

import DeviceMapping.Proofs.Cache.Slots
import DeviceMapping.Table.Count

namespace DeviceMapping.Cache

variable {α : Type}

/-! ### Entries -/

/-- The slots that hold an entry. -/
def filled (cache : Cache α) : Table (Slot α) :=
  cache.slots.filter fun _ slot => slot.content?.isSome

/-- The number of entries; the slots that loads hold do not count. -/
def entryCount (cache : Cache α) : Nat :=
  cache.filled.size

theorem contains_filled_iff {cache : Cache α} {device : String} :
    cache.filled.contains device = true ↔
      ∃ entry, cache.slots.get? device = some (.ready entry) := by
  rw [filled, Table.contains, Table.get?_filter]
  cases cache.slots.get? device with
  | none => simp
  | some slot => cases slot <;> simp [Slot.content?, Option.filter]

/-- Where every entry of one cache has a counterpart in another, there are not more of them. -/
theorem entryCount_le_of_ready {cache after : Cache α}
    (counterpart : ∀ device entry, after.slots.get? device = some (.ready entry) →
      ∃ old, cache.slots.get? device = some (.ready old)) :
    after.entryCount ≤ cache.entryCount :=
  Table.size_le_of_contains fun device holds => by
    obtain ⟨entry, ready⟩ := contains_filled_iff.mp holds
    exact contains_filled_iff.mpr (counterpart device entry ready)

theorem entryCount_le_size (cache : Cache α) : cache.entryCount ≤ cache.slots.size :=
  List.length_filter_le _ _

/-! ### One eviction -/

/-- Removes the entry of a device and counts it. -/
def evict (cache : Cache α) (device : String) : Cache α :=
  { cache with
    slots := cache.slots.erase device
    counters := { cache.counters with evictions := cache.counters.evictions + 1 } }

/-- The entry of a device may be evicted: there are too many slots, and no other entry was read
before it. -/
structure Evictable (cache : Cache α) (device : String) (entry : Entry α) : Prop where
  tooMany : cache.settings.maxCapacity.toNat < cache.slots.size
  ready : cache.slots.get? device = some (.ready entry)
  oldest : ∀ other kept, cache.slots.get? other = some (.ready kept) →
    entry.accessedAt ≤ kept.accessedAt

/-- No entry may be evicted. -/
def Settled (cache : Cache α) : Prop :=
  ∀ device entry, ¬ cache.Evictable device entry

section One

variable {cache : Cache α} {device : String} {entry : Entry α}

theorem get?_slots_evict (cache : Cache α) (device other : String) :
    (cache.evict device).slots.get? other =
      if other = device then none else cache.slots.get? other :=
  Table.get?_erase cache.slots device other

theorem entryCount_evict (ready : cache.slots.get? device = some (.ready entry)) :
    (cache.evict device).entryCount + 1 = cache.entryCount := by
  have without : (cache.evict device).filled = cache.filled.erase device := by
    refine Table.ext_get? fun other => ?_
    rw [filled, filled, Table.get?_filter, get?_slots_evict, Table.get?_erase, Table.get?_filter]
    split <;> rfl
  rw [entryCount, without]
  exact Table.size_erase_of_contains (contains_filled_iff.mpr ⟨entry, ready⟩)

theorem size_evict (ready : cache.slots.get? device = some (.ready entry)) :
    (cache.evict device).slots.size + 1 = cache.slots.size :=
  Table.size_erase_of_contains (by rw [Table.contains, ready]; rfl)

end One

/-! ### Evictions -/

/-- Evictions of the entries of some devices, one after the other. -/
inductive Evictions : Cache α → List String → Cache α → Prop
  | done (cache : Cache α) : Evictions cache [] cache
  | next {cache after : Cache α} {device : String} {entry : Entry α} {rest : List String}
      (first : cache.Evictable device entry) (others : Evictions (cache.evict device) rest after) :
      Evictions cache (device :: rest) after

namespace Evictions

variable {cache after : Cache α} {victims : List String}

theorem entryCount_add (evictions : Evictions cache victims after) :
    after.entryCount + victims.length = cache.entryCount := by
  induction evictions with
  | done => rfl
  | next first others ih =>
    rw [← entryCount_evict first.ready, ← ih]
    rfl

theorem size_add (evictions : Evictions cache victims after) :
    after.slots.size + victims.length = cache.slots.size := by
  induction evictions with
  | done => rfl
  | next first others ih =>
    rw [← size_evict first.ready, ← ih]
    rfl

theorem settings_eq (evictions : Evictions cache victims after) :
    after.settings = cache.settings := by
  induction evictions with
  | done => rfl
  | next first others ih => exact ih

/-- Evictions touch no other slot. -/
theorem get?_slots (evictions : Evictions cache victims after) (device : String) :
    after.slots.get? device = if device ∈ victims then none else cache.slots.get? device := by
  induction evictions with
  | done => rfl
  | @next cache after victim entry rest first others ih =>
    rw [ih, get?_slots_evict]
    by_cases later : device ∈ rest
    · rw [if_pos later, if_pos (List.mem_cons_of_mem _ later)]
    · by_cases now : device = victim
      · rw [if_neg later, if_pos now, if_pos (now ▸ List.mem_cons_self)]
      · rw [if_neg later, if_neg now, if_neg (List.not_mem_cons_of_ne_of_not_mem now later)]

theorem get?_of_some (evictions : Evictions cache victims after) {device : String} {slot : Slot α}
    (left : after.slots.get? device = some slot) : cache.slots.get? device = some slot := by
  rw [evictions.get?_slots] at left
  split at left
  · cases left
  · exact left

/-- Only entries are evicted, and nothing that is left was read before them. -/
theorem read_before (evictions : Evictions cache victims after) {device : String}
    (evicted : device ∈ victims) :
    ∃ entry, cache.slots.get? device = some (.ready entry) ∧
      ∀ other kept, after.slots.get? other = some (.ready kept) →
        entry.accessedAt ≤ kept.accessedAt := by
  induction evictions with
  | done => cases evicted
  | @next cache after victim entry rest first others ih =>
    rcases List.mem_cons.mp evicted with rfl | later
    · refine ⟨entry, first.ready, fun other kept left => first.oldest other kept ?_⟩
      exact (next first others).get?_of_some left
    · obtain ⟨read, ready, oldest⟩ := ih later
      refine ⟨read, ?_, oldest⟩
      rw [get?_slots_evict] at ready
      split at ready
      · cases ready
      · exact ready

end Evictions

/-! ### The entries in the order of their reads -/

/-- The list names the devices that have an entry, each once, in the order of the reads. -/
structure ListsReads (cache : Cache α) (reads : List (String × Nat)) : Prop where
  mem_iff : ∀ device time, (device, time) ∈ reads ↔
    ∃ entry, cache.slots.get? device = some (.ready entry) ∧ entry.accessedAt = time
  ordered : reads.Pairwise fun first second => first.2 ≤ second.2
  nodup : (reads.map (·.1)).Nodup

theorem listsReads_byLastRead (cache : Cache α) : cache.ListsReads cache.byLastRead := by
  refine ⟨fun device time => ?_, ?_, ?_⟩
  · rw [byLastRead, List.mem_mergeSort, List.mem_filterMap]
    constructor
    · rintro ⟨⟨other, slot⟩, listed, made⟩
      cases slot with
      | loading load => cases made
      | ready entry =>
        cases made
        exact ⟨entry, Table.get?_eq_some_iff.mpr listed, rfl⟩
    · rintro ⟨entry, ready, rfl⟩
      exact ⟨(device, .ready entry), Table.get?_eq_some_iff.mp ready, rfl⟩
  · have sorted : cache.byLastRead.Pairwise fun first second =>
        decide (first.2 ≤ second.2) = true :=
      List.pairwise_mergeSort (fun first second third => by simp; omega)
        (fun first second => by simp; omega) _
    exact sorted.imp of_decide_eq_true
  · have perm := (List.mergeSort_perm (cache.slots.entries.filterMap fun slot =>
      slot.2.content?.map fun entry => (slot.1, entry.accessedAt))
      fun first second => decide (first.2 ≤ second.2)).map (·.1)
    refine perm.nodup_iff.mpr (List.pairwise_map.mpr (List.pairwise_filterMap.mpr ?_))
    refine cache.slots.sorted.imp fun before read is other is' => ?_
    obtain ⟨_, -, rfl⟩ := Option.map_eq_some_iff.mp is
    obtain ⟨_, -, rfl⟩ := Option.map_eq_some_iff.mp is'
    exact Std.ne_of_lt before

namespace ListsReads

variable {cache : Cache α} {read : String × Nat} {rest : List (String × Nat)}

/-- The entry of the first device listed may be evicted if there are too many slots. -/
theorem evictable (lists : cache.ListsReads (read :: rest))
    (tooMany : cache.settings.maxCapacity.toNat < cache.slots.size) :
    ∃ entry, cache.Evictable read.1 entry := by
  obtain ⟨entry, ready, time⟩ := (lists.mem_iff read.1 read.2).mp List.mem_cons_self
  refine ⟨entry, tooMany, ready, fun other kept found => ?_⟩
  rw [time]
  rcases List.mem_cons.mp ((lists.mem_iff other kept.accessedAt).mpr ⟨kept, found, rfl⟩) with
    same | later
  · rw [← same]
  · exact (List.pairwise_cons.mp lists.ordered).1 _ later

/-- The other devices are those that have an entry once that of the first is gone. -/
theorem evicted (lists : cache.ListsReads (read :: rest)) :
    (cache.evict read.1).ListsReads rest := by
  obtain ⟨fresh, nodup⟩ := List.nodup_cons.mp lists.nodup
  refine ⟨fun device time => ?_, (List.pairwise_cons.mp lists.ordered).2, nodup⟩
  have different : (device, time) ∈ rest → device ≠ read.1 := by
    rintro member rfl
    exact fresh (List.mem_map.mpr ⟨_, member, rfl⟩)
  rw [get?_slots_evict]
  constructor
  · intro member
    rw [if_neg (different member)]
    exact (lists.mem_iff device time).mp (List.mem_cons_of_mem _ member)
  · rintro ⟨entry, ready, rfl⟩
    split at ready
    · cases ready
    · rename_i elsewhere
      rcases List.mem_cons.mp ((lists.mem_iff device _).mpr ⟨entry, ready, rfl⟩) with same | later
      · exact absurd (congrArg Prod.fst same) elsewhere
      · exact later

/-- As long as there are too many slots, the devices listed may be evicted in order. -/
theorem evictions {reads : List (String × Nat)} (lists : cache.ListsReads reads) {count : Nat}
    (excess : count ≤ cache.slots.size - cache.settings.maxCapacity.toNat) :
    Evictions cache ((reads.take count).map (·.1))
      (((reads.take count).map (·.1)).foldl evict cache) := by
  induction count generalizing cache reads with
  | zero => exact .done cache
  | succ count ih =>
    cases reads with
    | nil => exact .done cache
    | cons read rest =>
      obtain ⟨entry, first⟩ := lists.evictable (by omega)
      refine .next first (ih lists.evicted ?_)
      have smaller : (cache.evict read.1).slots.size + 1 = cache.slots.size :=
        size_evict first.ready
      show count ≤ (cache.evict read.1).slots.size - cache.settings.maxCapacity.toNat
      omega

theorem length_eq {reads : List (String × Nat)} (lists : cache.ListsReads reads) :
    reads.length = cache.entryCount := by
  have same : (reads.map (·.1)).toFinset = cache.filled.keySet := by
    ext device
    rw [List.mem_toFinset, Table.mem_keySet, contains_filled_iff, List.mem_map]
    constructor
    · rintro ⟨⟨_, time⟩, member, rfl⟩
      obtain ⟨entry, ready, -⟩ := (lists.mem_iff _ time).mp member
      exact ⟨entry, ready⟩
    · rintro ⟨entry, ready⟩
      exact ⟨_, (lists.mem_iff device _).mpr ⟨entry, ready, rfl⟩, rfl⟩
  rw [entryCount, ← Table.card_keySet, ← same, List.toFinset_card_of_nodup lists.nodup,
    List.length_map]

end ListsReads

/-- Where there are too many slots and an entry, one may be evicted. -/
theorem exists_evictable {cache : Cache α}
    (tooMany : cache.settings.maxCapacity.toNat < cache.slots.size) (filled : 0 < cache.entryCount) :
    ∃ device entry, cache.Evictable device entry := by
  have lists := cache.listsReads_byLastRead
  cases reads : cache.byLastRead with
  | nil =>
    rw [← lists.length_eq, reads] at filled
    cases filled
  | cons read rest => exact ⟨read.1, (reads ▸ lists).evictable tooMany⟩

/-- Where no entry may be evicted there are no more than the capacity allows. -/
theorem Settled.entryCount_le {cache : Cache α} (settled : cache.Settled) :
    cache.entryCount ≤ cache.settings.maxCapacity.toNat := by
  by_contra exceeds
  have tooMany : cache.settings.maxCapacity.toNat < cache.slots.size :=
    Nat.lt_of_lt_of_le (Nat.not_le.mp exceeds) cache.entryCount_le_size
  obtain ⟨device, entry, evictable⟩ := exists_evictable tooMany (by omega)
  exact settled device entry evictable

/-- The evictions can go on exactly while there are too many slots and an entry is left. -/
theorem settled_iff {cache : Cache α} : cache.Settled ↔
    cache.slots.size ≤ cache.settings.maxCapacity.toNat ∨ cache.entryCount = 0 := by
  constructor
  · intro settled
    by_contra more
    obtain ⟨tooMany, filled⟩ := not_or.mp more
    obtain ⟨device, entry, evictable⟩ :=
      exists_evictable (Nat.not_le.mp tooMany) (Nat.pos_of_ne_zero filled)
    exact settled device entry evictable
  · rintro (fits | empty) device entry evictable
    · exact absurd evictable.tooMany (Nat.not_lt.mpr fits)
    · have left := entryCount_evict evictable.ready
      omega

/-! ### Making room -/

/-- Evicting several devices one after the other. -/
theorem foldl_evict (cache : Cache α) (devices : List String) :
    devices.foldl evict cache = { cache with
      slots := devices.foldl Table.erase cache.slots
      counters := { cache.counters with
        evictions := cache.counters.evictions + devices.length } } := by
  induction devices generalizing cache with
  | nil => rfl
  | cons device rest ih =>
    rw [List.foldl_cons, ih]
    simp only [evict, List.foldl_cons, List.length_cons, Nat.add_assoc, Nat.add_comm 1]

theorem evictOldest_eq (cache : Cache α) :
    cache.evictOldest = ((cache.byLastRead.take
      (cache.slots.size - cache.settings.maxCapacity.toNat)).map (·.1)).foldl evict cache := by
  rw [foldl_evict, List.length_map, ← slots_evictOldest]
  rfl

/-- Removing the entries that were read longest ago, as many as there are slots too many, is a
sequence of evictions that can not be longer. -/
theorem evictions_evictOldest (cache : Cache α) :
    ∃ victims, Evictions cache victims cache.evictOldest ∧ cache.evictOldest.Settled := by
  have lists := cache.listsReads_byLastRead
  have evictions := lists.evictions (Nat.le_refl _)
  rw [← evictOldest_eq] at evictions
  refine ⟨_, evictions, settled_iff.mpr ?_⟩
  have count := evictions.entryCount_add
  have size := evictions.size_add
  rw [List.length_map, List.length_take] at count size
  rw [evictions.settings_eq, lists.length_eq] at *
  omega

/-- What making room may come to. The expired entries go first; which of several entries read at the
same moment is evicted is left open. -/
inductive MakesRoom (before : Cache α) : Cache α → Prop
  | enough (fits : before.slots.size ≤ before.settings.maxCapacity.toNat) : MakesRoom before before
  | evicted {victims : List String} {after : Cache α}
      (tooMany : before.settings.maxCapacity.toNat < before.slots.size)
      (evictions : Evictions before.purgeExpired victims after) (settled : after.Settled) :
      MakesRoom before after

theorem makesRoom_enforceCapacity (cache : Cache α) : MakesRoom cache cache.enforceCapacity := by
  unfold enforceCapacity
  split
  · rename_i fits
    exact .enough fits
  · rename_i tooMany
    obtain ⟨victims, evictions, settled⟩ := evictions_evictOldest cache.purgeExpired
    exact .evicted (Nat.not_le.mp tooMany) evictions settled

namespace MakesRoom

variable {before after : Cache α}

theorem settings_eq (room : MakesRoom before after) : after.settings = before.settings := by
  cases room with
  | enough => rfl
  | evicted tooMany evictions settled => exact evictions.settings_eq

/-- Once room is made there are no more entries than the capacity allows. -/
theorem entryCount_le (room : MakesRoom before after) :
    after.entryCount ≤ before.settings.maxCapacity.toNat := by
  rw [← room.settings_eq]
  cases room with
  | enough fits => exact Nat.le_trans (entryCount_le_size before) fits
  | evicted tooMany evictions settled => exact settled.entryCount_le

end MakesRoom

end DeviceMapping.Cache
