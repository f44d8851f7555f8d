/-
**What the operations of the cache do to its slots, loads and calls.**

* `Thinned`: some entries are gone and every other slot is as before. Purging, evicting and making
  room all thin the slots (`thinned_purgeExpired`, `thinned_evictOldest`,
  `thinned_enforceCapacity`), so none of them frees a slot that a load holds.
* `store_of_held`, `slots_fail_of_held`: the end of a load changes the slot of its own device, and
  only while the load holds it.
* `getElem?_setPhase`: a load that changes its phase keeps its device, and the other loads stay.
  `InPhase` says in which phases a load is, `inPhase_of_setPhase`, `inPhase_of_indifferent` and
  `inPhase_of_begun` how that changes.
-/

import DeviceMapping.Cache.Run
import DeviceMapping.Table.Lookup

namespace DeviceMapping

variable {α : Type}

/-- The load that a slot waits for or was filled by. -/
def Slot.load : Slot α → Nat
  | loading load => load
  | ready entry => entry.load

namespace Cache

/-! ### Slots that lose entries -/

/-- Some entries are gone; every other slot is as before. -/
def Thinned (before after : Table (Slot α)) : Prop :=
  ∀ device, after.get? device = before.get? device ∨
    after.get? device = none ∧ ∃ entry, before.get? device = some (.ready entry)

theorem Thinned.refl (slots : Table (Slot α)) : Thinned slots slots :=
  fun _ => .inl rfl

theorem Thinned.trans {first second third : Table (Slot α)} (before : Thinned first second)
    (after : Thinned second third) : Thinned first third := by
  intro device
  rcases before device with same | ⟨gone, entry⟩
  · rcases after device with same' | ⟨gone', entry'⟩
    · exact .inl (same'.trans same)
    · exact .inr ⟨gone', same ▸ entry'⟩
  · rcases after device with same' | ⟨gone', _⟩
    · exact .inr ⟨same'.trans gone, entry⟩
    · exact .inr ⟨gone', entry⟩

/-- A slot that is left was there before. -/
theorem Thinned.get?_of_some {before after : Table (Slot α)} (thinned : Thinned before after)
    {device : String} {slot : Slot α} (left : after.get? device = some slot) :
    before.get? device = some slot := by
  rcases thinned device with same | ⟨gone, _⟩
  · exact same ▸ left
  · rw [gone] at left
    cases left

theorem thinned_purgeExpired (cache : Cache α) : Thinned cache.slots cache.purgeExpired.slots := by
  intro device
  show (cache.slots.filter _).get? device = _ ∨ (cache.slots.filter _).get? device = none ∧ _
  rw [Table.get?_filter]
  cases found : cache.slots.get? device with
  | none => exact .inl rfl
  | some slot =>
    cases slot with
    | loading load => exact .inl rfl
    | ready entry =>
      by_cases stale : cache.isStale (.ready entry) = true
      · exact .inr ⟨Option.filter_some_neg (by simp [stale]), entry, rfl⟩
      · exact .inl (Option.filter_some_pos (by simp [stale]))

/-- Only devices that have an entry are listed by their last read. -/
theorem entry_of_mem_byLastRead {cache : Cache α} {read : String × Nat}
    (member : read ∈ cache.byLastRead) :
    ∃ entry, cache.slots.get? read.1 = some (.ready entry) := by
  obtain ⟨⟨device, slot⟩, listed, made⟩ := List.mem_filterMap.mp (List.mem_mergeSort.mp member)
  cases slot with
  | loading load => cases made
  | ready entry =>
    cases made
    exact ⟨entry, Table.get?_eq_some_iff.mpr listed⟩

/-- Evicting erases the devices that were read longest ago. -/
theorem slots_evictOldest (cache : Cache α) :
    cache.evictOldest.slots =
      ((cache.byLastRead.take (cache.slots.size - cache.settings.maxCapacity.toNat)).map
        (·.1)).foldl Table.erase cache.slots :=
  List.foldl_map.symm

theorem thinned_evictOldest (cache : Cache α) : Thinned cache.slots cache.evictOldest.slots := by
  intro device
  rw [slots_evictOldest, Table.get?_eraseAll]
  split
  · rename_i chosen
    obtain ⟨read, member, rfl⟩ := List.mem_map.mp chosen
    exact .inr ⟨rfl, entry_of_mem_byLastRead (List.mem_of_mem_take member)⟩
  · exact .inl rfl

theorem thinned_enforceCapacity (cache : Cache α) :
    Thinned cache.slots cache.enforceCapacity.slots := by
  unfold enforceCapacity
  split
  · exact .refl _
  · exact (thinned_purgeExpired cache).trans (thinned_evictOldest cache.purgeExpired)

@[simp] theorem loads_enforceCapacity (cache : Cache α) :
    cache.enforceCapacity.loads = cache.loads := by
  unfold enforceCapacity
  split <;> rfl

@[simp] theorem calls_enforceCapacity (cache : Cache α) :
    cache.enforceCapacity.calls = cache.calls := by
  unfold enforceCapacity
  split <;> rfl

/-- A fresh entry fills the slot of its device. -/
theorem fresh?_eq_some {cache : Cache α} {device : String} {entry : Entry α}
    (fresh : cache.fresh? device = some entry) :
    cache.slots.get? device = some (.ready entry) ∧ cache.isExpired entry = false := by
  obtain ⟨content, notExpired⟩ := Option.filter_eq_some_iff.mp fresh
  obtain ⟨slot, found, isEntry⟩ := Option.bind_eq_some_iff.mp content
  cases slot with
  | loading load => cases isEntry
  | ready full =>
    cases isEntry
    exact ⟨found, by simpa using notExpired⟩

/-! ### The end of a load -/

theorem isHeldBy_iff {cache : Cache α} {device : String} {load : Nat} :
    cache.isHeldBy device load = true ↔ cache.slots.get? device = some (.loading load) := by
  unfold isHeldBy
  split
  · rename_i holder found
    rw [found, beq_iff_eq, Option.some.injEq, Slot.loading.injEq]
  · rename_i otherwise
    exact iff_of_false Bool.false_ne_true (otherwise load)

/-- A load that holds its slot fills it, and room is made for the entry. -/
theorem store_of_held {cache : Cache α} {device : String} {load : Nat} {value : α}
    (held : cache.slots.get? device = some (.loading load)) :
    Thinned (cache.slots.insert device (.ready ⟨value, load, cache.now, cache.now⟩))
      (cache.store device load value).slots := by
  unfold store
  rw [if_pos (isHeldBy_iff.mpr held)]
  exact thinned_enforceCapacity _

theorem store_of_not_held {cache : Cache α} {device : String} {load : Nat} {value : α}
    (notHeld : cache.slots.get? device ≠ some (.loading load)) :
    cache.store device load value = cache := by
  unfold store
  rw [if_neg fun held => notHeld (isHeldBy_iff.mp held)]

@[simp] theorem loads_store (cache : Cache α) (device : String) (load : Nat) (value : α) :
    (cache.store device load value).loads = cache.loads := by
  unfold store
  split
  · rw [loads_enforceCapacity]
  · rfl

@[simp] theorem calls_store (cache : Cache α) (device : String) (load : Nat) (value : α) :
    (cache.store device load value).calls = cache.calls := by
  unfold store
  split
  · rw [calls_enforceCapacity]
  · rfl

/-- A failed load that holds its slot frees it. -/
theorem slots_fail_of_held {cache : Cache α} {device : String} {load : Nat}
    (held : cache.slots.get? device = some (.loading load)) :
    (cache.fail device load).slots = cache.slots.erase device :=
  if_pos (isHeldBy_iff.mpr held)

theorem slots_fail_of_not_held {cache : Cache α} {device : String} {load : Nat}
    (notHeld : cache.slots.get? device ≠ some (.loading load)) :
    (cache.fail device load).slots = cache.slots :=
  if_neg fun held => notHeld (isHeldBy_iff.mp held)

@[simp] theorem loads_fail (cache : Cache α) (device : String) (load : Nat) :
    (cache.fail device load).loads = cache.loads := rfl

/-! ### The phases of the loads -/

/-- Setting the phase of one load leaves its device and the other loads. -/
theorem getElem?_setPhase (cache : Cache α) (load other : Nat) (phase : Phase α) :
    (cache.setPhase load phase).loads[other]? =
      if load = other then (cache.loads[load]?).map fun begun => ⟨begun.device, phase⟩
      else cache.loads[other]? := by
  show (cache.loads.modify load fun begun => { begun with phase := phase })[other]? = _
  rw [List.getElem?_modify]
  by_cases same : load = other
  · subst same
    simp
  · simp [same]

@[simp] theorem length_loads_setPhase (cache : Cache α) (load : Nat) (phase : Phase α) :
    (cache.setPhase load phase).loads.length = cache.loads.length :=
  List.length_modify _ _ _

/-- The load is in one of these phases. -/
def InPhase (cache : Cache α) (among : Phase α → Prop) (load : Nat) : Prop :=
  ∃ device phase, cache.loads[load]? = some ⟨device, phase⟩ ∧ among phase

theorem inPhase_iff {cache : Cache α} {among : Phase α → Prop} {load : Nat} {device : String}
    {phase : Phase α} (found : cache.loads[load]? = some ⟨device, phase⟩) :
    cache.InPhase among load ↔ among phase := by
  simp [InPhase, found, and_assoc]

/-- Where one load has changed its phase, the others are in the phases they were in. -/
theorem inPhase_of_setPhase {cache after : Cache α} {load other : Nat} {device : String}
    {phase next : Phase α} {among : Phase α → Prop}
    (found : cache.loads[load]? = some ⟨device, phase⟩)
    (loads : after.loads = (cache.setPhase load next).loads) :
    after.InPhase among other ↔ if other = load then among next else cache.InPhase among other := by
  rw [InPhase, loads, getElem?_setPhase, found]
  by_cases same : other = load
  · subst same
    simp [and_assoc]
  · rw [if_neg (Ne.symm same), if_neg same, InPhase]

/-- A change of phase that does not matter to these phases makes no difference. -/
theorem inPhase_of_indifferent {cache after : Cache α} {load other : Nat} {device : String}
    {phase next : Phase α} {among : Phase α → Prop}
    (found : cache.loads[load]? = some ⟨device, phase⟩)
    (loads : after.loads = (cache.setPhase load next).loads) (same : among next ↔ among phase) :
    after.InPhase among other ↔ cache.InPhase among other := by
  rw [inPhase_of_setPhase found loads]
  split
  · rename_i this
    rw [this, inPhase_iff found, same]
  · exact Iff.rfl

/-- A load that begins is queued, and the others are in the phases they were in. -/
theorem inPhase_of_begun {cache after : Cache α} {other : Nat} {device : String}
    {among : Phase α → Prop} (loads : after.loads = cache.loads ++ [⟨device, .queued⟩])
    (notQueued : ¬ among .queued) : after.InPhase among other ↔ cache.InPhase among other := by
  rw [InPhase, InPhase, loads, List.getElem?_append]
  split
  · exact Iff.rfl
  · rename_i later
    rw [List.getElem?_eq_none (Nat.le_of_not_lt later), List.getElem?_singleton]
    refine iff_of_false ?_ nofun
    rintro ⟨device, phase, begun, isAmong⟩
    split at begun
    · cases begun
      exact notQueued isAmong
    · cases begun

/-- A running load ends with the result it is given. -/
theorem loads_finish_of_running {cache : Cache α} {load : Nat} {device : String}
    (running : cache.loads[load]? = some ⟨device, .running⟩) (result : Except MappingError α) :
    (cache.finish load result).loads = (cache.setPhase load (.answered result)).loads := by
  unfold finish
  rw [running]
  cases result with
  | ok value => exact loads_store _ _ _ _
  | error fault => exact loads_fail _ _ _

theorem loads_crash_of_running {cache : Cache α} {load : Nat} {device : String}
    (running : cache.loads[load]? = some ⟨device, .running⟩) :
    (cache.crash load).loads = (cache.setPhase load (.crashed false)).loads := by
  unfold crash
  rw [running]

theorem lt_length_of_getElem? {loads : List (Load α)} {load : Nat} {begun : Load α}
    (found : loads[load]? = some begun) : load < loads.length :=
  (List.getElem?_eq_some_iff.mp found).1

theorem resultOf_of_getElem? {cache : Cache α} {load : Nat} {begun : Load α}
    (found : cache.loads[load]? = some begun) : cache.resultOf load = begun.phase.result? := by
  unfold resultOf
  rw [found]
  rfl

end Cache

end DeviceMapping
